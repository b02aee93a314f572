import SandboxRouting.Proofs.Json.Extent
import SandboxRouting.Proofs.Json.Refusal
import SandboxRouting.Proofs.Preset.Document

/-! # The first fault of a document

The reader of configurations goes from left to right and stops at the first entry that is at fault. What it has
gone through by then is any number of entries that it took or skipped (`Passes`); of these it keeps no more than
which settings were among them (`entriesWithin_of_reaches`). If all entries are passed, and only then, there is a
configuration (`load_record_iff`).

A setting that was among those passed is refused at its name. Any other is refused at its value, as soon as that can
be told to be of another type (`Shape.Refuses`). In both cases the fault is settled at that place, and the text
behind it may be anything (`FirstFaultLaw`). -/

namespace SandboxRouting
namespace Config
open Json

variable {source start behind place : List Char} {isFirst : Bool} {kind : Found}

/-! ### Values that a setting refuses -/

/-- What is expected of a setting of a shape. -/
def Shape.expected : Shape → Expected
  | text => .text
  | flag => .flag
  | texts => .list
  | table => .record

/-- A value of the kind is of the type of the shape. -/
def Shape.admits : Shape → Found → Bool
  | text, .text _ => true
  | flag, .flag _ => true
  | texts, .list => true
  | table, .record => true
  | _, _ => false

/-- A value of the kind is ahead where a setting of the shape has room for what is expected only. That is the whole
    value, or the first element or entry in it that is no text. -/
inductive Shape.Refuses : Shape → Found → Expected → List Char → Prop where
  | whole {s : Shape} {kind : Found} {start : List Char} : Tells kind start → s.admits kind = false →
      Refuses s kind s.expected start
  | element {kind : Found} {texts : List String} {inner place : List Char} :
      Reaches (fun s => Written (.text s)) true texts inner place → Tells kind place →
      Shape.text.admits kind = false → Refuses .texts kind .text ('[' :: inner)
  | entry {kind : Found} {entries : List (String × String)} {name : String}
      {inner text behind ahead start : List Char} :
      Reaches (fun e : String × String => WrittenEntry Written (e.1, .text e.2)) true entries inner ('"' :: text) →
      WrittenText name.toList text behind → Blanks behind (':' :: ahead) → Blanks ahead start → Tells kind start →
      Shape.text.admits kind = false → Refuses .table kind .text ('\x7b' :: inner)

theorem ne_text_of_admits (h : Shape.text.admits kind = false) (s : String) : kind ≠ .text s := by
  rintro rfl
  cases h

theorem Shape.Refuses.read {s : Shape} {expected : Expected} (h : s.Refuses kind expected start)
    (hstart : Blanks source start) : s.read source = .error (.mistyped kind expected) := by
  cases h with
  | whole htells hkind =>
    cases s with
    | text => exact readText_of_tells hstart htells (ne_text_of_admits hkind)
    | flag =>
      refine readFlag_of_tells hstart htells fun b hb => ?_
      subst hb
      cases hkind
    | texts =>
      refine readTexts_of_tells hstart htells fun hlist => ?_
      subst hlist
      cases hkind
    | table =>
      refine readTable_of_tells hstart htells fun hrecord => ?_
      subst hrecord
      cases hkind
  | element hreaches htells hkind => exact readTexts_of_reaches hstart hreaches htells (ne_text_of_admits hkind)
  | entry hreaches hname hcolon hvalue htells hkind =>
    exact readTable_of_reaches hstart hreaches hname hcolon hvalue htells (ne_text_of_admits hkind)

/-! ### Entries that are passed -/

/-- An entry of the name is ahead that gives no fault: a setting with a value that can be read as one of its shape, or
    no setting, with any value that can be skipped. -/
inductive Passes : String → List Char → List Char → Prop where
  | setting {f : Field} {x : f.shape.Content} {text behind ahead rest : List Char} :
      WrittenText f.key.toList text behind → Blanks behind (':' :: ahead) → f.shape.read ahead = .ok (x, rest) →
      Passes f.key ('"' :: text) rest
  | other {key : String} {text behind ahead rest : List Char} : (∀ f : Field, f.key ≠ key) →
      WrittenText key.toList text behind → Blanks behind (':' :: ahead) → skipValue ahead = .ok rest →
      Passes key ('"' :: text) rest

theorem Shape.length_of_read {s : Shape} {x : s.Content} {rest : List Char} (h : s.read source = .ok (x, rest)) :
    rest.length ≤ source.length := by
  cases s with
  | text => exact length_of_readText h
  | flag => exact length_of_readFlag h
  | texts => exact length_of_readTexts h
  | table => exact length_of_readTable h

theorem Passes.length_le {key : String} {rest : List Char} (h : Passes key source rest) :
    rest.length ≤ source.length := by
  cases h with
  | setting hname hcolon hread =>
    have := hname.length_lt
    have := hcolon.length_lt
    have := Shape.length_of_read hread
    simp only [List.length_cons]
    omega
  | other _ hname hcolon hskip =>
    have := hname.length_lt
    have := hcolon.length_lt
    have := length_of_skipValue hskip
    simp only [List.length_cons]
    omega

/-- A passed entry is a step of the reader, behind which the setting of its name has been met. -/
theorem entriesWithin_of_passes {key : String} {middle : List Char} {seen : List Field}
    (hleads : Leads isFirst source start) (h : Passes key start middle) (hfresh : ∀ f ∈ seen, f.key ≠ key) (n : Nat)
    (c : Config) : ∃ met d, (∀ f : Field, f ∈ met ↔ f ∈ seen ∨ f.key = key) ∧
      entriesWithin (n + 1) isFirst seen c source = entriesWithin n false met d middle := by
  cases h with
  | @setting f x _ _ _ _ hname hcolon hread =>
    have hf : f ∉ seen := fun hmem => hfresh f hmem rfl
    refine ⟨f :: seen, c.set f x, fun g => ?_, ?_⟩
    · rw [List.mem_cons, Field.key_inj, or_comm]
    · rw [entriesWithin, nextEntry_of_leads hleads hname]
      simp only [Field.ofKey?_eq_some.mpr rfl, if_neg hf, colon_of_blanks hcolon, hread]
  | other hkey hname hcolon hskip =>
    refine ⟨seen, c, fun g => (or_iff_left (hkey g)).symm, ?_⟩
    rw [entriesWithin, nextEntry_of_leads hleads hname]
    simp only [Field.ofKey?_eq_none.mpr hkey, colon_of_blanks hcolon, hskip]

theorem notMem_of_met {key : String} {keys : List String} {seen met : List Field}
    (hmet : ∀ f : Field, f ∈ met ↔ f ∈ seen ∨ f.key = key) (hseen : ∀ f ∈ seen, f.key ∉ key :: keys)
    (honce : ∀ f : Field, (key :: keys).count f.key ≤ 1) : ∀ f ∈ met, f.key ∉ keys := by
  intro f hf hmem
  rcases (hmet f).mp hf with hf | rfl
  · exact hseen f hf (List.mem_cons_of_mem _ hmem)
  · exact notMem_of_once (honce f) hmem

theorem once_tail {key : String} {keys : List String} (h : ∀ f : Field, (key :: keys).count f.key ≤ 1) (f : Field) :
    keys.count f.key ≤ 1 := Nat.le_trans List.count_le_count_cons (h f)

/-- Behind entries that are passed the reader stands at the next one, and has met the settings among them. -/
theorem entriesWithin_of_reaches {keys : List String} (h : Reaches Passes isFirst keys source place)
    {n : Nat} (hn : keys.length < n) (seen : List Field) (c : Config) (hseen : ∀ f ∈ seen, f.key ∉ keys)
    (honce : ∀ f : Field, keys.count f.key ≤ 1) :
    ∃ m later met d behind, Leads later behind place ∧ (∀ f, f ∈ met ↔ f ∈ seen ∨ f.key ∈ keys) ∧
      entriesWithin n isFirst seen c source = entriesWithin (m + 1) later met d behind := by
  induction h generalizing n seen c with
  | here hleads =>
    obtain ⟨n, rfl⟩ := Nat.exists_eq_succ_of_ne_zero (Nat.ne_zero_of_lt hn)
    exact ⟨n, _, seen, c, _, hleads, by simp, rfl⟩
  | past hleads hpasses _ ih =>
    obtain ⟨n, rfl⟩ := Nat.exists_eq_succ_of_ne_zero (Nat.ne_zero_of_lt hn)
    have hfresh := fun f hf => List.ne_of_not_mem_cons (hseen f hf)
    obtain ⟨met, d, hmet, hstep⟩ := entriesWithin_of_passes hleads hpasses hfresh n c
    obtain ⟨m, later, all, e, behind, hplace, hall, hrun⟩ :=
      ih (Nat.lt_of_succ_lt_succ hn) met d (notMem_of_met hmet hseen honce) (once_tail honce)
    refine ⟨m, later, all, e, behind, hplace, fun f => ?_, hstep.trans hrun⟩
    rw [hall f, hmet f, List.mem_cons, or_assoc]

/-! ### Documents without a fault -/

theorem entriesWithin_of_passed {keys : List String} {rest : List Char}
    (h : Items Passes '\x7d' isFirst keys source rest) {n : Nat} (hn : keys.length < n) (seen : List Field) (c : Config)
    (hseen : ∀ f ∈ seen, f.key ∉ keys) (honce : ∀ f : Field, keys.count f.key ≤ 1) :
    ∃ d, entriesWithin n isFirst seen c source = .ok (d, rest) := by
  induction h generalizing n seen c with
  | done hmark =>
    obtain ⟨n, rfl⟩ := Nat.exists_eq_succ_of_ne_zero (Nat.ne_zero_of_lt hn)
    exact ⟨c, by simp [entriesWithin, nextEntry_done _ hmark]⟩
  | more hleads hpasses _ ih =>
    obtain ⟨n, rfl⟩ := Nat.exists_eq_succ_of_ne_zero (Nat.ne_zero_of_lt hn)
    have hfresh := fun f hf => List.ne_of_not_mem_cons (hseen f hf)
    obtain ⟨met, d, hmet, hstep⟩ := entriesWithin_of_passes hleads hpasses hfresh n c
    rw [hstep]
    exact ih (Nat.lt_of_succ_lt_succ hn) met d (notMem_of_met hmet hseen honce) (once_tail honce)

theorem passed_of_entriesWithin {n : Nat} {seen : List Field} {c d : Config} {rest : List Char}
    (h : entriesWithin n isFirst seen c source = .ok (d, rest)) :
    ∃ keys, Items Passes '\x7d' isFirst keys source rest ∧ (∀ f ∈ seen, f.key ∉ keys) ∧
      ∀ f : Field, keys.count f.key ≤ 1 := by
  induction n generalizing isFirst seen c source with
  | zero => cases h
  | succ n ih =>
    rw [entriesWithin] at h
    split at h
    next => cases h
    next hlast =>
      cases h
      exact ⟨[], .done (blanks_of_lastEntry hlast), fun _ _ => List.not_mem_nil, fun _ => Nat.zero_le 1⟩
    next key behind hnext =>
      obtain ⟨text, hleads, hname⟩ := leads_of_nextEntry hnext
      cases hkey : Field.ofKey? key with
      | none =>
        have hother := Field.ofKey?_eq_none.mp hkey
        simp only [hkey] at h
        split at h
        next => cases h
        next hcolon =>
          split at h
          next => cases h
          next hskip =>
            obtain ⟨keys, hitems, hseen, honce⟩ := ih h
            have hpasses := Passes.other hother hname (blanks_of_colon hcolon) hskip
            have honce' := once_cons (fun f hf => absurd hf (hother f)) honce
            refine ⟨key :: keys, .more hleads hpasses hitems, fun f hf hmem => ?_, honce'⟩
            exact hseen f hf ((List.mem_cons.mp hmem).resolve_left (hother f))
      | some f =>
        obtain rfl := Field.ofKey?_eq_some.mp hkey
        simp only [hkey] at h
        split at h
        next => cases h
        next hf =>
          split at h
          next => cases h
          next hcolon =>
            split at h
            next => cases h
            next hread =>
              -- From here on the setting counts as met, so no later entry names it.
              obtain ⟨keys, hitems, hseen, honce⟩ := ih h
              have hpasses := Passes.setting hname (blanks_of_colon hcolon) hread
              have honce' := once_cons (fun _ _ => hseen f List.mem_cons_self) honce
              refine ⟨f.key :: keys, .more hleads hpasses hitems, fun g hg hmem => ?_, honce'⟩
              rcases List.mem_cons.mp hmem with heq | hmem
              · exact hf (Field.key_inj.mp heq ▸ hg)
              · exact hseen g (List.mem_cons_of_mem _ hg) hmem

/-- A record is read as a configuration exactly if all of its entries are passed, and no setting comes twice. -/
theorem load_record_iff {source : String} {inner : List Char} (h : Blanks source.toList ('\x7b' :: inner)) :
    (∃ c, load source = .ok c) ↔
      ∃ keys rest, Items Passes '\x7d' true keys inner rest ∧ (∀ f : Field, keys.count f.key ≤ 1) ∧ Blanks rest [] := by
  have hread : readOver standard source.toList = entriesWithin (inner.length + 1) true [] standard inner := by
    rw [readOver, skipBlanks_of_blanks h (by decide)]
    rfl
  simp only [load_eq_ok, ofJson, document, hread]
  constructor
  · rintro ⟨c, hc⟩
    split at hc
    next => cases hc
    next d rest hentries =>
      split at hc
      next hblank =>
        obtain ⟨keys, hitems, -, honce⟩ := passed_of_entriesWithin hentries
        have hrest := blanks_skipBlanks rest
        rw [List.isEmpty_iff.mp hblank] at hrest
        exact ⟨keys, _, hitems, honce, hrest⟩
      next => cases hc
  · rintro ⟨keys, rest, hitems, honce, hrest⟩
    have hlength := hitems.length_lt (Or.inr rfl) fun _ _ _ hpasses _ => hpasses.length_le
    obtain ⟨d, hd⟩ := entriesWithin_of_passed hitems hlength [] standard (fun _ hf => absurd hf List.not_mem_nil) honce
    have hblank : skipBlanks rest = [] := skipBlanks_eq hrest
    rw [Bool.toNat_true] at hd
    exact ⟨d, by simp [hd, hblank]⟩

/-! ### Entries that are at fault -/

section Fault
variable {f : Field} {seen : List Field} {text ahead : List Char}

theorem entriesWithin_of_met (hleads : Leads isFirst source ('"' :: text)) (hname : WrittenText f.key.toList text behind)
    (hf : f ∈ seen) (n : Nat) (c : Config) :
    entriesWithin (n + 1) isFirst seen c source = .error (.repeated f.key) := by
  rw [entriesWithin, nextEntry_of_leads hleads hname]
  simp only [Field.ofKey?_eq_some.mpr rfl, if_pos hf]

theorem entriesWithin_of_refused {fault : Fault} (hleads : Leads isFirst source ('"' :: text))
    (hname : WrittenText f.key.toList text behind) (hf : f ∉ seen) (hcolon : Blanks behind (':' :: ahead))
    (hread : f.shape.read ahead = .error fault) (n : Nat) (c : Config) :
    entriesWithin (n + 1) isFirst seen c source = .error fault := by
  rw [entriesWithin, nextEntry_of_leads hleads hname]
  simp only [Field.ofKey?_eq_some.mpr rfl, if_neg hf, colon_of_blanks hcolon, hread]

end Fault

/-! ### The law of the first fault -/

/-- The document begins as a record with entries of the names that are all passed, no setting twice, and goes on with
    an entry that names the setting. -/
structure Begins (source : String) (keys : List String) (f : Field) (behind : List Char) : Prop where
  opened : ∃ inner text, Blanks source.toList ('\x7b' :: inner) ∧ Reaches Passes true keys inner ('"' :: text) ∧
    WrittenText f.key.toList text behind
  once : ∀ g : Field, keys.count g.key ≤ 1

/-- The document is refused for a fault of its data, in these words. -/
def Refused (source message : String) : Prop :=
  ∃ fault, load source = .error (.unreadableConfig fault) ∧ fault.category = .data ∧ fault.message = message

/-- What becomes of a document whose entry of the setting is the first that is at fault. Whatever follows the place
    of the fault occurs in neither case. -/
structure FirstFaultLaw (source : String) (keys : List String) (f : Field) (behind : List Char) : Prop where
  repeated : f.key ∈ keys → Refused source ("duplicate field `" ++ f.key ++ "`")
  mistyped : f.key ∉ keys → ∀ ahead start kind expected, Blanks behind (':' :: ahead) → Blanks ahead start →
    f.shape.Refuses kind expected start →
    Refused source ("invalid type: " ++ kind.phrase ++ ", expected " ++ expected.phrase)

theorem load_of_readOver {source : String} {fault : Fault} (h : readOver standard source.toList = .error fault) :
    load source = .error (.unreadableConfig fault) := by
  rw [load, ofJson, document, h]

theorem Begins.readOver {source : String} {keys : List String} {f : Field} (h : Begins source keys f behind)
    (c : Config) : ∃ m later met d prior text, Leads later prior ('"' :: text) ∧ WrittenText f.key.toList text behind ∧
      (f ∈ met ↔ f.key ∈ keys) ∧ readOver c source.toList = entriesWithin (m + 1) later met d prior := by
  obtain ⟨inner, text, hblanks, hreaches, hname⟩ := h.opened
  have hlength := hreaches.length_lt fun _ _ _ hpasses _ => hpasses.length_le
  obtain ⟨m, later, met, d, prior, hleads, hmet, hrun⟩ :=
    entriesWithin_of_reaches hreaches hlength [] c (fun _ hf => absurd hf List.not_mem_nil) h.once
  refine ⟨m, later, met, d, prior, text, hleads, hname, by simp [hmet f], ?_⟩
  rw [Config.readOver, skipBlanks_of_blanks hblanks (by decide)]
  exact hrun

theorem firstFaultLaw {source : String} {keys : List String} {f : Field} (h : Begins source keys f behind) :
    FirstFaultLaw source keys f behind := by
  obtain ⟨m, later, met, d, prior, text, hleads, hname, hmet, hread⟩ := h.readOver standard
  constructor
  · intro hkey
    rw [entriesWithin_of_met hleads hname (hmet.mpr hkey)] at hread
    exact ⟨_, load_of_readOver hread, rfl, rfl⟩
  · intro hkey ahead start kind expected hcolon hstart hrefuses
    have hfresh : f ∉ met := fun hf => hkey (hmet.mp hf)
    rw [entriesWithin_of_refused hleads hname hfresh hcolon (hrefuses.read hstart)] at hread
    exact ⟨_, load_of_readOver hread, rfl, rfl⟩

/-- Two entries that are passed, though what the first holds could be read as nothing, and a third one that is not. -/
def remarked : String := "\x7b\"note\": [1e999, \"\\ud800\"], \"name\": \"a\", \"extensions\": [\"js\", \x7b"

theorem begins_remarked : Begins remarked ["note", "name"] .extensions ": [\"js\", \x7b".toList where
  opened := by
    have hnote : ∀ f : Field, f.key ≠ "note" := Field.ofKey?_eq_none.mp rfl
    have hskip : skipValue " [1e999, \"\\ud800\"], \"name\": \"a\", \"extensions\": [\"js\", \x7b".toList =
        .ok ", \"name\": \"a\", \"extensions\": [\"js\", \x7b".toList := by decide +kernel
    have hreaches : Reaches Passes true ["note", "name"]
        "\"note\": [1e999, \"\\ud800\"], \"name\": \"a\", \"extensions\": [\"js\", \x7b".toList
        "\"extensions\": [\"js\", \x7b".toList := by
      refine .past (.first (.none _)) (.other hnote (text_iff.mp rfl) (.none _) hskip) ?_
      refine .past (.further (.none _) (.more rfl (.none _)))
        (.setting (f := .name) (x := "a") (text_iff.mp rfl) (.none _) rfl) ?_
      exact .here (.further (.none _) (.more rfl (.none _)))
    exact ⟨_, _, .none _, hreaches, text_iff.mp rfl⟩
  once f := by cases f <;> decide

theorem firstFaultLaw_remarked :
    Begins remarked ["note", "name"] .extensions ": [\"js\", \x7b".toList ∧
      Refused remarked "invalid type: map, expected a string" := by
  have hreaches : Reaches (fun s => Written (.text s)) true ["js"] "\"js\", \x7b".toList "\x7b".toList :=
    .past (.first (.none _)) (.text (text_iff.mp rfl)) (.here (.further (.none _) (.more rfl (.none _))))
  have hrefuses : Shape.texts.Refuses .record .text "[\"js\", \x7b".toList := .element hreaches (.record _) rfl
  exact ⟨begins_remarked,
    (firstFaultLaw begins_remarked).mistyped (by decide) _ _ _ _ (.none _) (.more rfl (.none _)) hrefuses⟩

/-- A setting that comes back is refused at its name, also where nothing sensible follows. -/
example : load "\x7b\"name\": \"a\", \"name\" @" = .error (.unreadableConfig (.repeated "name")) := by
  decide +kernel

end Config
end SandboxRouting
