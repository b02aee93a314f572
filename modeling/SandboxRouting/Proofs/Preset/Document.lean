import SandboxRouting.Preset.Document
import SandboxRouting.Proofs.Json.Rendering
import SandboxRouting.Proofs.Json.Typed
import SandboxRouting.Proofs.Table

/-! # What a document sets

A document sets what it names and leaves the rest at its standard. The reader of configurations goes through
the text once, settings and unknown entries mixed, and remembers only which settings it has met. What it makes
of a document is first brought back to the values (`ofJson_of_document`): then neither blanks nor escapes nor
the depth of what is skipped occur any more. Over the entries of a record one equivalence says both when there
is a configuration and which one it is (`takeEntries_eq_ok`). It does not depend on the order of the entries. -/

namespace SandboxRouting
namespace Config
open Json

/-! ### Settings from values -/

/-- What a setting of a shape takes from a value. -/
def Shape.take : (s : Shape) → Value → Except Fault s.Content
  | text => Value.takeText
  | flag => Value.takeFlag
  | texts => Value.takeTexts
  | table => Value.takeTable

/-- The value is what a setting of a shape holds. In a table of texts the last text for a name counts. -/
def Shape.Holds : (s : Shape) → Value → s.Content → Prop
  | text, v, (x : String) => v = .text x
  | flag, v, (x : Bool) => v = .flag x
  | texts, v, (x : List String) => v = .ofTexts x
  | table, v, (x : Table) =>
    ∃ entries, v = .ofTextEntries entries ∧ ∀ name, x.get? name = entries.reverse.lookup name

theorem Shape.reads_take (s : Shape) : Reads s.read s.take := by
  cases s with
  | text => exact reads_text
  | flag => exact reads_flag
  | texts => exact reads_texts
  | table => exact reads_table

theorem Shape.take_eq_ok {s : Shape} {v : Value} {x : s.Content} : s.take v = .ok x ↔ s.Holds v x := by
  cases s with
  | text => exact Value.takeText_eq_ok
  | flag => exact Value.takeFlag_eq_ok
  | texts => exact Value.takeTexts_eq_ok
  | table =>
    refine Value.takeTable_eq_ok.trans (exists_congr fun entries => and_congr_right fun _ => ?_)
    constructor
    · rintro rfl
      exact Table.get?_ofList entries
    · exact fun h => Table.ext_get? fun name => (h name).trans (Table.get?_ofList entries name).symm

theorem Shape.Holds.unique {s : Shape} {v : Value} {x y : s.Content} (hx : s.Holds v x) (hy : s.Holds v y) : x = y := by
  have h := Shape.take_eq_ok.mpr hx
  rw [Shape.take_eq_ok.mpr hy] at h
  cases h
  rfl

theorem Shape.holds_toValue (s : Shape) (x : s.Content) : s.Holds (s.toValue x) x := by
  cases s with
  | text => exact rfl
  | flag => exact rfl
  | texts => exact rfl
  | table => exact ⟨_, rfl, fun name => (Table.lookup_reverse_entries x name).symm⟩

theorem Field.ofKey?_eq_some {key : String} {f : Field} : Field.ofKey? key = some f ↔ f.key = key := by
  constructor
  · intro h
    simpa using List.find?_some h
  · rintro rfl
    cases f <;> rfl

theorem Field.ofKey?_eq_none {key : String} : Field.ofKey? key = none ↔ ∀ f : Field, f.key ≠ key := by
  constructor
  · intro h f hf
    rw [Field.ofKey?_eq_some.mpr hf] at h
    cases h
  · intro h
    cases hkey : Field.ofKey? key with
    | none => rfl
    | some f => exact absurd (Field.ofKey?_eq_some.mp hkey) (h f)

theorem Field.key_inj {f g : Field} : f.key = g.key ↔ f = g := by
  refine ⟨fun h => ?_, fun h => h ▸ rfl⟩
  have hf := Field.ofKey?_eq_some.mpr h
  rw [Field.ofKey?_eq_some.mpr rfl] at hf
  exact (Option.some.inj hf).symm

/-! ### Configurations from values -/

/-- The configuration with the settings of further entries. `seen` are the settings met so far. -/
def takeEntries : List Field → Config → List (String × Value) → Except Fault Config
  | _, c, [] => .ok c
  | seen, c, (key, v) :: entries =>
    match Field.ofKey? key with
    | none => takeEntries seen c entries
    | some f =>
      if f ∈ seen then .error (.repeated key)
      else
        match f.shape.take v with
        | .error fault => .error fault
        | .ok x => takeEntries (f :: seen) (c.set f x) entries

/-- The configuration with the settings that are left, from further values in their order. -/
def takeValues : List Field → Config → List Value → Except Fault Config
  | _, c, [] => .ok c
  | [], _, _ :: _ => .error .malformed
  | f :: fields, c, v :: values =>
    match f.shape.take v with
    | .error fault => .error fault
    | .ok x => takeValues fields (c.set f x) values

/-- The configuration with the settings of a value. -/
def takeOver (c : Config) : Value → Except Fault Config
  | .record entries => takeEntries [] c entries
  | .list values => takeValues Field.all c values
  | v => .error (v.mistyped .config)

section Reading
variable {c : Config} {source rest : List Char} {isFirst : Bool}

theorem entriesWithin_of_items {entries : List (String × Value)}
    (h : Items (WrittenEntry Written) '\x7d' isFirst entries source rest) {n : Nat} (hn : entries.length < n)
    (seen : List Field) (c : Config) :
    entriesWithin n isFirst seen c source = (takeEntries seen c entries).map (·, rest) := by
  induction h generalizing n seen c with
  | done hmark =>
    obtain ⟨n, rfl⟩ := Nat.exists_eq_succ_of_ne_zero (Nat.ne_zero_of_lt hn)
    simp [entriesWithin, nextEntry_done _ hmark, takeEntries, Except.map]
  | @more _ _ others _ _ _ _ hleads hentry hfurther ih =>
    obtain ⟨n, rfl⟩ := Nat.exists_eq_succ_of_ne_zero (Nat.ne_zero_of_lt hn)
    have hless : others.length < n := Nat.lt_of_succ_lt_succ hn
    have hstops := hfurther.stops (Or.inr rfl)
    cases hentry with
    | @named key v _ _ _ _ _ hname hcolon hstart hwritten =>
      rw [entriesWithin, nextEntry_of_leads hleads hname, takeEntries]
      cases hkey : Field.ofKey? key with
      | none => simp only [hkey, colon_of_blanks hcolon, skipValue_of_written hstart hwritten hstops, ih hless]
      | some f =>
        by_cases hseen : f ∈ seen
        -- A setting that comes back is refused at its name, so its value is read on neither side.
        · simp [hkey, hseen, Except.map]
        · have hread := f.shape.reads_take v _ _ _ hstart hwritten hstops
          simp only [hkey, if_neg hseen, colon_of_blanks hcolon, hread]
          cases f.shape.take v with
          | error fault => rfl
          | ok x => exact ih hless _ _

theorem listEnd_of_blanks (h : Blanks source (']' :: rest)) : listEnd source = .ok rest := by
  simp [listEnd, skipBlanks_of_blanks h (by decide)]

theorem listEnd_of_leads {v : Value} {start : List Char} (hleads : Leads isFirst source start)
    (h : Written v start rest) : listEnd source = .error .malformed := by
  obtain ⟨d, more, rfl, hd, hne⟩ := h.head
  cases hleads with
  | first hblanks => simp [listEnd, skipBlanks_of_blanks hblanks hd, hne]
  | further hcomma => simp [listEnd, skipBlanks_of_blanks hcomma (by decide)]

theorem elements_of_items {values : List Value} (h : Items Written ']' isFirst values source rest)
    (fields : List Field) (c : Config) : elements fields isFirst c source = (takeValues fields c values).map (·, rest) := by
  induction h generalizing fields c with
  | done hmark =>
    cases fields with
    | nil => simp [elements, listEnd_of_blanks hmark, takeValues, Except.map]
    | cons f fields => simp [elements, nextElement_done _ hmark, takeValues, Except.map]
  | @more _ v _ _ _ _ _ hleads hwritten hfurther ih =>
    cases fields with
    | nil => simp [elements, listEnd_of_leads hleads hwritten, takeValues, Except.map]
    | cons f fields =>
      have hread := f.shape.reads_take v _ _ _ (.none _) hwritten (hfurther.stops (Or.inl rfl))
      rw [elements, nextElement_of_leads hleads hwritten, takeValues]
      simp only [hread]
      cases f.shape.take v with
      | error fault => rfl
      | ok x => exact ih _ _

theorem reads_takeOver (c : Config) : Reads (readOver c) (takeOver c) := by
  intro v source start rest hstart h hrest
  obtain ⟨d, more, rfl, hd, -⟩ := h.head
  have hother := unexpected_of_written h hrest .config
  rw [readOver, skipBlanks_of_blanks hstart hd]
  cases h with
  | record hitems =>
    have hlength := hitems.length_lt (Or.inr rfl) fun e _ _ => WrittenEntry.length_le
    exact entriesWithin_of_items hitems hlength [] c
  | list hitems => exact elements_of_items hitems Field.all c
  | number hnumeral =>
    have hrecord : d ≠ '\x7b' := hnumeral.head_ne (by decide) (by decide)
    have hlist : d ≠ '[' := hnumeral.head_ne (by decide) (by decide)
    simp [hrecord, hlist, hother, takeOver, Except.map]
  | _ => simp [hother, takeOver, Except.map]

end Reading

theorem ofJson_of_document {v : Value} {source : String} (h : v.Document source) :
    ofJson source = takeOver standard v := document_of_reads (reads_takeOver standard) h

theorem load_eq_ok {source : String} {c : Config} : load source = .ok c ↔ ofJson source = .ok c := by
  unfold load
  cases ofJson source <;> simp

/-- No setting comes twice, and each that comes has a value of its shape. -/
structure Acceptable (entries : List (String × Value)) : Prop where
  once : ∀ f : Field, (entries.map Prod.fst).count f.key ≤ 1
  typed : ∀ (f : Field) (v : Value), (f.key, v) ∈ entries → ∃ x, f.shape.Holds v x

/-- The settings of the entries are as given there, and the others as they were before. -/
structure Overlaid (c : Config) (entries : List (String × Value)) (d : Config) : Prop where
  given : ∀ (f : Field) (v : Value), (f.key, v) ∈ entries → f.shape.Holds v (d.get f)
  kept : ∀ f : Field, f.key ∉ entries.map Prod.fst → d.get f = c.get f

section Entries
variable {seen : List Field} {c d e : Config} {entries others : List (String × Value)} {key : String} {f : Field}
  {v : Value} {x : f.shape.Content}

/-- A name may come ahead of others if it is no setting, or if it is not among them. -/
theorem once_cons {keys : List String} (h : ∀ f : Field, f.key = key → key ∉ keys)
    (honce : ∀ f : Field, keys.count f.key ≤ 1) (f : Field) : (key :: keys).count f.key ≤ 1 := by
  by_cases hf : f.key = key
  · have hzero := List.count_eq_zero_of_not_mem (h f hf)
    rw [hf, List.count_cons_self]
    omega
  · rw [List.count_cons_of_ne (Ne.symm hf)]
    exact honce f

/-- A name that came once does not come again. -/
theorem notMem_of_once {keys : List String} (h : (key :: keys).count key ≤ 1) : key ∉ keys := by
  rw [List.count_cons_self] at h
  exact List.count_eq_zero.mp (by omega)

theorem Acceptable.tail {entry : String × Value} (h : Acceptable (entry :: entries)) : Acceptable entries where
  once f := Nat.le_trans List.count_le_count_cons (h.once f)
  typed f v hmem := h.typed f v (List.mem_cons_of_mem _ hmem)

theorem Acceptable.skip (h : Acceptable entries) (hkey : ∀ f : Field, f.key ≠ key) :
    Acceptable ((key, v) :: entries) where
  once := once_cons (fun f hf => absurd hf (hkey f)) h.once
  typed f w hmem := by
    rcases List.mem_cons.mp hmem with heq | hmem
    · exact absurd (congrArg Prod.fst heq) (hkey f)
    · exact h.typed f w hmem

theorem Acceptable.cons (h : Acceptable entries) (hf : f.key ∉ entries.map Prod.fst) (hx : f.shape.Holds v x) :
    Acceptable ((f.key, v) :: entries) where
  once := once_cons (fun _ _ => hf) h.once
  typed g w hmem := by
    rcases List.mem_cons.mp hmem with heq | hmem
    · obtain ⟨hkey, rfl⟩ := Prod.mk.inj heq
      obtain rfl := Field.key_inj.mp hkey
      exact ⟨x, hx⟩
    · exact h.typed g w hmem

theorem Overlaid.skip (h : Overlaid c entries d) (hkey : ∀ f : Field, f.key ≠ key) :
    Overlaid c ((key, v) :: entries) d where
  given f w hmem := by
    rcases List.mem_cons.mp hmem with heq | hmem
    · exact absurd (congrArg Prod.fst heq) (hkey f)
    · exact h.given f w hmem
  kept f hmem := h.kept f fun hrest => hmem (List.mem_cons_of_mem _ hrest)

theorem Overlaid.cons (h : Overlaid (c.set f x) entries d) (hf : f.key ∉ entries.map Prod.fst)
    (hx : f.shape.Holds v x) : Overlaid c ((f.key, v) :: entries) d where
  given g w hmem := by
    rcases List.mem_cons.mp hmem with heq | hmem
    · obtain ⟨hkey, rfl⟩ := Prod.mk.inj heq
      obtain rfl := Field.key_inj.mp hkey
      -- No later entry names the setting, so what was set here stays.
      rw [h.kept g hf, get_set]
      exact hx
    · exact h.given g w hmem
  kept g hmem := by
    have hgf : g ≠ f := fun heq => hmem (heq ▸ List.mem_cons_self)
    rw [h.kept g fun hrest => hmem (List.mem_cons_of_mem _ hrest), get_set_of_ne hgf]

theorem Overlaid.unique (hd : Overlaid c entries d) (he : Overlaid c entries e) : d = e := by
  refine ext_get fun f => ?_
  by_cases hmem : f.key ∈ entries.map Prod.fst
  · obtain ⟨⟨key, v⟩, hentry, rfl⟩ := List.mem_map.mp hmem
    exact (hd.given f v hentry).unique (he.given f v hentry)
  · rw [hd.kept f hmem, he.kept f hmem]

/-- Entries that can be taken set what they name, no setting twice and none that was met before. -/
theorem takeEntries_ok (h : takeEntries seen c entries = .ok d) :
    (∀ f ∈ seen, f.key ∉ entries.map Prod.fst) ∧ Acceptable entries ∧ Overlaid c entries d := by
  induction entries generalizing seen c with
  | nil =>
    cases h
    refine ⟨fun _ _ => List.not_mem_nil, ⟨fun _ => Nat.zero_le 1, fun _ _ hmem => ?_⟩, fun _ _ hmem => ?_, fun _ _ => rfl⟩
    · exact absurd hmem List.not_mem_nil
    · exact absurd hmem List.not_mem_nil
  | cons entry entries ih =>
    obtain ⟨key, v⟩ := entry
    rw [takeEntries] at h
    cases hkey : Field.ofKey? key with
    | none =>
      have hne := Field.ofKey?_eq_none.mp hkey
      rw [hkey] at h
      obtain ⟨hseen, haccept, hset⟩ := ih h
      exact ⟨fun f hf hmem => hseen f hf ((List.mem_cons.mp hmem).resolve_left (hne f)), haccept.skip hne, hset.skip hne⟩
    | some f =>
      obtain rfl := Field.ofKey?_eq_some.mp hkey
      rw [hkey] at h
      by_cases hmet : f ∈ seen
      · simp [hmet] at h
      · cases htake : f.shape.take v with
        | error fault => simp [hmet, htake] at h
        | ok x =>
          simp only [if_neg hmet, htake] at h
          obtain ⟨hseen, haccept, hset⟩ := ih h
          have hx : f.shape.Holds v x := Shape.take_eq_ok.mp htake
          have hf : f.key ∉ entries.map Prod.fst := hseen f List.mem_cons_self
          refine ⟨fun g hg hmem => ?_, haccept.cons hf hx, hset.cons hf hx⟩
          rcases List.mem_cons.mp hmem with heq | hmem
          · exact hmet (Field.key_inj.mp heq ▸ hg)
          · exact hseen g (List.mem_cons_of_mem _ hg) hmem

theorem exists_takeEntries_of_seen (h : Acceptable entries) (hseen : ∀ f ∈ seen, f.key ∉ entries.map Prod.fst) :
    ∃ d, takeEntries seen c entries = .ok d := by
  induction entries generalizing seen c with
  | nil => exact ⟨c, rfl⟩
  | cons entry entries ih =>
    obtain ⟨key, v⟩ := entry
    have htail : ∀ f ∈ seen, f.key ∉ entries.map Prod.fst := fun f hf hmem => hseen f hf (List.mem_cons_of_mem _ hmem)
    rw [takeEntries]
    cases hkey : Field.ofKey? key with
    | none => exact ih h.tail htail
    | some f =>
      obtain rfl := Field.ofKey?_eq_some.mp hkey
      have hmet : f ∉ seen := fun hf => hseen f hf List.mem_cons_self
      obtain ⟨x, hx⟩ := h.typed f v List.mem_cons_self
      simp only [if_neg hmet, Shape.take_eq_ok.mpr hx]
      refine ih h.tail fun g hg hmem => ?_
      rcases List.mem_cons.mp hg with rfl | hg
      · exact notMem_of_once (h.once g) hmem
      · exact htail g hg hmem

theorem Acceptable.exists_takeEntries (h : Acceptable entries) (c : Config) : ∃ d, takeEntries [] c entries = .ok d :=
  exists_takeEntries_of_seen h fun _ hf => absurd hf List.not_mem_nil

/-- Entries are taken as a whole or not at all, and then in any order. -/
theorem takeEntries_eq_ok : takeEntries [] c entries = .ok d ↔ Acceptable entries ∧ Overlaid c entries d := by
  constructor
  · exact fun h => (takeEntries_ok h).2
  · rintro ⟨haccept, hset⟩
    obtain ⟨e, he⟩ := haccept.exists_takeEntries c
    rw [he, (takeEntries_ok he).2.2.unique hset]

/-- The entries of settings. -/
def known (entries : List (String × Value)) : List (String × Value) :=
  entries.filter fun e => (Field.ofKey? e.1).isSome

end Entries

/-! ### The law of the overlay -/

/-- A number that is too great for any type is only refused where it is asked for. -/
example : (load "\x7b\"comment\": [1e999, \x7b\"name\": null\x7d], \"hasDotEnv\": false\x7d").toOption =
    some { standard with hasDotEnv := false } := by decide +kernel

/-! ### Writing and reading again -/

/-- A configuration and the document that it is written as. -/
structure RoundTripLaw (c : Config) : Prop where
  loads : load c.toJson = .ok c
  injective : ∀ d : Config, d.toJson = c.toJson → d = c
  again : ∀ source, load source = .ok c → load c.toJson = .ok c

theorem mem_fields {c : Config} {f : Field} {v : Value}
    (h : (f.key, v) ∈ Field.all.map fun f => (f.key, f.shape.toValue (c.get f))) : v = f.shape.toValue (c.get f) := by
  obtain ⟨g, -, heq⟩ := List.mem_map.mp h
  obtain ⟨hkey, rfl⟩ := Prod.mk.inj heq
  obtain rfl := Field.key_inj.mp hkey
  rfl

/-- The document names every setting once, each with what it is set to. -/
theorem load_toJson (c : Config) : load c.toJson = .ok c := by
  have hnames : (Field.all.map fun f => (f.key, f.shape.toValue (c.get f))).map Prod.fst = Field.all.map Field.key := by
    rw [List.map_map]
    rfl
  rw [load_eq_ok, toJson, ofJson_of_document (document_toText _), toValue, takeOver, takeEntries_eq_ok]
  refine ⟨⟨fun f => ?_, fun f v hmem => ?_⟩, fun f v hmem => ?_, fun f hmem => ?_⟩
  · rw [hnames]
    exact List.nodup_iff_count_le_one.mp (by decide) f.key
  · exact ⟨c.get f, mem_fields hmem ▸ Shape.holds_toValue _ _⟩
  · exact mem_fields hmem ▸ Shape.holds_toValue _ _
  · rw [hnames] at hmem
    exact absurd (List.mem_map_of_mem f.mem_all) hmem

theorem roundTripLaw (c : Config) : RoundTripLaw c where
  loads := load_toJson c
  injective d hd := by
    have hload := load_toJson d
    rw [hd, load_toJson c] at hload
    exact (Except.ok.inj hload).symm
  again _ _ := load_toJson c

end Config
end SandboxRouting
