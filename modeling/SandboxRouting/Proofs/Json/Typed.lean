import SandboxRouting.Json.Typed
import SandboxRouting.Proofs.Json.Skip

/-! # What is read from a value

What a reader of a type makes of a value, or how it refuses it, hangs on the value and not on how the value is
written. So every reader has a counterpart that takes the value itself, and reading is taking (`Reads`). For
lists and records this is shown entry by entry, with the loop's own state in the statement; a loop takes one
step more than there are entries, and the text is at least as long as that. -/

namespace SandboxRouting
namespace Json

variable {c : Char} {more source start rest : List Char} {v : Value}

/-! ### Values of another type -/

/-- The fault of a value that is not of the expected type. A number that is too great cannot be told. -/
def Value.mistyped (expected : Expected) : Value → Fault
  | null => .mistyped .null expected
  | flag value => .mistyped (.flag value) expected
  | number value =>
    match value.value? with
    | some x => .mistyped (.number x) expected
    | none => .malformed
  | text value => .mistyped (.text value) expected
  | list _ => .mistyped .list expected
  | record _ => .mistyped .record expected

theorem WrittenNumeral.head {n : Numeral} (h : WrittenNumeral n (c :: more) rest) : c = '-' ∨ c.isDigit = true := by
  generalize hsource : c :: more = source at h
  cases h with
  | positive hmagnitude =>
    obtain ⟨d, tail, rfl, hdigit, -⟩ := hmagnitude.head
    cases hsource
    exact Or.inr hdigit
  | negative =>
    cases hsource
    exact Or.inl rfl

theorem WrittenNumeral.head_ne {n : Numeral} {d : Char} (h : WrittenNumeral n (c :: more) rest) (hminus : d ≠ '-')
    (hdigit : d.isDigit = false) : c ≠ d := by
  rcases h.head with rfl | hc
  · exact hminus.symm
  · exact Text.ne_of_isDigit hc hdigit

/-- A number begins like no other value. -/
theorem WrittenNumeral.head_notMem {n : Numeral} (h : WrittenNumeral n (c :: more) rest) :
    c ∉ ['n', 't', 'f', '"', '[', '\x7b'] := by
  rcases h.head with rfl | hdigit
  · decide
  · intro hmem
    simp only [List.mem_cons, List.not_mem_nil, or_false] at hmem
    rcases hmem with rfl | rfl | rfl | rfl | rfl | rfl <;> cases hdigit

theorem told_number (expected : Expected) (n : Numeral) (rest : List Char) :
    told expected foundNumber (.ok (n, rest)) = (Value.number n).mistyped expected := by
  cases h : n.value? <;> simp [told, foundNumber, Value.mistyped, h]

theorem unexpected_numeral {n : Numeral} (h : WrittenNumeral n (c :: more) rest) (hrest : Stops rest)
    (expected : Expected) : unexpected expected c more = (Value.number n).mistyped expected := by
  have hn : c ≠ 'n' := h.head_ne (by decide) (by decide)
  have ht : c ≠ 't' := h.head_ne (by decide) (by decide)
  have hf : c ≠ 'f' := h.head_ne (by decide) (by decide)
  rw [unexpected, if_neg hn, if_neg ht, if_neg hf, ← told_number expected n rest]
  generalize hsource : c :: more = source at h ⊢
  cases h with
  | positive hmagnitude =>
    obtain ⟨d, tail, rfl, hdigit, -⟩ := hmagnitude.head
    cases hsource
    rw [if_neg (Text.ne_of_isDigit hdigit (by decide)), if_pos hdigit, numeral_of_written hmagnitude hrest]
  | negative hmagnitude =>
    cases hsource
    rw [if_pos rfl, numeral_of_written hmagnitude hrest]

/-- A value that is not expected is told in full, behind its first character. -/
theorem unexpected_of_written (h : Written v (c :: more) rest) (hrest : Stops rest) (expected : Expected) :
    unexpected expected c more = v.mistyped expected := by
  cases h with
  | number hnumeral => exact unexpected_numeral hnumeral hrest expected
  | text hchars => simp [unexpected, text_of_written hchars, told, Value.mistyped]
  | _ => simp [unexpected, word, told, Value.mistyped]

/-! ### Single values -/

/-- A reader makes of a value what is taken from it, however it is written. -/
def Reads {α : Type} (read : List Char → Except Fault (α × List Char)) (take : Value → Except Fault α) : Prop :=
  ∀ v source start rest, Blanks source start → Written v start rest → Stops rest →
    read source = (take v).map (·, rest)

/-- The text that the value is. -/
def Value.takeText : Value → Except Fault String
  | text s => .ok s
  | v => .error (v.mistyped .text)

/-- The truth value that the value is. -/
def Value.takeFlag : Value → Except Fault Bool
  | flag b => .ok b
  | v => .error (v.mistyped .flag)

theorem reads_text : Reads readText Value.takeText := by
  intro v source start rest hstart h hrest
  obtain ⟨c, more, rfl, hc, -⟩ := h.head
  have hother := unexpected_of_written h hrest .text
  rw [readText, skipBlanks_of_blanks hstart hc]
  cases h with
  | text hchars => exact text_of_written hchars
  | number hnumeral =>
    have hne : c ≠ '"' := hnumeral.head_ne (by decide) (by decide)
    simp [hne, hother, Value.takeText, Except.map]
  | _ => simp [hother, Value.takeText, Except.map]

theorem reads_flag : Reads readFlag Value.takeFlag := by
  intro v source start rest hstart h hrest
  obtain ⟨c, more, rfl, hc, -⟩ := h.head
  have hother := unexpected_of_written h hrest .flag
  rw [readFlag, skipBlanks_of_blanks hstart hc]
  cases h with
  | yes => rfl
  | no => rfl
  | number hnumeral =>
    have hyes : c ≠ 't' := hnumeral.head_ne (by decide) (by decide)
    have hno : c ≠ 'f' := hnumeral.head_ne (by decide) (by decide)
    simp [hyes, hno, hother, Value.takeFlag, Except.map]
  | _ => simp [hother, Value.takeFlag, Except.map]

/-! ### From entry to entry -/

section Items
variable {α : Type} {entry : α → List Char → List Char → Prop} {mark : Char} {entries : List α} {isFirst : Bool}
  {ahead : List Char}

/-- A comma is ahead of every entry but the first. -/
theorem Leads.length_lt (h : Leads isFirst source start) : start.length < source.length + isFirst.toNat := by
  cases h with
  | first hblanks => exact Nat.lt_succ_of_le hblanks.length_le
  | further hcomma hblanks => exact Nat.lt_of_le_of_lt hblanks.length_le hcomma.length_lt

/-- There are fewer entries than characters, or as many where the first has no comma ahead. -/
theorem Items.length_lt (h : Items entry mark isFirst entries source rest) (hmark : mark = ']' ∨ mark = '\x7d')
    (hentry : ∀ a start middle, entry a start middle → Stops middle → middle.length ≤ start.length) :
    entries.length < source.length + isFirst.toNat := by
  induction h with
  | done hblanks => exact Nat.lt_add_right _ (Nat.zero_lt_of_lt hblanks.length_lt)
  | more hleads hwritten hfurther ih =>
    have hahead := hleads.length_lt
    have hstart := hentry _ _ _ hwritten (hfurther.stops hmark)
    simp only [List.length_cons, Bool.toNat_false] at ih ⊢
    omega

theorem nextElement_done (isFirst : Bool) (h : Blanks source (']' :: rest)) :
    nextElement isFirst source = .ok (.done rest) := by
  simp [nextElement, skipBlanks_of_blanks h (by decide)]

theorem nextElement_of_head (hleads : Leads isFirst source (c :: more)) (hc : isBlank c = false) (hne : c ≠ ']') :
    nextElement isFirst source = .ok (.present (c :: more)) := by
  cases hleads with
  | first hblanks => simp [nextElement, skipBlanks_of_blanks hblanks hc, hne]
  | further hcomma hblanks =>
    simp [nextElement, skipBlanks_of_blanks hcomma (by decide), skipBlanks_of_blanks hblanks hc, hne]

theorem nextElement_of_leads (hleads : Leads isFirst source start) (h : Written v start rest) :
    nextElement isFirst source = .ok (.present start) := by
  obtain ⟨c, more, rfl, hc, hne⟩ := h.head
  exact nextElement_of_head hleads hc hne

theorem nextEntry_done (isFirst : Bool) (h : Blanks source ('\x7d' :: rest)) :
    nextEntry isFirst source = .ok (.done rest) := by
  simp [nextEntry, skipBlanks_of_blanks h (by decide)]

theorem nextEntry_of_leads {name : String} {behind : List Char} (hleads : Leads isFirst source ('"' :: start))
    (h : WrittenText name.toList start behind) : nextEntry isFirst source = .ok (.named name behind) := by
  cases hleads with
  | first hblanks => simp [nextEntry, skipBlanks_of_blanks hblanks (by decide), entryName, text_of_written h]
  | further hcomma hblanks =>
    simp [nextEntry, skipBlanks_of_blanks hcomma (by decide), skipBlanks_of_blanks hblanks (by decide), entryName,
      text_of_written h]

theorem colon_of_blanks (h : Blanks source (':' :: ahead)) : colon source = .ok ahead := by
  simp [colon, skipBlanks_of_blanks h (by decide)]

end Items

theorem WrittenEntry.length_le {e : String × Value} (h : WrittenEntry Written e source rest) (hrest : Stops rest) :
    rest.length ≤ source.length := by
  cases h with
  | named hname hcolon hstart hwritten =>
    have := hname.length_lt
    have := hcolon.length_lt
    have := hstart.length_le
    have := hwritten.length_le hrest
    simp only [List.length_cons]
    omega

/-! ### Lists and tables of texts -/

/-- The texts that the values are. -/
def Value.takeTexts : Value → Except Fault (List String)
  | list values => values.mapM takeText
  | v => .error (v.mistyped .list)

/-- The table with the texts of further entries. -/
def Value.takeEntries (t : Table) (entries : List (String × Value)) : Except Fault Table :=
  entries.foldlM (fun t e => e.2.takeText.map (t.insert e.1)) t

/-- The table that the texts of a record make. -/
def Value.takeTable : Value → Except Fault Table
  | record entries => takeEntries .empty entries
  | v => .error (v.mistyped .record)

theorem textsWithin_of_items {isFirst : Bool} {values : List Value} (h : Items Written ']' isFirst values source rest)
    {n : Nat} (hn : values.length < n) (found : List String) :
    textsWithin n isFirst found source = (values.mapM Value.takeText).map (fun texts => (found.reverse ++ texts, rest)) := by
  induction h generalizing n found with
  | done hmark =>
    obtain ⟨n, rfl⟩ := Nat.exists_eq_succ_of_ne_zero (Nat.ne_zero_of_lt hn)
    simp [textsWithin, nextElement_done _ hmark, pure, Except.pure, Except.map]
  | @more _ v _ _ _ _ _ hleads hwritten hfurther ih =>
    obtain ⟨n, rfl⟩ := Nat.exists_eq_succ_of_ne_zero (Nat.ne_zero_of_lt hn)
    have hread := reads_text v _ _ _ (.none _) hwritten (hfurther.stops (Or.inl rfl))
    rw [textsWithin, nextElement_of_leads hleads hwritten, List.mapM_cons]
    simp only [hread]
    cases v.takeText with
    | error fault => rfl
    | ok s =>
      simp only [Except.map, ih (Nat.lt_of_succ_lt_succ hn), bind, Except.bind]
      cases List.mapM Value.takeText _ <;> simp [pure, Except.pure]

theorem tableWithin_of_items {isFirst : Bool} {entries : List (String × Value)}
    (h : Items (WrittenEntry Written) '\x7d' isFirst entries source rest) {n : Nat} (hn : entries.length < n)
    (found : Table) : tableWithin n isFirst found source = (Value.takeEntries found entries).map (·, rest) := by
  induction h generalizing n found with
  | done hmark =>
    obtain ⟨n, rfl⟩ := Nat.exists_eq_succ_of_ne_zero (Nat.ne_zero_of_lt hn)
    simp [tableWithin, nextEntry_done _ hmark, Value.takeEntries, pure, Except.pure, Except.map]
  | more hleads hentry hfurther ih =>
    obtain ⟨n, rfl⟩ := Nat.exists_eq_succ_of_ne_zero (Nat.ne_zero_of_lt hn)
    cases hentry with
    | @named name v _ _ _ _ _ hname hcolon hstart hwritten =>
      have hread := reads_text v _ _ _ hstart hwritten (hfurther.stops (Or.inr rfl))
      rw [tableWithin, nextEntry_of_leads hleads hname]
      simp only [colon_of_blanks hcolon, hread, Value.takeEntries, List.foldlM_cons]
      cases v.takeText with
      | error fault => rfl
      | ok s => exact ih (Nat.lt_of_succ_lt_succ hn) _

theorem reads_texts : Reads readTexts Value.takeTexts := by
  intro v source start rest hstart h hrest
  obtain ⟨c, more, rfl, hc, -⟩ := h.head
  have hother := unexpected_of_written h hrest .list
  rw [readTexts, skipBlanks_of_blanks hstart hc]
  cases h with
  | list hitems =>
    have hlength := hitems.length_lt (Or.inl rfl) fun v _ _ => Written.length_le
    exact textsWithin_of_items hitems hlength []
  | number hnumeral =>
    have hne : c ≠ '[' := hnumeral.head_ne (by decide) (by decide)
    simp [hne, hother, Value.takeTexts, Except.map]
  | _ => simp [hother, Value.takeTexts, Except.map]

theorem reads_table : Reads readTable Value.takeTable := by
  intro v source start rest hstart h hrest
  obtain ⟨c, more, rfl, hc, -⟩ := h.head
  have hother := unexpected_of_written h hrest .record
  rw [readTable, skipBlanks_of_blanks hstart hc]
  cases h with
  | record hitems =>
    have hlength := hitems.length_lt (Or.inr rfl) fun e _ _ => WrittenEntry.length_le
    exact tableWithin_of_items hitems hlength .empty
  | number hnumeral =>
    have hne : c ≠ '\x7b' := hnumeral.head_ne (by decide) (by decide)
    simp [hne, hother, Value.takeTable, Except.map]
  | _ => simp [hother, Value.takeTable, Except.map]

/-! ### What is taken -/

theorem Value.takeText_eq_ok {s : String} : v.takeText = .ok s ↔ v = .text s := by
  cases v <;> simp [takeText]

theorem Value.takeFlag_eq_ok {b : Bool} : v.takeFlag = .ok b ↔ v = .flag b := by
  cases v <;> simp [takeFlag]

theorem mapM_takeText_eq_ok {values : List Value} {texts : List String} :
    values.mapM Value.takeText = .ok texts ↔ values = texts.map .text := by
  induction values generalizing texts with
  | nil => cases texts <;> simp [pure, Except.pure]
  | cons v values ih =>
    rw [List.mapM_cons]
    cases hv : v.takeText with
    | error fault =>
      have hne : ∀ s, v ≠ .text s := fun s hs => by simp [Value.takeText_eq_ok.mpr hs] at hv
      cases texts <;> simp [bind, Except.bind, hne]
    | ok s =>
      rw [Value.takeText_eq_ok.mp hv]
      cases hvalues : values.mapM Value.takeText with
      | error fault => cases texts <;> simp [bind, Except.bind, hvalues, ← ih]
      | ok others => cases texts <;> simp [bind, Except.bind, pure, Except.pure, hvalues, ← ih]

theorem Value.takeTexts_eq_ok {texts : List String} : v.takeTexts = .ok texts ↔ v = .ofTexts texts := by
  cases v <;> simp [takeTexts, ofTexts, mapM_takeText_eq_ok]

theorem Value.takeEntries_eq_ok {entries : List (String × Value)} {t u : Table} :
    takeEntries t entries = .ok u ↔
      ∃ texts : List (String × String), entries = texts.map (fun e => (e.1, .text e.2)) ∧
        u = texts.foldl (fun t e => t.insert e.1 e.2) t := by
  induction entries generalizing t with
  | nil =>
    constructor
    · intro h
      cases h
      exact ⟨[], rfl, rfl⟩
    · rintro ⟨texts, htexts, rfl⟩
      cases texts with
      | nil => rfl
      | cons first others => cases htexts
  | cons e entries ih =>
    obtain ⟨name, v⟩ := e
    rw [takeEntries, List.foldlM_cons]
    cases hv : v.takeText with
    | error fault =>
      refine iff_of_false (by simp [Except.map, bind, Except.bind]) ?_
      rintro ⟨texts, htexts, -⟩
      cases texts with
      | nil => cases htexts
      | cons first others =>
        obtain ⟨-, htext⟩ := Prod.mk.inj (List.cons.inj htexts).1
        simp [takeText_eq_ok.mpr htext] at hv
    | ok s =>
      rw [takeText_eq_ok.mp hv]
      refine Iff.trans (ih (t := t.insert name s)) ⟨?_, ?_⟩
      · rintro ⟨texts, rfl, rfl⟩
        exact ⟨(name, s) :: texts, rfl, rfl⟩
      · rintro ⟨texts, htexts, rfl⟩
        cases texts with
        | nil => cases htexts
        | cons first others =>
          cases htexts
          exact ⟨others, rfl, rfl⟩

theorem Value.takeTable_eq_ok {t : Table} :
    v.takeTable = .ok t ↔ ∃ entries, v = .ofTextEntries entries ∧ t = .ofList entries := by
  cases v with
  | record entries =>
    rw [takeTable, takeEntries_eq_ok]
    simp only [ofTextEntries, Value.record.injEq, Table.ofList]
  | _ => simp [takeTable, ofTextEntries]

/-! ### Documents -/

theorem document_of_reads {α : Type} {read : List Char → Except Fault (α × List Char)} {take : Value → Except Fault α}
    {source : String} (hread : Reads read take) (h : v.Document source) : document read source = take v := by
  obtain ⟨start, rest, hstart, hwritten, hrest⟩ := h
  have hblank : skipBlanks rest = [] := skipBlanks_eq hrest
  rw [document, hread v _ _ _ hstart hwritten (hrest.stops stops_nil)]
  cases take v <;> simp [Except.map, hblank]

end Json
end SandboxRouting
