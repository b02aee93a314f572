import SandboxRouting.Proofs.Json.Typed

/-! # Values that are refused

Where a value of another type is expected, a value is refused as soon as its kind can be told. A value that holds
no others has to be complete for that; a list or a record is told by its first mark (`Tells`). In a list or a table
of texts the first element or entry that is no text is refused in the same way, behind any number of texts. None of
this hangs on what the text holds further on. -/

namespace SandboxRouting
namespace Json

variable {kind : Found} {expected : Expected} {source start rest place : List Char} {c : Char} {more : List Char}

/-! ### What a text tells -/

/-- A value of the kind is ahead. A whole number that fits into 64 bits is told as it is, any other number by the
    binary number that it stands for; one that is too great cannot be told. -/
inductive Tells : Found → List Char → Prop where
  | null (rest : List Char) : Tells .null ('n' :: 'u' :: 'l' :: 'l' :: rest)
  | yes (rest : List Char) : Tells (.flag true) ('t' :: 'r' :: 'u' :: 'e' :: rest)
  | no (rest : List Char) : Tells (.flag false) ('f' :: 'a' :: 'l' :: 's' :: 'e' :: rest)
  | integer {n : Int} {source rest : List Char} : -(Nat.pow 2 63 : Nat) ≤ n → n < (Nat.pow 2 64 : Nat) →
      WrittenNumeral (.ofInt n) source rest → Stops rest → Tells (.number (.integer n)) source
  | binary {n : Numeral} {negative : Bool} {x : Binary64} {source rest : List Char} :
      n.value? = some (.binary negative x) → WrittenNumeral n source rest → Stops rest →
      Tells (.number (.binary negative x)) source
  | text {s : String} {source rest : List Char} : WrittenText s.toList source rest → Tells (.text s) ('"' :: source)
  | list (rest : List Char) : Tells .list ('[' :: rest)
  | record (rest : List Char) : Tells .record ('\x7b' :: rest)

theorem value?_ofInt {n : Int} (hlow : -(Nat.pow 2 63 : Nat) ≤ n) (hhigh : n < (Nat.pow 2 64 : Nat)) :
    (Numeral.ofInt n).value? = some (.integer n) := by
  by_cases hn : n < 0
  · have hrange : 0 < n.natAbs ∧ n.natAbs ≤ Nat.pow 2 63 := by omega
    have heq : -(n.natAbs : Int) = n := by omega
    simp only [Numeral.value?, Numeral.ofInt, hn, decide_true, hrange, heq]
    rfl
  · have hrange : n.natAbs < Nat.pow 2 64 := by omega
    have heq : (n.natAbs : Int) = n := by omega
    simp only [Numeral.value?, Numeral.ofInt, hn, decide_false, hrange, heq]
    rfl

theorem Tells.head (h : Tells kind source) : ∃ c more, source = c :: more ∧ isBlank c = false ∧ c ≠ ']' := by
  cases h with
  | integer _ _ hnumeral => exact (Written.number hnumeral).head
  | binary _ hnumeral => exact (Written.number hnumeral).head
  | _ => exact ⟨_, _, rfl, by decide, by decide⟩

/-- What is told by its first character cannot be of another kind. -/
theorem Tells.of_head (h : Tells kind (c :: more)) : (c = '"' → ∃ s, kind = .text s) ∧
    (c = 't' ∨ c = 'f' → ∃ b, kind = .flag b) ∧ (c = '[' → kind = .list) ∧ (c = '\x7b' → kind = .record) := by
  generalize hsource : c :: more = source at h
  cases h with
  | integer _ _ hnumeral =>
    subst hsource
    have hne := hnumeral.head_notMem
    simp only [List.mem_cons, not_or] at hne
    simp [hne]
  | binary _ hnumeral =>
    subst hsource
    have hne := hnumeral.head_notMem
    simp only [List.mem_cons, not_or] at hne
    simp [hne]
  | _ =>
    obtain ⟨rfl, -⟩ := List.cons.inj hsource
    simp

theorem unexpected_of_tells (h : Tells kind (c :: more)) (expected : Expected) :
    unexpected expected c more = .mistyped kind expected := by
  generalize hsource : c :: more = source at h
  cases h with
  | integer hlow hhigh hnumeral hrest =>
    subst hsource
    rw [unexpected_numeral hnumeral hrest, Value.mistyped, value?_ofInt hlow hhigh]
  | binary hvalue hnumeral hrest =>
    subst hsource
    rw [unexpected_numeral hnumeral hrest, Value.mistyped, hvalue]
  | text hchars =>
    cases hsource
    simp [unexpected, text_of_written hchars, told]
  | _ =>
    cases hsource
    simp [unexpected, word, told]

/-! ### Readers of single values -/

theorem readText_of_tells (hstart : Blanks source start) (h : Tells kind start) (hkind : ∀ s, kind ≠ .text s) :
    readText source = .error (.mistyped kind .text) := by
  obtain ⟨c, more, rfl, hc, -⟩ := h.head
  have hne : c ≠ '"' := fun heq => (h.of_head.1 heq).elim hkind
  rw [readText, skipBlanks_of_blanks hstart hc]
  simp [hne, unexpected_of_tells h]

theorem readFlag_of_tells (hstart : Blanks source start) (h : Tells kind start) (hkind : ∀ b, kind ≠ .flag b) :
    readFlag source = .error (.mistyped kind .flag) := by
  obtain ⟨c, more, rfl, hc, -⟩ := h.head
  have hyes : c ≠ 't' := fun heq => (h.of_head.2.1 (Or.inl heq)).elim hkind
  have hno : c ≠ 'f' := fun heq => (h.of_head.2.1 (Or.inr heq)).elim hkind
  rw [readFlag, skipBlanks_of_blanks hstart hc]
  simp [hyes, hno, unexpected_of_tells h]

theorem readTexts_of_tells (hstart : Blanks source start) (h : Tells kind start) (hkind : kind ≠ .list) :
    readTexts source = .error (.mistyped kind .list) := by
  obtain ⟨c, more, rfl, hc, -⟩ := h.head
  have hne : c ≠ '[' := fun heq => hkind (h.of_head.2.2.1 heq)
  rw [readTexts, skipBlanks_of_blanks hstart hc]
  simp [hne, unexpected_of_tells h]

theorem readTable_of_tells (hstart : Blanks source start) (h : Tells kind start) (hkind : kind ≠ .record) :
    readTable source = .error (.mistyped kind .record) := by
  obtain ⟨c, more, rfl, hc, -⟩ := h.head
  have hne : c ≠ '\x7b' := fun heq => hkind (h.of_head.2.2.2 heq)
  rw [readTable, skipBlanks_of_blanks hstart hc]
  simp [hne, unexpected_of_tells h]

/-! ### Behind other entries -/

section Entries
variable {α : Type} {entry : α → List Char → List Char → Prop} {entries : List α} {isFirst : Bool}

/-- Entries are ahead of a place at which a further one begins. -/
inductive Reaches (entry : α → List Char → List Char → Prop) : Bool → List α → List Char → List Char → Prop where
  | here {isFirst : Bool} {source place : List Char} : Leads isFirst source place → Reaches entry isFirst [] source place
  | past {isFirst : Bool} {a : α} {others : List α} {source start middle place : List Char} :
      Leads isFirst source start → entry a start middle → Reaches entry false others middle place →
      Reaches entry isFirst (a :: others) source place

theorem Reaches.leads (h : Reaches entry isFirst entries source place) : ∃ start, Leads isFirst source start := by
  cases h with
  | here hleads => exact ⟨_, hleads⟩
  | past hleads => exact ⟨_, hleads⟩

/-- A comma is ahead of a further entry, so what stands before it does not go on with a number. -/
theorem Reaches.stops (h : Reaches entry false entries source place) : Stops source := by
  obtain ⟨start, hleads⟩ := h.leads
  cases hleads with
  | further hcomma => exact hcomma.stops (stops_cons (by decide) (by decide))

theorem Reaches.length_lt (h : Reaches entry isFirst entries source place)
    (hentry : ∀ a start middle, entry a start middle → Stops middle → middle.length ≤ start.length) :
    entries.length < source.length + isFirst.toNat := by
  induction h with
  | here hleads => exact Nat.zero_lt_of_lt hleads.length_lt
  | past hleads hwritten hfurther ih =>
    have hahead := hleads.length_lt
    have hstart := hentry _ _ _ hwritten hfurther.stops
    simp only [List.length_cons, Bool.toNat_false] at ih ⊢
    omega

end Entries

theorem nextElement_of_tells {isFirst : Bool} (hleads : Leads isFirst source place) (h : Tells kind place) :
    nextElement isFirst source = .ok (.present place) := by
  obtain ⟨c, more, rfl, hc, hne⟩ := h.head
  exact nextElement_of_head hleads hc hne

theorem textsWithin_of_reaches {isFirst : Bool} {texts : List String}
    (h : Reaches (fun s => Written (.text s)) isFirst texts source place) (hplace : Tells kind place)
    (hkind : ∀ s, kind ≠ .text s) {n : Nat} (hn : texts.length < n) (found : List String) :
    textsWithin n isFirst found source = .error (.mistyped kind .text) := by
  induction h generalizing n found with
  | here hleads =>
    obtain ⟨n, rfl⟩ := Nat.exists_eq_succ_of_ne_zero (Nat.ne_zero_of_lt hn)
    simp only [textsWithin, nextElement_of_tells hleads hplace, readText_of_tells (.none _) hplace hkind]
  | past hleads hwritten hfurther ih =>
    obtain ⟨n, rfl⟩ := Nat.exists_eq_succ_of_ne_zero (Nat.ne_zero_of_lt hn)
    have hread := reads_text _ _ _ _ (.none _) hwritten hfurther.stops
    simp only [textsWithin, nextElement_of_leads hleads hwritten, hread, Value.takeText, Except.map]
    exact ih hplace (Nat.lt_of_succ_lt_succ hn) _

theorem tableWithin_of_reaches {isFirst : Bool} {entries : List (String × String)} {name : String}
    {text behind ahead : List Char}
    (h : Reaches (fun e : String × String => WrittenEntry Written (e.1, .text e.2)) isFirst entries source ('"' :: text))
    (hname : WrittenText name.toList text behind) (hcolon : Blanks behind (':' :: ahead)) (hstart : Blanks ahead start)
    (htells : Tells kind start) (hkind : ∀ s, kind ≠ .text s) {n : Nat} (hn : entries.length < n) (found : Table) :
    tableWithin n isFirst found source = .error (.mistyped kind .text) := by
  generalize hplace : '"' :: text = place at h
  induction h generalizing n found with
  | here hleads =>
    subst hplace
    obtain ⟨n, rfl⟩ := Nat.exists_eq_succ_of_ne_zero (Nat.ne_zero_of_lt hn)
    simp only [tableWithin, nextEntry_of_leads hleads hname, colon_of_blanks hcolon,
      readText_of_tells hstart htells hkind]
  | past hleads hentry hfurther ih =>
    obtain ⟨n, rfl⟩ := Nat.exists_eq_succ_of_ne_zero (Nat.ne_zero_of_lt hn)
    cases hentry with
    | named hname' hcolon' hstart' hwritten =>
      have hread := reads_text _ _ _ _ hstart' hwritten hfurther.stops
      simp only [tableWithin, nextEntry_of_leads hleads hname', colon_of_blanks hcolon', hread, Value.takeText, Except.map]
      exact ih (Nat.lt_of_succ_lt_succ hn) _ hplace

theorem readTexts_of_reaches {texts : List String} {inner : List Char} (hstart : Blanks source ('[' :: inner))
    (h : Reaches (fun s => Written (.text s)) true texts inner place) (hplace : Tells kind place)
    (hkind : ∀ s, kind ≠ .text s) : readTexts source = .error (.mistyped kind .text) := by
  have hlength := h.length_lt fun s _ _ => Written.length_le
  rw [readTexts, skipBlanks_of_blanks hstart (by decide)]
  exact textsWithin_of_reaches h hplace hkind hlength []

theorem readTable_of_reaches {entries : List (String × String)} {name : String} {inner text behind ahead : List Char}
    (hopen : Blanks source ('\x7b' :: inner))
    (h : Reaches (fun e : String × String => WrittenEntry Written (e.1, .text e.2)) true entries inner ('"' :: text))
    (hname : WrittenText name.toList text behind) (hcolon : Blanks behind (':' :: ahead)) (hstart : Blanks ahead start)
    (htells : Tells kind start) (hkind : ∀ s, kind ≠ .text s) : readTable source = .error (.mistyped kind .text) := by
  have hlength := h.length_lt fun e _ _ => WrittenEntry.length_le
  rw [readTable, skipBlanks_of_blanks hopen (by decide)]
  exact tableWithin_of_reaches h hname hcolon hstart htells hkind hlength .empty

end Json
end SandboxRouting
