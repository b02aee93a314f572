import SandboxRouting.Json.Scan
import SandboxRouting.Json.Value
import SandboxRouting.Text.Character

/-! # How values are written

A value can be written in more than one way: there may be blanks around each part of it, a character of a
text may stand for itself or be escaped, by a letter or by number, and a power of ten may have a sign and
zeros ahead. The relations below go through all of these ways. Each of them takes a text as readers do: what
is written is ahead in the text, and the rest is what follows. No reader occurs in them.

A number ends only where its digits end, so what follows a value must not go on with a number (`Stops`). In
a list or a record that is seen to by the marks between and behind the entries (`Items.stops`). -/

namespace SandboxRouting
namespace Json

/-! ### Blanks -/

/-- Nothing but blanks is ahead of the rest. -/
inductive Blanks : List Char → List Char → Prop where
  | none (rest : List Char) : Blanks rest rest
  | more {c : Char} {source rest : List Char} : isBlank c = true → Blanks source rest → Blanks (c :: source) rest

theorem Blanks.length_le {source rest : List Char} (h : Blanks source rest) : rest.length ≤ source.length := by
  induction h with
  | none => exact Nat.le_refl _
  | more _ _ ih => exact Nat.le_succ_of_le ih

theorem isBlank_cases {c : Char} (h : isBlank c = true) : c = ' ' ∨ c = '\t' ∨ c = '\n' ∨ c = '\r' := by
  simpa [isBlank, or_assoc] using h

theorem isBlank_of_isDigit {c : Char} (h : c.isDigit = true) : isBlank c = false := by
  refine Bool.eq_false_iff.mpr fun hblank => ?_
  rcases isBlank_cases hblank with rfl | rfl | rfl | rfl <;> cases h

/-! ### Texts -/

/-- Four hexadecimal digits. -/
inductive WrittenUnit : Nat → List Char → List Char → Prop where
  | digits {a b c d : Char} {w x y z : Nat} (rest : List Char) : Text.hexValue? a = some w →
      Text.hexValue? b = some x → Text.hexValue? c = some y → Text.hexValue? d = some z →
      WrittenUnit (((w * 16 + x) * 16 + y) * 16 + z) (a :: b :: c :: d :: rest) rest

/-- A character between quotation marks. Beyond the first 65536 characters a number takes a pair of units. -/
inductive WrittenChar : Char → List Char → List Char → Prop where
  | plain {c : Char} (rest : List Char) : c ≠ '"' → c ≠ '\\' → 0x20 ≤ c.toNat → WrittenChar c (c :: rest) rest
  | letter {l c : Char} (rest : List Char) : escaped? l = some c → WrittenChar c ('\\' :: l :: rest) rest
  | unit {c : Char} {source rest : List Char} : WrittenUnit c.toNat source rest →
      WrittenChar c ('\\' :: 'u' :: source) rest
  | pair {c : Char} {first second : Nat} {source more rest : List Char} : 0xD800 ≤ first → first ≤ 0xDBFF →
      0xDC00 ≤ second → second ≤ 0xDFFF → c.toNat = 0x10000 + (first - 0xD800) * 0x400 + (second - 0xDC00) →
      WrittenUnit first source ('\\' :: 'u' :: more) → WrittenUnit second more rest →
      WrittenChar c ('\\' :: 'u' :: source) rest

/-- The characters of a text and the quotation mark behind them. -/
inductive WrittenText : List Char → List Char → List Char → Prop where
  | done (rest : List Char) : WrittenText [] ('"' :: rest) rest
  | more {c : Char} {chars source middle rest : List Char} : WrittenChar c source middle →
      WrittenText chars middle rest → WrittenText (c :: chars) source rest

theorem WrittenUnit.length {n : Nat} {source rest : List Char} (h : WrittenUnit n source rest) :
    source.length = rest.length + 4 := by
  cases h
  rfl

theorem WrittenChar.length_lt {c : Char} {source rest : List Char} (h : WrittenChar c source rest) :
    rest.length < source.length := by
  cases h with
  | plain => exact Nat.lt_succ_self _
  | letter => exact Nat.lt_succ_of_lt (Nat.lt_succ_self _)
  | unit hunit =>
    have hlength := hunit.length
    simp only [List.length_cons]
    omega
  | pair _ _ _ _ _ hfirst hsecond =>
    have hlength := hfirst.length
    have hlength' := hsecond.length
    simp only [List.length_cons] at hlength ⊢
    omega

theorem WrittenText.length_lt {chars source rest : List Char} (h : WrittenText chars source rest) :
    rest.length < source.length := by
  induction h with
  | done => simp
  | more hchar _ ih => exact Nat.lt_trans ih hchar.length_lt

/-! ### Numerals -/

/-- The text does not go on with a number. -/
def Stops (rest : List Char) : Prop :=
  ∀ c ∈ rest.head?, c.isDigit = false ∧ c ≠ '.' ∧ c ≠ 'e' ∧ c ≠ 'E'

theorem stops_nil : Stops [] := by
  intro c hc
  cases hc

theorem stops_cons {c : Char} {rest : List Char} (hdigit : c.isDigit = false)
    (hmark : c ≠ '.' ∧ c ≠ 'e' ∧ c ≠ 'E') : Stops (c :: rest) := by
  intro d hd
  cases hd
  exact ⟨hdigit, hmark⟩

theorem Blanks.stops {source rest : List Char} (h : Blanks source rest) (hrest : Stops rest) : Stops source := by
  cases h with
  | none => exact hrest
  | more hblank _ =>
    rcases isBlank_cases hblank with rfl | rfl | rfl | rfl <;> exact stops_cons (by decide) (by decide)

/-- A power of ten, if there is one. -/
inductive WrittenPower : Option Int → List Char → List Char → Prop where
  | none (rest : List Char) : WrittenPower none rest rest
  | plain {e : Char} {digits : List Char} (rest : List Char) : e = 'e' ∨ e = 'E' → digits ≠ [] →
      (∀ c ∈ digits, c.isDigit = true) →
      WrittenPower (some (Nat.ofDigitChars 10 digits 0)) (e :: (digits ++ rest)) rest
  | plus {e : Char} {digits : List Char} (rest : List Char) : e = 'e' ∨ e = 'E' → digits ≠ [] →
      (∀ c ∈ digits, c.isDigit = true) →
      WrittenPower (some (Nat.ofDigitChars 10 digits 0)) (e :: '+' :: (digits ++ rest)) rest
  | minus {e : Char} {digits : List Char} (rest : List Char) : e = 'e' ∨ e = 'E' → digits ≠ [] →
      (∀ c ∈ digits, c.isDigit = true) →
      WrittenPower (some (-(Nat.ofDigitChars 10 digits 0 : Nat))) (e :: '-' :: (digits ++ rest)) rest

/-- A number without its sign. No zero is ahead of the other digits before the point. -/
inductive WrittenMagnitude : Nat → List (Fin 10) → Option Int → List Char → List Char → Prop where
  | whole (n : Nat) {power : Option Int} {source rest : List Char} : WrittenPower power source rest →
      WrittenMagnitude n [] power (Nat.toDigits 10 n ++ source) rest
  | fraction (n : Nat) (d : Fin 10) (digits : List (Fin 10)) {power : Option Int} {source rest : List Char} :
      WrittenPower power source rest →
      WrittenMagnitude n (d :: digits) power
        (Nat.toDigits 10 n ++ '.' :: ((d :: digits).map Numeral.digitChar ++ source)) rest

inductive WrittenNumeral : Numeral → List Char → List Char → Prop where
  | positive {n : Nat} {digits : List (Fin 10)} {power : Option Int} {source rest : List Char} :
      WrittenMagnitude n digits power source rest → WrittenNumeral ⟨false, n, digits, power⟩ source rest
  | negative {n : Nat} {digits : List (Fin 10)} {power : Option Int} {source rest : List Char} :
      WrittenMagnitude n digits power source rest → WrittenNumeral ⟨true, n, digits, power⟩ ('-' :: source) rest

theorem WrittenPower.length_le {power : Option Int} {source rest : List Char} (h : WrittenPower power source rest) :
    rest.length ≤ source.length := by
  cases h <;> simp <;> omega

theorem WrittenMagnitude.head {n : Nat} {digits : List (Fin 10)} {power : Option Int} {source rest : List Char}
    (h : WrittenMagnitude n digits power source rest) :
    ∃ c more, source = c :: more ∧ c.isDigit = true ∧ rest.length ≤ more.length := by
  obtain ⟨c, tail, htail⟩ := List.exists_cons_of_ne_nil (Nat.toDigits_ne_nil (n := n) (b := 10))
  have hdigit : c.isDigit = true :=
    Nat.isDigit_of_mem_toDigits (by decide) (Nat.le_refl 10) (htail ▸ List.mem_cons_self)
  cases h with
  | whole hpower =>
    have hlength := hpower.length_le
    refine ⟨c, _, by rw [htail, List.cons_append], hdigit, ?_⟩
    simp only [List.length_append]
    omega
  | fraction d digits hpower =>
    have hlength := hpower.length_le
    refine ⟨c, _, by rw [htail, List.cons_append], hdigit, ?_⟩
    simp only [List.length_append, List.length_cons]
    omega

/-! ### Lists and records -/

section Items
variable {α : Type}

/-- An entry is ahead, behind a comma unless it is the first. -/
inductive Leads : Bool → List Char → List Char → Prop where
  | first {source start : List Char} : Blanks source start → Leads true source start
  | further {source ahead start : List Char} : Blanks source (',' :: ahead) → Blanks ahead start →
      Leads false source start

/-- Entries between commas, and the mark behind the last. -/
inductive Items (entry : α → List Char → List Char → Prop) (mark : Char) :
    Bool → List α → List Char → List Char → Prop where
  | done {isFirst : Bool} {source rest : List Char} : Blanks source (mark :: rest) →
      Items entry mark isFirst [] source rest
  | more {isFirst : Bool} {a : α} {others : List α} {source start middle rest : List Char} :
      Leads isFirst source start → entry a start middle → Items entry mark false others middle rest →
      Items entry mark isFirst (a :: others) source rest

variable {entry : α → List Char → List Char → Prop} {mark : Char} {entries : List α} {source rest : List Char}

/-- What stands behind an entry does not go on with a number. -/
theorem Items.stops (h : Items entry mark false entries source rest) (hmark : mark = ']' ∨ mark = '\x7d') :
    Stops source := by
  cases h with
  | done hblanks =>
    rcases hmark with rfl | rfl <;> exact hblanks.stops (stops_cons (by decide) (by decide))
  | more hleads =>
    cases hleads with
    | further hblanks => exact hblanks.stops (stops_cons (by decide) (by decide))

end Items

/-- The name of an entry, a colon and the value of the entry. -/
inductive WrittenEntry (written : Value → List Char → List Char → Prop) :
    String × Value → List Char → List Char → Prop where
  | named {name : String} {v : Value} {source behind ahead start rest : List Char} :
      WrittenText name.toList source behind → Blanks behind (':' :: ahead) → Blanks ahead start →
      written v start rest → WrittenEntry written (name, v) ('"' :: source) rest

/-- The value is ahead of the rest. -/
inductive Written : Value → List Char → List Char → Prop where
  | null (rest : List Char) : Written .null ('n' :: 'u' :: 'l' :: 'l' :: rest) rest
  | yes (rest : List Char) : Written (.flag true) ('t' :: 'r' :: 'u' :: 'e' :: rest) rest
  | no (rest : List Char) : Written (.flag false) ('f' :: 'a' :: 'l' :: 's' :: 'e' :: rest) rest
  | number {n : Numeral} {source rest : List Char} : WrittenNumeral n source rest → Written (.number n) source rest
  | text {s : String} {source rest : List Char} : WrittenText s.toList source rest →
      Written (.text s) ('"' :: source) rest
  | list {values : List Value} {source rest : List Char} : Items Written ']' true values source rest →
      Written (.list values) ('[' :: source) rest
  | record {entries : List (String × Value)} {source rest : List Char} :
      Items (WrittenEntry Written) '\x7d' true entries source rest → Written (.record entries) ('\x7b' :: source) rest

/-- The text holds the value, and nothing else but blanks. -/
def Value.Document (v : Value) (source : String) : Prop :=
  ∃ start rest, Blanks source.toList start ∧ Written v start rest ∧ Blanks rest []

/-- Values are built from those that they hold. -/
theorem Value.induct {P : Value → Prop} (null : P .null) (flag : ∀ b, P (.flag b)) (number : ∀ n, P (.number n))
    (text : ∀ s, P (.text s)) (list : ∀ values, (∀ v ∈ values, P v) → P (.list values))
    (record : ∀ entries : List (String × Value), (∀ e ∈ entries, P e.2) → P (.record entries)) (v : Value) : P v :=
  @Value.rec P (fun values => ∀ v ∈ values, P v) (fun entries => ∀ e ∈ entries, P e.2) (fun e => P e.2)
    null flag number text list record
    (fun _ hmem => absurd hmem List.not_mem_nil) (fun _ _ hv hvalues => List.forall_mem_cons.mpr ⟨hv, hvalues⟩)
    (fun _ hmem => absurd hmem List.not_mem_nil) (fun _ _ he hentries => List.forall_mem_cons.mpr ⟨he, hentries⟩)
    (fun _ _ hv => hv) v

/-- The first character tells what is to come, and it is neither a blank nor a mark that ends something. -/
theorem Written.head {v : Value} {source rest : List Char} (h : Written v source rest) :
    ∃ c more, source = c :: more ∧ isBlank c = false ∧ c ≠ ']' := by
  cases h with
  | number hnumeral =>
    cases hnumeral with
    | positive hmagnitude =>
      obtain ⟨c, more, rfl, hdigit, -⟩ := hmagnitude.head
      exact ⟨c, more, rfl, isBlank_of_isDigit hdigit, Text.ne_of_isDigit hdigit (by decide)⟩
    | negative => exact ⟨_, _, rfl, by decide, by decide⟩
  | _ => exact ⟨_, _, rfl, by decide, by decide⟩

end Json
end SandboxRouting
