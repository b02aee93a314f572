import Mathlib.Tactic.SplitIfs
import SandboxRouting.Proofs.Json.Grammar

/-! # What is written can be read

A value is rendered without blanks, and characters are escaped only where they have to be. That is one of the
ways in which the value can be written, whatever follows it (`written_render`). -/

namespace SandboxRouting
namespace Json

/-! ### Texts -/

theorem writtenChar_quoteChar (c : Char) (rest : List Char) : WrittenChar c (quoteChar c ++ rest) rest := by
  unfold quoteChar
  split_ifs with hquote hslash hback hfeed hline hreturn htab hcontrol
  · subst hquote
    exact .letter rest rfl
  · subst hslash
    exact .letter rest rfl
  · subst hback
    exact .letter rest rfl
  · subst hfeed
    exact .letter rest rfl
  · subst hline
    exact .letter rest rfl
  · subst hreturn
    exact .letter rest rfl
  · subst htab
    exact .letter rest rfl
  · have hzero : Text.hexValue? '0' = some 0 := by decide
    have hunit := WrittenUnit.digits rest hzero hzero (Text.hexValue?_hexDigit (n := c.toNat / 16) (by omega))
      (Text.hexValue?_hexDigit (n := c.toNat % 16) (by omega))
    rw [show ((0 * 16 + 0) * 16 + c.toNat / 16) * 16 + c.toNat % 16 = c.toNat by omega] at hunit
    exact .unit hunit
  · exact .plain rest hquote hslash (Nat.not_lt.mp hcontrol)

theorem writtenText_quoteChar (chars rest : List Char) :
    WrittenText chars (chars.flatMap quoteChar ++ '"' :: rest) rest := by
  induction chars with
  | nil => exact .done rest
  | cons c chars ih =>
    rw [List.flatMap_cons, List.append_assoc]
    exact .more (writtenChar_quoteChar c _) ih

theorem quote_append (s : String) (rest : List Char) :
    quote s ++ rest = '"' :: (s.toList.flatMap quoteChar ++ '"' :: rest) := by
  simp [quote]

/-! ### Numerals -/

theorem writtenPower_powerText (power : Option Int) (rest : List Char) :
    WrittenPower power (Numeral.powerText power ++ rest) rest := by
  cases power with
  | none => exact .none rest
  | some p =>
    have hne : Nat.toDigits 10 p.natAbs ≠ [] := Nat.toDigits_ne_nil
    have hdigits : ∀ c ∈ Nat.toDigits 10 p.natAbs, c.isDigit = true := fun _ =>
      Nat.isDigit_of_mem_toDigits (by decide) (Nat.le_refl 10)
    by_cases hp : p < 0
    · have hminus := WrittenPower.minus rest (Or.inl rfl) hne hdigits
      rw [Nat.ofDigitChars_ten_toDigits, show -(p.natAbs : Int) = p by omega] at hminus
      simpa [Numeral.powerText, hp] using hminus
    · have hplain := WrittenPower.plain rest (Or.inl rfl) hne hdigits
      rw [Nat.ofDigitChars_ten_toDigits, show (p.natAbs : Int) = p by omega] at hplain
      simpa [Numeral.powerText, hp] using hplain

theorem writtenNumeral_text (n : Numeral) (rest : List Char) : WrittenNumeral n (n.text ++ rest) rest := by
  obtain ⟨negative, whole, fraction, power⟩ := n
  have hpower := writtenPower_powerText power rest
  have hmagnitude : WrittenMagnitude whole fraction power
      (Nat.toDigits 10 whole ++ ((if fraction.isEmpty then [] else '.' :: fraction.map Numeral.digitChar) ++
        (Numeral.powerText power ++ rest))) rest := by
    cases fraction with
    | nil => exact .whole whole hpower
    | cons d digits => exact .fraction whole d digits hpower
  cases negative with
  | false => simpa [Numeral.text] using WrittenNumeral.positive hmagnitude
  | true => simpa [Numeral.text] using WrittenNumeral.negative hmagnitude

/-! ### Values -/

theorem Items.behind_comma {α : Type} {entry : α → List Char → List Char → Prop} {mark : Char} {a : α} {others : List α}
    {source rest : List Char} (h : Items entry mark true (a :: others) source rest) :
    Items entry mark false (a :: others) (',' :: source) rest := by
  cases h with
  | more hleads hentry hothers =>
    cases hleads with
    | first hblanks => exact .more (.further (.none _) hblanks) hentry hothers

/-- However it is followed, the rendered value is ahead of what follows. -/
def Rendered (v : Value) : Prop := ∀ rest, Written v (v.render ++ rest) rest

theorem items_renderList {values : List Value} (h : ∀ v ∈ values, Rendered v) (rest : List Char) :
    Items Written ']' true values (Value.renderList values ++ ']' :: rest) rest := by
  induction values with
  | nil => exact .done (.none _)
  | cons v others ih =>
    have hv := h v List.mem_cons_self
    cases others with
    | nil => exact .more (.first (.none _)) (hv _) (.done (.none _))
    | cons w others =>
      -- The others were rendered as a list of their own; here a comma is ahead of them.
      have hothers := (ih fun v hmem => h v (List.mem_cons_of_mem _ hmem)).behind_comma
      rw [Value.renderList, List.append_assoc, List.cons_append]
      exact .more (.first (.none _)) (hv _) hothers
      simp

theorem items_renderEntries {entries : List (String × Value)} (h : ∀ e ∈ entries, Rendered e.2) (rest : List Char) :
    Items (WrittenEntry Written) '\x7d' true entries (Value.renderEntries entries ++ '\x7d' :: rest) rest := by
  have hentry : ∀ (name : String) (v : Value) (behind : List Char), Rendered v →
      WrittenEntry Written (name, v) (quote name ++ (':' :: (v.render ++ behind))) behind := by
    intro name v behind hv
    rw [quote_append]
    exact .named (writtenText_quoteChar _ _) (.none _) (.none _) (hv behind)
  induction entries with
  | nil => exact .done (.none _)
  | cons e others ih =>
    obtain ⟨name, v⟩ := e
    have hv := h (name, v) List.mem_cons_self
    cases others with
    | nil =>
      rw [Value.renderEntries, List.append_assoc]
      exact .more (.first (.none _)) (hentry name v _ hv) (.done (.none _))
    | cons e others =>
      have hothers := (ih fun e hmem => h e (List.mem_cons_of_mem _ hmem)).behind_comma
      rw [Value.renderEntries, List.append_assoc, List.cons_append, List.append_assoc, List.cons_append]
      exact .more (.first (.none _)) (hentry name v _ hv) hothers
      simp

theorem rendered (v : Value) : Rendered v := by
  induction v using Value.induct with
  | null => exact fun rest => .null rest
  | flag b =>
    cases b with
    | false => exact fun rest => .no rest
    | true => exact fun rest => .yes rest
  | number n => exact fun rest => .number (writtenNumeral_text n rest)
  | text s =>
    intro rest
    rw [Value.render, quote_append]
    exact .text (writtenText_quoteChar _ rest)
  | list values ih =>
    intro rest
    rw [Value.render, List.cons_append, List.append_assoc]
    exact .list (items_renderList ih rest)
  | record entries ih =>
    intro rest
    rw [Value.render, List.cons_append, List.append_assoc]
    exact .record (items_renderEntries ih rest)

theorem document_toText (v : Value) : v.Document v.toText := by
  have h := rendered v []
  rw [List.append_nil] at h
  exact ⟨_, [], by rw [Value.toText, String.toList_ofList]; exact .none _, h, .none []⟩

end Json
end SandboxRouting
