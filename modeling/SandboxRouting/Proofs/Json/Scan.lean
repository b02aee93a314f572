import SandboxRouting.Proofs.Json.Grammar

/-! # Reading what was written

The readers of the smallest parts take exactly what is written ahead, and hand back the rest. A text may be
read or only checked; a reader that works in steps takes no more of them than the text has characters, so
the steps that it is given suffice. -/

namespace SandboxRouting
namespace Json

/-! ### Blanks -/

theorem skipBlanks_cons {c : Char} (h : isBlank c = false) (rest : List Char) : skipBlanks (c :: rest) = c :: rest := by
  simp [skipBlanks, h]

theorem skipBlanks_eq {source rest : List Char} (h : Blanks source rest) : skipBlanks source = skipBlanks rest := by
  induction h with
  | none => rfl
  | more hblank _ ih => rw [← ih, skipBlanks, List.dropWhile_cons_of_pos hblank, skipBlanks]

theorem skipBlanks_of_blanks {source rest : List Char} {c : Char} (h : Blanks source (c :: rest))
    (hc : isBlank c = false) : skipBlanks source = c :: rest := by
  rw [skipBlanks_eq h, skipBlanks_cons hc]

/-! ### Texts -/

theorem unit_of_written {n : Nat} {source rest : List Char} (h : WrittenUnit n source rest) :
    unit source = .ok (n, rest) := by
  cases h with
  | @digits a b c d w x y z _ ha hb hc hd =>
    -- Every character takes a byte at least.
    have hbytes : ¬ leadingBytes (a :: b :: c :: d :: rest) < 4 := by
      have := a.utf8Size_pos
      have := b.utf8Size_pos
      have := c.utf8Size_pos
      have := d.utf8Size_pos
      simp only [leadingBytes, List.take_succ_cons, List.take_zero, List.foldl_cons, List.foldl_nil]
      omega
    simp [unit, hbytes, ha, hb, hc, hd]

theorem toNat_lt_or_gt (c : Char) : c.toNat < 0xD800 ∨ 0xDFFF < c.toNat := by
  rcases c.valid with h | ⟨h, -⟩
  · exact Or.inl h
  · exact Or.inr h

theorem numbered_of_unit {c : Char} {source rest : List Char} (h : WrittenUnit c.toNat source rest) :
    numbered source = .ok (c, rest) := by
  have hfree := toNat_lt_or_gt c
  have hlow : ¬ (0xDC00 ≤ c.toNat ∧ c.toNat ≤ 0xDFFF) := by omega
  have hhigh : ¬ (0xD800 ≤ c.toNat ∧ c.toNat ≤ 0xDBFF) := by omega
  simp [numbered, unit_of_written h, bind, Except.bind, hlow, hhigh, pure, Except.pure]

theorem numbered_of_pair {c : Char} {first second : Nat} {source more rest : List Char} (hfirst : 0xD800 ≤ first)
    (hfirst' : first ≤ 0xDBFF) (hsecond : 0xDC00 ≤ second) (hsecond' : second ≤ 0xDFFF)
    (hc : c.toNat = 0x10000 + (first - 0xD800) * 0x400 + (second - 0xDC00))
    (h : WrittenUnit first source ('\\' :: 'u' :: more)) (h' : WrittenUnit second more rest) :
    numbered source = .ok (c, rest) := by
  have hlow : ¬ (0xDC00 ≤ first ∧ first ≤ 0xDFFF) := by omega
  simp [numbered, secondUnit, unit_of_written h, unit_of_written h', bind, Except.bind, hlow, hfirst, hfirst', hsecond,
    hsecond', ← hc, pure, Except.pure]

theorem ne_u_of_escaped? {l c : Char} (h : escaped? l = some c) : l ≠ 'u' := by
  rintro rfl
  cases h

/-- Reading a character takes one step. -/
theorem textWithin_of_char {c : Char} {source rest : List Char} (h : WrittenChar c source rest) (n : Nat)
    (found : List Char) : textWithin (n + 1) found source = textWithin n (c :: found) rest := by
  cases h with
  | plain _ hquote hslash hcontrol => simp [textWithin, hquote, hslash, Nat.not_lt.mpr hcontrol]
  | letter _ hletter => simp [textWithin, escape, ne_u_of_escaped? hletter, hletter]
  | unit hunit => simp [textWithin, escape, numbered_of_unit hunit]
  | pair h₁ h₂ h₃ h₄ hc hfirst hsecond => simp [textWithin, escape, numbered_of_pair h₁ h₂ h₃ h₄ hc hfirst hsecond]

theorem textWithin_of_written {chars source rest : List Char} (h : WrittenText chars source rest) {n : Nat}
    (hn : source.length ≤ n) (found : List Char) :
    textWithin n found source = .ok (String.ofList (found.reverse ++ chars), rest) := by
  induction h generalizing n found with
  | done rest =>
    obtain ⟨n, rfl⟩ := Nat.exists_eq_succ_of_ne_zero (Nat.ne_zero_of_lt hn)
    simp [textWithin]
  | more hchar _ ih =>
    have hlength := hchar.length_lt
    obtain ⟨n, rfl⟩ := Nat.exists_eq_succ_of_ne_zero (show n ≠ 0 by omega)
    rw [textWithin_of_char hchar, ih (by omega), List.reverse_cons, List.append_assoc, List.singleton_append]

theorem text_of_written {s : String} {source rest : List Char} (h : WrittenText s.toList source rest) :
    text source = .ok (s, rest) := by
  rw [text, textWithin_of_written h (Nat.le_succ _), List.reverse_nil, List.nil_append, String.ofList_toList]

/-- Checking a character takes a step, or two for a pair of units. -/
theorem skipTextWithin_of_char {c : Char} {source rest : List Char} (h : WrittenChar c source rest) :
    ∃ k, k + rest.length ≤ source.length ∧ ∀ n, skipTextWithin (n + k) source = skipTextWithin n rest := by
  cases h with
  | plain _ hquote hslash hcontrol =>
    exact ⟨1, by simp; omega, fun n => by simp [skipTextWithin, hquote, hslash, Nat.not_lt.mpr hcontrol]⟩
  | letter _ hletter =>
    exact ⟨1, by simp; omega, fun n => by simp [skipTextWithin, skipEscape, ne_u_of_escaped? hletter, hletter]⟩
  | unit hunit =>
    have hlength := hunit.length
    exact ⟨1, by simp; omega, fun n => by simp [skipTextWithin, skipEscape, unit_of_written hunit, Except.map]⟩
  | pair _ _ _ _ _ hfirst hsecond =>
    have hlength := hfirst.length
    have hlength' := hsecond.length
    simp only [List.length_cons] at hlength
    exact ⟨2, by simp; omega, fun n => by
      simp [skipTextWithin, skipEscape, unit_of_written hfirst, unit_of_written hsecond, Except.map]⟩

theorem skipTextWithin_of_written {chars source rest : List Char} (h : WrittenText chars source rest) {n : Nat}
    (hn : source.length ≤ n) : skipTextWithin n source = .ok rest := by
  induction h generalizing n with
  | done rest =>
    obtain ⟨n, rfl⟩ := Nat.exists_eq_succ_of_ne_zero (Nat.ne_zero_of_lt hn)
    simp [skipTextWithin]
  | more hchar _ ih =>
    obtain ⟨k, hk, hskip⟩ := skipTextWithin_of_char hchar
    obtain ⟨n, rfl⟩ := Nat.exists_eq_add_of_le' (show k ≤ n by omega)
    rw [hskip, ih (by omega)]

theorem skipText_of_written {chars source rest : List Char} (h : WrittenText chars source rest) :
    skipText source = .ok rest := skipTextWithin_of_written h (Nat.le_succ _)

/-! ### Numerals -/

theorem isDigit_toDigits {n : Nat} {c : Char} (h : c ∈ Nat.toDigits 10 n) : c.isDigit = true :=
  Nat.isDigit_of_mem_toDigits (by decide) (Nat.le_refl 10) h

/-- Only zero begins with a zero. -/
theorem eq_zero_of_head_toDigits {n : Nat} (h : (Nat.toDigits 10 n).head? = some '0') : n = 0 := by
  induction n using Nat.strongRecOn with
  | _ n ih =>
    by_cases hlt : n < 10
    · rw [Nat.toDigits_of_lt_base hlt, List.head?_cons, Option.some.injEq] at h
      exact Nat.digitChar_eq_zero.mp h
    · have hle : 10 ≤ n := Nat.not_lt.mp hlt
      obtain ⟨d, more, hmore⟩ := List.exists_cons_of_ne_nil (Nat.toDigits_ne_nil (n := n / 10) (b := 10))
      rw [Nat.toDigits_of_base_le (by decide) hle, hmore, List.cons_append, List.head?_cons] at h
      have hzero := ih (n / 10) (by omega) (by rw [hmore, List.head?_cons, h])
      omega

theorem wholeDigits_toDigits (n : Nat) {rest : List Char} (hrest : ∀ c ∈ rest.head?, c.isDigit = false) :
    wholeDigits (Nat.toDigits 10 n ++ rest) = .ok (n, rest) := by
  have hlead : ¬ ((Nat.toDigits 10 n).head? = some '0' ∧ (Nat.toDigits 10 n).length ≠ 1) := by
    rintro ⟨hhead, hlength⟩
    rw [eq_zero_of_head_toDigits hhead] at hlength
    exact hlength rfl
  simp only [wholeDigits, Text.takeWhile_isDigit (fun _ => isDigit_toDigits) hrest,
    Text.dropWhile_isDigit (fun _ => isDigit_toDigits) hrest, List.isEmpty_iff, Nat.toDigits_ne_nil, if_false,
    if_neg hlead, Nat.ofDigitChars_ten_toDigits]

theorem powerDigits_of_digits (negative : Bool) {digits rest : List Char} (hne : digits ≠ [])
    (hdigits : ∀ c ∈ digits, c.isDigit = true) (hrest : Stops rest) :
    powerDigits negative (digits ++ rest) =
      .ok (some (if negative then -(Nat.ofDigitChars 10 digits 0 : Nat) else (Nat.ofDigitChars 10 digits 0 : Nat)),
        rest) := by
  have hstop : ∀ c ∈ rest.head?, c.isDigit = false := fun c hc => (hrest c hc).1
  simp [powerDigits, Text.takeWhile_isDigit hdigits hstop, Text.dropWhile_isDigit hdigits hstop, hne]

theorem power_of_written {p : Option Int} {source rest : List Char} (h : WrittenPower p source rest)
    (hrest : Stops rest) : power source = .ok (p, rest) := by
  cases h with
  | none =>
    cases source with
    | nil => rfl
    | cons c more => simp [power, (hrest c rfl).2.2]
  | @plain e digits _ he hne hdigits =>
    obtain ⟨c, more, rfl⟩ := List.exists_cons_of_ne_nil hne
    have hc := hdigits c List.mem_cons_self
    have hread := powerDigits_of_digits false hne hdigits hrest
    rw [List.cons_append] at hread ⊢
    rw [power, if_pos he]
    · exact hread
    · intro text heq
      exact absurd (List.cons.inj heq).1 (Text.ne_of_isDigit hc (by decide))
    · intro text heq
      exact absurd (List.cons.inj heq).1 (Text.ne_of_isDigit hc (by decide))
  | plus _ he hne hdigits =>
    rw [power, if_pos he]
    exact powerDigits_of_digits false hne hdigits hrest
  | minus _ he hne hdigits =>
    rw [power, if_pos he]
    exact powerDigits_of_digits true hne hdigits hrest

theorem digit_digitChar (d : Fin 10) : digit (Numeral.digitChar d) = d := by
  revert d
  decide

theorem isDigit_digitChar (d : Fin 10) : (Numeral.digitChar d).isDigit = true := by
  revert d
  decide

/-- A power of ten, or what follows a number, begins with no digit and no point. -/
theorem WrittenPower.head {p : Option Int} {source rest : List Char} (h : WrittenPower p source rest)
    (hrest : Stops rest) : ∀ c ∈ source.head?, c.isDigit = false ∧ c ≠ '.' := by
  have hmark : ∀ e : Char, e = 'e' ∨ e = 'E' → e.isDigit = false ∧ e ≠ '.' := by
    rintro e (rfl | rfl) <;> decide
  intro c hc
  cases h with
  | none => exact ⟨(hrest c hc).1, (hrest c hc).2.1⟩
  | plain _ he => cases hc; exact hmark _ he
  | plus _ he => cases hc; exact hmark _ he
  | minus _ he => cases hc; exact hmark _ he

theorem numeral_of_written {n : Nat} {digits : List (Fin 10)} {p : Option Int} {source rest : List Char}
    (h : WrittenMagnitude n digits p source rest) (hrest : Stops rest) (negative : Bool) :
    numeral negative source = .ok (⟨negative, n, digits, p⟩, rest) := by
  cases h with
  | whole hpower =>
    rename_i tail
    have hhead := hpower.head hrest
    have hfraction : fractionDigits tail = .ok ([], tail) := by
      unfold fractionDigits
      split
      next => exact absurd rfl (hhead '.' rfl).2
      next => rfl
    simp [numeral, wholeDigits_toDigits n fun c hc => (hhead c hc).1, hfraction, power_of_written hpower hrest, bind,
      Except.bind, pure, Except.pure]
  | fraction d digits hpower =>
    rename_i tail
    have hhead := hpower.head hrest
    have hpoint : ∀ c ∈ ('.' :: ((d :: digits).map Numeral.digitChar ++ tail)).head?, c.isDigit = false := by
      intro c hc
      cases hc
      rfl
    have hwhole := wholeDigits_toDigits n hpoint
    have hall : ∀ c ∈ (d :: digits).map Numeral.digitChar, c.isDigit = true := by
      intro c hc
      obtain ⟨d, -, rfl⟩ := List.mem_map.mp hc
      exact isDigit_digitChar d
    have hstop : ∀ c ∈ tail.head?, c.isDigit = false := fun c hc => (hhead c hc).1
    have hdigits : ((d :: digits).map Numeral.digitChar).map digit = d :: digits := by
      rw [List.map_map, show digit ∘ Numeral.digitChar = id from funext digit_digitChar, List.map_id]
    have hfraction : fractionDigits ('.' :: ((d :: digits).map Numeral.digitChar ++ tail)) = .ok (d :: digits, tail) := by
      simp only [fractionDigits, Text.takeWhile_isDigit hall hstop, Text.dropWhile_isDigit hall hstop, hdigits]
      rfl
    simp only [numeral, hwhole, hfraction, power_of_written hpower hrest, bind, Except.bind, pure, Except.pure]

end Json
end SandboxRouting
