import SandboxRouting.Proofs.Json.Typed

/-! # How far readers go

A reader hands back what follows the part that it took, so the rest is no longer than the text that it was given.
This holds of all readers, also where the text goes on with something that is no part of a document. Of quoted
texts more can be said: what is read was written, character by character (`text_iff`). The same is true of the
marks between the entries of a record and of their names (`leads_of_nextEntry`). -/

namespace SandboxRouting
namespace Json

variable {source rest : List Char} {isFirst : Bool}

/-! ### Readers in sequence -/

section Sequence
variable {α β : Type} {x : Except Fault α} {b : β}

theorem bind_eq_ok {f : α → Except Fault β} : (x >>= f) = .ok b ↔ ∃ a, x = .ok a ∧ f a = .ok b := by
  cases x <;> simp [bind, Except.bind]

theorem map_eq_ok {f : α → β} : x.map f = .ok b ↔ ∃ a, x = .ok a ∧ f a = b := by
  cases x <;> simp [Except.map]

end Sequence

/-! ### What is read as a text was written -/

theorem hexValue?_lt {c : Char} {n : Nat} (h : Text.hexValue? c = some n) : n < 16 := by
  have hzero : '0'.toNat = 48 := rfl
  have hnine : '9'.toNat = 57 := rfl
  have ha : 'a'.toNat = 97 := rfl
  have hf : 'f'.toNat = 102 := rfl
  have hA : 'A'.toNat = 65 := rfl
  have hF : 'F'.toNat = 70 := rfl
  unfold Text.hexValue? at h
  simp only [Char.le_def, UInt32.le_iff_toNat_le, Char.toNat_val] at h
  split at h
  · cases h
    omega
  · split at h
    · cases h
      omega
    · split at h
      · cases h
        omega
      · cases h

theorem written_of_unit {n : Nat} (h : unit source = .ok (n, rest)) : WrittenUnit n source rest := by
  unfold unit at h
  split at h
  · cases h
  · split at h
    · split at h
      next ha hb hc hd =>
        cases h
        exact .digits _ ha hb hc hd
      next => cases h
    · cases h

theorem WrittenUnit.lt {n : Nat} (h : WrittenUnit n source rest) : n < 0x10000 := by
  cases h with
  | digits _ ha hb hc hd =>
    have := hexValue?_lt ha
    have := hexValue?_lt hb
    have := hexValue?_lt hc
    have := hexValue?_lt hd
    omega

theorem toNat_ofNat {n : Nat} (h : n.isValidChar) : (Char.ofNat n).toNat = n := by
  rw [Char.ofNat, dif_pos h]
  rfl

theorem written_of_secondUnit {first : Nat} {c : Char} {start : List Char} (hlow : 0xD800 ≤ first) (hhigh : first ≤ 0xDBFF)
    (hfirst : WrittenUnit first start source) (h : secondUnit first source = .ok (c, rest)) :
    WrittenChar c ('\\' :: 'u' :: start) rest := by
  unfold secondUnit at h
  split at h
  · cases h
  · cases h
  · obtain ⟨⟨second, behind⟩, hunit, h⟩ := bind_eq_ok.mp h
    dsimp only at h
    split at h
    next hsecond =>
      obtain ⟨rfl, rfl⟩ := Prod.mk.inj (Except.ok.inj h)
      refine .pair hlow hhigh hsecond.1 hsecond.2 (toNat_ofNat ?_) hfirst (written_of_unit hunit)
      exact Or.inr ⟨by omega, by omega⟩
    next => cases h
  · cases h

theorem written_of_numbered {c : Char} (h : numbered source = .ok (c, rest)) :
    WrittenChar c ('\\' :: 'u' :: source) rest := by
  obtain ⟨⟨first, behind⟩, hunit, h⟩ := bind_eq_ok.mp h
  have hwritten := written_of_unit hunit
  have hlt := hwritten.lt
  dsimp only at h
  split at h
  next => cases h
  next hsecond =>
    split at h
    next hfirst => exact written_of_secondUnit hfirst.1 hfirst.2 hwritten h
    next hfirst =>
      cases h
      refine .unit ?_
      rw [toNat_ofNat]
      · exact hwritten
      · rcases Nat.lt_or_ge first 0xD800 with hlow | hlow
        · exact Or.inl hlow
        · exact Or.inr ⟨by omega, by omega⟩

theorem written_of_escape {c : Char} (h : escape source = .ok (c, rest)) : WrittenChar c ('\\' :: source) rest := by
  cases source with
  | nil => cases h
  | cons d more =>
    rw [escape] at h
    split at h
    next hu =>
      subst hu
      exact written_of_numbered h
    next =>
      split at h
      next hletter =>
        cases h
        exact .letter _ hletter
      next => cases h

theorem written_of_textWithin {n : Nat} {found : List Char} {s : String} (h : textWithin n found source = .ok (s, rest)) :
    ∃ chars, WrittenText chars source rest ∧ s = String.ofList (found.reverse ++ chars) := by
  induction n generalizing found source with
  | zero => cases h
  | succ n ih =>
    cases source with
    | nil => cases h
    | cons c more =>
      rw [textWithin] at h
      split at h
      next hquote =>
        cases h
        subst hquote
        exact ⟨[], .done _, by rw [List.append_nil]⟩
      next hquote =>
        split at h
        next hslash =>
          subst hslash
          cases hescape : escape more with
          | error fault => simp [hescape] at h
          | ok r =>
            obtain ⟨d, behind⟩ := r
            simp only [hescape] at h
            obtain ⟨chars, hchars, rfl⟩ := ih h
            exact ⟨d :: chars, .more (written_of_escape hescape) hchars, by simp⟩
        next hslash =>
          split at h
          next => cases h
          next hcontrol =>
            obtain ⟨chars, hchars, rfl⟩ := ih h
            exact ⟨c :: chars, .more (.plain _ hquote hslash (Nat.not_lt.mp hcontrol)) hchars, by simp⟩

/-- A text is read exactly where it is written. -/
theorem text_iff {s : String} : text source = .ok (s, rest) ↔ WrittenText s.toList source rest := by
  refine ⟨fun h => ?_, text_of_written⟩
  obtain ⟨chars, hchars, rfl⟩ := written_of_textWithin h
  rwa [List.reverse_nil, List.nil_append, String.toList_ofList]

/-! ### Marks and names -/

theorem blanks_skipBlanks (source : List Char) : Blanks source (skipBlanks source) := by
  induction source with
  | nil => exact .none []
  | cons c source ih =>
    cases hc : isBlank c with
    | true =>
      rw [skipBlanks, List.dropWhile_cons_of_pos hc]
      exact .more hc ih
    | false =>
      rw [skipBlanks_cons hc]
      exact .none _

theorem blanks_of_skipBlanks {c : Char} {more : List Char} (h : skipBlanks source = c :: more) :
    Blanks source (c :: more) := h ▸ blanks_skipBlanks source

theorem blanks_of_colon (h : colon source = .ok rest) : Blanks source (':' :: rest) := by
  unfold colon at h
  split at h
  next => cases h
  next hmore =>
    split at h
    next hc =>
      cases h
      exact hc ▸ blanks_of_skipBlanks hmore
    next => cases h

theorem written_of_entryName {name : String} (h : entryName source = .ok (.named name rest)) :
    ∃ text, source = '"' :: text ∧ WrittenText name.toList text rest := by
  cases source with
  | nil => cases h
  | cons c more =>
    rw [entryName] at h
    split at h
    next hc =>
      cases htext : text more with
      | error fault => simp [htext] at h
      | ok r =>
        obtain ⟨s, behind⟩ := r
        simp only [htext, Except.ok.injEq, Entry.named.injEq] at h
        obtain ⟨rfl, rfl⟩ := h
        exact ⟨more, hc ▸ rfl, text_iff.mp htext⟩
    next => cases h

theorem entryName_ne_done : entryName source ≠ .ok (.done rest) := by
  intro h
  cases source with
  | nil => cases h
  | cons c more =>
    rw [entryName] at h
    split at h
    next => cases htext : text more <;> simp [htext] at h
    next => cases h

theorem leads_of_nextEntry {name : String} (h : nextEntry isFirst source = .ok (.named name rest)) :
    ∃ text, Leads isFirst source ('"' :: text) ∧ WrittenText name.toList text rest := by
  unfold nextEntry at h
  split at h
  next => cases h
  next c more hmore =>
    have hblanks := blanks_of_skipBlanks hmore
    split at h
    next => cases h
    next =>
      cases isFirst with
      | true =>
        rw [if_pos rfl] at h
        obtain ⟨text, heq, hname⟩ := written_of_entryName h
        exact ⟨text, .first (heq ▸ hblanks), hname⟩
      | false =>
        rw [if_neg Bool.false_ne_true] at h
        split at h
        next hc =>
          subst hc
          obtain ⟨text, heq, hname⟩ := written_of_entryName h
          exact ⟨text, .further hblanks (heq ▸ blanks_skipBlanks more), hname⟩
        next => cases h

theorem blanks_of_lastEntry (h : nextEntry isFirst source = .ok (.done rest)) : Blanks source ('\x7d' :: rest) := by
  unfold nextEntry at h
  split at h
  next => cases h
  next c more hmore =>
    split at h
    next hc =>
      cases h
      exact hc ▸ blanks_of_skipBlanks hmore
    next =>
      cases isFirst with
      | true =>
        rw [if_pos rfl] at h
        exact absurd h entryName_ne_done
      | false =>
        rw [if_neg Bool.false_ne_true] at h
        split at h
        next => exact absurd h entryName_ne_done
        next => cases h

/-! ### Single parts -/

@[grind →] theorem length_of_skipBlanks {c : Char} {more : List Char} (h : skipBlanks source = c :: more) :
    more.length < source.length := (blanks_of_skipBlanks h).length_lt

@[grind →] theorem length_of_text {s : String} (h : text source = .ok (s, rest)) : rest.length < source.length :=
  (text_iff.mp h).length_lt

theorem length_of_word {w : List Char} (h : word w source = .ok rest) : rest.length ≤ source.length := by
  induction w generalizing source with
  | nil =>
    cases h
    exact Nat.le_refl _
  | cons c w ih =>
    cases source with
    | nil => cases h
    | cons d more =>
      rw [word] at h
      split at h
      · exact Nat.le_succ_of_le (ih h)
      · cases h

theorem length_of_skipEscape (h : skipEscape source = .ok rest) : rest.length < source.length := by
  cases source with
  | nil => cases h
  | cons c more =>
    rw [skipEscape] at h
    split at h
    next =>
      obtain ⟨⟨n, behind⟩, hunit, rfl⟩ := map_eq_ok.mp h
      have hlength := (written_of_unit hunit).length
      simp only [List.length_cons]
      omega
    next =>
      split at h
      next =>
        cases h
        exact Nat.lt_succ_self _
      next => cases h

theorem length_of_skipTextWithin {n : Nat} (h : skipTextWithin n source = .ok rest) : rest.length < source.length := by
  induction n generalizing source with
  | zero => cases h
  | succ n ih =>
    cases source with
    | nil => cases h
    | cons c more =>
      rw [skipTextWithin] at h
      split at h
      next =>
        cases h
        exact Nat.lt_succ_self _
      next =>
        split at h
        next =>
          cases hescape : skipEscape more with
          | error fault => simp [hescape] at h
          | ok behind =>
            simp only [hescape] at h
            exact Nat.lt_succ_of_lt (Nat.lt_trans (ih h) (length_of_skipEscape hescape))
        next =>
          split at h
          next => cases h
          next => exact Nat.lt_succ_of_lt (ih h)

theorem length_of_skipText (h : skipText source = .ok rest) : rest.length < source.length := length_of_skipTextWithin h

/-! ### Numerals -/

theorem length_dropWhile_isDigit_le (source : List Char) : (source.dropWhile Char.isDigit).length ≤ source.length :=
  (List.dropWhile_suffix _).length_le

theorem length_of_wholeDigits {n : Nat} (h : wholeDigits source = .ok (n, rest)) : rest.length ≤ source.length := by
  simp only [wholeDigits] at h
  split at h
  · cases h
  · split at h
    · cases h
    · cases h
      exact length_dropWhile_isDigit_le source

theorem length_of_fractionDigits {digits : List (Fin 10)} (h : fractionDigits source = .ok (digits, rest)) :
    rest.length ≤ source.length := by
  unfold fractionDigits at h
  split at h
  next more =>
    simp only at h
    split at h
    · cases h
    · cases h
      exact Nat.le_succ_of_le (length_dropWhile_isDigit_le more)
  next =>
    cases h
    exact Nat.le_refl _

theorem length_of_powerDigits {negative : Bool} {p : Option Int} (h : powerDigits negative source = .ok (p, rest)) :
    rest.length ≤ source.length := by
  simp only [powerDigits] at h
  split at h
  · cases h
  · cases h
    exact length_dropWhile_isDigit_le source

theorem length_of_power {p : Option Int} (h : power source = .ok (p, rest)) : rest.length ≤ source.length := by
  unfold power at h
  split at h
  · cases h
    exact Nat.le_refl _
  · split at h
    · refine Nat.le_succ_of_le ?_
      split at h
      · exact Nat.le_succ_of_le (length_of_powerDigits h)
      · exact Nat.le_succ_of_le (length_of_powerDigits h)
      · exact length_of_powerDigits h
    · cases h
      exact Nat.le_refl _

theorem length_of_numeral {negative : Bool} {n : Numeral} (h : numeral negative source = .ok (n, rest)) :
    rest.length ≤ source.length := by
  obtain ⟨⟨whole, behindWhole⟩, hwhole, h⟩ := bind_eq_ok.mp h
  obtain ⟨⟨digits, behindFraction⟩, hfraction, h⟩ := bind_eq_ok.mp h
  obtain ⟨⟨p, behind⟩, hpower, h⟩ := bind_eq_ok.mp h
  cases h
  exact Nat.le_trans (length_of_power hpower)
    (Nat.le_trans (length_of_fractionDigits hfraction) (length_of_wholeDigits hwhole))

/-! ### Skipped values -/

theorem length_of_skipNumeral (h : skipNumeral source = .ok rest) : rest.length ≤ source.length := by
  unfold skipNumeral at h
  split at h
  next hnumeral =>
    cases h
    exact length_of_numeral hnumeral
  next => cases h

@[grind →] theorem length_of_skipScalar {c : Char} (h : skipScalar c source = .ok rest) :
    rest.length ≤ source.length + 1 := by
  unfold skipScalar at h
  split at h
  · exact Nat.le_succ_of_le (Nat.le_of_lt (length_of_skipText h))
  · split at h
    · exact Nat.le_succ_of_le (length_of_word h)
    · split at h
      · exact Nat.le_succ_of_le (length_of_word h)
      · split at h
        · exact Nat.le_succ_of_le (length_of_word h)
        · split at h
          · exact Nat.le_succ_of_le (length_of_skipNumeral h)
          · split at h
            · exact length_of_skipNumeral h
            · cases h

@[grind →] theorem length_of_skipName (h : skipName source = .ok rest) : rest.length < source.length := by
  unfold skipName at h
  split at h
  next => cases h
  next more hquote =>
    have hmore := length_of_skipBlanks hquote
    obtain ⟨behind, htext, h⟩ := bind_eq_ok.mp h
    have hbehind := length_of_skipText htext
    split at h
    next => cases h
    next hcolon =>
      cases h
      have hrest := length_of_skipBlanks hcolon
      omega
    next => cases h
  next => cases h

theorem length_of_skipWithin {n : Nat} {place : Place} {frames : List Frame}
    (h : skipWithin n place frames source = .ok rest) : rest.length ≤ source.length := by
  -- Each step hands on what one of the readers above left, and adds nothing to it.
  fun_induction skipWithin n place frames source
  all_goals grind

theorem length_of_skipValue (h : skipValue source = .ok rest) : rest.length ≤ source.length := length_of_skipWithin h

/-! ### Values of a type -/

@[grind →] theorem length_of_readText {s : String} (h : readText source = .ok (s, rest)) :
    rest.length ≤ source.length := by
  unfold readText at h
  split at h
  next => cases h
  next hmore =>
    split at h
    next =>
      have hrest := length_of_text h
      have hlength := length_of_skipBlanks hmore
      omega
    next => cases h

theorem length_of_map_word {w : List Char} {b d : Bool} (h : (word w source).map (b, ·) = .ok (d, rest)) :
    rest.length ≤ source.length := by
  obtain ⟨behind, hword, heq⟩ := map_eq_ok.mp h
  cases heq
  exact length_of_word hword

theorem length_of_readFlag {b : Bool} (h : readFlag source = .ok (b, rest)) : rest.length ≤ source.length := by
  unfold readFlag at h
  split at h
  next => cases h
  next hmore =>
    have hlength := length_of_skipBlanks hmore
    split at h
    next => exact Nat.le_trans (length_of_map_word h) (Nat.le_of_lt hlength)
    next =>
      split at h
      next => exact Nat.le_trans (length_of_map_word h) (Nat.le_of_lt hlength)
      next => cases h

@[grind →] theorem length_of_nextElement {start : List Char}
    (h : nextElement isFirst source = .ok (.present start)) : start.length ≤ source.length := by
  unfold nextElement at h
  grind

@[grind →] theorem length_of_lastElement (h : nextElement isFirst source = .ok (.done rest)) :
    rest.length ≤ source.length := by
  unfold nextElement at h
  grind

@[grind →] theorem length_of_nextEntry {name : String} (h : nextEntry isFirst source = .ok (.named name rest)) :
    rest.length ≤ source.length := by
  obtain ⟨text, hleads, hname⟩ := leads_of_nextEntry h
  have hahead := hleads.length_lt
  have hlength := hname.length_lt
  have hfirst := isFirst.toNat_le
  simp only [List.length_cons] at hahead
  omega

@[grind →] theorem length_of_lastEntry (h : nextEntry isFirst source = .ok (.done rest)) : rest.length ≤ source.length :=
  Nat.le_of_lt (blanks_of_lastEntry h).length_lt

@[grind →] theorem length_of_colon (h : colon source = .ok rest) : rest.length ≤ source.length :=
  Nat.le_of_lt (blanks_of_colon h).length_lt

@[grind →] theorem length_of_textsWithin {n : Nat} {found texts : List String}
    (h : textsWithin n isFirst found source = .ok (texts, rest)) : rest.length ≤ source.length := by
  fun_induction textsWithin n isFirst found source
  all_goals grind

@[grind →] theorem length_of_tableWithin {n : Nat} {found t : Table}
    (h : tableWithin n isFirst found source = .ok (t, rest)) : rest.length ≤ source.length := by
  fun_induction tableWithin n isFirst found source
  all_goals grind

theorem length_of_readTexts {texts : List String} (h : readTexts source = .ok (texts, rest)) :
    rest.length ≤ source.length := by
  unfold readTexts at h
  grind

theorem length_of_readTable {t : Table} (h : readTable source = .ok (t, rest)) : rest.length ≤ source.length := by
  unfold readTable at h
  grind

end Json
end SandboxRouting
