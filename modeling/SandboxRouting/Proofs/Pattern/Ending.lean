import SandboxRouting.Pattern.Compile
import SandboxRouting.Text.Piece

/-! # Patterns that look at the end of a text

An expression without repetitions and assertions matches finitely many words, wherever it stands. One
that puts the end of the text behind such an expression matches the same words, at the end of a text
and nowhere else. Both are read off the expression (`Expr.words?`, `Expr.endings?`).

So a pattern of the second kind is found in a text exactly if the text ends with one of its words:
the search may begin anywhere, but a match can only end where the text does. -/

namespace SandboxRouting
namespace Pattern

/-! ### Characters of a set -/

theorem toNat_charAt? {n : Nat} {c : Char} (h : Escape.charAt? n = some c) : c.toNat = n := by
  unfold Escape.charAt? at h
  split at h
  next hn =>
    cases h
    rw [Char.ofNat, dif_pos hn]
    rfl
  next => cases h

theorem charAt?_toNat (c : Char) : Escape.charAt? c.toNat = some c := by
  have hn : c.toNat.isValidChar := c.valid
  simp [Escape.charAt?, hn]

/-- The characters of a set, one by one. -/
def CharSet.chars (s : CharSet) : List Char :=
  s.ranges.flatMap fun r => (List.range' r.1 (r.2 + 1 - r.1)).filterMap Escape.charAt?

theorem CharSet.mem_chars {s : CharSet} {c : Char} : c ∈ s.chars ↔ s.mem c = true := by
  simp only [chars, mem, List.mem_flatMap, List.mem_filterMap, List.mem_range'_1, List.any_eq_true, inRange,
    Bool.and_eq_true, decide_eq_true_eq]
  constructor
  · rintro ⟨r, hr, n, ⟨hlo, hhi⟩, hn⟩
    rw [toNat_charAt? hn]
    exact ⟨r, hr, hlo, by omega⟩
  · rintro ⟨r, hr, hlo, hhi⟩
    exact ⟨r, hr, c.toNat, ⟨hlo, by omega⟩, charAt?_toNat c⟩

/-! ### Words -/

/-- The words that are made of a word of one list and one of another. -/
def pairings (us vs : List (List Char)) : List (List Char) := us.flatMap fun u => vs.map fun v => u ++ v

theorem mem_pairings {us vs : List (List Char)} {w : List Char} :
    w ∈ pairings us vs ↔ ∃ u v, w = u ++ v ∧ u ∈ us ∧ v ∈ vs := by
  simp only [pairings, List.mem_flatMap, List.mem_map]
  constructor
  · rintro ⟨u, hu, v, hv, rfl⟩
    exact ⟨u, v, rfl, hu, hv⟩
  · rintro ⟨u, v, rfl, hu, hv⟩
    exact ⟨u, hu, v, hv, rfl⟩

namespace Expr

/-- The words that an expression matches, unless it repeats something or looks around. -/
def words? : Expr → Option (List (List Char))
  | empty => some [[]]
  | one set => some (set.chars.map fun c => [c])
  | seq e f => do return pairings (← e.words?) (← f.words?)
  | alt e f => do return (← e.words?) ++ (← f.words?)
  | look _ => none
  | plus _ => none

theorem matches_iff_mem_words {e : Expr} {ws : List (List Char)} (h : e.words? = some ws)
    {before after : Option Char} {w : List Char} : e.Matches before w after ↔ w ∈ ws := by
  induction e generalizing ws before after w with
  | empty =>
    cases h
    simp [matches_empty_iff]
  | one set =>
    cases h
    simp only [matches_one_iff, List.mem_map, CharSet.mem_chars]
    constructor
    · rintro ⟨c, rfl, hc⟩
      exact ⟨c, hc, rfl⟩
    · rintro ⟨c, hc, rfl⟩
      exact ⟨c, rfl, hc⟩
  | look a => cases h
  | seq e f ihe ihf =>
    simp only [words?, bind, Option.bind_eq_some_iff, pure, Option.some.injEq] at h
    obtain ⟨us, hus, vs, hvs, rfl⟩ := h
    simp only [matches_seq_iff, ihe hus, ihf hvs, mem_pairings]
  | alt e f ihe ihf =>
    simp only [words?, bind, Option.bind_eq_some_iff, pure, Option.some.injEq] at h
    obtain ⟨us, hus, vs, hvs, rfl⟩ := h
    simp only [matches_alt_iff, ihe hus, ihf hvs, List.mem_append]
  | plus e => cases h

/-! ### Endings -/

/-- The words that an expression matches at the end of a text, if it puts the end of the text behind words. -/
def endings? : Expr → Option (List (List Char))
  | look .textEnd => some [[]]
  | seq e f => do return pairings (← e.words?) (← f.endings?)
  | _ => none

theorem matches_iff_mem_endings {e : Expr} {ws : List (List Char)} (h : e.endings? = some ws)
    {before after : Option Char} {w : List Char} : e.Matches before w after ↔ w ∈ ws ∧ after = none := by
  induction e generalizing ws before w with
  | seq e f _ ihf =>
    simp only [endings?, bind, Option.bind_eq_some_iff, pure, Option.some.injEq] at h
    obtain ⟨us, hus, vs, hvs, rfl⟩ := h
    simp only [matches_seq_iff, matches_iff_mem_words hus, ihf hvs, mem_pairings]
    constructor
    · rintro ⟨u, v, rfl, hu, hv, ha⟩
      exact ⟨⟨u, v, rfl, hu, hv⟩, ha⟩
    · rintro ⟨⟨u, v, rfl, hu, hv⟩, ha⟩
      exact ⟨u, v, rfl, hu, hv, ha⟩
  | look a =>
    cases a <;> cases h
    simp [matches_look_iff, Assertion.holds]
  | _ => cases h

/-- A match that ends with the text leaves nothing behind it, so the search finds the words at the end. -/
theorem occursIn_iff_suffix {e : Expr} {ws : List (List Char)} (h : e.endings? = some ws) {text : String} :
    e.occursIn text = true ↔ ∃ w ∈ ws, w <:+ text.toList := by
  rw [occursIn_iff]
  simp only [matches_iff_mem_endings h, List.head?_eq_none_iff]
  constructor
  · rintro ⟨u, w, v, htext, hw, rfl⟩
    exact ⟨w, hw, u, by simpa using htext.symm⟩
  · rintro ⟨w, hw, u, htext⟩
    exact ⟨u, w, [], by simpa using htext.symm, hw, rfl⟩

end Expr

/-! ### Patterns for endings -/

/-- The pattern compiles, and it is found in the texts that end with one of some tails and in no others. -/
def FindsTails (source : String) (tails : List String) : Prop :=
  ∃ p, compile? source = some p ∧ ∀ text, p.occursIn text = tails.any (Text.ends text)

theorem findsTails_of_endings {source : String} {tails : List String}
    (h : ((compile? source).bind fun p => p.expr.endings?) = some (tails.map String.toList)) :
    FindsTails source tails := by
  obtain ⟨p, hp, hends⟩ := Option.bind_eq_some_iff.mp h
  refine ⟨p, hp, fun text => ?_⟩
  rw [Bool.eq_iff_iff, occursIn, Expr.occursIn_iff_suffix hends]
  simp only [List.any_eq_true, Text.ends_iff, List.mem_map]
  constructor
  · rintro ⟨_, ⟨tail, ht, rfl⟩, hsuffix⟩
    exact ⟨tail, ht, hsuffix⟩
  · rintro ⟨tail, ht, hsuffix⟩
    exact ⟨_, ⟨tail, ht, rfl⟩, hsuffix⟩

end Pattern
end SandboxRouting
