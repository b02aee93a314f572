import Mathlib.Data.Prod.Lex
import SandboxRouting.Proofs.Dependency.Supplement
import SandboxRouting.Version

/-! # Comparisons of texts as thresholds

Texts are compared by the numbers of the versions that they stand for, and those are ordered as triples are
ordered (`le_iff_numbers`). Every law of that order carries over to the texts that can be read
(`satisfies_eq_decide`); a text that cannot be read is neither above nor below any other, itself included.

A gate compares the text of its package with its minimum, so it follows the order on either side: what passes
goes on passing when the package is raised and when the minimum is lowered. The other packages do not count. -/

namespace SandboxRouting

namespace Version

/-! ### The order of versions -/

/-- The version has the smaller number where it first differs from another one. -/
protected def lt (v w : Version) : Prop :=
  v.major < w.major ∨ v.major = w.major ∧ (v.minor < w.minor ∨ v.minor = w.minor ∧ v.patch < w.patch)

instance : LT Version := ⟨Version.lt⟩

theorem le_def {v w : Version} :
    v ≤ w ↔ v.major < w.major ∨ v.major = w.major ∧ (v.minor < w.minor ∨ v.minor = w.minor ∧ v.patch ≤ w.patch) :=
  Iff.rfl

theorem lt_def {v w : Version} :
    v < w ↔ v.major < w.major ∨ v.major = w.major ∧ (v.minor < w.minor ∨ v.minor = w.minor ∧ v.patch < w.patch) :=
  Iff.rfl

theorem le_trans {u v w : Version} (huv : u ≤ v) (hvw : v ≤ w) : u ≤ w := by
  simp only [le_def, UInt64.lt_iff_toNat_lt, UInt64.le_iff_toNat_le, ← UInt64.toNat_inj] at huv hvw ⊢
  omega

/-- Versions are ordered in a line. -/
theorem not_le {v w : Version} : ¬ w ≤ v ↔ v < w := by
  simp only [le_def, lt_def, UInt64.lt_iff_toNat_lt, UInt64.le_iff_toNat_le, ← UInt64.toNat_inj]
  omega

/-- A comparison fails because the version is below the minimum, or because one of the two cannot be read. -/
theorem satisfies_eq_false_iff {version minimum : String} :
    satisfies version minimum = false ↔
      (∃ v m, coerce version = .ok v ∧ coerce minimum = .ok m ∧ v < m) ∨
        (∀ v, coerce version ≠ .ok v) ∨ ∀ m, coerce minimum ≠ .ok m := by
  rw [← Bool.not_eq_true, satisfies_iff]
  cases coerce version <;> cases coerce minimum <;> simp [not_le]

/-- What a text satisfies is satisfied by whatever satisfies the text, for a text stands for the same version
    on either side of a comparison. -/
theorem satisfies_trans {high middle low : String} (hhigh : satisfies high middle = true)
    (hlow : satisfies middle low = true) : satisfies high low = true := by
  obtain ⟨v, m, hv, hm, hle⟩ := satisfies_iff.mp hhigh
  obtain ⟨m', l, hm', hl, hle'⟩ := satisfies_iff.mp hlow
  obtain rfl : m = m' := Except.ok.inj (hm.symm.trans hm')
  exact satisfies_iff.mpr ⟨v, l, hv, hl, le_trans hle' hle⟩

/-! ### The order of the numbers -/

/-- The three numbers, to be compared from the first one on. -/
def numbers (v : Version) : ℕ ×ₗ ℕ ×ₗ ℕ := toLex (v.major.toNat, toLex (v.minor.toNat, v.patch.toNat))

theorem le_iff_numbers {v w : Version} : v ≤ w ↔ v.numbers ≤ w.numbers := by
  simp only [le_def, numbers, Prod.Lex.toLex_le_toLex, UInt64.lt_iff_toNat_lt, UInt64.le_iff_toNat_le, ← UInt64.toNat_inj]

theorem numbers_inj {v w : Version} : v.numbers = w.numbers ↔ v = w := by
  refine ⟨fun h => ?_, fun h => h ▸ rfl⟩
  obtain ⟨x, y, z⟩ := v
  obtain ⟨x', y', z'⟩ := w
  simpa [numbers, UInt64.toNat_inj] using h

/-! ### Texts that can be read -/

def Readable (text : String) : Prop := ∃ v, coerce text = .ok v

variable {a b c : String} {v w : Version}

theorem satisfies_eq_decide (hv : coerce a = .ok v) (hw : coerce b = .ok w) :
    satisfies a b = decide (w.numbers ≤ v.numbers) := by
  rw [Bool.eq_iff_iff, decide_eq_true_iff, satisfies_iff, ← le_iff_numbers]
  constructor
  · rintro ⟨v', w', hv', hw', hle⟩
    rw [hv] at hv'
    rw [hw] at hw'
    cases hv'
    cases hw'
    exact hle
  · exact fun hle => ⟨v, w, hv, hw, hle⟩

theorem readable_of_satisfies (h : satisfies a b = true) : Readable a ∧ Readable b := by
  obtain ⟨v, w, hv, hw, -⟩ := satisfies_iff.mp h
  exact ⟨⟨v, hv⟩, ⟨w, hw⟩⟩

theorem satisfies_both_iff : satisfies a b = true ∧ satisfies b a = true ↔ ∃ v, coerce a = .ok v ∧ coerce b = .ok v := by
  constructor
  · rintro ⟨hab, hba⟩
    obtain ⟨⟨v, hv⟩, ⟨w, hw⟩⟩ := readable_of_satisfies hab
    rw [satisfies_eq_decide hv hw, decide_eq_true_iff] at hab
    rw [satisfies_eq_decide hw hv, decide_eq_true_iff] at hba
    obtain rfl : v = w := numbers_inj.mp (le_antisymm hba hab)
    exact ⟨v, hv, hw⟩
  · rintro ⟨v, ha, hb⟩
    rw [satisfies_eq_decide ha hb, satisfies_eq_decide hb ha, decide_eq_true_iff]
    exact ⟨le_rfl, le_rfl⟩

/-- How texts compare. -/
structure ComparisonLaw (a b c : String) : Prop where
  /-- What cannot be read satisfies nothing and is satisfied by nothing. -/
  closed : ¬ Readable a ∨ ¬ Readable b → satisfies a b = false
  refl : Readable a → satisfies a a = true
  trans : satisfies a b = true → satisfies b c = true → satisfies a c = true
  total : Readable a → Readable b → satisfies a b = true ∨ satisfies b a = true
  /-- Texts that satisfy each other stand for one version, however they are written. -/
  both : satisfies a b = true ∧ satisfies b a = true ↔ ∃ v, coerce a = .ok v ∧ coerce b = .ok v
  numeric : ∀ v w, coerce a = .ok v → coerce b = .ok w → satisfies a b = decide (w.numbers ≤ v.numbers)

theorem comparisonLaw (a b c : String) : ComparisonLaw a b c where
  closed h := by
    refine Bool.eq_false_iff.mpr fun hsat => ?_
    obtain ⟨ha, hb⟩ := readable_of_satisfies hsat
    exact h.elim (absurd ha) (absurd hb)
  refl := by
    rintro ⟨v, hv⟩
    exact (satisfies_both_iff.mpr ⟨v, hv, hv⟩).1
  trans := satisfies_trans
  total := by
    rintro ⟨v, hv⟩ ⟨w, hw⟩
    rw [satisfies_eq_decide hv hw, satisfies_eq_decide hw hv, decide_eq_true_iff, decide_eq_true_iff]
    exact le_total _ _
  both := satisfies_both_iff
  numeric _ _ := satisfies_eq_decide

end Version

/-! ### Gates -/

namespace Gate
open Version
variable {g : Gate} {deps : Dependencies} {version newer minimum lower : String}

theorem passes_insert_of_satisfies (hversion : deps.get? g.package = some version) (h : g.passes deps = true)
    (hnewer : satisfies newer version = true) : g.passes (deps.insert g.package newer) = true := by
  obtain ⟨found, hfound, hpass⟩ := passes_iff.mp h
  rw [hversion] at hfound
  cases hfound
  exact passes_iff.mpr ⟨newer, Table.get?_insert_self _ _ _, satisfies_trans hnewer hpass⟩

theorem passes_of_lower {package : String} (hlower : satisfies minimum lower = true)
    (h : (Gate.mk package minimum).passes deps = true) : (Gate.mk package lower).passes deps = true := by
  obtain ⟨version, hversion, hpass⟩ := passes_iff.mp h
  exact passes_iff.mpr ⟨version, hversion, satisfies_trans hpass hlower⟩

theorem passes_insert_of_ne {name : String} (h : name ≠ g.package) :
    g.passes (deps.insert name version) = g.passes deps :=
  passes_congr (Table.get?_insert_of_ne h.symm deps version)

/-- How gates follow the dependencies and their own minimum. -/
structure MonotoneLaw (deps : Dependencies) : Prop where
  raised : ∀ (g : Gate) (version newer : String), deps.get? g.package = some version → g.passes deps = true →
    satisfies newer version = true → g.passes (deps.insert g.package newer) = true
  lowered : ∀ package minimum lower : String, satisfies minimum lower = true →
    (Gate.mk package minimum).passes deps = true → (Gate.mk package lower).passes deps = true
  apart : ∀ (g : Gate) (name version : String), name ≠ g.package →
    g.passes (deps.insert name version) = g.passes deps

/-- Texts that can be read are ordered in a line by their numbers, and gates follow that order. -/
theorem thresholdLaw (a b c : String) (deps : Dependencies) : ComparisonLaw a b c ∧ MonotoneLaw deps := by
  refine ⟨comparisonLaw a b c, ?_, ?_, ?_⟩
  · exact fun g version newer => passes_insert_of_satisfies
  · exact fun package minimum lower => passes_of_lower
  · exact fun g name version => passes_insert_of_ne

/-- Ranges and a suffix, of which the highest comes first in the order of texts. -/
theorem thresholdLaw_of_ranges :
    satisfies "16.10" "~16.9.1 || 1" = true ∧ satisfies "~16.9.1 || 1" ">= v16.9-rc" = true ∧
      satisfies "16.10" ">= v16.9-rc" = true ∧
      (Gate.mk "react-dom" ">= v16.9-rc").passes
        ((Table.ofList [("react-dom", "~16.9.1 || 1")]).insert "react-dom" "16.10") = true := by
  obtain ⟨hcompare, hgate⟩ :=
    thresholdLaw "16.10" "~16.9.1 || 1" ">= v16.9-rc" (.ofList [("react-dom", "~16.9.1 || 1")])
  have hupper : satisfies "16.10" "~16.9.1 || 1" = true := by decide +kernel
  have hlower : satisfies "~16.9.1 || 1" ">= v16.9-rc" = true := by decide +kernel
  exact ⟨hupper, hlower, hcompare.trans hupper hlower,
    hgate.raised ⟨"react-dom", ">= v16.9-rc"⟩ _ _ rfl (by decide +kernel) hupper⟩

end Gate
end SandboxRouting
