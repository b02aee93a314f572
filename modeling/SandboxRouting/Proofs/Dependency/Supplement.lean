import SandboxRouting.Dependency.Gate
import SandboxRouting.Proofs.Table

/-! # What a supplement adds

A supplement touches no entry but that of its own package. To apply it a second time changes nothing, even
if its package is the one that its gate goes by: either the gate passes again and the same entry is put, or
the gate no longer passes. -/

namespace SandboxRouting

/-- A gate reads the dependencies at its own package alone. -/
theorem Gate.passes_congr {g : Gate} {deps others : Dependencies}
    (h : others.get? g.package = deps.get? g.package) : g.passes others = g.passes deps := by
  simp only [Gate.passes, h]

namespace Supplement
variable {s : Supplement} {deps : Dependencies}

theorem apply_of_not_passes (h : s.gate.passes deps = false) : s.apply deps = deps := if_neg (ne_true_of_eq_false h)

theorem get?_apply_of_passes (h : s.gate.passes deps = true) : (s.apply deps).get? s.package = some s.version := by
  rw [apply, if_pos h]
  exact Table.get?_insert_self _ _ _

theorem get?_apply_of_ne {name : String} (h : name ≠ s.package) : (s.apply deps).get? name = deps.get? name := by
  unfold apply
  split
  · exact Table.get?_insert_of_ne h _ _
  · rfl

theorem apply_apply (s : Supplement) (deps : Dependencies) : s.apply (s.apply deps) = s.apply deps := by
  cases hgate : s.gate.passes deps with
  | false => rw [apply_of_not_passes hgate, apply_of_not_passes hgate]
  | true =>
    have hput := get?_apply_of_passes hgate
    generalize s.apply deps = added at hput
    unfold apply
    split
    · exact Table.insert_of_get? hput
    · rfl

theorem contains_apply {name : String} (h : deps.contains name = true) : (s.apply deps).contains name = true := by
  unfold apply
  split
  · rw [Table.contains, Table.get?_insert]
    split
    · rfl
    · exact h
  · exact h

end Supplement
end SandboxRouting
