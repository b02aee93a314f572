import SandboxRouting.Routing.Router

/-! # Rules, and changes of a router

Whether a path passes a test can be said without searching it: a pattern is found in a path that has a piece
which the pattern matches between its neighbours (`PathTest.Holds`). The first rule that takes a path is the one
with the lowest index among those whose test holds.

What a change does to the list of rules depends on that list alone (`Change.effect`), and every change
is counted once, whatever it does. So what a router holds after some changes is told by the changes in
their order, and how often it was changed by their number. -/

namespace SandboxRouting
namespace Routing

/-! ### Tests and rules -/

/-- What is true of the paths that pass a test. -/
def PathTest.Holds (path : String) : PathTest → Prop
  | always => True
  | never => False
  | beginsWith stem => stem.toList <+: path.toList
  | endsWith tail => tail.toList <:+ path.toList
  | finds p => ∃ u w v, path.toList = u ++ w ++ v ∧ p.expr.Matches u.getLast? w v.head?
  | both first second => first.Holds path ∧ second.Holds path
  | negated test => ¬ test.Holds path

theorem PathTest.passes_iff {path : String} {test : PathTest} : test.passes path = true ↔ test.Holds path := by
  induction test with
  | always => simp [passes, Holds]
  | never => simp [passes, Holds]
  | beginsWith stem => exact Text.begins_iff
  | endsWith tail => exact Text.ends_iff
  | finds p => exact Pattern.Expr.occursIn_iff
  | both first second ihfirst ihsecond => simp only [passes, Holds, Bool.and_eq_true, ihfirst, ihsecond]
  | negated test ih => simp only [passes, Holds, Bool.not_eq_true', ← ih, Bool.not_eq_true]

theorem Rule.takes_iff {rule : Rule} {path : String} : rule.takes path = true ↔ rule.test.Holds path :=
  PathTest.passes_iff

theorem Rule.takes_eq_false_iff {rule : Rule} {path : String} : rule.takes path = false ↔ ¬ rule.test.Holds path := by
  rw [← takes_iff, Bool.not_eq_true]

section
variable {rules : List Rule} {path : String} {rule : Rule}

theorem firstRule?_eq_some_iff :
    firstRule? rules path = some rule ↔
      ∃ i : Nat, rules[i]? = some rule ∧ rule.test.Holds path ∧
        ∀ j < i, ∀ other : Rule, rules[j]? = some other → ¬ other.test.Holds path := by
  rw [firstRule?, List.find?_eq_some_iff_getElem]
  constructor
  · rintro ⟨htakes, i, hi, rfl, hlower⟩
    refine ⟨i, List.getElem?_eq_getElem hi, Rule.takes_iff.mp htakes, fun j hj other hother => ?_⟩
    obtain ⟨hj', rfl⟩ := List.getElem?_eq_some_iff.mp hother
    exact Rule.takes_eq_false_iff.mp (by simpa using hlower j hj)
  · rintro ⟨i, hrule, hholds, hlower⟩
    obtain ⟨hi, rfl⟩ := List.getElem?_eq_some_iff.mp hrule
    refine ⟨Rule.takes_iff.mpr hholds, i, hi, rfl, fun j hj => ?_⟩
    have hj' : j < rules.length := Nat.lt_trans hj hi
    simpa using Rule.takes_eq_false_iff.mpr (hlower j hj _ (List.getElem?_eq_getElem hj'))

theorem firstRule?_eq_none_iff : firstRule? rules path = none ↔ ∀ rule ∈ rules, ¬ rule.test.Holds path := by
  simp [firstRule?, List.find?_eq_none, Rule.takes_eq_false_iff]

end

/-! ### Changes -/

/-- What a change makes of a list of rules. -/
def Change.effect (rules : List Rule) : Change → List Rule
  | .append rule => rules ++ [rule]
  | .replace rules => rules
  | .clear => []

namespace Router

theorem change_eq (r : Router) (c : Change) : r.change c = r.install (c.effect r.rules) := by
  cases c <;> rfl

@[simp] theorem rules_install (r : Router) (rules : List Rule) : (r.install rules).rules = rules := rfl

@[simp] theorem changes_install (r : Router) (rules : List Rule) : (r.install rules).changes = r.changes + 1 := rfl

@[simp] theorem name_install (r : Router) (rules : List Rule) : (r.install rules).name = r.name := rfl

@[simp] theorem rules_change (r : Router) (c : Change) : (r.change c).rules = c.effect r.rules := by
  rw [change_eq, rules_install]

@[simp] theorem changes_change (r : Router) (c : Change) : (r.change c).changes = r.changes + 1 := by
  rw [change_eq, changes_install]

@[simp] theorem name_change (r : Router) (c : Change) : (r.change c).name = r.name := by
  rw [change_eq, name_install]

/-- The count of changes goes up by one, also where its 64 bits overflow. -/
theorem generation_install (r : Router) (rules : List Rule) : (r.install rules).generation = r.generation + 1 := by
  simp [generation, UInt64.ofNat_add]

theorem holds_snapshot (r : Router) : r.holds r.snapshot = true := by
  simp [holds, snapshot]

end Router
end Routing
end SandboxRouting
