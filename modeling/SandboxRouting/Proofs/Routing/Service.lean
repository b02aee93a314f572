import Mathlib.Data.List.Induction
import SandboxRouting.Proofs.Routing.Upkeep

/-! # Service one after the other

Demands that come together may be served one after the other. Then the rules are rebuilt as often as the
features change along the demands (`changes_serve`), as many are told so (`countP_results`), nobody is
refused, and the installed list is the first one or the complete one for a demand (`router_serve`). -/

namespace SandboxRouting
namespace Routing

/-- The answer says that the rules were rebuilt. -/
def saysRebuilt : Except Failure Bool → Bool
  | .ok rebuilt => rebuilt
  | .error _ => false

/-- How often the features change along a list, the first time against what the rules were built for. -/
def Phase.turns : Phase → List Features → Nat
  | _, [] => 0
  | p, f :: rest => (if p = .configured f then 0 else 1) + turns (.configured f) rest

namespace Upkeep

theorem serve_concat (u : Upkeep) (demands : List Dependencies) (deps : Dependencies) :
    (u.serve (demands ++ [deps])).value =
      ⟨(u.serve demands).value.results ++ [((u.serve demands).value.upkeep.align deps).value.result],
        ((u.serve demands).value.upkeep.align deps).value.upkeep⟩ := by
  induction demands generalizing u with
  | nil => rfl
  | cons first rest ih => simp [serve, ih]

theorem sameTerms_serve (u : Upkeep) (demands : List Dependencies) : SameTerms u (u.serve demands).value.upkeep := by
  induction demands generalizing u with
  | nil => exact .refl u
  | cons first rest ih => exact (sameTerms_align u first).trans (ih _)

/-- Whoever is served, the router is the first one or holds the rules for one of the demands. -/
theorem router_serve (u : Upkeep) (demands : List Dependencies) :
    (u.serve demands).value.upkeep.router = u.router ∨
      ∃ deps ∈ demands,
        (u.serve demands).value.upkeep.router.rules = rulesFor (u.features deps) u.packageRoot := by
  induction demands using List.reverseRecOn with
  | nil => exact Or.inl rfl
  | append_singleton before deps ih =>
    have hterms := sameTerms_serve u before
    rw [serve_concat]
    rcases align_cases (u.serve before).value.upkeep deps with ⟨-, ha⟩ | ⟨-, ha⟩ <;> rw [ha]
    · rcases ih with ih | ⟨old, hold, ih⟩
      · exact Or.inl ih
      · exact Or.inr ⟨old, List.mem_append_left _ hold, ih⟩
    · refine Or.inr ⟨deps, by simp, ?_⟩
      simp only [rebuilt, Router.rules_install, hterms.features, hterms.packageRoot]

/-- Nobody is refused. -/
theorem ok_of_mem_results {u : Upkeep} {demands : List Dependencies} {answer : Except Failure Bool}
    (h : answer ∈ (u.serve demands).value.results) : ∃ rebuilt, answer = .ok rebuilt := by
  induction demands generalizing u with
  | nil => cases h
  | cons first rest ih =>
    rcases List.mem_cons.mp h with h | h
    · exact ⟨_, h.trans (result_align u first)⟩
    · exact ih h

theorem features_serve_cons (u : Upkeep) (first : Dependencies) (rest : List Dependencies) :
    rest.map (u.align first).value.upkeep.features = rest.map u.features :=
  List.map_congr_left fun deps _ => (sameTerms_align u first).features deps

/-- The rules are rebuilt whenever the features change. -/
theorem changes_serve (u : Upkeep) (demands : List Dependencies) :
    (u.serve demands).value.upkeep.router.changes =
      u.router.changes + u.phase.turns (demands.map u.features) := by
  induction demands generalizing u with
  | nil => rfl
  | cons first rest ih =>
    have hrest := ih (u.align first).value.upkeep
    rw [features_serve_cons, phase_align] at hrest
    rw [List.map_cons, Phase.turns]
    refine hrest.trans ?_
    rcases align_cases u first with ⟨hp, ha⟩ | ⟨hp, ha⟩ <;> rw [ha]
    · simp [hp]
    · simp only [hp, rebuilt, Router.changes_install, if_false]
      omega

/-- As many are told that the rules were rebuilt as there are changes of the features. -/
theorem countP_results (u : Upkeep) (demands : List Dependencies) :
    (u.serve demands).value.results.countP saysRebuilt = u.phase.turns (demands.map u.features) := by
  induction demands generalizing u with
  | nil => rfl
  | cons first rest ih =>
    have hrest := ih (u.align first).value.upkeep
    rw [features_serve_cons, phase_align] at hrest
    have hresults : (u.serve (first :: rest)).value.results =
        (u.align first).value.result :: ((u.align first).value.upkeep.serve rest).value.results := rfl
    rw [hresults, List.countP_cons, hrest, result_align, List.map_cons, Phase.turns]
    by_cases hp : u.phase = .configured (u.features first) <;> simp [hp, saysRebuilt, Nat.add_comm]

/-- The installed rules are the standard ones for what the phase says that they were built for. Before they
    were built for anything the list may be any. -/
def Current (u : Upkeep) : Prop := ∀ f, u.phase = .configured f → standardRules f u.packageRoot = .ok u.router.rules

theorem Current.align {u : Upkeep} (h : u.Current) (deps : Dependencies) : (u.align deps).value.upkeep.Current := by
  rcases align_cases u deps with ⟨-, ha⟩ | ⟨-, ha⟩ <;> rw [ha]
  · exact h
  · intro f hf
    cases hf
    exact standardRules_eq _ _

theorem Current.serve {u : Upkeep} (h : u.Current) (demands : List Dependencies) :
    (u.serve demands).value.upkeep.Current := by
  induction demands generalizing u with
  | nil => exact h
  | cons first rest ih => exact ih (h.align first)

end Upkeep

/-- Where all features are the same, only the first of them can be a change. -/
theorem Phase.turns_of_alike {p : Phase} {f : Features} {l : List Features} (hne : l ≠ []) (h : ∀ g ∈ l, g = f) :
    p.turns l = if p = .configured f then 0 else 1 := by
  induction l generalizing p with
  | nil => exact absurd rfl hne
  | cons g rest ih =>
    obtain rfl : g = f := h g List.mem_cons_self
    rw [turns]
    rcases rest with _ | ⟨g', rest⟩
    · rfl
    · rw [ih (by simp) fun x hx => h x (List.mem_cons_of_mem _ hx)]
      simp

end Routing
end SandboxRouting
