import Mathlib.Data.List.Basic
import SandboxRouting.Proofs.Routing.Router
import SandboxRouting.Proofs.Routing.Standard

/-! # Which of the standard rules overlap

Besides the last rule, which takes every path, a path is taken by the rule of its kind and by no more than one
other. There are three places where two of them overlap: scripts outside the place of installed packages are
taken with and without refresh handling, and scoped style sheets of either syntax are also taken as plain ones.

So the order of the rules counts in these pairs alone (`takenBy_cases`). The rules can be put in any other order
that keeps the pairs and the last rule, and no path is routed differently. -/

namespace SandboxRouting
namespace Routing
open FileKind

/-! ### The pairs that overlap -/

/-- The rules that both take some paths, in their order. -/
def overlappingPairs (f : Features) (packageRoot : String) : List (Rule × Rule) :=
  (if f.refresh then [(refreshing packageRoot, script.rule f)] else []) ++
    [(scopedSass.rule f, sass.rule f), (scopedStyle.rule f, style.rule f)]

theorem takenBy_cases (f : Features) (packageRoot path : String) (kind : Option FileKind) :
    (takenBy f packageRoot path kind).length ≤ 1 ∨
      ∃ pair ∈ overlappingPairs f packageRoot, takenBy f packageRoot path kind = [pair.1, pair.2] := by
  rcases kind with _ | (_ | _ | _ | _ | _ | _ | _)
  case some.script =>
    cases hrefresh : f.refresh && !Text.begins path packageRoot with
    | false => exact Or.inl (by simp [takenBy, hrefresh])
    | true =>
      have hf : f.refresh = true := (Bool.and_eq_true_iff.mp hrefresh).1
      exact Or.inr ⟨(refreshing packageRoot, script.rule f), by simp [overlappingPairs, hf], by simp [takenBy, hrefresh]⟩
  case some.scopedSass => exact Or.inr ⟨(scopedSass.rule f, sass.rule f), by simp [overlappingPairs], rfl⟩
  case some.scopedStyle => exact Or.inr ⟨(scopedStyle.rule f, style.rule f), by simp [overlappingPairs], rfl⟩
  case none => exact Or.inl (Nat.zero_le 1)
  all_goals exact Or.inl (Nat.le_refl 1)

/-! ### Other orders -/

theorem sublist_of_sublist_concat {α : Type} {front : List α} {a b last : α} (h : [a, b].Sublist (front ++ [last]))
    (hb : b ≠ last) : [a, b].Sublist front := by
  obtain ⟨before, behind, heq, hbefore, hbehind⟩ := List.sublist_append_iff.mp h
  rcases List.sublist_singleton.mp hbehind with rfl | rfl
  · rw [heq, List.append_nil]
    exact hbefore
  · have hlast := congrArg List.getLast? heq
    simp only [List.getLast?_concat, List.getLast?_cons_cons, List.getLast?_singleton, Option.some.injEq] at hlast
    exact absurd hlast hb

/-- Of some entries in another order at most one passes a test, or two that kept their order. -/
theorem filter_eq_of_perm {α : Type} {l shuffled others : List α} {p : α → Bool} (hperm : shuffled.Perm l)
    (hothers : l.filter p = others) (h : others.length ≤ 1 ∨ others.Sublist shuffled) :
    shuffled.filter p = l.filter p := by
  have hfilter : (shuffled.filter p).Perm others := hothers ▸ hperm.filter p
  rw [hothers]
  rcases h with hshort | hkept
  · match others, hshort with
    | [], _ => exact List.perm_nil.mp hfilter
    | [a], _ => exact List.perm_singleton.mp hfilter
  · have hpass : ∀ a ∈ others, p a = true := fun a ha => (List.mem_filter.mp (hothers ▸ ha)).2
    have hsub := hkept.filter p
    rw [List.filter_eq_self.mpr hpass] at hsub
    exact (hsub.eq_of_length hfilter.length_eq.symm).symm

/-- A rule of a kind does not take every path. -/
theorem rule_ne_passing (f : Features) (k : FileKind) : k.rule f ≠ passing := by
  intro heq
  have htakes : (k.rule f).takes "" = passing.takes "" := congrArg (Rule.takes · "") heq
  have hfits : ∀ k : FileKind, k.fits "" = false := fun k => by cases k <;> decide +kernel
  cases k <;>
    simp [Rule.takes, FileKind.rule, passing, Rule.forAll, PathTest.passes, passes_search, passes_isScript, includes,
      hfits] at htakes

theorem snd_ne_passing {f : Features} {packageRoot : String} {pair : Rule × Rule}
    (h : pair ∈ overlappingPairs f packageRoot) : pair.2 ≠ passing := by
  obtain ⟨k, hk⟩ : ∃ k : FileKind, pair.2 = k.rule f := by
    rcases List.mem_append.mp h with h | h
    · split at h
      · exact ⟨script, congrArg Prod.snd (List.mem_singleton.mp h)⟩
      · exact absurd h List.not_mem_nil
    · rcases List.mem_cons.mp h with rfl | h
      · exact ⟨sass, rfl⟩
      · exact ⟨style, congrArg Prod.snd (List.mem_singleton.mp h)⟩
  exact hk ▸ rule_ne_passing f k

/-- Which rules of a list overlap, and in which other orders it routes alike. -/
structure OverlapLaw (f : Features) (packageRoot : String) (rules : List Rule) : Prop where
  last : rules.getLast? = some passing
  /-- The pairs are rules of the list. -/
  pairs : ∀ pair ∈ overlappingPairs f packageRoot, [pair.1, pair.2].Sublist rules
  taken : ∀ path, ∃ others, rules.filter (·.takes path) = others ++ [passing] ∧ others.length ≤ 2 ∧
    (others.length = 2 → ∃ pair ∈ overlappingPairs f packageRoot, others = [pair.1, pair.2])
  reordered : ∀ shuffled : List Rule, shuffled.Perm rules → shuffled.getLast? = some passing →
    (∀ pair ∈ overlappingPairs f packageRoot, [pair.1, pair.2].Sublist shuffled) →
    ∀ (r : Router) (path : String), (r.install shuffled).chainFor path = (r.install rules).chainFor path

/-- Kinds in an order that keeps the scoped ahead of the plain style sheets give rules that keep every pair. -/
theorem pairs_sublist {f : Features} {packageRoot : String} {kinds : List FileKind} (hscript : script ∈ kinds)
    (hsass : [scopedSass, sass].Sublist kinds) (hstyle : [scopedStyle, style].Sublist kinds) :
    ∀ pair ∈ overlappingPairs f packageRoot,
      [pair.1, pair.2].Sublist
        ((if f.refresh then [refreshing packageRoot] else []) ++ kinds.map (FileKind.rule f) ++ [passing]) := by
  intro pair hpair
  refine List.Sublist.trans ?_ (List.sublist_append_left _ _)
  rcases List.mem_append.mp hpair with hpair | hpair
  · split at hpair
    next hf =>
      have hmem : script.rule f ∈ kinds.map (FileKind.rule f) := List.mem_map_of_mem hscript
      rw [List.mem_singleton.mp hpair, if_pos hf]
      exact (List.singleton_sublist.mpr hmem).cons_cons _
    next => exact absurd hpair List.not_mem_nil
  · refine List.Sublist.trans ?_ (List.sublist_append_right _ _)
    rcases List.mem_cons.mp hpair with rfl | hpair
    · exact hsass.map (FileKind.rule f)
    · rw [List.mem_singleton.mp hpair]
      exact hstyle.map (FileKind.rule f)

theorem overlapLaw_standardRules (f : Features) (packageRoot : String) :
    ∃ rules, standardRules f packageRoot = .ok rules ∧ OverlapLaw f packageRoot rules := by
  refine ⟨_, standardRules_eq f packageRoot, ?_⟩
  rw [rulesFor_eq]
  refine ⟨List.getLast?_concat, pairs_sublist (by decide) (by decide) (by decide), fun path => ?_, ?_⟩
  · refine ⟨_, by rw [List.filter_append, filter_frontRules]; rfl, ?_⟩
    rcases takenBy_cases f packageRoot path (of? path) with hone | ⟨pair, hpair, heq⟩
    · exact ⟨by omega, fun htwo => by omega⟩
    · rw [heq]
      exact ⟨Nat.le_refl 2, fun _ => ⟨pair, hpair, rfl⟩⟩
  · intro shuffled hperm hlast hpairs r path
    obtain ⟨front, rfl⟩ := List.getLast?_eq_some_iff.mp hlast
    have hfront : front.Perm (frontRules f packageRoot) := (List.perm_append_right_iff [passing]).mp hperm
    have hfilter : front.filter (·.takes path) = (frontRules f packageRoot).filter (·.takes path) := by
      refine filter_eq_of_perm hfront (filter_frontRules f packageRoot path) ?_
      refine (takenBy_cases f packageRoot path (of? path)).imp id fun ⟨pair, hpair, heq⟩ => ?_
      rw [heq]
      exact sublist_of_sublist_concat (hpairs pair hpair) (snd_ne_passing hpair)
    -- The first rule for a path is the head of those that take it, and these are the same in the same order.
    have hfind : front.find? (·.takes path) = (frontRules f packageRoot).find? (·.takes path) := by
      rw [← List.head?_filter, ← List.head?_filter, hfilter]
    simp only [Router.chainFor, Router.rules_install, Router.name_install, firstRule?, List.find?_append, hfind]

/-- The kinds with data and plain style sheets of one syntax moved ahead. -/
def otherOrder : List FileKind := [data, scopedStyle, style, scopedSass, graphics, sass, script]

theorem overlapLaw_of_other_order :
    ∃ rules, standardRules ⟨true⟩ "/node_modules" = .ok rules ∧ ∀ (r : Router) (path : String),
      (r.install (refreshing "/node_modules" :: otherOrder.map (FileKind.rule ⟨true⟩) ++ [passing])).chainFor path =
        (r.install rules).chainFor path := by
  obtain ⟨rules, hrules, hlaw⟩ := overlapLaw_standardRules ⟨true⟩ "/node_modules"
  refine ⟨rules, hrules, hlaw.reordered _ ?_ List.getLast?_concat (pairs_sublist (by decide) (by decide) (by decide))⟩
  have hkinds : otherOrder.Perm FileKind.all := by decide
  have heq : rules = frontRules ⟨true⟩ "/node_modules" ++ [passing] := by
    rw [standardRules_eq, rulesFor_eq] at hrules
    exact (Except.ok.inj hrules).symm
  rw [heq]
  exact ((hkinds.map _).cons _).append_right _

end Routing
end SandboxRouting
