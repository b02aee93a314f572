import SandboxRouting.Proofs.Routing.Router
import SandboxRouting.Proofs.Routing.Standard
import SandboxRouting.Routing.Upkeep

/-! # Runs of a router under upkeep

The rules of a router are brought in line with dependencies time and again, while others change the
list of rules and look up paths. An alignment only compares what the dependencies make usable with what
the rules were built for last: it neither sees nor mends what others did in between, and when it rebuilds
the rules, nothing of that is left.

`align_cases` says once what an alignment can do. From it follow what a run leaves as the phase
(`phase_run`), how often the rules were changed (`changes_run`), and the list of rules since they were
built last (`rules_run`). -/

namespace SandboxRouting
namespace Routing
namespace Upkeep

/-! ### What an upkeep goes by -/

/-- Two upkeeps go by the same: they differ at most in their rules and their phases. -/
structure SameTerms (u t : Upkeep) : Prop where
  gate : t.gate = u.gate
  packageRoot : t.packageRoot = u.packageRoot
  name : t.router.name = u.router.name

namespace SameTerms
variable {u t w : Upkeep}

theorem refl (u : Upkeep) : SameTerms u u := ⟨rfl, rfl, rfl⟩

theorem trans (h₁ : SameTerms u t) (h₂ : SameTerms t w) : SameTerms u w where
  gate := h₂.gate.trans h₁.gate
  packageRoot := h₂.packageRoot.trans h₁.packageRoot
  name := h₂.name.trans h₁.name

theorem features (h : SameTerms u t) (deps : Dependencies) : t.features deps = u.features deps := by
  rw [Upkeep.features, h.gate, Upkeep.features]

end SameTerms

/-! ### One alignment -/

/-- The router after the rules for some features were built. -/
def rebuilt (u : Upkeep) (f : Features) : Upkeep :=
  { u with router := u.router.install (rulesFor f u.packageRoot), phase := .configured f }

/-- An alignment leaves everything as it is if the rules were built for the same features, and otherwise
    builds them. It never fails. -/
theorem align_cases (u : Upkeep) (deps : Dependencies) :
    (u.phase = .configured (u.features deps) ∧ (u.align deps).value = ⟨.ok false, u⟩) ∨
      (u.phase ≠ .configured (u.features deps) ∧
        (u.align deps).value = ⟨.ok true, u.rebuilt (u.features deps)⟩) := by
  by_cases h : u.phase = .configured (u.features deps)
  · exact Or.inl ⟨h, by simp [align, h]⟩
  · exact Or.inr ⟨h, by simp [align, h, standardRules_eq, rebuilt]⟩

/-- The installed rules are those for which the phase says that they were built. -/
def InLine (u : Upkeep) : Prop :=
  match u.phase with
  | .uninitialized => u.router.rules = []
  | .configured f => u.router.rules = rulesFor f u.packageRoot

theorem sameTerms_rebuilt (u : Upkeep) (f : Features) : SameTerms u (u.rebuilt f) := ⟨rfl, rfl, rfl⟩

theorem inLine_rebuilt (u : Upkeep) (f : Features) : (u.rebuilt f).InLine := rfl

/-- An alignment keeps the rules in line, and it brings them in line with its dependencies. -/
theorem InLine.align {u : Upkeep} (h : u.InLine) (deps : Dependencies) : (u.align deps).value.upkeep.InLine := by
  rcases align_cases u deps with ⟨-, ha⟩ | ⟨-, ha⟩ <;> rw [ha]
  · exact h
  · exact inLine_rebuilt u _

theorem phase_align (u : Upkeep) (deps : Dependencies) :
    (u.align deps).value.upkeep.phase = .configured (u.features deps) := by
  rcases align_cases u deps with ⟨hp, ha⟩ | ⟨-, ha⟩ <;> rw [ha]
  · exact hp
  · rfl

theorem sameTerms_align (u : Upkeep) (deps : Dependencies) : SameTerms u (u.align deps).value.upkeep := by
  rcases align_cases u deps with ⟨-, ha⟩ | ⟨-, ha⟩ <;> rw [ha]
  · exact .refl u
  · exact sameTerms_rebuilt u _

/-- Rules that are in line are the standard ones after an alignment, whether it rebuilds them or not. -/
theorem InLine.rules_align {u : Upkeep} (h : u.InLine) (deps : Dependencies) :
    (u.align deps).value.upkeep.router.rules = rulesFor (u.features deps) u.packageRoot := by
  have hline := h.align deps
  rw [InLine, phase_align] at hline
  exact hline.trans (congrArg _ (sameTerms_align u deps).packageRoot)

/-- The same dependencies bring back the same rules. -/
theorem InLine.rules_align_back {u : Upkeep} (h : u.InLine) (deps other : Dependencies) :
    (((u.align deps).value.upkeep.align other).value.upkeep.align deps).value.upkeep.router.rules =
      (u.align deps).value.upkeep.router.rules := by
  have hterms := (sameTerms_align u deps).trans (sameTerms_align _ other)
  rw [((h.align deps).align other).rules_align deps, h.rules_align deps, hterms.features, hterms.packageRoot]

theorem result_align (u : Upkeep) (deps : Dependencies) :
    (u.align deps).value.result = .ok (decide (u.phase ≠ .configured (u.features deps))) := by
  rcases align_cases u deps with ⟨hp, h⟩ | ⟨hp, h⟩ <;> simp [h, hp]

/-! ### Runs -/

/-- What happens to a router under upkeep: alignments with dependencies, changes of the list of rules by
    others, and questions. -/
inductive Act where
  | align (deps : Dependencies)
  | change (c : Change)
  | lookUp (path : String)
  | recognize (path : String)
  | takeSnapshot

def next (u : Upkeep) : Act → Upkeep
  | .align deps => (u.align deps).value.upkeep
  | .change c => { u with router := u.router.change c }
  | .lookUp _ => u
  | .recognize _ => u
  | .takeSnapshot => u

def run (u : Upkeep) (acts : List Act) : Upkeep := acts.foldl next u

/-- The act is an alignment that says that it rebuilt the rules. -/
def rebuilds (u : Upkeep) : Act → Bool
  | .align deps =>
    match (u.align deps).value.result with
    | .ok rebuilt => rebuilt
    | .error _ => false
  | _ => false

def rebuildCount (u : Upkeep) : List Act → Nat
  | [] => 0
  | act :: rest => (u.rebuilds act).toNat + (u.next act).rebuildCount rest

/-- The dependencies of the alignments, in order. -/
def demands (acts : List Act) : List Dependencies :=
  acts.filterMap fun
    | .align deps => some deps
    | _ => none

def edits (acts : List Act) : List Change :=
  acts.filterMap fun
    | .change c => some c
    | _ => none

theorem run_cons (u : Upkeep) (act : Act) (acts : List Act) : u.run (act :: acts) = (u.next act).run acts := rfl

theorem run_append (u : Upkeep) (before after : List Act) : u.run (before ++ after) = (u.run before).run after :=
  List.foldl_append

theorem run_concat (u : Upkeep) (before : List Act) (act : Act) :
    u.run (before ++ [act]) = (u.run before).next act := by
  rw [run_append]
  rfl

theorem next_align (u : Upkeep) (deps : Dependencies) :
    u.next (.align deps) = if u.rebuilds (.align deps) then u.rebuilt (u.features deps) else u := by
  rcases align_cases u deps with ⟨-, h⟩ | ⟨-, h⟩ <;> simp [next, rebuilds, h]

theorem sameTerms_next (u : Upkeep) (act : Act) : SameTerms u (u.next act) := by
  cases act with
  | align deps => exact sameTerms_align u deps
  | change c => exact ⟨rfl, rfl, Router.name_change u.router c⟩
  | _ => exact .refl u

theorem sameTerms_run (u : Upkeep) (acts : List Act) : SameTerms u (u.run acts) := by
  induction acts generalizing u with
  | nil => exact .refl u
  | cons act acts ih =>
    rw [run_cons]
    exact (sameTerms_next u act).trans (ih (u.next act))

/-! ### What a run leaves -/

/-- The last alignment decides the phase, whether it rebuilt the rules or not. -/
theorem phase_run (u : Upkeep) (acts : List Act) :
    (u.run acts).phase = match (demands acts).getLast? with
      | none => u.phase
      | some last => .configured (u.features last) := by
  induction acts generalizing u with
  | nil => rfl
  | cons act acts ih =>
    rw [run_cons, ih]
    cases act with
    | align deps =>
      have hdemands : demands (.align deps :: acts) = deps :: demands acts := rfl
      rw [hdemands, List.getLast?_cons]
      cases (demands acts).getLast? with
      | none => exact phase_align u deps
      | some last => simp [(sameTerms_next u (.align deps)).features last]
    | _ => rfl

theorem changes_next (u : Upkeep) (act : Act) :
    (u.next act).router.changes = u.router.changes + (u.rebuilds act).toNat + (edits [act]).length := by
  cases act with
  | align deps =>
    rw [next_align]
    cases u.rebuilds (.align deps) <;> simp [rebuilt, edits]
  | change c => simp [next, rebuilds, edits]
  | _ => rfl

theorem edits_cons (act : Act) (acts : List Act) : edits (act :: acts) = edits [act] ++ edits acts := by
  cases act <;> rfl

/-- Every rebuild and every change by others is one change of the list of rules. -/
theorem changes_run (u : Upkeep) (acts : List Act) :
    (u.run acts).router.changes = u.router.changes + u.rebuildCount acts + (edits acts).length := by
  induction acts generalizing u with
  | nil => rfl
  | cons act acts ih =>
    rw [run_cons, ih, changes_next, edits_cons act acts, List.length_append, rebuildCount]
    omega

theorem rules_next (u : Upkeep) {act : Act} (h : u.rebuilds act = false) :
    (u.next act).router.rules = (edits [act]).foldl Change.effect u.router.rules := by
  cases act with
  | align deps =>
    rw [next_align, h]
    rfl
  | change c => exact Router.rules_change u.router c
  | _ => rfl

/-- As long as the rules are not rebuilt, only others change the list. -/
theorem rules_run (u : Upkeep) {acts : List Act} (h : u.rebuildCount acts = 0) :
    (u.run acts).router.rules = (edits acts).foldl Change.effect u.router.rules := by
  induction acts generalizing u with
  | nil => rfl
  | cons act acts ih =>
    have hact : u.rebuilds act = false := by
      cases hr : u.rebuilds act <;> simp [rebuildCount, hr] at h ⊢
    have hacts : (u.next act).rebuildCount acts = 0 := by
      rw [rebuildCount, hact] at h
      simpa using h
    rw [run_cons, ih _ hacts, rules_next u hact, edits_cons act acts, List.foldl_append]

/-! ### The law of runs -/

/-- What a run makes of a router under upkeep, and what the next alignment does there. -/
structure RunLaw (start : Upkeep) (acts : List Act) : Prop where
  /-- The phase is told by the dependencies of the last alignment. -/
  phase : (start.run acts).phase = match (demands acts).getLast? with
    | none => .uninitialized
    | some last => .configured ⟨start.gate.passes last⟩
  /-- An alignment never fails, and it rebuilds the rules exactly if it is the first one or its dependencies
      say something else about refresh than those of the one before. -/
  answer : ∀ deps, ((start.run acts).align deps).value.result =
    .ok ((demands acts).getLast?.map start.gate.passes != some (start.gate.passes deps))
  /-- An alignment that does not rebuild the rules leaves everything as it is: the list is the very same,
      and so are the count of changes, the phase and what every path is sent to. -/
  kept : ∀ deps, ((start.run acts).align deps).value.result = .ok false →
    ((start.run acts).align deps).value.upkeep = start.run acts ∧
      ((start.run acts).align deps).value.upkeep.router.holds (start.run acts).router.snapshot = true
  /-- An alignment that rebuilds the rules leaves the standard rules and nothing else, and counts as one
      change. -/
  replaced : ∀ deps, ((start.run acts).align deps).value.result = .ok true →
    standardRules ⟨start.gate.passes deps⟩ start.packageRoot =
        .ok ((start.run acts).align deps).value.upkeep.router.rules ∧
      ((start.run acts).align deps).value.upkeep.router.generation = (start.run acts).router.generation + 1
  /-- The count of changes is that of the rebuilds and of the changes by others, in 64 bits. -/
  generation : (start.run acts).router.generation = .ofNat (start.rebuildCount acts + (edits acts).length)
  /-- Without a rebuild the list holds what others put into it. -/
  unbuilt : start.rebuildCount acts = 0 → (start.run acts).router.rules = (edits acts).foldl Change.effect []
  /-- After the last rebuild the list holds the standard rules of that moment, and what others made of
      them since. -/
  built : ∀ before deps after, acts = before ++ .align deps :: after →
    (start.run before).rebuilds (.align deps) = true →
    (start.run (before ++ [.align deps])).rebuildCount after = 0 →
    ∃ rules, standardRules ⟨start.gate.passes deps⟩ start.packageRoot = .ok rules ∧
      (start.run acts).router.rules = (edits after).foldl Change.effect rules

/-- Every run of a router that began without rules keeps to the law, whatever others do in between. -/
theorem runLaw_of_fresh (name : String) (extensions : List String) (gate : Gate) (packageRoot : String)
    (acts : List Act) : RunLaw ⟨.fresh name extensions, gate, packageRoot, .uninitialized⟩ acts where
  phase := phase_run _ acts
  answer deps := by
    rw [result_align, phase_run, (sameTerms_run _ acts).features]
    congr 1
    cases (demands acts).getLast? with
    | none => rfl
    | some last => simp [features, bne, Bool.beq_eq_decide_eq]
  kept deps h := by
    rcases align_cases (run _ acts) deps with ⟨-, ha⟩ | ⟨-, ha⟩
    · rw [ha]
      exact ⟨rfl, Router.holds_snapshot _⟩
    · rw [ha] at h
      cases h
  replaced deps h := by
    rcases align_cases (run _ acts) deps with ⟨-, ha⟩ | ⟨-, ha⟩
    · rw [ha] at h
      cases h
    · rw [ha, (sameTerms_run _ acts).features]
      refine ⟨?_, Router.generation_install _ _⟩
      rw [standardRules_eq]
      simp [rebuilt, (sameTerms_run _ acts).packageRoot, features]
  generation := by
    rw [Router.generation, changes_run]
    simp [Router.fresh]
  unbuilt h := rules_run _ h
  built before deps after hacts hr hafter := by
    refine ⟨_, standardRules_eq _ _, ?_⟩
    have hterms := sameTerms_run ⟨.fresh name extensions, gate, packageRoot, .uninitialized⟩ before
    rw [hacts, List.append_cons, run_append, rules_run _ hafter, run_concat, next_align, if_pos hr, hterms.features]
    simp only [rebuilt, Router.rules_install, hterms.packageRoot, features]

/-- An alignment that sees nothing new does not mend a list that somebody cleared, the next one that does
    builds it anew, and what is added then stays behind the standard rules. -/
theorem runLaw_of_cleared_rules :
    ∃ rules, standardRules ⟨false⟩ "/node_modules" = .ok rules ∧
      (run ⟨.fresh "app" [], ⟨"react-dom", "16.9.0"⟩, "/node_modules", .uninitialized⟩
        [.align (.ofList [("react-dom", "16.12.0")]), .change .clear,
          .align (.ofList [("react-dom", "16.12.0")])]).router.rules = [] ∧
      (run ⟨.fresh "app" [], ⟨"react-dom", "16.9.0"⟩, "/node_modules", .uninitialized⟩
        [.align (.ofList [("react-dom", "16.12.0")]), .change .clear, .align (.ofList [("react-dom", "16.12.0")]),
          .align .empty, .change (.append (.forAll []))]).router.rules = rules ++ [.forAll []] := by
  obtain ⟨standing, -, hcleared⟩ := (runLaw_of_fresh "app" [] ⟨"react-dom", "16.9.0"⟩ "/node_modules" _).built
    [] (.ofList [("react-dom", "16.12.0")]) [.change .clear, .align (.ofList [("react-dom", "16.12.0")])] rfl
    (by decide +kernel) (by decide +kernel)
  obtain ⟨rules, hrules, hadded⟩ := (runLaw_of_fresh "app" [] ⟨"react-dom", "16.9.0"⟩ "/node_modules" _).built
    [.align (.ofList [("react-dom", "16.12.0")]), .change .clear, .align (.ofList [("react-dom", "16.12.0")])]
    .empty [.change (.append (.forAll []))] rfl (by decide +kernel) (by decide +kernel)
  have hgate : Gate.passes ⟨"react-dom", "16.9.0"⟩ .empty = false := by decide +kernel
  exact ⟨rules, hgate ▸ hrules, hcleared, hadded⟩

end Upkeep
end Routing
end SandboxRouting
