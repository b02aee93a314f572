import SandboxRouting.Proofs.Routing.Service
import SandboxRouting.Routing.Traffic

/-! # One alignment at a time

However the steps of tasks and readers follow each other, the tasks leave the upkeep as if they had been
served one after the other, in the order in which they got the lock, and their answers are those of that
service (`Orderly.free`).

`Midway` says what the task with the lock has done so far of its alignment. The invariant `Orderly` is kept
by every step (`orderly_next`), by cases of how far the task has come that makes it. -/

namespace SandboxRouting
namespace Routing

/-! ### Tasks and the lock -/

theorem filterMap_set_of_eq {α β : Type} {f : α → Option β} {l : List α} {i : Nat} {a b : α} (h : l[i]? = some a)
    (hab : f b = f a) : (l.set i b).filterMap f = l.filterMap f := by
  obtain ⟨hi, rfl⟩ := List.getElem?_eq_some_iff.mp h
  obtain ⟨before, after, hl, -, hset⟩ := @List.exists_of_set _ i b l hi
  rw [hset]
  conv_rhs => rw [hl]
  simp only [List.filterMap_append, List.filterMap_cons, hab]

theorem filterMap_set_perm {α β : Type} {f : α → Option β} {l : List α} {i : Nat} {a b : α} {y : β} (h : l[i]? = some a)
    (ha : f a = none) (hb : f b = some y) : ((l.set i b).filterMap f).Perm (l.filterMap f ++ [y]) := by
  obtain ⟨hi, rfl⟩ := List.getElem?_eq_some_iff.mp h
  obtain ⟨before, after, hl, -, hset⟩ := @List.exists_of_set _ i b l hi
  have hold : l.filterMap f = before.filterMap f ++ after.filterMap f := by
    conv_lhs => rw [hl]
    simp only [List.filterMap_append, List.filterMap_cons, ha]
  rw [hset, hold]
  simp only [List.filterMap_append, List.filterMap_cons, hb]
  exact List.perm_middle.trans (List.perm_append_singleton _ _).symm

/-- The task has the lock. -/
def Progress.inside : Progress → Bool
  | starting => false
  | waiting _ => false
  | done _ => false
  | _ => true

/-- How many steps a task has before it at most. -/
def Progress.left : Progress → Nat
  | starting => 7
  | waiting _ => 6
  | comparing _ => 5
  | building _ => 4
  | installing _ _ => 3
  | recording _ => 2
  | releasing _ => 1
  | done _ => 0

namespace Task

/-- The dependencies of a task that got the lock, now or before. -/
def claim? (task : Task) : Option Dependencies :=
  match task.progress with
  | .starting => none
  | .waiting _ => none
  | _ => some task.deps

def answer? (task : Task) : Option (Except Failure Bool) :=
  match task.progress with
  | .done answer => some answer
  | _ => none

theorem claim?_of_inside {deps : Dependencies} {progress : Progress} (h : progress.inside = true) :
    claim? ⟨deps, progress⟩ = some deps := by
  cases progress <;> first | rfl | cases h

theorem answer?_of_inside {deps : Dependencies} {progress : Progress} (h : progress.inside = true) :
    answer? ⟨deps, progress⟩ = none := by
  cases progress <;> first | rfl | cases h

end Task

/-- What a task with the lock has done of the alignment of an upkeep, and what has become of the upkeep. -/
inductive Midway (u : Upkeep) (deps : Dependencies) : Progress → Upkeep → Prop where
  | comparing : Midway u deps (.comparing (u.features deps)) u
  | building (h : u.phase ≠ .configured (u.features deps)) : Midway u deps (.building (u.features deps)) u
  | installing (h : u.phase ≠ .configured (u.features deps)) :
      Midway u deps (.installing (u.features deps) (rulesFor (u.features deps) u.packageRoot)) u
  | recording (h : u.phase ≠ .configured (u.features deps)) :
      Midway u deps (.recording (u.features deps))
        { u with router := u.router.install (rulesFor (u.features deps) u.packageRoot) }
  | releasing : Midway u deps (.releasing (u.align deps).value.result) (u.align deps).value.upkeep

namespace Midway
variable {u now : Upkeep} {deps : Dependencies} {progress : Progress}

theorem inside (h : Midway u deps progress now) : progress.inside = true := by
  cases h <;> rfl

theorem sameTerms (h : Midway u deps progress now) : Upkeep.SameTerms u now := by
  cases h with
  | recording => exact ⟨rfl, rfl, rfl⟩
  | releasing => exact Upkeep.sameTerms_align u deps
  | _ => exact .refl u

theorem align_eq {answer : Except Failure Bool} (h : Midway u deps (.releasing answer) now) :
    (u.align deps).value = ⟨answer, now⟩ := by
  cases h
  rfl

theorem of_align_eq {answer : Except Failure Bool} (h : (u.align deps).value = ⟨answer, now⟩) :
    Midway u deps (.releasing answer) now := by
  have hmid : Midway u deps (.releasing (u.align deps).value.result) (u.align deps).value.upkeep := .releasing
  rwa [h] at hmid

variable {f : Features} {rules : List Rule}

theorem compare_alike (h : Midway u deps (.comparing f) now) (hp : now.phase = .configured f) :
    Midway u deps (.releasing (.ok false)) now := by
  cases h
  rcases Upkeep.align_cases u deps with ⟨-, ha⟩ | ⟨hp', -⟩
  · exact of_align_eq ha
  · exact absurd hp hp'

theorem compare_other (h : Midway u deps (.comparing f) now) (hp : now.phase ≠ .configured f) :
    Midway u deps (.building f) now := by
  cases h
  exact .building hp

theorem build (h : Midway u deps (.building f) now) :
    Midway u deps (.installing f (rulesFor f now.packageRoot)) now := by
  cases h with
  | building hp => exact .installing hp

theorem install (h : Midway u deps (.installing f rules) now) :
    Midway u deps (.recording f) { now with router := now.router.install rules } := by
  cases h with
  | installing hp => exact .recording hp

theorem record (h : Midway u deps (.recording f) now) :
    Midway u deps (.releasing (.ok true)) { now with phase := .configured f } := by
  cases h with
  | recording hp =>
    rcases Upkeep.align_cases u deps with ⟨hp', -⟩ | ⟨-, ha⟩
    · exact absurd hp' hp
    · exact of_align_eq ha

/-- The router is swapped in one step, so it is that of before or that of behind the alignment. -/
theorem router (h : Midway u deps progress now) :
    now.router = u.router ∨ now.router = (u.align deps).value.upkeep.router := by
  cases h with
  | recording h =>
    rcases Upkeep.align_cases u deps with ⟨hp, -⟩ | ⟨-, ha⟩
    · exact absurd hp h
    · exact Or.inr (by rw [ha]; rfl)
  | releasing => exact Or.inr rfl
  | _ => exact Or.inl rfl

end Midway

namespace Traffic

/-- A task stays where it is if it is done or waits for the lock. Otherwise it goes on, and no other does. -/
theorem proceed_cases (t : Traffic) (i : Nat) (deps : Dependencies) (progress : Progress) :
    (t.proceed i deps progress = t ∧ (progress.left = 0 ∨ t.holder ≠ none ∧ ∃ f, progress = .waiting f)) ∨
      ∃ later upkeep holder order, later.left < progress.left ∧
        t.proceed i deps progress = { t.put i ⟨deps, later⟩ with upkeep := upkeep, holder := holder, order := order } := by
  cases progress with
  | waiting f =>
    by_cases hfree : t.holder = none
    · rw [proceed, if_pos hfree]
      exact Or.inr ⟨.comparing f, t.upkeep, _, _, by simp [Progress.left], rfl⟩
    · rw [proceed, if_neg hfree]
      exact Or.inl ⟨rfl, Or.inr ⟨hfree, f, rfl⟩⟩
  | comparing f =>
    simp only [proceed]
    split
    · exact Or.inr ⟨.releasing _, t.upkeep, t.holder, t.order, by simp [Progress.left], rfl⟩
    · exact Or.inr ⟨.building f, t.upkeep, t.holder, t.order, by simp [Progress.left], rfl⟩
  | building f =>
    rw [proceed, standardRules_eq]
    exact Or.inr ⟨.installing f _, t.upkeep, t.holder, t.order, by simp [Progress.left], rfl⟩
  | done answer => exact Or.inl ⟨rfl, Or.inl rfl⟩
  | starting => exact Or.inr ⟨.waiting _, t.upkeep, t.holder, t.order, by simp [Progress.left], rfl⟩
  | installing f rules => exact Or.inr ⟨.recording f, _, t.holder, t.order, by simp [Progress.left], rfl⟩
  | recording f => exact Or.inr ⟨.releasing _, _, t.holder, t.order, by simp [Progress.left], rfl⟩
  | releasing answer => exact Or.inr ⟨.done answer, t.upkeep, none, t.order, by simp [Progress.left], rfl⟩

def answers (t : Traffic) : List (Except Failure Bool) := t.tasks.filterMap Task.answer?

/-- The tasks with and without the lock, the upkeep and the answers are as if the tasks were served one
    after the other, as far as they have come. -/
structure Orderly (u : Upkeep) (t : Traffic) : Prop where
  features : ∀ {i : Nat} {deps f}, t.tasks[i]? = some ⟨deps, .waiting f⟩ → f = u.features deps
  outside : ∀ {i : Nat} {task}, t.tasks[i]? = some task → t.holder ≠ some i → task.progress.inside = false
  claims : t.order.Perm (t.tasks.filterMap Task.claim?)
  free : t.holder = none →
    t.answers.Perm (u.serve t.order).value.results ∧ t.upkeep = (u.serve t.order).value.upkeep
  held : ∀ {i}, t.holder = some i → ∃ (deps : Dependencies) (progress : Progress) (served : List Dependencies),
    t.tasks[i]? = some ⟨deps, progress⟩ ∧ t.order = served ++ [deps] ∧
      t.answers.Perm (u.serve served).value.results ∧ Midway (u.serve served).value.upkeep deps progress t.upkeep

theorem getElem?_put_self {t : Traffic} {i : Nat} {task : Task} (h : t.tasks[i]? = some task) (later : Task) :
    (t.put i later).tasks[i]? = some later :=
  List.getElem?_set_self (List.getElem?_eq_some_iff.mp h).1

theorem getElem?_put_of_ne (t : Traffic) {i j : Nat} (h : j ≠ i) (later : Task) :
    (t.put i later).tasks[j]? = t.tasks[j]? :=
  List.getElem?_set_ne h.symm

theorem of_getElem?_put {t : Traffic} {i j : Nat} {task found later : Task} (hi : t.tasks[i]? = some task)
    (hj : (t.put i later).tasks[j]? = some found) : j = i ∧ found = later ∨ j ≠ i ∧ t.tasks[j]? = some found := by
  by_cases hji : j = i
  · rw [hji, getElem?_put_self hi] at hj
    exact Or.inl ⟨hji, (Option.some.inj hj).symm⟩
  · rw [getElem?_put_of_ne t hji] at hj
    exact Or.inr ⟨hji, hj⟩

namespace Orderly
variable {u now : Upkeep} {t : Traffic} {i : Nat} {deps : Dependencies} {progress later : Progress}

theorem holder_of_inside (h : Orderly u t) (hi : t.tasks[i]? = some ⟨deps, progress⟩)
    (hin : progress.inside = true) : t.holder = some i := by
  by_contra hne
  rw [h.outside hi hne] at hin
  cases hin

theorem ne_holder_of_not_inside (h : Orderly u t) (hi : t.tasks[i]? = some ⟨deps, progress⟩)
    (hout : progress.inside = false) : t.holder ≠ some i := by
  intro hholder
  obtain ⟨deps', progress', _, hi', -, -, hmid⟩ := h.held hholder
  rw [hi] at hi'
  cases hi'
  rw [hmid.inside] at hout
  cases hout

theorem sameTerms (h : Orderly u t) : Upkeep.SameTerms u t.upkeep := by
  cases hholder : t.holder with
  | none => exact (h.free hholder).2 ▸ Upkeep.sameTerms_serve u t.order
  | some i =>
    obtain ⟨_, _, served, -, -, -, hmid⟩ := h.held hholder
    exact (Upkeep.sameTerms_serve u served).trans hmid.sameTerms

/-! ### One step -/

/-- A task without the lock goes on without taking it. -/
theorem put_outside (h : Orderly u t) (hi : t.tasks[i]? = some ⟨deps, progress⟩)
    (hne : t.holder ≠ some i) (hlater : later.inside = false)
    (hclaim : Task.claim? ⟨deps, later⟩ = Task.claim? ⟨deps, progress⟩)
    (hanswer : Task.answer? ⟨deps, later⟩ = Task.answer? ⟨deps, progress⟩)
    (hfeatures : ∀ f, later = .waiting f → f = u.features deps) : Orderly u (t.put i ⟨deps, later⟩) := by
  have hanswers : (t.put i ⟨deps, later⟩).answers = t.answers := filterMap_set_of_eq hi hanswer
  refine ⟨?_, ?_, ?_, ?_, ?_⟩
  · intro j deps' f hj
    rcases of_getElem?_put hi hj with ⟨-, hfound⟩ | ⟨-, hj⟩
    · cases hfound
      exact hfeatures f rfl
    · exact h.features hj
  · intro j task hj hholder
    rcases of_getElem?_put hi hj with ⟨-, rfl⟩ | ⟨-, hj⟩
    · exact hlater
    · exact h.outside hj hholder
  · exact h.claims.trans (.of_eq (filterMap_set_of_eq hi hclaim).symm)
  · intro hholder
    rw [hanswers]
    exact h.free hholder
  · intro j hholder
    obtain ⟨deps', progress', served, hj, hrest⟩ := h.held hholder
    have hji : j ≠ i := by
      rintro rfl
      exact hne hholder
    exact ⟨deps', progress', served, (getElem?_put_of_ne t hji _).trans hj, hanswers ▸ hrest⟩

/-- The task with the lock goes on with its alignment. -/
theorem put_inside (h : Orderly u t) (hi : t.tasks[i]? = some ⟨deps, progress⟩) (hin : progress.inside = true)
    (hnext : ∀ v, Midway v deps progress t.upkeep → Midway v deps later now) :
    Orderly u { t.put i ⟨deps, later⟩ with upkeep := now } := by
  have hholder := h.holder_of_inside hi hin
  obtain ⟨deps', progress', served, hi', horder, hanswers, hmid⟩ := h.held hholder
  rw [hi] at hi'
  cases hi'
  have hlater := (hnext _ hmid).inside
  have hclaim : Task.claim? ⟨deps, later⟩ = Task.claim? ⟨deps, progress⟩ := by
    rw [Task.claim?_of_inside hlater, Task.claim?_of_inside hin]
  have hanswer : Task.answer? ⟨deps, later⟩ = Task.answer? ⟨deps, progress⟩ := by
    rw [Task.answer?_of_inside hlater, Task.answer?_of_inside hin]
  refine ⟨?_, ?_, ?_, ?_, ?_⟩
  · intro j deps' f hj
    rcases of_getElem?_put hi hj with ⟨-, hfound⟩ | ⟨-, hj⟩
    · cases hfound
      cases hlater
    · exact h.features hj
  · intro j task hj hne
    rcases of_getElem?_put hi hj with ⟨rfl, -⟩ | ⟨-, hj⟩
    · exact absurd hholder hne
    · exact h.outside hj hne
  · exact h.claims.trans (.of_eq (filterMap_set_of_eq hi hclaim).symm)
  · intro hnone
    exact absurd (hholder.symm.trans hnone) (by simp)
  · intro j hj
    obtain rfl : i = j := Option.some.inj (hholder.symm.trans hj)
    refine ⟨deps, later, served, getElem?_put_self hi _, horder, ?_, hnext _ hmid⟩
    exact (List.Perm.of_eq (filterMap_set_of_eq hi hanswer)).trans hanswers

/-- A task takes the lock, and begins with the upkeep as those before it have left it. -/
theorem acquire {f : Features} (h : Orderly u t) (hi : t.tasks[i]? = some ⟨deps, .waiting f⟩)
    (hfree : t.holder = none) :
    Orderly u { t.put i ⟨deps, .comparing f⟩ with holder := some i, order := t.order ++ [deps] } := by
  obtain ⟨hanswers, hupkeep⟩ := h.free hfree
  have hclaims : ((t.put i ⟨deps, .comparing f⟩).tasks.filterMap Task.claim?).Perm
      (t.tasks.filterMap Task.claim? ++ [deps]) := filterMap_set_perm hi rfl rfl
  have hsame : (t.put i ⟨deps, .comparing f⟩).answers = t.answers := filterMap_set_of_eq hi rfl
  refine ⟨?_, ?_, ?_, ?_, ?_⟩
  · intro j deps' f' hj
    rcases of_getElem?_put hi hj with ⟨-, hfound⟩ | ⟨-, hj⟩
    · cases hfound
    · exact h.features hj
  · intro j task hj hne
    rcases of_getElem?_put hi hj with ⟨rfl, -⟩ | ⟨-, hj⟩
    · exact absurd rfl hne
    · exact h.outside hj (by simp [hfree])
  · exact (h.claims.append_right [deps]).trans hclaims.symm
  · intro hnone
    cases hnone
  · intro j hj
    cases hj
    refine ⟨deps, .comparing f, t.order, getElem?_put_self hi _, rfl, ?_, ?_⟩
    · exact (List.Perm.of_eq hsame).trans hanswers
    · rw [h.features hi, ← h.sameTerms.features, ← hupkeep]
      exact .comparing

/-- A task lets go of the lock, and its answer is that of its alignment. -/
theorem release {answer : Except Failure Bool} (h : Orderly u t)
    (hi : t.tasks[i]? = some ⟨deps, .releasing answer⟩) :
    Orderly u { t.put i ⟨deps, .done answer⟩ with holder := none } := by
  have hholder := h.holder_of_inside hi rfl
  obtain ⟨deps', progress', served, hi', horder, hanswers, hmid⟩ := h.held hholder
  rw [hi] at hi'
  cases hi'
  have hclaims : (t.put i ⟨deps, .done answer⟩).tasks.filterMap Task.claim? = t.tasks.filterMap Task.claim? :=
    filterMap_set_of_eq hi rfl
  have hput : (t.put i ⟨deps, .done answer⟩).answers.Perm (t.answers ++ [answer]) := filterMap_set_perm hi rfl rfl
  refine ⟨?_, ?_, ?_, ?_, ?_⟩
  · intro j deps' f' hj
    rcases of_getElem?_put hi hj with ⟨-, hfound⟩ | ⟨-, hj⟩
    · cases hfound
    · exact h.features hj
  · intro j task hj _
    rcases of_getElem?_put hi hj with ⟨-, rfl⟩ | ⟨hji, hj⟩
    · rfl
    · refine h.outside hj ?_
      rw [hholder]
      exact fun hij => hji (Option.some.inj hij).symm
  · exact h.claims.trans (.of_eq hclaims.symm)
  · intro _
    have hserved := Upkeep.serve_concat u served deps
    rw [hmid.align_eq, ← horder] at hserved
    change (t.put i ⟨deps, .done answer⟩).answers.Perm (u.serve t.order).value.results ∧
      t.upkeep = (u.serve t.order).value.upkeep
    rw [hserved]
    exact ⟨hput.trans (hanswers.append_right _), rfl⟩
  · intro j hj
    cases hj

theorem proceed (h : Orderly u t) (hi : t.tasks[i]? = some ⟨deps, progress⟩) :
    Orderly u (t.proceed i deps progress) := by
  cases progress with
  | starting =>
    refine h.put_outside hi (h.ne_holder_of_not_inside hi rfl) rfl rfl rfl fun f hf => ?_
    cases hf
    exact h.sameTerms.features deps
  | waiting f =>
    by_cases hfree : t.holder = none
    · rw [Traffic.proceed, if_pos hfree]
      exact h.acquire hi hfree
    · rw [Traffic.proceed, if_neg hfree]
      exact h
  | comparing f =>
    by_cases hphase : t.upkeep.phase = .configured f
    · rw [Traffic.proceed, if_pos hphase]
      exact h.put_inside hi rfl fun _ hmid => hmid.compare_alike hphase
    · rw [Traffic.proceed, if_neg hphase]
      exact h.put_inside hi rfl fun _ hmid => hmid.compare_other hphase
  | building f =>
    simp only [Traffic.proceed, standardRules_eq]
    exact h.put_inside hi rfl fun _ hmid => hmid.build
  | installing f rules => exact h.put_inside hi rfl fun _ hmid => hmid.install
  | recording f => exact h.put_inside hi rfl fun _ hmid => hmid.record
  | releasing answer => exact h.release hi
  | done answer => exact h

end Orderly

/-! ### Runs -/

theorem run_append (t : Traffic) (before after : List Act) : t.run (before ++ after) = (t.run before).run after :=
  List.foldl_append

theorem orderly_next {u : Upkeep} {t : Traffic} (h : Orderly u t) (act : Act) : Orderly u (t.next act) := by
  cases act with
  | task i =>
    rw [next]
    cases htask : t.tasks[i]? with
    | some task => exact h.proceed htask
    | none => exact h
  | reader i => exact ⟨h.features, h.outside, h.claims, h.free, h.held⟩

theorem orderly_run {u : Upkeep} {t : Traffic} (h : Orderly u t) (acts : List Act) : Orderly u (t.run acts) := by
  induction acts generalizing t with
  | nil => exact h
  | cons act acts ih => exact ih (orderly_next h act)

theorem orderly_start (u : Upkeep) (demands : List Dependencies) (lookups : List (Option String)) :
    Orderly u (start u demands lookups) := by
  have hstarting : ∀ {i : Nat} {task}, (start u demands lookups).tasks[i]? = some task → task.progress = .starting := by
    intro i task htask
    obtain ⟨deps, -, rfl⟩ := List.mem_map.mp (List.mem_of_getElem? htask)
    rfl
  have hclaims : (start u demands lookups).tasks.filterMap Task.claim? = [] := by
    simp [start, Task.claim?]
  have hanswers : (start u demands lookups).answers = [] := by
    simp [start, answers, Task.answer?]
  refine ⟨?_, ?_, ?_, ?_, ?_⟩
  · intro i deps f htask
    cases hstarting htask
  · intro i task htask _
    rw [hstarting htask]
    rfl
  · rw [hclaims]
    exact .nil
  · intro _
    rw [hanswers]
    exact ⟨.nil, rfl⟩
  · intro i hholder
    cases hholder

/-- A task keeps to its dependencies. -/
theorem deps_next (t : Traffic) (act : Act) : (t.next act).tasks.map Task.deps = t.tasks.map Task.deps := by
  cases act with
  | reader i => rfl
  | task i =>
    rw [next]
    cases htask : t.tasks[i]? with
    | none => rfl
    | some task =>
      rcases proceed_cases t i task.deps task.progress with ⟨hstays, -⟩ | ⟨later, _, _, _, -, hgoes⟩
      · exact congrArg (fun t : Traffic => t.tasks.map Task.deps) hstays
      · simp only [hgoes]
        rw [← List.filterMap_eq_map]
        exact filterMap_set_of_eq htask rfl

theorem deps_run (t : Traffic) (acts : List Act) : (t.run acts).tasks.map Task.deps = t.tasks.map Task.deps := by
  induction acts generalizing t with
  | nil => rfl
  | cons act acts ih => exact (ih (t.next act)).trans (deps_next t act)

end Traffic
end Routing
end SandboxRouting
