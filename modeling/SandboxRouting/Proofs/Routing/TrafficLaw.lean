import Mathlib.Data.List.Basic
import SandboxRouting.Proofs.Routing.Traffic

/-! # What tasks and readers come to

Concurrent alignments rebuild the rules as often as the features change along the order in which the tasks
got the lock, and a reader finds the list that was installed when it took it: the first one, or the
complete one for the features of one of the tasks (`trafficLaw_of_start`).

Nobody has to wait forever: as long as not all tasks have an answer, one of them can go on, so from
everywhere some run leads to all answers (`exists_run_finished`). -/

namespace SandboxRouting
namespace Routing

/-- The list that a reader has taken. -/
def Reading.taken? : Reading → Option Snapshot
  | starting => none
  | holding list => some list
  | done list _ => some list

namespace Traffic
variable {u : Upkeep} {t : Traffic}

/-! ### The installed list -/

theorem Orderly.router (h : Orderly u t) :
    t.upkeep.router = u.router ∨
      ∃ deps ∈ t.order, t.upkeep.router.rules = rulesFor (u.features deps) u.packageRoot := by
  have hserved := u.router_serve t.order
  cases hholder : t.holder with
  | none => rwa [(h.free hholder).2]
  | some i =>
    obtain ⟨deps, _, served, -, horder, -, hmid⟩ := h.held hholder
    rcases hmid.router with hrouter | hrouter <;> rw [hrouter]
    · rcases u.router_serve served with hfirst | ⟨old, hold, hrules⟩
      · exact Or.inl hfirst
      · exact Or.inr ⟨old, by simp [horder, hold], hrules⟩
    · rwa [horder, Upkeep.serve_concat, ← horder] at hserved

theorem Orderly.mem_deps {deps : Dependencies} (h : Orderly u t) (hdeps : deps ∈ t.order) :
    deps ∈ t.tasks.map Task.deps := by
  obtain ⟨task, htask, hclaim⟩ := List.mem_filterMap.mp (h.claims.mem_iff.mp hdeps)
  obtain ⟨deps', progress⟩ := task
  have hsame : deps' = deps := by
    cases progress <;> simp [Task.claim?] at hclaim <;> exact hclaim
  exact List.mem_map.mpr ⟨_, htask, hsame⟩

/-! ### Readers -/

theorem readers_proceed (t : Traffic) (i : Nat) (deps : Dependencies) (progress : Progress) :
    (t.proceed i deps progress).readers = t.readers := by
  rcases proceed_cases t i deps progress with ⟨hstays, -⟩ | ⟨later, _, _, _, -, hgoes⟩
  · rw [hstays]
  · rw [hgoes]
    rfl

theorem readers_next_task (t : Traffic) (i : Nat) : (t.next (.task i)).readers = t.readers := by
  rw [next]
  cases t.tasks[i]? with
  | none => rfl
  | some task => exact readers_proceed t i _ _

/-- Only its own steps change a reader. -/
theorem getElem?_readers_next {act : Act} {i : Nat} (h : act ≠ .reader i) :
    (t.next act).readers[i]? = t.readers[i]? := by
  cases act with
  | task j => rw [readers_next_task]
  | reader j =>
    have hji : j ≠ i := fun hji => h (congrArg Act.reader hji)
    simp [next, hji]

theorem getElem?_readers_next_self (t : Traffic) (i : Nat) :
    (t.next (.reader i)).readers[i]? = t.readers[i]?.map t.read := by
  simp [next]

theorem getElem?_readers_run {i : Nat} {acts : List Act} (h : .reader i ∉ acts) :
    (t.run acts).readers[i]? = t.readers[i]? := by
  induction acts generalizing t with
  | nil => rfl
  | cons act rest ih =>
    obtain ⟨hact, hrest⟩ := List.ne_and_not_mem_of_not_mem_cons h
    exact (ih hrest).trans (getElem?_readers_next hact.symm)

/-- A step leaves a reader as it is, or is a step of the reader. -/
theorem mem_readers_next {act : Act} {r : Reader} (h : r ∈ (t.next act).readers) :
    ∃ old ∈ t.readers, r = old ∨ r = t.read old := by
  obtain ⟨i, hi⟩ := List.mem_iff_getElem?.mp h
  by_cases hact : act = .reader i
  · rw [hact, getElem?_readers_next_self] at hi
    obtain ⟨old, hold, rfl⟩ := Option.map_eq_some_iff.mp hi
    exact ⟨old, List.mem_of_getElem? hold, Or.inr rfl⟩
  · rw [getElem?_readers_next hact] at hi
    exact ⟨r, List.mem_of_getElem? hi, Or.inl rfl⟩

/-- The list was installed at some moment of the run. -/
def WasInstalled (t : Traffic) (acts : List Act) (list : Snapshot) : Prop :=
  ∃ before after, acts = before ++ after ∧ list = (t.run before).upkeep.router.snapshot

theorem WasInstalled.append {acts : List Act} {list : Snapshot} (h : WasInstalled t acts list) (more : List Act) :
    WasInstalled t (acts ++ more) list := by
  obtain ⟨before, after, rfl, hlist⟩ := h
  exact ⟨before, after ++ more, List.append_assoc _ _ _, hlist⟩

/-- A list that was installed is the very first one, or the complete one for the features of one of the tasks. -/
theorem WasInstalled.cases {acts : List Act} {list : Snapshot} (h : WasInstalled t acts list)
    (hstart : Orderly t.upkeep t) :
    list = t.upkeep.router.snapshot ∨
      ∃ task ∈ t.tasks, standardRules (t.upkeep.features task.deps) t.upkeep.packageRoot = .ok list.rules := by
  obtain ⟨before, after, -, rfl⟩ := h
  have horderly := orderly_run hstart before
  rcases horderly.router with hfirst | ⟨deps, hmem, hrules⟩
  · exact Or.inl (by rw [hfirst])
  · obtain ⟨task, htask, rfl⟩ := List.mem_map.mp (deps_run t before ▸ horderly.mem_deps hmem)
    exact Or.inr ⟨task, htask, (standardRules_eq _ _).trans (congrArg Except.ok hrules.symm)⟩

/-- What a reader holds was installed at some moment, and its answer is the one that this list gives. -/
structure ReadsWell (t : Traffic) (acts : List Act) (preset : String) (r : Reader) : Prop where
  taken : ∀ {list}, r.reading.taken? = some list → WasInstalled t acts list
  answered : ∀ {list answer}, r.reading = .done list answer →
    ∃ path, r.path? = some path ∧ answer = list.chainFor preset path

theorem ReadsWell.append {acts : List Act} {preset : String} {r : Reader} (h : ReadsWell t acts preset r)
    (more : List Act) : ReadsWell t (acts ++ more) preset r :=
  ⟨fun htaken => (h.taken htaken).append more, h.answered⟩

theorem ReadsWell.read {acts : List Act} {r : Reader} (h : ReadsWell t acts (t.run acts).upkeep.router.name r) :
    ReadsWell t acts (t.run acts).upkeep.router.name ((t.run acts).read r) := by
  obtain ⟨path?, reading⟩ := r
  cases reading with
  | starting =>
    refine ⟨fun htaken => ?_, fun hdone => ?_⟩
    · cases htaken
      exact ⟨acts, [], by simp, rfl⟩
    · cases hdone
  | holding list =>
    cases path? with
    | none => exact h
    | some path =>
      refine ⟨fun htaken => h.taken htaken, fun hdone => ?_⟩
      cases hdone
      exact ⟨path, rfl, rfl⟩
  | done list answer => exact h

theorem readsWell_run (h : Orderly u t) (hstart : ∀ r ∈ t.readers, r.reading = .starting) (acts : List Act) :
    ∀ r ∈ (t.run acts).readers, ReadsWell t acts u.router.name r := by
  induction acts using List.reverseRecOn with
  | nil =>
    intro r hr
    have hreading : r.reading = .starting := hstart r hr
    refine ⟨fun htaken => ?_, fun hdone => ?_⟩
    · rw [hreading] at htaken
      cases htaken
    · rw [hreading] at hdone
      cases hdone
  | append_singleton before act ih =>
    intro r hr
    rw [run_append] at hr
    obtain ⟨old, hold, hr⟩ := mem_readers_next hr
    have hwell := ih old hold
    rw [← (orderly_run h before).sameTerms.name] at hwell ⊢
    rcases hr with rfl | rfl
    · exact hwell.append [act]
    · exact hwell.read.append [act]

/-! ### Nobody waits forever -/

def Finished (t : Traffic) : Prop := ∀ task ∈ t.tasks, task.answer?.isSome = true

def stepsLeft : List Task → Nat
  | [] => 0
  | task :: rest => task.progress.left + stepsLeft rest

theorem stepsLeft_set {l : List Task} {i : Nat} {task : Task} (h : l[i]? = some task) (later : Task) :
    stepsLeft (l.set i later) + task.progress.left = stepsLeft l + later.progress.left := by
  induction l generalizing i with
  | nil => cases h
  | cons first rest ih =>
    cases i with
    | zero =>
      cases h
      simp only [List.set_cons_zero, stepsLeft]
      omega
    | succ i =>
      have hrest := ih h
      simp only [List.set_cons_succ, stepsLeft]
      omega

/-- A task that is not done brings its own end nearer, unless it waits for the lock. -/
theorem stepsLeft_proceed {i : Nat} {deps : Dependencies} {progress : Progress}
    (hi : t.tasks[i]? = some ⟨deps, progress⟩) (hleft : progress.left ≠ 0)
    (hgo : ∀ f, progress = .waiting f → t.holder = none) :
    stepsLeft (t.proceed i deps progress).tasks < stepsLeft t.tasks := by
  rcases proceed_cases t i deps progress with ⟨-, hdone | ⟨hlocked, f, hwaits⟩⟩ | ⟨later, _, _, _, hless, hgoes⟩
  · exact absurd hdone hleft
  · exact absurd (hgo f hwaits) hlocked
  · have hset := stepsLeft_set hi ⟨deps, later⟩
    rw [hgoes]
    simp only [put] at hset ⊢
    omega

/-- Who has the lock can go on, and without it anybody can. -/
theorem exists_next_of_not_finished (h : Orderly u t) (hnot : ¬ t.Finished) :
    ∃ i, stepsLeft (t.next (.task i)).tasks < stepsLeft t.tasks := by
  have hgo : ∀ {i : Nat} {deps : Dependencies} {progress : Progress}, t.tasks[i]? = some ⟨deps, progress⟩ →
      progress.left ≠ 0 → (∀ f, progress = .waiting f → t.holder = none) →
      stepsLeft (t.next (.task i)).tasks < stepsLeft t.tasks := by
    intro i deps progress hi hleft hwaiting
    rw [next, hi]
    exact stepsLeft_proceed hi hleft hwaiting
  cases hholder : t.holder with
  | some i =>
    obtain ⟨deps, progress, _, hi, -, -, hmid⟩ := h.held hholder
    have hin := hmid.inside
    refine ⟨i, hgo hi ?_ ?_⟩
    · cases progress <;> simp [Progress.left, Progress.inside] at hin ⊢
    · rintro f rfl
      cases hin
  | none =>
    simp only [Finished, not_forall] at hnot
    obtain ⟨⟨deps, progress⟩, htask, hanswer⟩ := hnot
    obtain ⟨i, hi⟩ := List.mem_iff_getElem?.mp htask
    refine ⟨i, hgo hi ?_ fun _ _ => hholder⟩
    cases progress with
    | done answer => exact absurd rfl hanswer
    | _ => simp [Progress.left]

/-- From everywhere some run leads to all answers. -/
theorem exists_run_finished (h : Orderly u t) : ∃ acts, (t.run acts).Finished := by
  induction hn : stepsLeft t.tasks using Nat.strongRecOn generalizing t with
  | ind n ih =>
    by_cases hfinished : t.Finished
    · exact ⟨[], hfinished⟩
    · obtain ⟨i, hless⟩ := exists_next_of_not_finished h hfinished
      obtain ⟨acts, hacts⟩ := ih _ (hn ▸ hless) (orderly_next h _) rfl
      exact ⟨.task i :: acts, hacts⟩

/-! ### While nobody has the lock -/

namespace Orderly

theorem counted (h : Orderly u t) (hfree : t.holder = none) :
    t.answers.countP saysRebuilt = u.phase.turns (t.order.map u.features) ∧
      t.upkeep.router.changes = u.router.changes + t.answers.countP saysRebuilt ∧
      t.upkeep.router.generation = u.router.generation + .ofNat (t.answers.countP saysRebuilt) := by
  obtain ⟨hanswers, hupkeep⟩ := h.free hfree
  have hcount := (hanswers.countP_eq saysRebuilt).trans (u.countP_results _)
  have hchanges : t.upkeep.router.changes = u.router.changes + t.answers.countP saysRebuilt := by
    rw [hupkeep, Upkeep.changes_serve, hcount]
  refine ⟨hcount, hchanges, ?_⟩
  rw [Router.generation, hchanges, UInt64.ofNat_add]
  rfl

theorem current (h : Orderly u t) (hcurrent : u.Current) (hfree : t.holder = none) {f : Features}
    (hf : t.upkeep.phase = .configured f) : standardRules f u.packageRoot = .ok t.upkeep.router.rules := by
  have hterms := h.sameTerms
  rw [(h.free hfree).2] at hf hterms ⊢
  rw [← hterms.packageRoot]
  exact hcurrent.serve _ f hf

theorem free_of_finished (h : Orderly u t) (hfinished : t.Finished) : t.holder = none := by
  by_contra hholder
  obtain ⟨i, hi⟩ := Option.ne_none_iff_exists'.mp hholder
  obtain ⟨deps, progress, _, htask, -, -, hmid⟩ := h.held hi
  have hanswer := hfinished _ (List.mem_of_getElem? htask)
  rw [Task.answer?_of_inside hmid.inside] at hanswer
  cases hanswer

/-- Each task has had the lock once. -/
theorem perm_of_finished (h : Orderly u t) (hfinished : t.Finished) : t.order.Perm (t.tasks.map Task.deps) := by
  refine h.claims.trans (.of_eq (List.filterMap_eq_map_iff_forall_eq_some.mpr fun task htask => ?_))
  have hanswer := hfinished task htask
  obtain ⟨deps, progress⟩ := task
  cases progress with
  | done answer => rfl
  | _ => cases hanswer

theorem answer?_of_finished (h : Orderly u t) (hfinished : t.Finished) {task : Task} (htask : task ∈ t.tasks) :
    ∃ rebuilt, task.answer? = some (.ok rebuilt) := by
  obtain ⟨answer, hanswer⟩ := Option.isSome_iff_exists.mp (hfinished task htask)
  have hmem : answer ∈ t.answers := List.mem_filterMap.mpr ⟨task, htask, hanswer⟩
  have hserved := (h.free (h.free_of_finished hfinished)).1.mem_iff.mp hmem
  obtain ⟨rebuilt, rfl⟩ := Upkeep.ok_of_mem_results hserved
  exact ⟨rebuilt, hanswer⟩

theorem turns_of_alike {f : Features} (h : Orderly u t) (hfinished : t.Finished) (hne : t.tasks ≠ [])
    (halike : ∀ task ∈ t.tasks, u.features task.deps = f) :
    u.phase.turns (t.order.map u.features) = if u.phase = .configured f then 0 else 1 := by
  have hperm := h.perm_of_finished hfinished
  refine Phase.turns_of_alike ?_ fun g hg => ?_
  · intro hnil
    rw [List.map_eq_nil_iff.mp hnil] at hperm
    exact hne (List.map_eq_nil_iff.mp (List.nil_perm.mp hperm))
  · obtain ⟨deps, hdeps, rfl⟩ := List.mem_map.mp hg
    obtain ⟨task, htask, rfl⟩ := List.mem_map.mp (hperm.mem_iff.mp hdeps)
    exact halike task htask

theorem counted_of_alike {s : Traffic} {acts : List Act} {f : Features} (h : Orderly s.upkeep (s.run acts))
    (hne : s.tasks ≠ []) (halike : ∀ task ∈ s.tasks, s.upkeep.features task.deps = f)
    (hfinished : (s.run acts).Finished) :
    (s.run acts).answers.countP saysRebuilt = (if s.upkeep.phase = .configured f then 0 else 1) ∧
      (s.run acts).upkeep.router.changes =
        s.upkeep.router.changes + if s.upkeep.phase = .configured f then 0 else 1 := by
  obtain ⟨hcount, hchanges, -⟩ := h.counted (h.free_of_finished hfinished)
  have hdeps := deps_run s acts
  have hturns := h.turns_of_alike hfinished (f := f) ?_ ?_
  · rw [hchanges, hcount, hturns]
    exact ⟨rfl, rfl⟩
  · intro hnil
    rw [hnil] at hdeps
    exact hne (List.map_eq_nil_iff.mp hdeps.symm)
  · intro task htask
    obtain ⟨first, hfirst, hsame⟩ := List.mem_map.mp (hdeps ▸ List.mem_map_of_mem htask)
    exact hsame ▸ halike first hfirst

end Orderly

/-! ### The law of traffic -/

/-- What tasks and readers have come to after a run that began with `s`. -/
structure TrafficLaw (s : Traffic) (acts : List Act) : Prop where
  /-- A reader takes the very first list, or the complete one for the features of one of the tasks. -/
  taken : ∀ r ∈ (s.run acts).readers, ∀ list, r.reading.taken? = some list →
    list = s.upkeep.router.snapshot ∨
      ∃ task ∈ s.tasks, standardRules (s.upkeep.features task.deps) s.upkeep.packageRoot = .ok list.rules
  /-- It answers as the router did at the moment at which the list was taken. -/
  answered : ∀ r ∈ (s.run acts).readers, ∀ list answer, r.reading = .done list answer →
    ∃ path before after, r.path? = some path ∧ acts = before ++ after ∧
      list = (s.run before).upkeep.router.snapshot ∧ answer = (s.run before).upkeep.router.chainFor path
  /-- A reader stays as it is until its own next step, whatever the others do. -/
  apart : ∀ i more, .reader i ∉ more → (s.run (acts ++ more)).readers[i]? = (s.run acts).readers[i]?
  /-- If it has not begun, it takes the installed list then. -/
  began : ∀ i path?, (s.run acts).readers[i]? = some ⟨path?, .starting⟩ →
    (s.run (acts ++ [.reader i])).readers[i]? = some ⟨path?, .holding (s.run acts).upkeep.router.snapshot⟩
  /-- If it has a list and looks up a path, it has its answer then. -/
  replied : ∀ i path list, (s.run acts).readers[i]? = some ⟨some path, .holding list⟩ →
    (s.run (acts ++ [.reader i])).readers[i]? =
      some ⟨some path, .done list (list.chainFor s.upkeep.router.name path)⟩
  /-- While nobody has the lock, the tasks so far are as if served one after the other. -/
  serial : (s.run acts).holder = none →
    (s.run acts).answers.Perm (s.upkeep.serve (s.run acts).order).value.results ∧
      (s.run acts).upkeep = (s.upkeep.serve (s.run acts).order).value.upkeep
  /-- While nobody has the lock, the list is the one for which the phase says that it was built. -/
  current : s.upkeep.Current → (s.run acts).holder = none → ∀ f, (s.run acts).upkeep.phase = .configured f →
    standardRules f s.upkeep.packageRoot = .ok (s.run acts).upkeep.router.rules
  /-- While nobody has the lock, the tasks that were told that they rebuilt the rules are as many as the
      changes of the list, and as the changes of the features in the order of the lock. -/
  counted : (s.run acts).holder = none →
    (s.run acts).answers.countP saysRebuilt =
        s.upkeep.phase.turns ((s.run acts).order.map s.upkeep.features) ∧
      (s.run acts).upkeep.router.changes =
        s.upkeep.router.changes + (s.run acts).answers.countP saysRebuilt ∧
      (s.run acts).upkeep.router.generation =
        s.upkeep.router.generation + .ofNat ((s.run acts).answers.countP saysRebuilt)
  /-- However far the tasks have come, they can all get their answers. -/
  live : ∃ more, (s.run (acts ++ more)).Finished
  /-- When they all have, nobody has the lock, each task has had it once, and nobody was refused. -/
  finished : (s.run acts).Finished →
    (s.run acts).holder = none ∧ (s.run acts).order.Perm (s.tasks.map Task.deps) ∧
      ∀ task ∈ (s.run acts).tasks, ∃ rebuilt, task.answer? = some (.ok rebuilt)
  /-- Where all tasks come to the same features, the rules are rebuilt once if they were not built for
      these, and otherwise never. -/
  alike : ∀ f, s.tasks ≠ [] → (∀ task ∈ s.tasks, s.upkeep.features task.deps = f) → (s.run acts).Finished →
    (s.run acts).answers.countP saysRebuilt = (if s.upkeep.phase = .configured f then 0 else 1) ∧
      (s.run acts).upkeep.router.changes =
        s.upkeep.router.changes + if s.upkeep.phase = .configured f then 0 else 1

theorem trafficLaw_of_start (u : Upkeep) (demands : List Dependencies) (lookups : List (Option String))
    (acts : List Act) : TrafficLaw (start u demands lookups) acts := by
  generalize hs : start u demands lookups = s
  have hupkeep : s.upkeep = u := by rw [← hs]; rfl
  have hstart : Orderly s.upkeep s := by rw [hupkeep, ← hs]; exact orderly_start u demands lookups
  have horderly := orderly_run hstart
  have hreaders := readsWell_run hstart (by simp [← hs, start]) acts
  refine ⟨fun r hr list htaken => ((hreaders r hr).taken htaken).cases hstart, ?_, ?_, ?_, ?_, (horderly acts).free,
    fun hcurrent hfree f hf => (horderly acts).current hcurrent hfree hf, (horderly acts).counted, ?_, ?_,
    fun f hne halike hfinished => (horderly acts).counted_of_alike hne halike hfinished⟩
  · intro r hr list answer hdone
    have htaken : r.reading.taken? = some list := by
      rw [hdone]
      rfl
    obtain ⟨before, after, hacts, rfl⟩ := (hreaders r hr).taken htaken
    obtain ⟨path, hpath, hanswer⟩ := (hreaders r hr).answered hdone
    refine ⟨path, before, after, hpath, hacts, rfl, ?_⟩
    rw [hanswer, ← (horderly before).sameTerms.name]
    rfl
  · intro i more hothers
    rw [run_append, getElem?_readers_run hothers]
  · intro i path? hreader
    rw [run_append]
    exact (getElem?_readers_next_self _ i).trans (by rw [hreader]; rfl)
  · intro i path list hreader
    rw [run_append, ← (horderly acts).sameTerms.name]
    exact (getElem?_readers_next_self _ i).trans (by rw [hreader]; rfl)
  · obtain ⟨more, hmore⟩ := exists_run_finished (horderly acts)
    exact ⟨more, by rwa [run_append]⟩
  · intro hfinished
    have hperm := (horderly acts).perm_of_finished hfinished
    exact ⟨(horderly acts).free_of_finished hfinished, hperm.trans (.of_eq (deps_run s acts)),
      fun _ => (horderly acts).answer?_of_finished hfinished⟩

/-- An upkeep that nobody has aligned. -/
def unbuilt : Upkeep := ⟨.fresh "app" [], ⟨"react-dom", "16.9.0"⟩, "/node_modules", .uninitialized⟩

/-- Two tasks whose versions differ and whose features do not, and a reader. -/
def pair : Traffic :=
  start unbuilt [.ofList [("react-dom", "16.12.0")], .ofList [("react-dom", "17.0.1")]] [some "/src/App.jsx"]

/-- The second task overtakes the first one at the lock. The reader takes the list of before, and searches
    it when the next one is installed and the phase is not set yet. -/
def crossing : List Act :=
  [.task 0, .task 1, .task 1, .reader 0, .task 0, .task 1, .task 1, .task 1, .reader 0, .task 1, .task 1, .task 0,
    .task 0, .task 0]

theorem trafficLaw_of_crossing_tasks :
    (pair.run crossing).Finished ∧ (pair.run crossing).upkeep.router.changes = 1 ∧
      (pair.run crossing).answers.countP saysRebuilt = 1 ∧
      standardRules ⟨true⟩ "/node_modules" = .ok (pair.run crossing).upkeep.router.rules ∧
      (pair.run crossing).readers.map (fun r => r.reading.taken?.map Snapshot.changes) = [some 0] ∧
      (pair.run crossing).readers[0]? = some ⟨some "/src/App.jsx",
        .done unbuilt.router.snapshot (.error (.unrouted "app" "/src/App.jsx"))⟩ := by
  have hlaw : ∀ acts, TrafficLaw pair acts := trafficLaw_of_start unbuilt _ _
  have halike : ∀ task ∈ pair.tasks, pair.upkeep.features task.deps = ⟨true⟩ := by decide +kernel
  have hfinished : (pair.run crossing).Finished := by
    unfold Finished
    decide +kernel
  have hcurrent : pair.upkeep.Current := by
    intro f hf
    cases hf
  obtain ⟨hfree, -, -⟩ := (hlaw crossing).finished hfinished
  obtain ⟨hcount, hchanges⟩ := (hlaw crossing).alike ⟨true⟩ (by decide +kernel) halike hfinished
  -- The reader is followed from its first step to its second, and on to the end.
  have hbegan := (hlaw (crossing.take 3)).began 0 (some "/src/App.jsx") rfl
  have hholding := (hlaw (crossing.take 4)).apart 0 [.task 0, .task 1, .task 1, .task 1] (by simp)
  have hreplied := (hlaw (crossing.take 8)).replied 0 "/src/App.jsx" _ (hholding.trans hbegan)
  have hdone := (hlaw (crossing.take 9)).apart 0 (crossing.drop 9) (by simp [crossing])
  have hrules := (hlaw crossing).current hcurrent hfree ⟨true⟩ (by decide +kernel)
  exact ⟨hfinished, hchanges, hcount, hrules, by decide +kernel, hdone.trans hreplied⟩

end Traffic
end Routing
end SandboxRouting
