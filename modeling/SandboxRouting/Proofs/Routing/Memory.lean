import Mathlib.Data.List.Perm.Subperm
import SandboxRouting.Proofs.Routing.Request
import SandboxRouting.Proofs.Routing.Upkeep
import SandboxRouting.Routing.Memory

/-! # Snapshots in memory

A list of which the place is known stays where it is and as it is, for a new list never comes to its place
(`vacant_ne`). So a snapshot goes on to tell what the router told when it was taken, and its place is that
of the installed list until the first change, and then never again, also if a later list holds the same
rules or if other places are used a second time.

The places of snapshots thereby tell the same as the counts of changes by which a router knows its lists. -/

namespace SandboxRouting
namespace Routing
namespace Memory
variable {m : Memory} {a : Allocator} {p : Place} {list rules : List Rule} {holder : Nat}

/-! ### Lists that are in use -/

theorem lookup_filter_fst {α β : Type} [BEq α] [LawfulBEq α] {key : α} {q : α → Bool} (h : q key = true)
    (l : List (α × β)) : (l.filter fun e => q e.1).lookup key = l.lookup key := by
  induction l with
  | nil => rfl
  | cons e rest ih =>
    obtain ⟨other, value⟩ := e
    rw [List.filter_cons, List.lookup_cons]
    cases hkey : key == other with
    | true =>
      have hq : q other = true := eq_of_beq hkey ▸ h
      simp [hq, List.lookup_cons, hkey]
    | false =>
      split
      · rw [List.lookup_cons, hkey, ih]
      · exact ih

/-- Every place that is known has its list. -/
def InUse (m : Memory) : Prop := ∀ p ∈ m.known, ∃ list, m.listAt p = some list

/-- The list that somebody keeps. -/
def listOf (m : Memory) (holder : Nat) : Option (List Rule) := (m.placeOf holder).bind m.listAt

theorem mem_of_listAt (h : m.listAt p = some list) : p ∈ m.lists.map (·.1) := by
  obtain ⟨before, after, hlists, -⟩ := List.lookup_eq_some_iff.mp h
  simp [hlists]

/-- A new list does not come to the place of another. -/
theorem vacant_ne (h : m.listAt p = some list) : m.vacant a ≠ p := by
  rintro rfl
  exact a.pick_notMem m.made (m.lists.map (·.1)) (mem_of_listAt h)

theorem mem_kept_of_placeOf (h : m.placeOf holder = some p) : p ∈ m.kept.map (·.2) := by
  obtain ⟨before, after, hkept, -⟩ := List.lookup_eq_some_iff.mp h
  simp [hkept]

theorem mem_known_of_placeOf (h : m.placeOf holder = some p) : p ∈ m.known :=
  List.mem_cons_of_mem _ (mem_kept_of_placeOf h)

theorem listAt_sweep (h : p ∈ m.known) : m.sweep.listAt p = m.listAt p :=
  lookup_filter_fst (List.contains_iff_mem.mpr h) m.lists

/-! ### New lists -/

theorem installed_put : (m.put a rules).installed = m.vacant a := rfl

theorem placeOf_put : (m.put a rules).placeOf holder = m.placeOf holder := rfl

theorem listAt_put (h : p ∈ (m.make a rules).known) :
    (m.put a rules).listAt p = if p = m.vacant a then some rules else m.listAt p := by
  rw [put, listAt_sweep h, listAt, make, List.lookup_cons]
  by_cases hp : p = m.vacant a
  · simp [hp]
  · have hne : (p == m.vacant a) = false := by simpa using hp
    rw [hne, if_neg hp]
    rfl

theorem listAt_installed_put : (m.put a rules).listAt (m.put a rules).installed = some rules :=
  (listAt_put List.mem_cons_self).trans (if_pos rfl)

theorem listAt_put_of_mem_kept (hkept : p ∈ m.kept.map (·.2)) (h : m.listAt p = some list) :
    (m.put a rules).listAt p = some list := by
  rw [listAt_put (List.mem_cons_of_mem _ hkept), if_neg (vacant_ne h).symm, h]

theorem InUse.put (h : m.InUse) : (m.put a rules).InUse := by
  intro p hp
  rcases List.mem_cons.mp hp with rfl | hkept
  · exact ⟨rules, listAt_installed_put⟩
  · obtain ⟨list, hlist⟩ := h p (List.mem_cons_of_mem _ hkept)
    exact ⟨list, listAt_put_of_mem_kept hkept hlist⟩

/-! ### Those who keep snapshots -/

/-- No list is made from one memory to the other, and no place comes to be known. -/
structure Steady (m m' : Memory) : Prop where
  installed : m'.installed = m.installed
  known : ∀ {p}, p ∈ m'.known → p ∈ m.known
  listAt : ∀ {p}, p ∈ m'.known → m'.listAt p = m.listAt p

theorem Steady.refl (m : Memory) : Steady m m := ⟨rfl, id, fun _ => rfl⟩

theorem Steady.inUse {m' : Memory} (hsteady : Steady m m') (h : m.InUse) : m'.InUse := by
  intro p hp
  rw [hsteady.listAt hp]
  exact h p (hsteady.known hp)

theorem steady_sweep {kept : List (Nat × Place)} (h : ∀ e ∈ kept, e.2 ∈ m.known) :
    Steady m (sweep { m with kept }) where
  installed := rfl
  known hp := by
    rcases List.mem_cons.mp hp with rfl | hp
    · exact List.mem_cons_self
    · obtain ⟨e, he, rfl⟩ := List.mem_map.mp hp
      exact h e he
  listAt hp := listAt_sweep hp

theorem mem_known_of_mem_filter {q : Nat × Place → Bool} {e : Nat × Place} (h : e ∈ m.kept.filter q) :
    e.2 ∈ m.known :=
  List.mem_cons_of_mem _ (List.mem_map_of_mem (List.mem_filter.mp h).1)

theorem steady_keep (m : Memory) (holder : Nat) : Steady m (m.keep holder) := by
  refine steady_sweep fun e he => ?_
  rcases List.mem_cons.mp he with rfl | he
  · exact List.mem_cons_self
  · exact mem_known_of_mem_filter he

theorem steady_release (m : Memory) (holder : Nat) : Steady m (m.release holder) :=
  steady_sweep fun _ he => mem_known_of_mem_filter he

theorem placeOf_keep : (m.keep holder).placeOf holder = some m.installed := List.lookup_cons_self

theorem placeOf_keep_of_ne {other : Nat} (h : other ≠ holder) :
    (m.keep other).placeOf holder = m.placeOf holder := by
  have hne : (holder == other) = false := by simpa using h.symm
  refine Eq.trans ?_ (lookup_filter_fst (q := (· != other)) (by simpa using h.symm) m.kept)
  rw [placeOf, keep, sweep, List.lookup_cons, hne]

theorem placeOf_release_of_ne {other : Nat} (h : other ≠ holder) :
    (m.release other).placeOf holder = m.placeOf holder :=
  lookup_filter_fst (q := (· != other)) (by simpa using h.symm) m.kept

/-! ### Requests -/

section
variable {request : Request}

theorem receive_of_base (h : request.base? = some rules) : m.receive a request = m.put a rules := by
  cases request with
  | replace drafts =>
    cases hbuild : drafts.mapM Rule.Draft.build with
    | ok built =>
      rw [Request.base?_of_mapM_build hbuild, Option.some_inj] at h
      rw [receive, hbuild, h]
    | error failure =>
      rw [Request.base?_of_mapM_build_error hbuild] at h
      cases h
  | clear =>
    cases h
    rfl
  | _ => cases h

theorem receive_of_added {rule : Rule} (h : request.added? = some rule) :
    m.receive a request = m.put a (m.current ++ [rule]) := by
  cases request with
  | append draft =>
    cases hbuild : draft.build with
    | ok built =>
      rw [Request.added?_of_build hbuild, Option.some_inj] at h
      rw [receive, hbuild, h]
    | error failure =>
      rw [Request.added?_of_build_error hbuild] at h
      cases h
  | _ => cases h

theorem receive_of_none (hbase : request.base? = none) (hadded : request.added? = none) :
    m.receive a request = m := by
  cases request with
  | append draft =>
    cases hbuild : draft.build with
    | ok built =>
      rw [Request.added?_of_build hbuild] at hadded
      cases hadded
    | error failure => rw [receive, hbuild]
  | replace drafts =>
    cases hbuild : drafts.mapM Rule.Draft.build with
    | ok built =>
      rw [Request.base?_of_mapM_build hbuild] at hbase
      cases hbase
    | error failure => rw [receive, hbuild]
  | clear => cases hbase
  | _ => rfl

end
end Memory

namespace SharedUpkeep
variable (a : Allocator) {k : SharedUpkeep} {errand : Errand} {holder : Nat} {p : Place} {list : List Rule}

/-- The errand is for a change of the list of rules, and the change was made. -/
def alters (k : SharedUpkeep) : Errand → Bool
  | .align deps => k.upkeep.rebuilds (.align deps)
  | .request request => k.upkeep.router.alters request
  | _ => false

/-- How many errands of a run changed the list. -/
def alterations (a : Allocator) (k : SharedUpkeep) : List Errand → Nat
  | [] => 0
  | errand :: rest => (k.alters errand).toNat + (k.next a errand).alterations a rest

theorem run_cons (errand : Errand) (rest : List Errand) :
    k.run a (errand :: rest) = (k.next a errand).run a rest := rfl

/-- The list in memory is the one of the router, and every place that is known has its list. -/
structure Sound (k : SharedUpkeep) : Prop where
  inUse : k.memory.InUse
  installed : k.memory.listAt k.memory.installed = some k.upkeep.router.rules

theorem Sound.current (h : k.Sound) : k.memory.current = k.upkeep.router.rules := by
  rw [Memory.current, h.installed]
  rfl

theorem sound_start (a : Allocator) (name : String) (extensions : List String) (gate : Gate) (packageRoot : String) :
    (start a name extensions gate packageRoot).Sound := by
  have hlist : (start a name extensions gate packageRoot).memory.listAt (a.pick 0 []) = some [] := List.lookup_cons_self
  refine ⟨fun p hp => ⟨[], ?_⟩, hlist⟩
  rw [List.mem_singleton.mp hp]
  exact hlist

/-! ### One errand -/

/-- An errand that alters the list puts a new one into memory. All others leave the router and the lists as they
    are, and only those who keep or release a snapshot change what they keep themselves. -/
theorem next_cases (h : k.Sound) (errand : Errand) :
    (k.alters errand = true ∧ ∃ rules, (k.next a errand).upkeep.router = k.upkeep.router.install rules ∧
      (k.next a errand).memory = k.memory.put a rules) ∨
    (k.alters errand = false ∧ (k.next a errand).upkeep.router = k.upkeep.router ∧
      Memory.Steady k.memory (k.next a errand).memory ∧
      ∀ holder, errand ≠ .keep holder → errand ≠ .release holder →
        (k.next a errand).memory.placeOf holder = k.memory.placeOf holder) := by
  cases errand with
  | align deps =>
    rcases k.upkeep.align_cases deps with ⟨hphase, halign⟩ | ⟨hphase, halign⟩
    · have hmemory : (k.next a (.align deps)).memory = k.memory := by simp [next, hphase]
      refine Or.inr ⟨by simp [alters, Upkeep.rebuilds, halign], by simp [next, halign], ?_, fun _ _ _ => ?_⟩ <;>
        rw [hmemory]
      exact .refl _
    · refine Or.inl ⟨by simp [alters, Upkeep.rebuilds, halign],
        rulesFor (k.upkeep.features deps) k.upkeep.packageRoot, by simp [next, halign, Upkeep.rebuilt], ?_⟩
      simp [next, hphase, standardRules_eq]
  | request request =>
    rcases k.upkeep.router.next_cases request with
      ⟨halters, rules, hnext, hbase | ⟨-, rule, hadded, rfl⟩⟩ | ⟨halters, hnext, hbase, hadded⟩
    · exact Or.inl ⟨halters, rules, hnext, Memory.receive_of_base hbase⟩
    · refine Or.inl ⟨halters, _, hnext, ?_⟩
      rw [← h.current]
      exact Memory.receive_of_added hadded
    · have hmemory : (k.next a (.request request)).memory = k.memory := Memory.receive_of_none hbase hadded
      refine Or.inr ⟨halters, hnext, ?_, fun _ _ _ => ?_⟩ <;> rw [hmemory]
      exact .refl _
  | keep who =>
    refine Or.inr ⟨rfl, rfl, Memory.steady_keep _ who, fun holder hkeep _ => Memory.placeOf_keep_of_ne ?_⟩
    rintro rfl
    exact hkeep rfl
  | release who =>
    refine Or.inr ⟨rfl, rfl, Memory.steady_release _ who, fun holder _ hrelease => Memory.placeOf_release_of_ne ?_⟩
    rintro rfl
    exact hrelease rfl

theorem changes_next (h : k.Sound) (errand : Errand) :
    (k.next a errand).upkeep.router.changes = k.upkeep.router.changes + (k.alters errand).toNat := by
  rcases next_cases a h errand with ⟨halters, rules, hrouter, -⟩ | ⟨halters, hrouter, -⟩ <;> rw [hrouter, halters]
  · exact Router.changes_install _ rules
  · rfl

theorem Sound.next (h : k.Sound) (errand : Errand) : (k.next a errand).Sound := by
  rcases next_cases a h errand with ⟨-, rules, hrouter, hmemory⟩ | ⟨-, hrouter, hsteady, -⟩
  · refine ⟨?_, ?_⟩ <;> rw [hmemory]
    · exact h.inUse.put
    · rw [Memory.listAt_installed_put, hrouter, Router.rules_install]
  · refine ⟨hsteady.inUse h.inUse, ?_⟩
    rw [hsteady.listAt List.mem_cons_self, hsteady.installed, hrouter]
    exact h.installed

/-- Somebody keeps the list that stands at a place. -/
structure Keeps (k : SharedUpkeep) (holder : Nat) (p : Place) (list : List Rule) : Prop where
  place : k.memory.placeOf holder = some p
  list : k.memory.listAt p = some list

theorem Keeps.next (hkeeps : k.Keeps holder p list) (h : k.Sound) (hkeep : errand ≠ .keep holder)
    (hrelease : errand ≠ .release holder) : (k.next a errand).Keeps holder p list := by
  rcases next_cases a h errand with ⟨-, rules, -, hmemory⟩ | ⟨-, -, hsteady, hplaces⟩
  · refine ⟨?_, ?_⟩ <;> rw [hmemory]
    · rw [Memory.placeOf_put, hkeeps.place]
    · exact Memory.listAt_put_of_mem_kept (Memory.mem_kept_of_placeOf hkeeps.place) hkeeps.list
  · have hplace : (k.next a errand).memory.placeOf holder = some p := (hplaces holder hkeep hrelease).trans hkeeps.place
    refine ⟨hplace, ?_⟩
    rw [hsteady.listAt (Memory.mem_known_of_placeOf hplace), hkeeps.list]

/-- The installed list is no longer at a place that somebody keeps as soon as it is altered, and does not come back. -/
theorem installed_next_iff (hkeeps : k.Keeps holder p list) (h : k.Sound) :
    (k.next a errand).memory.installed = p ↔ k.memory.installed = p ∧ k.alters errand = false := by
  rcases next_cases a h errand with ⟨halters, rules, -, hmemory⟩ | ⟨halters, -, hsteady, -⟩
  · rw [hmemory, halters, Memory.installed_put]
    simp [Memory.vacant_ne hkeeps.list]
  · rw [hsteady.installed, halters]
    simp

/-! ### Runs -/

theorem sound_run (h : k.Sound) (errands : List Errand) : (k.run a errands).Sound := by
  induction errands generalizing k with
  | nil => exact h
  | cons errand rest ih => exact ih (h.next a errand)

theorem changes_run (h : k.Sound) (errands : List Errand) :
    (k.run a errands).upkeep.router.changes = k.upkeep.router.changes + k.alterations a errands := by
  induction errands generalizing k with
  | nil => rfl
  | cons errand rest ih => rw [run_cons, ih (h.next a errand), changes_next a h, alterations, Nat.add_assoc]

/-- What somebody keeps stays where it is, and is the installed list until the first alteration. -/
theorem keeps_run (hkeeps : k.Keeps holder p list) (h : k.Sound) {errands : List Errand}
    (hkeep : .keep holder ∉ errands) (hrelease : .release holder ∉ errands) :
    (k.run a errands).Keeps holder p list ∧
      ((k.run a errands).memory.installed = p ↔ k.memory.installed = p ∧ k.alterations a errands = 0) := by
  induction errands generalizing k with
  | nil => exact ⟨hkeeps, by simp [run, alterations]⟩
  | cons errand rest ih =>
    obtain ⟨hne, hkeep⟩ := List.ne_and_not_mem_of_not_mem_cons hkeep
    obtain ⟨hne', hrelease⟩ := List.ne_and_not_mem_of_not_mem_cons hrelease
    obtain ⟨hlast, hinstalled⟩ := ih (hkeeps.next a h hne.symm hne'.symm) (h.next a errand) hkeep hrelease
    refine ⟨hlast, hinstalled.trans ?_⟩
    rw [installed_next_iff a hkeeps h, alterations, Nat.add_eq_zero_iff, Bool.toNat_eq_zero, and_assoc]

/-! ### The law of snapshots -/

/-- What has become of the snapshot that somebody took from a router under upkeep and kept. -/
structure SnapshotLaw (a : Allocator) (k : SharedUpkeep) (holder : Nat) (after : List Errand) : Prop where
  /-- The list that he keeps has the same length, the same rules of it take every path, and the chain of the first
      one is what the router answered when the list was taken. -/
  kept : ∃ list, (k.run a (.keep holder :: after)).memory.listOf holder = some list ∧
    list.length = k.upkeep.router.rules.length ∧ (∀ path, takers list path = takers k.upkeep.router.rules path) ∧
    ∀ path, (firstRule? list path).map (·.chain) = (k.upkeep.router.chainFor path).toOption
  /-- The list of the router stands at the installed place. -/
  installed : (k.run a (.keep holder :: after)).memory.listAt (k.run a (.keep holder :: after)).memory.installed =
    some (k.run a (.keep holder :: after)).upkeep.router.rules
  /-- His list is the installed one, and not another that holds the same, exactly if nothing was altered since. -/
  same : (k.run a (.keep holder :: after)).memory.placeOf holder =
      some (k.run a (.keep holder :: after)).memory.installed ↔
    (k.next a (.keep holder)).alterations a after = 0
  /-- The router tells the same by its counts of changes. -/
  told : (k.run a (.keep holder :: after)).upkeep.router.holds k.upkeep.router.snapshot = true ↔
    (k.next a (.keep holder)).alterations a after = 0

/-- A snapshot that is taken at any moment keeps to the law as long as it is kept, however places are chosen. -/
theorem snapshotLaw_of_start (a : Allocator) (name : String) (extensions : List String) (gate : Gate)
    (packageRoot : String) (before : List Errand) {holder : Nat} {after : List Errand} (hkeep : .keep holder ∉ after)
    (hrelease : .release holder ∉ after) :
    SnapshotLaw a ((start a name extensions gate packageRoot).run a before) holder after := by
  have hsound := sound_run a (sound_start a name extensions gate packageRoot) before
  generalize (start a name extensions gate packageRoot).run a before = k at hsound
  have htaken : (k.next a (.keep holder)).Keeps holder k.memory.installed k.upkeep.router.rules := by
    refine ⟨Memory.placeOf_keep, ?_⟩
    rw [← hsound.installed]
    exact (Memory.steady_keep k.memory holder).listAt List.mem_cons_self
  obtain ⟨hkept, hinstalled⟩ := keeps_run a htaken (hsound.next a (.keep holder)) hkeep hrelease
  have hchanges := changes_run a (hsound.next a (.keep holder)) after
  refine ⟨⟨k.upkeep.router.rules, ?_, rfl, fun _ => rfl, fun path => ?_⟩,
    (sound_run a hsound (.keep holder :: after)).installed, ?_, ?_⟩
  · rw [Memory.listOf, run_cons, hkept.place]
    exact hkept.list
  · rw [Router.chainFor]
    cases firstRule? k.upkeep.router.rules path <;> rfl
  · rw [run_cons, hkept.place, Option.some_inj, eq_comm, hinstalled]
    exact and_iff_right rfl
  · have hstays : (k.next a (.keep holder)).upkeep = k.upkeep := rfl
    rw [hstays] at hchanges
    rw [run_cons, Router.holds, hchanges]
    simp [Router.snapshot]

/-! ### Places that are used again -/

/-- Takes the lowest place that is not in use. -/
def lowest : Allocator where
  pick _ used := ((List.range (used.length + 1)).find? (· ∉ used)).getD 0
  pick_notMem made used := by
    cases hfind : (List.range (used.length + 1)).find? (· ∉ used) with
    | some p => simpa using List.find?_some hfind
    | none =>
      -- More places were tried than are in use.
      have hall : List.range (used.length + 1) ⊆ used := fun p hp => by
        simpa using List.find?_eq_none.mp hfind p hp
      have hlength := (List.nodup_range.subperm hall).length_le
      rw [List.length_range] at hlength
      omega

/-- Refresh becomes usable again after it was not, so the rules are what they were. Their list is another one for
    somebody who kept the first, and would have come to the same place if nobody had. An empty list that is cleared
    is another one, too. -/
theorem snapshotLaw_of_flipped_features :
    ∃ empty aligned : SharedUpkeep, ∃ usable : Dependencies, usable = .ofList [("react-dom", "16.12.0")] ∧
      empty = start lowest "app" [] ⟨"react-dom", "16.9.0"⟩ "/node_modules" ∧
      aligned = empty.run lowest [.align usable] ∧
      (aligned.run lowest [.keep 0, .align .empty, .align usable]).upkeep.router.rules = aligned.upkeep.router.rules ∧
      (aligned.run lowest [.keep 0, .align .empty, .align usable]).memory.placeOf 0 ≠
        some (aligned.run lowest [.keep 0, .align .empty, .align usable]).memory.installed ∧
      (aligned.run lowest [.align .empty, .align usable]).memory.installed = aligned.memory.installed ∧
      (empty.run lowest [.keep 0, .request .clear]).upkeep.router.rules = empty.upkeep.router.rules ∧
      (empty.run lowest [.keep 0, .request .clear]).memory.placeOf 0 ≠
        some (empty.run lowest [.keep 0, .request .clear]).memory.installed := by
  refine ⟨_, _, _, rfl, rfl, rfl, ?_, fun hsame => ?_, by decide +kernel, rfl, fun hsame => ?_⟩
  · have hline : Upkeep.InLine ⟨.fresh "app" [], ⟨"react-dom", "16.9.0"⟩, "/node_modules", .uninitialized⟩ := rfl
    exact hline.rules_align_back _ _
  · have hlaw : SnapshotLaw lowest _ 0 [.align .empty, .align (.ofList [("react-dom", "16.12.0")])] :=
      snapshotLaw_of_start lowest "app" [] ⟨"react-dom", "16.9.0"⟩ "/node_modules"
        [.align (.ofList [("react-dom", "16.12.0")])] (by simp) (by simp)
    have hnone := hlaw.same.mp hsame
    revert hnone
    decide +kernel
  · have hlaw : SnapshotLaw lowest _ 0 [.request .clear] :=
      snapshotLaw_of_start lowest "app" [] ⟨"react-dom", "16.9.0"⟩ "/node_modules" [] (by simp) (by simp)
    have hnone := hlaw.same.mp hsame
    revert hnone
    decide +kernel

end SharedUpkeep
end Routing
end SandboxRouting
