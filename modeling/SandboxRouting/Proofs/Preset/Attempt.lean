import SandboxRouting.Proofs.Preset.Prepare

/-! # Attempts to bring up the bootstrap module

The bootstrap module is brought up again and again, by itself or while a host is prepared, and the settings
of the host may be others each time. An attempt may fail when the module is already on the host, or lose it.
Nothing but the module is left of an attempt either way (`modules_next`), and the module replaces itself. So
an attempt that nothing stands in the way of comes out as on a host without a history, whatever failed
before (`attemptLaw_of_no_modules`). -/

namespace SandboxRouting
namespace Sandbox

/-! ### Histories of a host -/

/-- All about a host but its modules and its notes of calls. -/
structure Settings where
  dependencies : Dependencies
  nativeReload : Bool
  failing : Option Stage
  complaint : String
  dropsModules : Bool

namespace Host

/-- The host with other settings. -/
def withSettings (h : Host) (s : Settings) : Host where
  dependencies := s.dependencies
  nativeReload := s.nativeReload
  failing := s.failing
  complaint := s.complaint
  dropsModules := s.dropsModules
  modules := h.modules
  calls := h.calls

/-- A host with the same settings on which nothing happened so far. -/
def renewed (h : Host) : Host := { h with modules := [], calls := [] }

/-- What happens on a host that keeps one path for the bootstrap module. -/
inductive Act (path : String) where
  | inject (gate : Gate)
  | prepare (p : Preset) (hpath : p.config.bootstrapPath = path)
  | set (settings : Settings)

variable {path : String}

def next (h : Host) : Act path → Host
  | .inject gate => (Bootstrap.inject ⟨gate, path⟩ h).value.host
  | .prepare p _ => (p.prepare h).value.host
  | .set settings => h.withSettings settings

def run (h : Host) (acts : List (Act path)) : Host := acts.foldl next h

theorem run_append (h : Host) (before after : List (Act path)) : h.run (before ++ after) = (h.run before).run after :=
  List.foldl_append

/-! ### Modules -/

/-- There is no module but the bootstrap module at the path. -/
def HasAtMost (path : String) (h : Host) : Prop := h.modules = [] ∨ h.modules = [⟨path, bootstrapCode⟩]

theorem HasAtMost.filter_modules {h : Host} (hm : h.HasAtMost path) : h.modules.filter (·.path != path) = [] := by
  rcases hm with hm | hm <;> simp [hm]

theorem HasAtMost.modules_addModule {h : Host} (hm : h.HasAtMost path) :
    (h.addModule ⟨path, bootstrapCode⟩).modules =
      if h.dropsModules then h.modules else [⟨path, bootstrapCode⟩] := by
  cases hdrops : h.dropsModules with
  | true => simp [addModule, note, hdrops]
  | false => simp [addModule, note, hdrops, hm.filter_modules]

end Host

theorem Bootstrap.modules_bringUp (b : Bootstrap) (h : Host) :
    (b.bringUp h).2.modules = (h.addModule b.entryModule).modules := by
  unfold bringUp
  simp only
  split
  · rfl
  · split
    · rfl
    · split <;> rfl

theorem Bootstrap.modules_inject (b : Bootstrap) (h : Host) :
    (b.inject h).value.host.modules =
      if b.gate.passes h.dependencies then (h.addModule b.entryModule).modules else h.modules := by
  unfold inject
  split
  · exact b.modules_bringUp h
  · rfl

end Sandbox
open Sandbox

theorem Preset.modules_prepare (p : Preset) (h : Host) :
    (p.prepare h).value.host.modules = (p.config.bootstrap.inject h).value.host.modules := by
  unfold prepare
  simp only
  split
  · rfl
  · simp only
    split <;> rfl

namespace Sandbox.Host
variable {path : String}

theorem HasAtMost.modules_inject {h : Host} (hm : h.HasAtMost path) (gate : Gate) :
    (Bootstrap.inject ⟨gate, path⟩ h).value.host.modules = h.modules ∨
      (Bootstrap.inject ⟨gate, path⟩ h).value.host.modules = [⟨path, bootstrapCode⟩] := by
  rw [Bootstrap.modules_inject]
  split
  · have hadded := hm.modules_addModule
    split at hadded
    · exact Or.inl hadded
    · exact Or.inr hadded
  · exact Or.inl rfl

/-- An act leaves the modules as they are, or it leaves the bootstrap module. -/
theorem HasAtMost.modules_next {h : Host} (hm : h.HasAtMost path) (act : Act path) :
    (h.next act).modules = h.modules ∨ (h.next act).modules = [⟨path, bootstrapCode⟩] := by
  cases act with
  | inject gate => exact hm.modules_inject gate
  | prepare p hpath =>
    rw [next, Preset.modules_prepare]
    subst hpath
    exact hm.modules_inject p.config.refreshGate
  | set settings => exact Or.inl rfl

theorem HasAtMost.next {h : Host} (hm : h.HasAtMost path) (act : Act path) : (h.next act).HasAtMost path := by
  rcases hm.modules_next act with hnext | hnext
  · rwa [HasAtMost, hnext]
  · exact Or.inr hnext

theorem HasAtMost.run {h : Host} (hm : h.HasAtMost path) (acts : List (Act path)) : (h.run acts).HasAtMost path := by
  induction acts generalizing h with
  | nil => exact hm
  | cons act acts ih => exact ih (hm.next act)

theorem modules_run_of_eq {h : Host} (hm : h.modules = [⟨path, bootstrapCode⟩]) (acts : List (Act path)) :
    (h.run acts).modules = [⟨path, bootstrapCode⟩] := by
  induction acts generalizing h with
  | nil => exact hm
  | cons act acts ih =>
    refine ih ?_
    rcases HasAtMost.modules_next (Or.inr hm) act with hnext | hnext
    · exact hnext.trans hm
    · exact hnext

/-! ### Attempts that nothing stands in the way of -/

/-- No step fails, and no module gets lost. -/
structure Unhindered (h : Host) : Prop where
  failing : h.failing = none
  dropsModules : h.dropsModules = false

theorem Unhindered.inject {h : Host} (hu : h.Unhindered) (hm : h.HasAtMost path) {gate : Gate}
    (hgate : gate.passes h.dependencies = true) :
    (Bootstrap.inject ⟨gate, path⟩ h).value =
      ⟨.ok true, { h with
        modules := [⟨path, bootstrapCode⟩]
        calls := h.calls ++ Bootstrap.callsTo ⟨gate, path⟩ .evaluate }⟩ := by
  have hadded : h.addModule (Bootstrap.entryModule ⟨gate, path⟩) =
      { h with modules := [⟨path, bootstrapCode⟩], calls := h.calls ++ [.addModule path] } := by
    simp [addModule, note, Bootstrap.entryModule, hu.dropsModules, hm.filter_modules]
  rw [Bootstrap.inject_of_passes hgate, Bootstrap.bringUp]
  simp [hadded, lookup, outcome, note, hu.failing, Bootstrap.callsTo, Evaluation.afresh, Except.map]

theorem Unhindered.prepare {h : Host} (hu : h.Unhindered) {p : Preset} (hm : h.HasAtMost p.config.bootstrapPath)
    (hgate : p.config.refreshGate.passes h.dependencies = true) :
    (p.prepare h).value =
      ⟨.ok ⟨true, p.needsRemount h⟩, { h with
        modules := [⟨p.config.bootstrapPath, bootstrapCode⟩]
        calls := h.calls ++ Preset.Report.calls ⟨true, p.needsRemount h⟩ p.config.bootstrap }⟩ := by
  have hinject : (p.config.bootstrap.inject h).value = _ := hu.inject hm hgate
  have hneeds := Preset.needsRemount_congr (p := p) (p.config.bootstrap.sameSettings_inject h)
  rw [hinject] at hneeds
  simp only [Preset.prepare, hinject, hneeds]
  cases p.needsRemount h with
  | true => simp [note, Preset.Report.calls, Config.bootstrap]
  | false => simp [Preset.Report.calls, Config.bootstrap]

/-! ### The law of attempts -/

/-- What a history leaves on a host, and how the next attempt comes out there. -/
structure AttemptLaw (h : Host) (acts : List (Act path)) : Prop where
  /-- There is never a module but the one bootstrap module. -/
  modules : (h.run acts).modules = [] ∨ (h.run acts).modules = [⟨path, bootstrapCode⟩]
  /-- Once it is there it stays, whatever fails or gets lost. -/
  stays : ∀ before after, acts = before ++ after → (h.run before).modules ≠ [] →
    (h.run acts).modules = (h.run before).modules
  /-- With nothing in its way, an attempt succeeds as it would on a host without a history. -/
  inject : ∀ gate : Gate, gate.passes (h.run acts).dependencies = true → (h.run acts).Unhindered →
    (Bootstrap.inject ⟨gate, path⟩ (h.run acts)).value.result = .ok true ∧
    (Bootstrap.inject ⟨gate, path⟩ (h.run acts).renewed).value.result = .ok true ∧
    (Bootstrap.inject ⟨gate, path⟩ (h.run acts)).value.host.calls =
      (h.run acts).calls ++ (Bootstrap.inject ⟨gate, path⟩ (h.run acts).renewed).value.host.calls ∧
    (Bootstrap.inject ⟨gate, path⟩ (h.run acts)).value.host.modules =
      (Bootstrap.inject ⟨gate, path⟩ (h.run acts).renewed).value.host.modules
  /-- And so does a preparation. -/
  prepare : ∀ p : Preset, p.config.bootstrapPath = path → p.config.refreshGate.passes (h.run acts).dependencies = true →
    (h.run acts).Unhindered →
    (∃ report, report.injected = true ∧ (p.prepare (h.run acts)).value.result = .ok report ∧
      (p.prepare (h.run acts).renewed).value.result = .ok report) ∧
    (p.prepare (h.run acts)).value.host.calls =
      (h.run acts).calls ++ (p.prepare (h.run acts).renewed).value.host.calls ∧
    (p.prepare (h.run acts)).value.host.modules = (p.prepare (h.run acts).renewed).value.host.modules

/-- Every history of a host that had no modules keeps to the law. -/
theorem attemptLaw_of_no_modules (path : String) (h : Host) (acts : List (Act path)) (hnone : h.modules = []) :
    AttemptLaw h acts where
  modules := HasAtMost.run (Or.inl hnone) acts
  stays before after hacts hne := by
    have hbefore : (h.run before).modules = [⟨path, bootstrapCode⟩] :=
      (HasAtMost.run (Or.inl hnone) before).resolve_left hne
    rw [hacts, run_append, hbefore]
    exact modules_run_of_eq hbefore after
  inject gate hgate hu := by
    have hrenewed : (h.run acts).renewed.Unhindered := ⟨hu.failing, hu.dropsModules⟩
    rw [hu.inject (HasAtMost.run (Or.inl hnone) acts) hgate, hrenewed.inject (Or.inl rfl) hgate]
    exact ⟨rfl, rfl, rfl, rfl⟩
  prepare p hpath hgate hu := by
    subst hpath
    have hrenewed : (h.run acts).renewed.Unhindered := ⟨hu.failing, hu.dropsModules⟩
    rw [hu.prepare (HasAtMost.run (Or.inl hnone) acts) hgate, hrenewed.prepare (Or.inl rfl) hgate]
    exact ⟨⟨_, rfl, rfl, rfl⟩, rfl, rfl⟩

/-- An evaluation that fails leaves the module behind, so it is not missed when modules get lost; and the attempt
    after the host was mended is asked for every step once more. -/
theorem attemptLaw_of_mended_host :
    ∃ (h : Host) (before after : List (Act "/boot.js")),
      h = { Host.ofDependencies [("react-dom", "16.12.0")] with failing := some .evaluate, complaint := "boom" } ∧
      before = [.inject ⟨"react-dom", "16.9.0"⟩] ∧
      after = [.set ⟨.ofList [("react-dom", "16.12.0")], false, some .transpile, "boom", true⟩,
        .inject ⟨"react-dom", "16.9.0"⟩, .set ⟨.ofList [("react-dom", "16.12.0")], false, none, "", false⟩] ∧
      (h.run before).modules = [⟨"/boot.js", bootstrapCode⟩] ∧
      (h.run (before ++ after)).modules = [⟨"/boot.js", bootstrapCode⟩] ∧
      (Bootstrap.inject ⟨⟨"react-dom", "16.9.0"⟩, "/boot.js"⟩ (h.run (before ++ after))).value.result = .ok true := by
  refine ⟨_, _, _, rfl, rfl, rfl, ?_, ?_, ?_⟩
  · decide +kernel
  · refine ((attemptLaw_of_no_modules _ _ _ rfl).stays _ _ rfl ?_).trans ?_ <;> decide +kernel
  · exact ((attemptLaw_of_no_modules _ _ _ rfl).inject _ (by decide +kernel) ⟨rfl, rfl⟩).1

end Sandbox.Host
end SandboxRouting
