import SandboxRouting.Sandbox.Bootstrap

/-! # What bringing up a module does to a host

A host takes part in bringing up a module with its modules and its notes of calls. All else about it is
a setting, and no step changes a setting, whether the module is brought up or not.

The settings and the modules tell the step that fails (`setback?`). The host is asked for all steps up
to that one and for none behind it (`bringUp_cases`). -/

namespace SandboxRouting
namespace Sandbox

/-- A host with some dependencies and nothing else on it. -/
def Host.ofDependencies (entries : List (String × String)) : Host :=
  { Host.blank with dependencies := .ofList entries }

/-! ### Settings -/

/-- Two hosts differ at most in their modules and in what they were asked to do. -/
structure SameSettings (h t : Host) : Prop where
  dependencies : t.dependencies = h.dependencies
  nativeReload : t.nativeReload = h.nativeReload
  failing : t.failing = h.failing
  complaint : t.complaint = h.complaint
  dropsModules : t.dropsModules = h.dropsModules

namespace SameSettings
variable {h t u : Host}

theorem refl (h : Host) : SameSettings h h := ⟨rfl, rfl, rfl, rfl, rfl⟩

theorem trans (h₁ : SameSettings h t) (h₂ : SameSettings t u) : SameSettings h u where
  dependencies := h₂.dependencies.trans h₁.dependencies
  nativeReload := h₂.nativeReload.trans h₁.nativeReload
  failing := h₂.failing.trans h₁.failing
  complaint := h₂.complaint.trans h₁.complaint
  dropsModules := h₂.dropsModules.trans h₁.dropsModules

theorem note (hs : SameSettings h t) (c : Call) : SameSettings h (t.note c) :=
  hs.trans ⟨rfl, rfl, rfl, rfl, rfl⟩

theorem addModule (hs : SameSettings h t) (m : Module) : SameSettings h (t.addModule m) := by
  unfold Host.addModule
  simp only
  split
  · exact hs.note _
  · exact hs.trans ⟨rfl, rfl, rfl, rfl, rfl⟩

end SameSettings

namespace Bootstrap

theorem sameSettings_bringUp (b : Bootstrap) (h : Host) : SameSettings h (b.bringUp h).2 := by
  have hadded := (SameSettings.refl h).addModule b.entryModule
  have htranspiled := (hadded.note (.setEntry b.path)).note (.transpile b.path)
  unfold bringUp
  simp only
  split
  · exact hadded
  · split
    · exact htranspiled
    · split
      · exact htranspiled.note _
      · exact htranspiled.note _

theorem sameSettings_inject (b : Bootstrap) (h : Host) : SameSettings h (b.inject h).value.host := by
  unfold inject
  split
  · exact sameSettings_bringUp b h
  · exact SameSettings.refl h

/-! ### Calls -/

/-- What a host is asked to do up to a step and with it. It looks up modules without a note. -/
def callsTo (b : Bootstrap) : Stage → List Call
  | .register => [.addModule b.path]
  | .transpile => [.addModule b.path, .setEntry b.path, .transpile b.path]
  | .evaluate => [.addModule b.path, .setEntry b.path, .transpile b.path, .evaluate true b.path]

/-- The step at which a host fails to bring up the module, and what it says then. A module that was
    dropped is missed where no other is at its path. -/
def setback? (b : Bootstrap) (h : Host) : Option (Stage × String) :=
  if h.failing = some .register then some (.register, h.complaint)
  else if h.dropsModules && !h.modules.any (·.path == b.path) then some (.register, "module not registered")
  else h.failing.map fun stage => (stage, h.complaint)

theorem calls_addModule (h : Host) (m : Module) : (h.addModule m).calls = h.calls ++ [.addModule m.path] := by
  unfold Host.addModule
  simp only
  split <;> rfl

theorem lookup_addModule (b : Bootstrap) (h : Host) :
    (h.addModule b.entryModule).lookup b.path =
      if h.failing = some .register then .error h.complaint
      else if h.dropsModules && !h.modules.any (·.path == b.path) then .error "module not registered"
      else .ok () := by
  cases hdrops : h.dropsModules with
  | true =>
    cases hany : h.modules.any (·.path == b.path) <;>
      simp [Host.addModule, Host.lookup, Host.note, entryModule, hdrops, hany]
  | false => simp [Host.addModule, Host.lookup, Host.note, entryModule, hdrops]

/-- The host is asked for everything up to the step at which it fails, or for everything. -/
theorem bringUp_cases (b : Bootstrap) (h : Host) :
    (∃ stage cause, b.setback? h = some (stage, cause) ∧
      (b.bringUp h).1 = .error (.notBroughtUp b.path stage cause) ∧
      (b.bringUp h).2.calls = h.calls ++ b.callsTo stage) ∨
    (b.setback? h = none ∧ (b.bringUp h).1 = .ok () ∧
      (b.bringUp h).2.calls = h.calls ++ b.callsTo .evaluate) := by
  have hcalls : (h.addModule b.entryModule).calls = h.calls ++ [.addModule b.path] := calls_addModule h _
  have hlookup := lookup_addModule b h
  obtain ⟨-, -, hfailing, hcomplaint, -⟩ := (SameSettings.refl h).addModule b.entryModule
  unfold bringUp setback?
  generalize h.addModule b.entryModule = added at hcalls hlookup hfailing hcomplaint
  simp only [hlookup, Host.outcome, Host.note, hfailing, hcomplaint]
  by_cases hregister : h.failing = some .register
  · left
    exact ⟨.register, h.complaint, by simp [hregister], by simp [hregister], by simp [hregister, hcalls, callsTo]⟩
  · cases hlost : h.dropsModules && !h.modules.any (·.path == b.path) with
    | true =>
      left
      exact ⟨.register, "module not registered", by simp [hregister], by simp [hregister],
        by simp [hregister, hcalls, callsTo]⟩
    | false =>
      cases hstage : h.failing with
      | none => simp [hcalls, callsTo, Evaluation.afresh]
      | some stage =>
        cases stage with
        | register => exact absurd hstage hregister
        | transpile => simp [hcalls, callsTo]
        | evaluate => simp [hcalls, callsTo, Evaluation.afresh]

theorem inject_of_passes {b : Bootstrap} {h : Host} (hgate : b.gate.passes h.dependencies = true) :
    (b.inject h).value = ⟨(b.bringUp h).1.map fun () => true, (b.bringUp h).2⟩ := by
  rw [inject, if_pos hgate]

theorem inject_of_not_passes {b : Bootstrap} {h : Host} (hgate : b.gate.passes h.dependencies = false) :
    (b.inject h).value = ⟨.ok false, h⟩ := by
  simp [inject, hgate]

theorem inject_of_setback {b : Bootstrap} {h : Host} {stage : Stage} {cause : String}
    (hgate : b.gate.passes h.dependencies = true) (hsetback : b.setback? h = some (stage, cause)) :
    (b.inject h).value.result = .error (.notBroughtUp b.path stage cause) ∧
      (b.inject h).value.host.calls = h.calls ++ b.callsTo stage := by
  rw [inject_of_passes hgate]
  rcases bringUp_cases b h with ⟨stage', cause', hother, hresult, hcalls⟩ | ⟨hnone, -, -⟩
  · obtain ⟨rfl, rfl⟩ : stage' = stage ∧ cause' = cause := by simpa [hother] using hsetback
    rw [hresult]
    exact ⟨rfl, hcalls⟩
  · rw [hnone] at hsetback
    cases hsetback

theorem inject_of_no_setback {b : Bootstrap} {h : Host} (hgate : b.gate.passes h.dependencies = true)
    (hsetback : b.setback? h = none) :
    (b.inject h).value.result = .ok true ∧ (b.inject h).value.host.calls = h.calls ++ b.callsTo .evaluate := by
  rw [inject_of_passes hgate]
  rcases bringUp_cases b h with ⟨stage, cause, hother, -, -⟩ | ⟨-, hresult, hcalls⟩
  · rw [hother] at hsetback
    cases hsetback
  · rw [hresult]
    exact ⟨rfl, hcalls⟩

/-- Where the bootstrap module cannot be brought up, the gate passes and the host fails at a step. -/
theorem inject_error {b : Bootstrap} {h : Host} {failure : Failure}
    (hfailed : (b.inject h).value.result = .error failure) :
    b.gate.passes h.dependencies = true ∧ ∃ stage cause, b.setback? h = some (stage, cause) ∧
      failure = .notBroughtUp b.path stage cause ∧ (b.inject h).value.host.calls = h.calls ++ b.callsTo stage := by
  cases hgate : b.gate.passes h.dependencies with
  | false =>
    rw [inject_of_not_passes hgate] at hfailed
    cases hfailed
  | true =>
    rcases hsetback : b.setback? h with _ | ⟨stage, cause⟩
    · rw [(inject_of_no_setback hgate hsetback).1] at hfailed
      cases hfailed
    · obtain ⟨hresult, hcalls⟩ := inject_of_setback hgate hsetback
      rw [hresult] at hfailed
      cases hfailed
      exact ⟨rfl, stage, cause, rfl, rfl, hcalls⟩

/-- Where nothing fails, the gate alone says whether the bootstrap module was brought up. -/
theorem inject_ok {b : Bootstrap} {h : Host} {injected : Bool} (hok : (b.inject h).value.result = .ok injected) :
    injected = b.gate.passes h.dependencies ∧ (injected = true → b.setback? h = none) ∧
      (b.inject h).value.host.calls = h.calls ++ if injected then b.callsTo .evaluate else [] := by
  cases hgate : b.gate.passes h.dependencies with
  | false =>
    rw [inject_of_not_passes hgate] at hok ⊢
    cases hok
    simp
  | true =>
    rcases hsetback : b.setback? h with _ | ⟨stage, cause⟩
    · obtain ⟨hresult, hcalls⟩ := inject_of_no_setback hgate hsetback
      rw [hresult] at hok
      cases hok
      exact ⟨rfl, fun _ => rfl, hcalls⟩
    · rw [(inject_of_setback hgate hsetback).1] at hok
      cases hok

end Bootstrap
end Sandbox
end SandboxRouting
