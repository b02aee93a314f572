import SandboxRouting.Proofs.Preset.Remount
import SandboxRouting.Proofs.Preset.Session

/-! # What preparing a host does

Before the modules of a project are evaluated, a host is asked to bring up the bootstrap module and may
be told to remount. It is told so after everything else and not at all where the bootstrap module could
not be brought up, and nothing is warned of that did not happen (`prepareLaw`). -/

namespace SandboxRouting
open Sandbox

/-! ### Warnings -/

def Event.warnings (events : List Event) : List Event := events.filter (·.level = .warn)

namespace Event

theorem warnings_append (events more : List Event) : warnings (events ++ more) = warnings events ++ warnings more :=
  List.filter_append _ _

theorem warnings_ofComparison (version minimum : String) : warnings (ofComparison version minimum) = [] := by
  unfold ofComparison
  split <;> rfl

end Event

theorem Gate.warnings_events (g : Gate) (deps : Dependencies) : Event.warnings (g.events deps) = [] := by
  unfold events
  split
  · rfl
  · exact Event.warnings_ofComparison _ _

theorem Sandbox.Bootstrap.warnings_inject (b : Bootstrap) (h : Host) : Event.warnings (b.inject h).events = [] := by
  unfold inject
  split
  · rw [Event.warnings_append, Gate.warnings_events]
    rfl
  · exact Gate.warnings_events _ _

namespace Preset

theorem warnings_remountEvents (p : Preset) (h : Host) :
    Event.warnings (p.remountEvents h) =
      if p.needsRemount h then [.remountForced p.config.frameworkPackage p.config.remountBelow] else [] := by
  unfold remountEvents
  cases hreload : h.nativeReload with
  | true => simp [needsRemount, hreload, Event.warnings]
  | false =>
    rw [if_neg Bool.false_ne_true, Event.warnings_append]
    have hforced : ∀ forced : Bool,
        Event.warnings (if forced then [.remountForced p.config.frameworkPackage p.config.remountBelow] else []) =
          if forced then [.remountForced p.config.frameworkPackage p.config.remountBelow] else [] := by
      intro forced
      cases forced <;> rfl
    rw [hforced]
    cases h.dependencies.get? p.config.frameworkPackage with
    | none => rfl
    | some version => rw [Event.warnings_ofComparison, List.nil_append]

/-! ### One preparation -/

theorem prepare_of_error {p : Preset} {h : Host} {failure : Failure}
    (hfailed : (p.config.bootstrap.inject h).value.result = .error failure) :
    p.prepare h =
      ⟨⟨.error failure, (p.config.bootstrap.inject h).value.host⟩, (p.config.bootstrap.inject h).events⟩ := by
  simp only [prepare, hfailed]

/-- The need to remount is told by the host as it was before, as the bootstrap module leaves its settings. -/
theorem prepare_of_ok {p : Preset} {h : Host} {injected : Bool}
    (hok : (p.config.bootstrap.inject h).value.result = .ok injected) :
    (p.prepare h).value.result = .ok ⟨injected, p.needsRemount h⟩ ∧
      (p.prepare h).value.host.calls = (p.config.bootstrap.inject h).value.host.calls ++
        (if p.needsRemount h then [.remountOnChange] else []) ∧
      Event.warnings (p.prepare h).events =
        if p.needsRemount h then [.remountForced p.config.frameworkPackage p.config.remountBelow] else [] := by
  have hneeds := needsRemount_congr (p := p) (p.config.bootstrap.sameSettings_inject h)
  simp only [prepare, hok, Event.warnings_append, Bootstrap.warnings_inject, warnings_remountEvents, hneeds,
    List.nil_append, and_true, true_and]
  cases p.needsRemount h with
  | true => rfl
  | false => simp

/-- A report says what the bootstrap module came to, and what was told of the host before. -/
theorem inject_of_report {p : Preset} {h : Host} {report : Report} (hok : (p.prepare h).value.result = .ok report) :
    (p.config.bootstrap.inject h).value.result = .ok report.injected ∧ p.needsRemount h = report.remounting := by
  cases hresult : (p.config.bootstrap.inject h).value.result with
  | error failure =>
    rw [prepare_of_error hresult] at hok
    cases hok
  | ok injected =>
    obtain rfl : ⟨injected, p.needsRemount h⟩ = report := Except.ok.inj ((prepare_of_ok hresult).1.symm.trans hok)
    exact ⟨rfl, rfl⟩

theorem injected_of_report {p : Preset} {h : Host} {report : Report} (hok : (p.prepare h).value.result = .ok report) :
    report.injected = p.config.refreshGate.passes h.dependencies :=
  (Bootstrap.inject_ok (inject_of_report hok).1).1

/-- What a host is asked to do when a preparation comes to the report. -/
def Report.calls (report : Report) (b : Bootstrap) : List Call :=
  (if report.injected then b.callsTo .evaluate else []) ++ if report.remounting then [.remountOnChange] else []

theorem calls_of_report {p : Preset} {h : Host} {report : Report} (hok : (p.prepare h).value.result = .ok report) :
    (p.prepare h).value.host.calls = h.calls ++ report.calls p.config.bootstrap := by
  obtain ⟨hinject, hneeds⟩ := inject_of_report hok
  obtain ⟨-, -, hbrought⟩ := Bootstrap.inject_ok hinject
  obtain ⟨-, hcalls, -⟩ := prepare_of_ok hinject
  rw [hcalls, hbrought, hneeds, List.append_assoc]
  rfl

theorem evaluate_mem_calls_iff (report : Report) (b : Bootstrap) :
    Call.evaluate true b.path ∈ report.calls b ↔ report.injected = true := by
  cases hinjected : report.injected <;> cases hremounting : report.remounting <;>
    simp [Report.calls, Bootstrap.callsTo, hinjected, hremounting]

/-! ### The law of preparations -/

/-- What preparing a host does, and what it leaves alone. -/
structure PrepareLaw (p : Preset) (h : Host) : Prop where
  /-- The phase, the rules and their count of changes stay, and so does the chain of every path. -/
  preset : (Session.next ⟨p, h⟩ .prepare).preset = p
  /-- The host keeps its dependencies and its other settings. -/
  settings : SameSettings h (p.prepare h).value.host
  /-- It fails exactly where refresh is usable and the host fails at a step. -/
  fails_iff : (∃ failure, (p.prepare h).value.result = .error failure) ↔
    p.config.refreshGate.passes h.dependencies = true ∧
      ∃ stage cause, p.config.bootstrap.setback? h = some (stage, cause)
  /-- Where the bootstrap module cannot be brought up, that is the failure. Nothing is asked of the host behind
      the step at which it fails, it is not told to remount, and there is no warning. -/
  failed : ∀ failure, (p.config.bootstrap.inject h).value.result = .error failure →
    (p.prepare h).value.result = .error failure ∧
    Event.warnings (p.prepare h).events = [] ∧
    ∃ stage cause, p.config.bootstrap.setback? h = some (stage, cause) ∧
      failure = .notBroughtUp p.config.bootstrapPath stage cause ∧
      (p.prepare h).value.host.calls = h.calls ++ p.config.bootstrap.callsTo stage ∧
      Call.remountOnChange ∉ p.config.bootstrap.callsTo stage
  /-- Otherwise the report says what was done. The host is asked for all that brings up the bootstrap module, or
      for nothing of it, and then told to remount or not, with a warning if it is told so. -/
  prepared : ∀ report, (p.prepare h).value.result = .ok report →
    (p.prepare h).value.host.calls = h.calls ++ report.calls p.config.bootstrap ∧
    (report.injected = true ↔ Call.evaluate true p.config.bootstrapPath ∈ report.calls p.config.bootstrap) ∧
    Event.warnings (p.prepare h).events =
      if report.remounting then [.remountForced p.config.frameworkPackage p.config.remountBelow] else []

theorem remountOnChange_not_mem_callsTo (b : Bootstrap) (stage : Stage) : Call.remountOnChange ∉ b.callsTo stage := by
  cases stage <;> simp [Bootstrap.callsTo]

theorem settings_prepare (p : Preset) (h : Host) : SameSettings h (p.prepare h).value.host := by
  have hinject := p.config.bootstrap.sameSettings_inject h
  unfold prepare
  simp only
  split
  · exact hinject
  · simp only
    split
    · exact hinject.note _
    · exact hinject

/-- Every preparation keeps to the law, whatever the preset went through and whatever the host is like. -/
theorem prepareLaw (p : Preset) (h : Host) : PrepareLaw p h where
  preset := rfl
  settings := settings_prepare p h
  fails_iff := by
    cases hresult : (p.config.bootstrap.inject h).value.result with
    | error failure =>
      obtain ⟨hgate, stage, cause, hsetback, -⟩ := Bootstrap.inject_error hresult
      refine iff_of_true ⟨failure, ?_⟩ ⟨hgate, stage, cause, hsetback⟩
      rw [prepare_of_error hresult]
    | ok injected =>
      obtain ⟨hgate, hsmooth, -⟩ := Bootstrap.inject_ok hresult
      refine iff_of_false ?_ ?_
      · rintro ⟨failure, hfailure⟩
        rw [(prepare_of_ok hresult).1] at hfailure
        cases hfailure
      · rintro ⟨hpasses, stage, cause, hsetback⟩
        rw [hsmooth (hgate.trans hpasses)] at hsetback
        cases hsetback
  failed failure hfailed := by
    obtain ⟨-, stage, cause, hsetback, hfailure, hcalls⟩ := Bootstrap.inject_error hfailed
    rw [prepare_of_error hfailed]
    exact ⟨rfl, Bootstrap.warnings_inject _ _, stage, cause, hsetback, hfailure, hcalls,
      remountOnChange_not_mem_callsTo _ _⟩
  prepared report hok := by
    obtain ⟨hinject, hneeds⟩ := inject_of_report hok
    obtain ⟨-, -, hwarnings⟩ := prepare_of_ok hinject
    exact ⟨calls_of_report hok, (evaluate_mem_calls_iff _ _).symm, hneeds ▸ hwarnings⟩

/-- A host that fails to transpile is not asked to evaluate; and one on which modules get lost can be told to
    remount, as it is asked for no module where the framework is too old for refresh. -/
theorem prepareLaw_of_failing_and_old_host :
    ((ofConfig .standard).prepare { Host.ofDependencies [("react-dom", "16.12.0")] with
        failing := some .transpile, complaint := "boom" }).value.host.calls =
      [.addModule "/node_modules/__csb/react-dom-entrypoint.js",
       .setEntry "/node_modules/__csb/react-dom-entrypoint.js",
       .transpile "/node_modules/__csb/react-dom-entrypoint.js"] ∧
    ((ofConfig .standard).prepare { Host.ofDependencies [("react-dom", "16.7.0")] with
        dropsModules := true }).value.host.calls = [.remountOnChange] := by
  constructor
  · have hfailed : ((ofConfig .standard).config.bootstrap.inject { Host.ofDependencies [("react-dom", "16.12.0")] with
        failing := some .transpile, complaint := "boom" }).value.result =
        .error (.notBroughtUp "/node_modules/__csb/react-dom-entrypoint.js" .transpile "boom") := by decide +kernel
    obtain ⟨-, -, stage, cause, -, hfailure, hcalls, -⟩ := (prepareLaw _ _).failed _ hfailed
    cases hfailure
    exact hcalls
  · have hok : ((ofConfig .standard).prepare { Host.ofDependencies [("react-dom", "16.7.0")] with
        dropsModules := true }).value.result = .ok ⟨false, true⟩ := by decide +kernel
    exact ((prepareLaw _ _).prepared _ hok).1

end Preset
end SandboxRouting
