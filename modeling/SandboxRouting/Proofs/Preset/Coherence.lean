import SandboxRouting.Proofs.Dependency.Threshold
import SandboxRouting.Proofs.Preset.Prepare

/-! # Thresholds that go together

Three features hang on the version of the framework. Refresh is usable from one version on, the runtime of
refresh is added to the dependencies from a second one on, and modules are remounted on change below a third
one. Each of the three thresholds is a text of its own, and nothing checks them against each other.

They go together if the first is at or above both others (`Config.Coherent`). Then refresh is never usable
without its runtime, and a host on which it is usable is never told to remount (`usableLaw_of_coherent`). A
text may be a range on either side of a comparison, so this rests on comparisons being transitive over texts
and not only over versions. -/

namespace SandboxRouting

namespace Config

/-- From the version at which refresh is usable, its runtime is added and modules are not remounted. -/
structure Coherent (c : Config) : Prop where
  augment : Version.satisfies c.refreshMinimum c.augmentMinimum = true
  remount : Version.satisfies c.refreshMinimum c.remountBelow = true

instance (c : Config) : Decidable c.Coherent :=
  decidable_of_iff (Version.satisfies c.refreshMinimum c.augmentMinimum = true ∧
    Version.satisfies c.refreshMinimum c.remountBelow = true)
    ⟨fun ⟨haugment, hremount⟩ => ⟨haugment, hremount⟩, fun h => ⟨h.augment, h.remount⟩⟩

/-- The thresholds where nothing else is said go together. -/
theorem coherent_standard : standard.Coherent := by decide +kernel

variable {c : Config} {deps : Dependencies}

theorem Coherent.augments (hc : c.Coherent) (hgate : c.refreshGate.passes deps = true) :
    c.supplement.gate.passes deps = true := Gate.passes_of_lower hc.augment hgate

end Config

namespace Preset
open Sandbox

theorem needsRemount_eq_false {p : Preset} {h : Host} {version : String}
    (hversion : h.dependencies.get? p.config.frameworkPackage = some version)
    (hrecent : Version.satisfies version p.config.remountBelow = true) : p.needsRemount h = false := by
  simp [needsRemount, hversion, hrecent]

theorem needsRemount_of_coherent {p : Preset} {h : Host} (hc : p.config.Coherent)
    (hgate : p.config.refreshGate.passes h.dependencies = true) : p.needsRemount h = false := by
  obtain ⟨version, hversion, hrefresh⟩ := Gate.passes_iff.mp hgate
  exact needsRemount_eq_false hversion (Version.satisfies_trans hrefresh hc.remount)

/-- A host that needs no remount is not told to remount, whether the preparation succeeds or fails. -/
theorem calls_of_not_needsRemount {p : Preset} {h : Host} (hneeds : p.needsRemount h = false) :
    ∃ log, (p.prepare h).value.host.calls = h.calls ++ log ∧ Call.remountOnChange ∉ log := by
  cases hresult : (p.config.bootstrap.inject h).value.result with
  | error failure =>
    obtain ⟨-, stage, cause, -, -, hcalls⟩ := Bootstrap.inject_error hresult
    refine ⟨p.config.bootstrap.callsTo stage, ?_, remountOnChange_not_mem_callsTo _ _⟩
    rw [prepare_of_error hresult]
    exact hcalls
  | ok injected =>
    obtain ⟨hok, -, -⟩ := prepare_of_ok hresult
    refine ⟨_, calls_of_report hok, ?_⟩
    cases injected <;> simp [Report.calls, Bootstrap.callsTo, hneeds]

end Preset

namespace Session
open Routing Sandbox

/-- What holds of a session while refresh is usable on its host. -/
structure UsableLaw (c : Config) (s : Session) : Prop where
  /-- The runtime of refresh is to be installed, at its pinned version. -/
  runtime : (s.preset.toInstall s.host.dependencies).value.get? c.runtimePackage = some c.runtimeVersion
  /-- An alignment leaves the rules with refresh handling. -/
  rules : standardRules ⟨true⟩ c.packageRoot = .ok (s.next .align).preset.router.rules
  /-- If a preparation comes to a report, then it reports a bootstrap module and no remount. The host was asked for
      all that brings up the module, and for nothing else. -/
  report : ∀ report, (s.preset.prepare s.host).value.result = .ok report → report = ⟨true, false⟩ ∧
    (s.next .prepare).host.calls = s.host.calls ++ c.bootstrap.callsTo .evaluate
  /-- Nor is the host told to remount by a preparation that fails. -/
  calls : ∃ log, (s.next .prepare).host.calls = s.host.calls ++ log ∧ Call.remountOnChange ∉ log

/-- If the thresholds go together, a preset never remounts where it refreshes and never refreshes without the
    runtime, whatever it and its host went through before. -/
theorem usableLaw_of_coherent (c : Config) (hc : c.Coherent) (h : Host) (acts : List Act)
    (hgate : c.refreshGate.passes ((start c h).run acts).host.dependencies = true) :
    UsableLaw c ((start c h).run acts) := by
  have hline := inLine_run c h acts
  generalize (start c h).run acts = s at hgate hline
  obtain rfl : s.preset.config = c := hline.config
  have hneeds := Preset.needsRemount_of_coherent hc hgate
  refine ⟨?_, ?_, fun report hok => ?_, Preset.calls_of_not_needsRemount hneeds⟩
  · exact Supplement.get?_apply_of_passes (hc.augments hgate)
  · have hphase := Preset.phase_align s.preset s.host.dependencies
    rw [hgate] at hphase
    rw [standardRules_eq]
    exact congrArg Except.ok ((hline.align s.host.dependencies).rules_of_configured hphase).symm
  · obtain ⟨-, hremounting⟩ := Preset.inject_of_report hok
    have hinjected := Preset.injected_of_report hok
    obtain ⟨injected, remounting⟩ := report
    obtain rfl : injected = true := hinjected.trans hgate
    obtain rfl : remounting = false := hremounting.symm.trans hneeds
    refine ⟨rfl, (Preset.calls_of_report hok).trans ?_⟩
    simp [Preset.Report.calls]

/-- Thresholds by ranges, alternatives and suffixes. -/
def ranged : Config :=
  { Config.standard with refreshMinimum := ">= 16.9 || 17", augmentMinimum := "^16.8.6-rc.1", remountBelow := "v16" }

/-- A host with another version of the runtime, which fails to evaluate. -/
def outdated : Host :=
  { Host.ofDependencies [("react-dom", "~16.9.1"), ("react-refresh", "0.4.0")] with failing := some .evaluate }

theorem usableLaw_of_ranges :
    ((Preset.ofConfig ranged).toInstall outdated.dependencies).value.get? "react-refresh" = some "0.7.1" ∧
      (∃ log, ((start ranged outdated).run [.align, .prepare]).host.calls = outdated.calls ++ log ∧
        Call.remountOnChange ∉ log) ∧
      ((start ranged { outdated with failing := none }).run [.prepare]).host.calls =
        ranged.bootstrap.callsTo .evaluate := by
  have hc : ranged.Coherent := by decide +kernel
  have hgate : ranged.refreshGate.passes outdated.dependencies = true := by decide +kernel
  have hok : ((Preset.ofConfig ranged).prepare { outdated with failing := none }).value.result = .ok ⟨true, false⟩ := by
    decide +kernel
  exact ⟨(usableLaw_of_coherent ranged hc outdated [] hgate).runtime,
    (usableLaw_of_coherent ranged hc outdated [.align] hgate).calls,
    ((usableLaw_of_coherent ranged hc { outdated with failing := none } [] hgate).report _ hok).2⟩

end Session
end SandboxRouting
