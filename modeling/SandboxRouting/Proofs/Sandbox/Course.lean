import SandboxRouting.Proofs.Sandbox.Bootstrap

/-! # The course of one attempt at the bootstrap module

An attempt takes one of six courses. The settings of the host and the modules on it tell which one, and with it
how the attempt comes out and what the host is asked for (`Course`). A module that is dropped is not missed where
another one is at its path already (`has_addModule`), so that a host which loses modules may come through an
attempt all the same.

There is a course for every host (`exists_course`), and the attempt takes no other (`course_iff`). -/

namespace SandboxRouting
namespace Sandbox

/-- A module is at the path. -/
def Host.Has (h : Host) (path : String) : Prop := ∃ m ∈ h.modules, m.path = path

theorem Host.has_addModule {h : Host} {m : Module} :
    (h.addModule m).Has m.path ↔ h.dropsModules = false ∨ h.Has m.path := by
  unfold Has addModule note
  cases h.dropsModules with
  | true => simp
  | false => simp

namespace Bootstrap
variable {b : Bootstrap} {h : Host}

/-- How an attempt comes out, and what the host is asked for meanwhile. -/
inductive Course (b : Bootstrap) (h : Host) : Except Failure Bool → List Call → Prop where
  /-- Refresh is not usable. -/
  | needless : b.gate.passes h.dependencies = false → Course b h (.ok false) []
  /-- The host is told to fail at the lookup. -/
  | refused : b.gate.passes h.dependencies = true → h.failing = some .register →
      Course b h (.error (.notBroughtUp b.path .register h.complaint)) (b.callsTo .register)
  /-- The lookup finds nothing. -/
  | missing : b.gate.passes h.dependencies = true → h.failing ≠ some .register →
      ¬ (h.addModule b.entryModule).Has b.path →
      Course b h (.error (.notBroughtUp b.path .register "module not registered")) (b.callsTo .register)
  | untranspiled : b.gate.passes h.dependencies = true → h.failing = some .transpile →
      (h.addModule b.entryModule).Has b.path →
      Course b h (.error (.notBroughtUp b.path .transpile h.complaint)) (b.callsTo .transpile)
  | unevaluated : b.gate.passes h.dependencies = true → h.failing = some .evaluate →
      (h.addModule b.entryModule).Has b.path →
      Course b h (.error (.notBroughtUp b.path .evaluate h.complaint)) (b.callsTo .evaluate)
  | done : b.gate.passes h.dependencies = true → h.failing = none → (h.addModule b.entryModule).Has b.path →
      Course b h (.ok true) (b.callsTo .evaluate)

theorem exists_course (b : Bootstrap) (h : Host) : ∃ result calls, Course b h result calls := by
  cases hgate : b.gate.passes h.dependencies with
  | false => exact ⟨_, _, .needless hgate⟩
  | true =>
    by_cases hhas : (h.addModule b.entryModule).Has b.path
    · rcases hfailing : h.failing with _ | (_ | _ | _)
      · exact ⟨_, _, .done hgate hfailing hhas⟩
      · exact ⟨_, _, .refused hgate hfailing⟩
      · exact ⟨_, _, .untranspiled hgate hfailing hhas⟩
      · exact ⟨_, _, .unevaluated hgate hfailing hhas⟩
    · by_cases hfailing : h.failing = some .register
      · exact ⟨_, _, .refused hgate hfailing⟩
      · exact ⟨_, _, .missing hgate hfailing hhas⟩

/-! ### The step at which the host fails -/

theorem dropped_eq_true_iff :
    (h.dropsModules && !h.modules.any (·.path == b.path)) = true ↔ ¬ (h.addModule b.entryModule).Has b.path := by
  have hadd : (h.addModule b.entryModule).Has b.path ↔ h.dropsModules = false ∨ h.Has b.path := Host.has_addModule
  rw [hadd]
  simp [Host.Has]

theorem setback?_of_refused (hfailing : h.failing = some .register) :
    b.setback? h = some (.register, h.complaint) := by
  rw [setback?, if_pos hfailing]

theorem setback?_of_missing (hfailing : h.failing ≠ some .register)
    (hmissing : ¬ (h.addModule b.entryModule).Has b.path) :
    b.setback? h = some (.register, "module not registered") := by
  rw [setback?, if_neg hfailing, if_pos (dropped_eq_true_iff.mpr hmissing)]

theorem setback?_of_has (hfailing : h.failing ≠ some .register) (hhas : (h.addModule b.entryModule).Has b.path) :
    b.setback? h = h.failing.map fun stage => (stage, h.complaint) := by
  rw [setback?, if_neg hfailing, if_neg (fun hdropped => dropped_eq_true_iff.mp hdropped hhas)]

/-- The attempt comes out as its course says. -/
theorem Course.inject {result : Except Failure Bool} {calls : List Call} (hcourse : Course b h result calls) :
    (b.inject h).value.result = result ∧ (b.inject h).value.host.calls = h.calls ++ calls := by
  cases hcourse with
  | needless hgate => simp [inject_of_not_passes hgate]
  | refused hgate hfailing => exact inject_of_setback hgate (setback?_of_refused hfailing)
  | missing hgate hfailing hmissing => exact inject_of_setback hgate (setback?_of_missing hfailing hmissing)
  | untranspiled hgate hfailing hhas =>
    refine inject_of_setback hgate ((setback?_of_has ?_ hhas).trans ?_) <;> simp [hfailing]
  | unevaluated hgate hfailing hhas =>
    refine inject_of_setback hgate ((setback?_of_has ?_ hhas).trans ?_) <;> simp [hfailing]
  | done hgate hfailing hhas =>
    refine inject_of_no_setback hgate ((setback?_of_has ?_ hhas).trans ?_) <;> simp [hfailing]

theorem course_iff {result : Except Failure Bool} {calls : List Call} :
    Course b h result calls ↔
      (b.inject h).value.result = result ∧ (b.inject h).value.host.calls = h.calls ++ calls := by
  refine ⟨Course.inject, fun ⟨hresult, hcalls⟩ => ?_⟩
  obtain ⟨taken, made, hcourse⟩ := exists_course b h
  obtain ⟨htaken, hmade⟩ := hcourse.inject
  obtain rfl : taken = result := htaken.symm.trans hresult
  obtain rfl : made = calls := List.append_cancel_left (hmade.symm.trans hcalls)
  exact hcourse

/-! ### The law of one attempt -/

theorem callsTo_prefix (b : Bootstrap) (stage : Stage) : b.callsTo stage <+: b.callsTo .evaluate := by
  cases stage with
  | register => exact ⟨[.setEntry b.path, .transpile b.path, .evaluate true b.path], rfl⟩
  | transpile => exact ⟨[.evaluate true b.path], rfl⟩
  | evaluate => exact List.prefix_rfl

theorem Course.calls_prefix {result : Except Failure Bool} {calls : List Call} (hcourse : Course b h result calls) :
    calls <+: b.callsTo .evaluate := by
  cases hcourse with
  | needless => exact List.nil_prefix
  | refused | missing | untranspiled | unevaluated | done => exact callsTo_prefix b _

/-- What one attempt does. -/
structure InjectionLaw (b : Bootstrap) (h : Host) : Prop where
  /-- A host on which refresh is not usable stays as it is. -/
  needless : b.gate.passes h.dependencies = false → (b.inject h).value = ⟨.ok false, h⟩
  course_iff : ∀ result calls, Course b h result calls ↔
    (b.inject h).value.result = result ∧ (b.inject h).value.host.calls = h.calls ++ calls
  /-- The calls are the first ones of those that bring up the module. -/
  calls : ∃ made, (b.inject h).value.host.calls = h.calls ++ made ∧
    made <+: [.addModule b.path, .setEntry b.path, .transpile b.path, .evaluate true b.path]
  /-- The lookup comes behind the module's being added, so it also finds what was there before. -/
  registered : (h.addModule b.entryModule).Has b.path ↔ h.dropsModules = false ∨ h.Has b.path
  settings : SameSettings h (b.inject h).value.host

theorem injectionLaw (b : Bootstrap) (h : Host) : InjectionLaw b h where
  needless := inject_of_not_passes
  course_iff _ _ := course_iff
  calls := by
    obtain ⟨result, made, hcourse⟩ := exists_course b h
    exact ⟨made, hcourse.inject.2, hcourse.calls_prefix⟩
  registered := Host.has_addModule
  settings := sameSettings_inject b h

/-- A host that loses modules misses the bootstrap module, unless an earlier one was left; and what was left does
    not keep the host from failing later. -/
theorem injectionLaw_of_dropping_host :
    ∃ (b : Bootstrap) (h left : Host),
      b = ⟨⟨"react-dom", "16.9.0"⟩, "/boot.js"⟩ ∧
      h = { Host.ofDependencies [("react-dom", "16.12.0")] with dropsModules := true, complaint := "boom" } ∧
      left = { h with modules := [⟨"/boot.js", "left"⟩], failing := some .transpile } ∧
      (b.inject h).value.result = .error (.notBroughtUp "/boot.js" .register "module not registered") ∧
      (b.inject left).value.result = .error (.notBroughtUp "/boot.js" .transpile "boom") ∧
      (b.inject left).value.host.calls = [.addModule "/boot.js", .setEntry "/boot.js", .transpile "/boot.js"] := by
  refine ⟨_, _, _, rfl, rfl, rfl, ?_, ?_⟩
  · refine (((injectionLaw _ _).course_iff _ _).mp (.missing (by decide +kernel) (by decide +kernel) ?_)).1
    rw [(injectionLaw _ _).registered]
    simp [Host.Has, Host.ofDependencies, Host.blank]
  · refine ((injectionLaw _ _).course_iff _ _).mp (.untranspiled (by decide +kernel) rfl ?_)
    exact (injectionLaw _ _).registered.mpr (Or.inr ⟨_, List.mem_singleton_self _, rfl⟩)

end Bootstrap
end Sandbox
end SandboxRouting
