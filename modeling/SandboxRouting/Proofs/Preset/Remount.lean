import Mathlib.Control.Monad.Basic
import SandboxRouting.Preset.Basic
import SandboxRouting.Proofs.Dependency.Threshold
import SandboxRouting.Proofs.Sandbox.Bootstrap

/-! # When a host is told to remount

A host without a reload of its own is told to remount on change when the framework is below the
threshold. It is told the same when the framework or the threshold cannot be read as a version: the
decision is the negation of a comparison that nothing unreadable passes. So the two policies "too old"
and "not known to be recent enough" differ exactly where one of the two texts is no version
(`remounting_iff`). -/

namespace SandboxRouting
namespace Preset
open Sandbox

/-- The host has no reload of its own, and the version of its framework is below the threshold. -/
def TooOld (p : Preset) (h : Host) : Prop :=
  h.nativeReload = false ∧ ∃ version v m, h.dependencies.get? p.config.frameworkPackage = some version ∧
    Version.coerce version = .ok v ∧ Version.coerce p.config.remountBelow = .ok m ∧ v < m

/-- The host has no reload of its own, and its framework cannot be compared with the threshold, as one of
    the two is no version. -/
def Incomparable (p : Preset) (h : Host) : Prop :=
  h.nativeReload = false ∧ ∃ version, h.dependencies.get? p.config.frameworkPackage = some version ∧
    ((∀ v, Version.coerce version ≠ .ok v) ∨ ∀ m, Version.coerce p.config.remountBelow ≠ .ok m)

theorem needsRemount_iff {p : Preset} {h : Host} :
    p.needsRemount h = true ↔ p.TooOld h ∨ p.Incomparable h := by
  unfold needsRemount TooOld Incomparable
  cases h.nativeReload with
  | true => simp
  | false =>
    cases h.dependencies.get? p.config.frameworkPackage with
    | none => simp
    | some version => simp [Version.satisfies_eq_false_iff]

theorem TooOld.not_incomparable {p : Preset} {h : Host} (hold : p.TooOld h) : ¬ p.Incomparable h := by
  obtain ⟨-, version, v, m, hversion, hv, hm, -⟩ := hold
  rintro ⟨-, version', hversion', hunread⟩
  obtain rfl : version = version' := Option.some.inj (hversion.symm.trans hversion')
  rcases hunread with hunread | hunread
  · exact hunread v hv
  · exact hunread m hm

/-- What is decided about a host is told by its settings, which the bootstrap module leaves alone. -/
theorem needsRemount_congr {p : Preset} {h t : Host} (hs : SameSettings h t) :
    p.needsRemount t = p.needsRemount h := by
  simp only [needsRemount, hs.nativeReload, hs.dependencies]

theorem remounting_of_prepare {p : Preset} {h : Host} {report : Report}
    (hok : (p.prepare h).value.result = .ok report) : report.remounting = p.needsRemount h := by
  rw [← needsRemount_congr (p.config.bootstrap.sameSettings_inject h)]
  unfold prepare at hok
  simp only at hok
  split at hok
  · cases hok
  · cases hok
    rfl

/-- A host is told to remount if its framework is too old or cannot be compared with the threshold; so it
    is told so exactly when the framework is too old, unless it cannot be compared. -/
theorem remounting_iff (p : Preset) (h : Host) (report : Report) (hok : (p.prepare h).value.result = .ok report) :
    (report.remounting = true ↔ p.TooOld h ∨ p.Incomparable h) ∧
      ((report.remounting = true ↔ p.TooOld h) ↔ ¬ p.Incomparable h) := by
  have hiff : report.remounting = true ↔ p.TooOld h ∨ p.Incomparable h := by
    rw [remounting_of_prepare hok, needsRemount_iff]
  refine ⟨hiff, ?_⟩
  rw [hiff]
  constructor
  · intro honly hinc
    exact (honly.mp (Or.inr hinc)).not_incomparable hinc
  · intro hcomp
    simp [hcomp]

/-- A framework below the threshold. -/
theorem remounting_of_old_framework :
    ((ofConfig .standard).prepare (.ofDependencies [("react-dom", "16.7.0")])).value.result = .ok ⟨false, true⟩ ∧
      (ofConfig .standard).TooOld (.ofDependencies [("react-dom", "16.7.0")]) := by
  have hok : ((ofConfig .standard).prepare (.ofDependencies [("react-dom", "16.7.0")])).value.result =
      .ok ⟨false, true⟩ := by decide +kernel
  refine ⟨hok, ?_⟩
  rcases (remounting_iff _ _ _ hok).1.mp rfl with hold | ⟨-, version, hversion, hunread⟩
  · exact hold
  · have hget : (Host.ofDependencies [("react-dom", "16.7.0")]).dependencies.get? "react-dom" = some "16.7.0" := by
      decide +kernel
    obtain rfl : version = "16.7.0" := Option.some.inj (hversion.symm.trans hget)
    rcases hunread with hunread | hunread
    · exact absurd (by decide +kernel) (hunread ⟨16, 7, 0⟩)
    · exact absurd (by decide +kernel) (hunread ⟨16, 8, 0⟩)

/-- A framework whose version is a name: the host is told to remount, although nothing is too old. -/
theorem remounting_of_named_framework :
    ((ofConfig .standard).prepare (.ofDependencies [("react-dom", "latest")])).value.result = .ok ⟨false, true⟩ ∧
      ¬ (ofConfig .standard).TooOld (.ofDependencies [("react-dom", "latest")]) := by
  refine ⟨by decide +kernel, ?_⟩
  rintro ⟨-, version, v, m, hversion, hv, -, -⟩
  have hget : (Host.ofDependencies [("react-dom", "latest")]).dependencies.get? "react-dom" = some "latest" := by
    decide +kernel
  obtain rfl : version = "latest" := Option.some.inj (hversion.symm.trans hget)
  have hread : Version.coerce "latest" = .error ⟨"latest", .noNumber⟩ := by decide +kernel
  rw [hread] at hv
  cases hv

end Preset
end SandboxRouting
