import SandboxRouting.Proofs.Dependency.Supplement
import SandboxRouting.Proofs.Preset.Prepare

/-! # Hosts on which the runtime was installed

Alignments and preparations read the dependencies of a host at the framework alone. So two hosts that differ
in other dependencies are served alike, in every run (`run_holding`).

In particular, unless the runtime of refresh is the framework itself, a preset does the same on a host
whether the runtime was added to its dependencies or not (`installLaw`). -/

namespace SandboxRouting

/-! ### Hosts with other dependencies -/

namespace Sandbox
variable (h : Host) (deps : Dependencies)

/-- The host with other dependencies. -/
def Host.holding : Host := { h with dependencies := deps }

theorem Host.addModule_holding (m : Module) : (h.holding deps).addModule m = (h.addModule m).holding deps := by
  cases hdrops : h.dropsModules <;> simp [addModule, note, holding, hdrops]

theorem Bootstrap.bringUp_holding (b : Bootstrap) :
    b.bringUp (h.holding deps) = ((b.bringUp h).1, (b.bringUp h).2.holding deps) := by
  simp only [bringUp, Host.addModule_holding]
  -- Lookups and steps read the modules and the setting of the failing step, which are the same.
  generalize h.addModule b.entryModule = added
  have hlookup : (added.holding deps).lookup b.path = added.lookup b.path := rfl
  rw [hlookup]
  cases added.lookup b.path with
  | error cause => rfl
  | ok found =>
    cases hstage : added.failing with
    | none => simp [Host.outcome, Host.note, Host.holding, hstage]
    | some stage => cases stage <;> simp [Host.outcome, Host.note, Host.holding, hstage]

theorem Bootstrap.inject_holding {b : Bootstrap} {h : Host} {deps : Dependencies}
    (hgate : b.gate.passes deps = b.gate.passes h.dependencies) :
    (b.inject (h.holding deps)).value = ⟨(b.inject h).value.result, (b.inject h).value.host.holding deps⟩ := by
  have hdeps : (h.holding deps).dependencies = deps := rfl
  simp only [inject, hdeps, hgate, bringUp_holding]
  split <;> rfl

end Sandbox

namespace Routing.Upkeep

theorem align_congr {u : Upkeep} {deps others : Dependencies} (h : u.gate.passes others = u.gate.passes deps) :
    (u.align others).value = (u.align deps).value := by
  have hfeatures : u.features others = u.features deps := congrArg Features.mk h
  rcases align_cases u deps with ⟨hphase, hvalue⟩ | ⟨hphase, hvalue⟩ <;> rw [hvalue] <;> rw [← hfeatures] at hphase
  · rcases align_cases u others with ⟨-, hother⟩ | ⟨hne, -⟩
    · exact hother
    · exact absurd hphase hne
  · rcases align_cases u others with ⟨heq, -⟩ | ⟨-, hother⟩
    · exact absurd heq hphase
    · rw [hother, hfeatures]

end Routing.Upkeep

namespace Preset
open Sandbox

theorem align_congr {p : Preset} {deps others : Dependencies}
    (hget : others.get? p.config.frameworkPackage = deps.get? p.config.frameworkPackage) :
    (p.align others).value = (p.align deps).value := by
  rw [align_value, align_value, Routing.Upkeep.align_congr (Gate.passes_congr hget)]

theorem prepare_holding {p : Preset} {h : Host} {deps : Dependencies}
    (hget : deps.get? p.config.frameworkPackage = h.dependencies.get? p.config.frameworkPackage) :
    (p.prepare (h.holding deps)).value = ⟨(p.prepare h).value.result, (p.prepare h).value.host.holding deps⟩ := by
  have hgate : p.config.bootstrap.gate.passes deps = p.config.bootstrap.gate.passes h.dependencies := Gate.passes_congr hget
  have hinject := Bootstrap.inject_holding hgate
  have hsettings := p.config.bootstrap.sameSettings_inject h
  have hneeds : p.needsRemount ((p.config.bootstrap.inject h).value.host.holding deps) =
      p.needsRemount (p.config.bootstrap.inject h).value.host := by
    simp only [needsRemount, Host.holding, hget, hsettings.dependencies]
  simp only [prepare, hinject]
  cases (p.config.bootstrap.inject h).value.result with
  | error failure => rfl
  | ok injected =>
    simp only [hneeds]
    cases p.needsRemount (p.config.bootstrap.inject h).value.host <;> rfl

end Preset

namespace Session
open Sandbox

/-! ### Sessions on hosts with other dependencies -/

/-- The session on its host with other dependencies. -/
def holding (s : Session) (deps : Dependencies) : Session := { s with host := s.host.holding deps }

/-- The same is answered in two sessions, and the same was asked of their hosts. -/
structure SameAnswers (s t : Session) : Prop where
  phase : t.preset.phase = s.preset.phase
  routes : ∀ path, t.preset.chainFor path = s.preset.chainFor path
  aligned : (t.preset.align t.host.dependencies).value.result = (s.preset.align s.host.dependencies).value.result
  report : (t.preset.prepare t.host).value.result = (s.preset.prepare s.host).value.result
  calls : t.host.calls = s.host.calls

variable {s : Session} {deps : Dependencies}

theorem sameAnswers_holding (hget : deps.get? s.preset.config.frameworkPackage =
    s.host.dependencies.get? s.preset.config.frameworkPackage) : SameAnswers s (s.holding deps) where
  phase := rfl
  routes _ := rfl
  aligned := congrArg Preset.Aligned.result (Preset.align_congr hget)
  report := by
    have hresult := congrArg Preset.Prepared.result (Preset.prepare_holding hget)
    exact hresult
  calls := rfl

theorem config_next (s : Session) (act : Act) : (s.next act).preset.config = s.preset.config := by
  cases act with
  | align => exact congrArg (fun aligned => aligned.preset.config) (Preset.align_value _ _)
  | _ => rfl

theorem dependencies_next (s : Session) {act : Act} (hact : ∀ host, act ≠ .becomes host) :
    (s.next act).host.dependencies = s.host.dependencies := by
  cases act with
  | becomes host => exact absurd rfl (hact host)
  | prepare => exact (Preset.settings_prepare s.preset s.host).dependencies
  | _ => rfl

theorem next_holding {act : Act} (hact : ∀ host, act ≠ .becomes host)
    (hget : deps.get? s.preset.config.frameworkPackage =
      s.host.dependencies.get? s.preset.config.frameworkPackage) :
    (s.holding deps).next act = (s.next act).holding deps := by
  cases act with
  | becomes host => exact absurd rfl (hact host)
  | align =>
    have haligned := congrArg Preset.Aligned.preset (Preset.align_congr hget)
    simp only [next, holding, Host.holding] at haligned ⊢
    rw [haligned]
  | prepare =>
    have hprepared := congrArg Preset.Prepared.host (Preset.prepare_holding hget)
    simp only [next, holding] at hprepared ⊢
    rw [hprepared]
  | _ => rfl

/-- Other dependencies make no difference to a run, as long as they have the framework at the same version. -/
theorem run_holding {acts : List Act} (hacts : ∀ host, Act.becomes host ∉ acts)
    (hget : deps.get? s.preset.config.frameworkPackage =
      s.host.dependencies.get? s.preset.config.frameworkPackage) :
    (s.holding deps).run acts = (s.run acts).holding deps ∧
      deps.get? (s.run acts).preset.config.frameworkPackage =
        (s.run acts).host.dependencies.get? (s.run acts).preset.config.frameworkPackage := by
  induction acts generalizing s with
  | nil => exact ⟨rfl, hget⟩
  | cons act acts ih =>
    have hact : ∀ host, act ≠ .becomes host := fun host heq => hacts host (heq ▸ List.mem_cons_self)
    rw [run_cons, run_cons, next_holding hact hget]
    refine ih (fun host hmem => hacts host (List.mem_cons_of_mem act hmem)) ?_
    rw [config_next, dependencies_next s hact]
    exact hget

end Session

namespace Preset
open Sandbox

/-! ### The law of what is installed -/

/-- What is to be installed for some dependencies, and what a preset makes of a host that has it. -/
structure InstallLaw (p : Preset) (deps : Dependencies) : Prop where
  again : (p.toInstall (p.toInstall deps).value).value = (p.toInstall deps).value
  others : ∀ name, name ≠ p.config.runtimePackage → (p.toInstall deps).value.get? name = deps.get? name
  kept : ∀ name, deps.contains name = true → (p.toInstall deps).value.contains name = true
  idle : p.config.supplement.gate.passes deps = false → (p.toInstall deps).value = deps
  pinned : p.config.supplement.gate.passes deps = true →
    (p.toInstall deps).value.get? p.config.runtimePackage = some p.config.runtimeVersion
  /-- Unless the runtime is the framework itself, a host on which it was installed is served like the same host
      without it, by alignments, preparations and lookups in any order. -/
  unseen : p.config.frameworkPackage ≠ p.config.runtimePackage →
    ∀ (h : Host) (acts : List Session.Act), (∀ host, Session.Act.becomes host ∉ acts) →
      Session.SameAnswers (Session.run ⟨p, h.holding deps⟩ acts)
        (Session.run ⟨p, h.holding (p.toInstall deps).value⟩ acts)

theorem installLaw (p : Preset) (deps : Dependencies) : InstallLaw p deps where
  again := p.config.supplement.apply_apply deps
  others _ hne := Supplement.get?_apply_of_ne hne
  kept _ hcontains := Supplement.contains_apply hcontains
  idle hgate := Supplement.apply_of_not_passes hgate
  pinned hgate := Supplement.get?_apply_of_passes hgate
  unseen hne h acts hacts := by
    have hget : (p.toInstall deps).value.get? p.config.frameworkPackage = deps.get? p.config.frameworkPackage :=
      Supplement.get?_apply_of_ne hne
    have hbefore : (p.toInstall deps).value.get? (⟨p, h.holding deps⟩ : Session).preset.config.frameworkPackage =
        (⟨p, h.holding deps⟩ : Session).host.dependencies.get?
          (⟨p, h.holding deps⟩ : Session).preset.config.frameworkPackage := hget
    obtain ⟨hrun, hsame⟩ := Session.run_holding hacts hbefore
    have heq : (⟨p, h.holding (p.toInstall deps).value⟩ : Session) =
        Session.holding ⟨p, h.holding deps⟩ (p.toInstall deps).value := rfl
    rw [heq, hrun]
    exact Session.sameAnswers_holding hsame

/-- The runtime is the framework itself, at a version at which it is not added. -/
def selfSupplied : Config := { Config.standard with runtimePackage := "react-dom", runtimeVersion := "0.7.1" }

/-- A preset that would install another framework installs it once; and one that adds a package beside the
    framework is not told from one that does not, where the host cannot evaluate what it is asked to. -/
theorem installLaw_of_colliding_packages :
    (((ofConfig selfSupplied).toInstall ((ofConfig selfSupplied).toInstall
        (.ofList [("react-dom", "16.12.0")])).value).value.get? "react-dom" = some "0.7.1") ∧
      ((Session.run ⟨ofConfig .standard, Host.holding { Host.blank with failing := some .evaluate }
          ((ofConfig .standard).toInstall (.ofList [("react-dom", "16.12.0")])).value⟩ [.align, .prepare]).host.calls =
        (Session.run ⟨ofConfig .standard, Host.holding { Host.blank with failing := some .evaluate }
          (.ofList [("react-dom", "16.12.0")])⟩ [.align, .prepare]).host.calls) := by
  have hgate : selfSupplied.supplement.gate.passes (.ofList [("react-dom", "16.12.0")]) = true := by decide +kernel
  constructor
  · rw [(installLaw (ofConfig selfSupplied) _).again]
    exact (installLaw (ofConfig selfSupplied) _).pinned hgate
  · exact ((installLaw (ofConfig .standard) _).unseen (by decide) _ [.align, .prepare] (by simp)).calls

end Preset
end SandboxRouting
