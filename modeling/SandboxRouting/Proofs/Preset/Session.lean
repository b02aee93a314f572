import SandboxRouting.Preset.Basic
import SandboxRouting.Proofs.Routing.Upkeep
import SandboxRouting.Proofs.Sandbox.Bootstrap

/-! # Sessions of a preset

In a session a preset serves a host whose dependencies and other settings may change at any time. Only
an alignment touches the router of the preset (`preset_next`), and it looks at the dependencies that
the host has at that moment. So the dependencies of the last alignment decide where every path goes
until the next one, whatever the host has become since: before the first alignment no path has a
chain, and afterwards every path has one. -/

namespace SandboxRouting
namespace Preset
open Routing Sandbox

/-! ### One alignment -/

/-- The preset has a configuration, and its rules are those for which the phase says that they were built. -/
structure InLine (c : Config) (p : Preset) : Prop where
  config : p.config = c
  name : p.router.name = c.name
  rules : p.upkeep.InLine

theorem inLine_ofConfig (c : Config) : InLine c (ofConfig c) := ⟨rfl, rfl, rfl⟩

/-- The upkeep of a preset comes back from an alignment with its gate and the place of installed packages. -/
theorem upkeep_withUpkeep_align (p : Preset) (deps : Dependencies) :
    (p.withUpkeep (p.upkeep.align deps).value.upkeep).upkeep = (p.upkeep.align deps).value.upkeep := by
  have ⟨hgate, hroot, _⟩ := Upkeep.sameTerms_align p.upkeep deps
  generalize (p.upkeep.align deps).value.upkeep = u at hgate hroot
  obtain ⟨router, gate, packageRoot, phase⟩ := u
  obtain rfl : gate = p.config.refreshGate := hgate
  obtain rfl : packageRoot = p.config.packageRoot := hroot
  rfl

theorem align_value (p : Preset) (deps : Dependencies) :
    (p.align deps).value = ⟨.ok (), p.withUpkeep (p.upkeep.align deps).value.upkeep⟩ := by
  simp [align, Upkeep.result_align]

theorem InLine.align {c : Config} {p : Preset} (h : InLine c p) (deps : Dependencies) :
    InLine c (p.align deps).value.preset := by
  rw [align_value]
  exact ⟨h.config, (Upkeep.sameTerms_align p.upkeep deps).name.trans h.name, upkeep_withUpkeep_align p deps ▸ h.rules.align deps⟩

theorem phase_align (p : Preset) (deps : Dependencies) :
    (p.align deps).value.preset.phase = .configured ⟨p.config.refreshGate.passes deps⟩ := by
  rw [align_value]
  exact Upkeep.phase_align p.upkeep deps

/-! ### Looking up -/

theorem InLine.chainFor_of_uninitialized {c : Config} {p : Preset} (h : InLine c p) (hp : p.phase = .uninitialized)
    (path : String) : p.chainFor path = .error (.unrouted c.name path) := by
  have hrules : p.router.rules = [] := by
    have := h.rules
    rwa [Upkeep.InLine, show p.upkeep.phase = .uninitialized from hp] at this
  rw [chainFor, Router.chainFor, hrules, h.name]
  rfl

theorem InLine.rules_of_configured {c : Config} {p : Preset} (h : InLine c p) {f : Features}
    (hp : p.phase = .configured f) : p.router.rules = rulesFor f c.packageRoot := by
  have := h.rules
  rw [Upkeep.InLine, show p.upkeep.phase = .configured f from hp] at this
  rw [← h.config]
  exact this

/-- An aligned preset has a chain for every path, that of the first standard rule that takes it. -/
theorem InLine.chainFor_of_configured {c : Config} {p : Preset} (h : InLine c p) {f : Features}
    (hp : p.phase = .configured f) (path : String) :
    ∃ rule, firstRule? (rulesFor f c.packageRoot) path = some rule ∧ rule.chain ≠ [] ∧
      p.chainFor path = .ok rule.chain := by
  obtain ⟨rule, hrule, hchain⟩ := Option.map_eq_some_iff.mp (firstRule?_rulesFor f c.packageRoot path)
  refine ⟨rule, hrule, hchain ▸ chainOfPath_ne_nil f c.packageRoot path, ?_⟩
  rw [chainFor, Router.chainFor, h.rules_of_configured hp, hrule]

theorem InLine.chainFor_eq {c : Config} {p : Preset} (h : InLine c p) {f : Features} (hp : p.phase = .configured f)
    (path : String) : p.chainFor path = .ok (chainOfPath f c.packageRoot path) :=
  Router.chainFor_of_rules (h.rules_of_configured hp) path

end Preset

/-! ### Sessions -/

/-- A preset and the host that it serves. -/
structure Session where
  preset : Preset
  host : Sandbox.Host

namespace Session
open Routing Sandbox

/-- What is asked of the preset, and what becomes of the host without the preset: it comes to have other
    dependencies, settings or modules. -/
inductive Act where
  | align
  | prepare
  | toInstall (deps : Dependencies)
  | chainFor (path : String)
  | recognizes (path : String)
  | importedAs (specifier : String)
  | becomes (host : Host)

def start (c : Config) (h : Host) : Session := ⟨.ofConfig c, h⟩

/-- What is left after an act. A host is prepared as far as that goes. -/
def next (s : Session) : Act → Session
  | .align => { s with preset := (s.preset.align s.host.dependencies).value.preset }
  | .prepare => { s with host := (s.preset.prepare s.host).value.host }
  | .becomes host => { s with host }
  | .toInstall _ => s
  | .chainFor _ => s
  | .recognizes _ => s
  | .importedAs _ => s

def run (s : Session) (acts : List Act) : Session := acts.foldl next s

theorem run_cons (s : Session) (act : Act) (acts : List Act) : s.run (act :: acts) = (s.next act).run acts := rfl

theorem run_append (s : Session) (before after : List Act) : s.run (before ++ after) = (s.run before).run after :=
  List.foldl_append

theorem preset_next (s : Session) {act : Act} (h : act ≠ .align) : (s.next act).preset = s.preset := by
  cases act with
  | align => exact absurd rfl h
  | _ => rfl

theorem preset_run (s : Session) {acts : List Act} (h : Act.align ∉ acts) : (s.run acts).preset = s.preset := by
  induction acts generalizing s with
  | nil => rfl
  | cons act acts ih =>
    obtain ⟨hact, hacts⟩ := List.ne_and_not_mem_of_not_mem_cons h
    rw [run_cons, ih _ hacts, preset_next s hact.symm]

theorem inLine_next {c : Config} {s : Session} (h : s.preset.InLine c) (act : Act) : (s.next act).preset.InLine c := by
  cases act with
  | align => exact h.align _
  | _ => exact h

/-- In every session the rules are those for which the phase says that they were built. -/
theorem inLine_run (c : Config) (h : Host) (acts : List Act) : ((start c h).run acts).preset.InLine c := by
  suffices hrun : ∀ s : Session, s.preset.InLine c → (s.run acts).preset.InLine c from
    hrun _ (Preset.inLine_ofConfig c)
  induction acts with
  | nil => exact fun _ hs => hs
  | cons act acts ih => exact fun s hs => ih (s.next act) (inLine_next hs act)

/-- In every session an alignment succeeds, and the last one that there was decides where every path goes. -/
theorem route_of_last_align (c : Config) (h : Host) (acts : List Act) :
    (((start c h).run acts).preset.align ((start c h).run acts).host.dependencies).value.result = .ok () ∧
    (Act.align ∉ acts → ∀ path,
      ((start c h).run acts).preset.chainFor path = .error (.unrouted c.name path)) ∧
    ∀ before after, acts = before ++ .align :: after → Act.align ∉ after →
      ∃ rules, standardRules ⟨c.refreshGate.passes ((start c h).run before).host.dependencies⟩ c.packageRoot =
          .ok rules ∧
        ∀ path, ∃ rule, firstRule? rules path = some rule ∧ rule.chain ≠ [] ∧
          ((start c h).run acts).preset.chainFor path = .ok rule.chain := by
  have hline := inLine_run c h acts
  refine ⟨by rw [Preset.align_value], fun hnone path => ?_, fun before after hacts hafter => ?_⟩
  · refine hline.chainFor_of_uninitialized ?_ path
    rw [preset_run _ hnone]
    rfl
  · refine ⟨_, standardRules_eq _ _, fun path => hline.chainFor_of_configured ?_ path⟩
    -- The acts behind the last alignment leave the preset as that left it.
    rw [hacts, run_append, run_cons, preset_run _ hafter]
    have hphase := Preset.phase_align ((start c h).run before).preset ((start c h).run before).host.dependencies
    rwa [(inLine_run c h before).config] at hphase

/-- Preparing a host is no alignment; and a host that loses its framework behind an alignment is still
    served as one that has it. -/
theorem route_of_prepared_and_changed_host :
    ((start .standard .blank).run [.prepare]).preset.chainFor "/src/App.jsx" =
        .error (.unrouted "create-react-app-v3" "/src/App.jsx") ∧
      ∃ rules rule, standardRules ⟨true⟩ "/node_modules" = .ok rules ∧
        firstRule? rules "/src/App.jsx" = some rule ∧
        ((start .standard (.ofDependencies [("react-dom", "16.12.0")])).run
          [.align, .becomes .blank, .prepare]).preset.chainFor "/src/App.jsx" = .ok rule.chain := by
  refine ⟨(route_of_last_align .standard .blank [.prepare]).2.1 (by simp) _, ?_⟩
  obtain ⟨rules, hrules, hroute⟩ :=
    (route_of_last_align .standard (.ofDependencies [("react-dom", "16.12.0")])
      [.align, .becomes .blank, .prepare]).2.2 [] [.becomes .blank, .prepare] rfl (by simp)
  obtain ⟨rule, hrule, -, hchain⟩ := hroute "/src/App.jsx"
  have husable : Config.standard.refreshGate.passes (Host.ofDependencies [("react-dom", "16.12.0")]).dependencies =
      true := by decide +kernel
  exact ⟨rules, rule, husable ▸ hrules, hrule, hchain⟩

end Session
end SandboxRouting
