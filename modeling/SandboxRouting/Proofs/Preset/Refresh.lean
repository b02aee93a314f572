import SandboxRouting.Proofs.Preset.Prepare
import SandboxRouting.Proofs.Routing.Standard

/-! # Where refresh takes place

The rules and the bootstrap module hang on the same gate, but each of them has its own copy of it, and
they look at the dependencies at different times. As long as the dependencies are those of the last
alignment the two agree: a script goes through the refresh transformer only if the functions that its
output calls were put on the page before.

The path of the bootstrap module is a path like any other to the rules. They spare it only if it lies
where installed packages are kept, or if it is no script. -/

namespace SandboxRouting
namespace Routing
open Json

/-! ### Chains with refresh -/

/-- The chain registers components for refresh. -/
def Chain.refreshes (c : Chain) : Bool := c.any (·.transformer = .reactRefresh)

/-- Scripts outside the place of installed packages are registered for refresh if it is usable, and nothing
    else is. -/
theorem refreshes_chainOfPath (f : Features) (packageRoot path : String) :
    (chainOfPath f packageRoot path).refreshes = true ↔
      f.refresh = true ∧ FileKind.script.includes path = true ∧ Text.begins path packageRoot = false := by
  rw [FileKind.includes_eq, chainOfPath]
  cases FileKind.of? path with
  | none => simp [Chain.refreshes]
  | some kind =>
    cases kind with
    | script =>
      cases hf : f.refresh <;> cases Text.begins path packageRoot <;> simp [Chain.refreshes, FileKind.chain, hf]
    | _ => simp [Chain.refreshes, FileKind.chain]

end Routing

namespace Session
open Routing Sandbox

/-! ### The rules and the bootstrap module -/

/-- The bootstrap module is registered for refresh itself if refresh is usable, unless its path is no script or
    lies where installed packages are kept. -/
theorem bootstrap_refreshes_iff (c : Config) (h : Host) (acts : List Act) (deps : Dependencies) :
    ∃ chain, (((start c h).run acts).preset.align deps).value.preset.chainFor c.bootstrapPath = .ok chain ∧
      (chain.refreshes = true ↔ c.refreshGate.passes deps = true ∧
        FileKind.script.includes c.bootstrapPath = true ∧ Text.begins c.bootstrapPath c.packageRoot = false) := by
  have hline := inLine_run c h acts
  have hphase := Preset.phase_align ((start c h).run acts).preset deps
  rw [hline.config] at hphase
  exact ⟨_, (hline.align deps).chainFor_eq hphase c.bootstrapPath, refreshes_chainOfPath _ _ _⟩

-- The standard configuration keeps the path among the installed packages.
example : Text.begins Config.standard.bootstrapPath Config.standard.packageRoot = true := by decide +kernel

/-- A path for the bootstrap module outside the place of installed packages. -/
theorem bootstrap_refreshes_at_open_path :
    ∃ chain, ((Preset.ofConfig { Config.standard with bootstrapPath := "/virtual/entry.js" }).align
        (.ofList [("react-dom", "16.12.0")])).value.preset.chainFor "/virtual/entry.js" = .ok chain ∧
      chain.refreshes = true := by
  have hgate : Config.standard.refreshGate.passes (.ofList [("react-dom", "16.12.0")]) = true := by decide +kernel
  have hline := Preset.inLine_ofConfig { Config.standard with bootstrapPath := "/virtual/entry.js" }
  have hphase := Preset.phase_align (Preset.ofConfig { Config.standard with bootstrapPath := "/virtual/entry.js" })
    (.ofList [("react-dom", "16.12.0")])
  refine ⟨_, (hline.align _).chainFor_eq hphase _, (refreshes_chainOfPath _ _ _).mpr ⟨hgate, ?_, ?_⟩⟩
  · decide +kernel
  · decide +kernel

end Session
end SandboxRouting
