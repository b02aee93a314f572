import SandboxRouting.Sandbox.Host

/-! # The bootstrap module

Refresh has to take hold of the page before the framework does, and needs functions on the page that
transformed files call. A virtual module sees to both. It is brought up ahead of all modules of the
project when a gate passes: added to the host, looked up, marked as an entry, transpiled and evaluated
by force, up to the first step that fails. A module added again replaces the one before. -/

namespace SandboxRouting
namespace Sandbox

def bootstrapCode : String :=
  "if (process.env.NODE_ENV !== 'production' && typeof window !== 'undefined') \x7b\n" ++
  "const runtime = require('react-refresh/runtime');\n" ++
  "runtime.injectIntoGlobalHook(window);\n" ++
  "window.$RefreshReg$ = () => \x7b\x7d;\n" ++
  "window.$RefreshSig$ = () => type => type;\n" ++
  "\x7d\n"

/-- The gate at which the bootstrap module is needed, and the path that is kept for it. -/
structure Bootstrap where
  gate : Gate
  path : String
deriving DecidableEq

namespace Bootstrap

def entryModule (b : Bootstrap) : Module := ⟨b.path, bootstrapCode⟩

/-- Brings up the bootstrap module, whatever the gate says. -/
def bringUp (b : Bootstrap) (h : Host) : Except Failure Unit × Host :=
  let h := h.addModule b.entryModule
  match h.lookup b.path with
  | .error cause => (.error (.notBroughtUp b.path .register cause), h)
  | .ok () =>
    let h := (h.note (.setEntry b.path)).note (.transpile b.path)
    match h.outcome .transpile with
    | .error cause => (.error (.notBroughtUp b.path .transpile cause), h)
    | .ok () =>
      let h := h.note (.evaluate Evaluation.afresh.force b.path)
      match h.outcome .evaluate with
      | .error cause => (.error (.notBroughtUp b.path .evaluate cause), h)
      | .ok () => (.ok (), h)

/-- Whether the module was brought up, or why it could not be, and what became of the host. -/
structure Injected where
  result : Except Failure Bool
  host : Host

/-- Brings up the bootstrap module if the gate passes. -/
def inject (b : Bootstrap) (h : Host) : Logged Injected :=
  if b.gate.passes h.dependencies then
    let (result, host) := b.bringUp h
    ⟨⟨result.map fun () => true, host⟩, b.gate.events h.dependencies ++ [.bootstrapInjected b.path]⟩
  else ⟨⟨.ok false, h⟩, b.gate.events h.dependencies⟩

end Bootstrap
end Sandbox
end SandboxRouting
