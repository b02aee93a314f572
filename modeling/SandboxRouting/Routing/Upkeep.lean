import SandboxRouting.Dependency.Gate
import SandboxRouting.Routing.Router
import SandboxRouting.Routing.Standard

/-! # Upkeep of a router

The standard rules are kept in line with the dependencies. What the rules depend on is told from the
dependencies by a gate, and the rules are rebuilt only when that is not what they were built for last.
The new list is complete before it is installed, so there is never a part of one. -/

namespace SandboxRouting
namespace Routing

/-- What the installed rules were built for. -/
inductive Phase where
  /-- Nothing was built so far. -/
  | uninitialized
  | configured (features : Features)
deriving DecidableEq

/-- A router with the gate that tells whether refresh is usable. -/
structure Upkeep where
  router : Router
  gate : Gate
  /-- The beginning of the paths of installed packages. -/
  packageRoot : String
  phase : Phase

namespace Upkeep

/-- What the dependencies make usable. -/
def features (u : Upkeep) (deps : Dependencies) : Features := ⟨u.gate.passes deps⟩

/-- What is said when the rules are rebuilt. -/
def announcement (u : Upkeep) (f : Features) : Event :=
  if f.refresh then .refreshEnabled u.router.name else .refreshDisabled u.router.name

/-- Whether the rules were rebuilt, or why they could not be, and what became of them. -/
structure Aligned where
  result : Except Failure Bool
  upkeep : Upkeep

/-- Sees to it that the standard rules for the dependencies are installed. -/
def align (u : Upkeep) (deps : Dependencies) : Logged Aligned :=
  let f := u.features deps
  if u.phase = .configured f then ⟨⟨.ok false, u⟩, u.gate.events deps⟩
  else
    let events := u.gate.events deps ++ [u.announcement f]
    match standardRules f u.packageRoot with
    | .ok rules => ⟨⟨.ok true, { u with router := u.router.install rules, phase := .configured f }⟩, events⟩
    | .error failure => ⟨⟨.error failure, u⟩, events⟩

/-- The answers to several requests, and what became of the rules. -/
structure Served where
  results : List (Except Failure Bool)
  upkeep : Upkeep

/-- Serves requests that came together, one after the other. -/
def serve (u : Upkeep) : List Dependencies → Logged Served
  | [] => ⟨⟨[], u⟩, []⟩
  | deps :: rest =>
    let first := u.align deps
    let others := first.value.upkeep.serve rest
    ⟨⟨first.value.result :: others.value.results, others.value.upkeep⟩, first.events ++ others.events⟩

end Upkeep
end Routing
end SandboxRouting
