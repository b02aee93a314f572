import SandboxRouting.Dependency.Gate
import SandboxRouting.Failure

/-! # Hosts

A host keeps the dependencies of a project and brings up modules in memory, and notes the calls it was
asked to make. It can be told to fail at one of the steps by which a module is brought up, and to drop
the modules it is given. Looking up a module leaves no note. -/

namespace SandboxRouting
namespace Sandbox

/-- A module that is not among the files of the project. -/
structure Module where
  path : String
  code : String
deriving DecidableEq

/-- What a host was asked to do. -/
inductive Call where
  | addModule (path : String)
  | setEntry (path : String)
  | transpile (path : String)
  | evaluate (force : Bool) (path : String)
  | remountOnChange
deriving DecidableEq

def Call.note : Call → String
  | addModule path => "add_module " ++ path
  | setEntry path => "set_is_entry(true) " ++ path
  | transpile path => "transpile " ++ path
  | evaluate force path => "evaluate(force=" ++ (if force then "true" else "false") ++ ") " ++ path
  | remountOnChange => "clean_using_unmount"

/-- How a module is evaluated. -/
structure Evaluation where
  /-- Whatever was kept from before does not count. -/
  force : Bool
deriving DecidableEq

/-- What was kept from before counts. -/
def Evaluation.cached : Evaluation := ⟨false⟩

/-- What was kept from before does not count. -/
def Evaluation.afresh : Evaluation := ⟨true⟩

structure Host where
  dependencies : Dependencies
  /-- Modules are replaced on change by the host itself. -/
  nativeReload : Bool
  /-- The step that fails. -/
  failing : Option Stage
  /-- What is said when it fails. -/
  complaint : String
  /-- Modules that are added get lost. -/
  dropsModules : Bool
  modules : List Module
  /-- What the host was asked to do, the first call first. -/
  calls : List Call
deriving DecidableEq

namespace Host

def blank : Host := ⟨.empty, false, none, "", false, [], []⟩

def note (h : Host) (c : Call) : Host := { h with calls := h.calls ++ [c] }

/-- Adds a module, in the place of any other at its path. -/
def addModule (h : Host) (m : Module) : Host :=
  let h := h.note (.addModule m.path)
  if h.dropsModules then h else { h with modules := h.modules.filter (·.path != m.path) ++ [m] }

def lookup (h : Host) (path : String) : Except String Unit :=
  if h.failing = some .register then .error h.complaint
  else if h.modules.any (·.path == path) then .ok ()
  else .error "module not registered"

/-- The result of a step that the host may have been told to fail at. -/
def outcome (h : Host) (s : Stage) : Except String Unit :=
  if h.failing = some s then .error h.complaint else .ok ()

end Host
end Sandbox
end SandboxRouting
