import SandboxRouting.Json.Fault

/-! # Failures

What can go wrong in a way that the caller has to know. No rule takes a path, which means that the rule
for all paths is gone; a pattern does not compile; the bootstrap module cannot be brought up; or the
configuration cannot be read. -/

namespace SandboxRouting

/-- The steps by which a host brings up a module. -/
inductive Stage where
  | register
  | transpile
  | evaluate
deriving DecidableEq

def Stage.name : Stage → String
  | register => "register"
  | transpile => "transpile"
  | evaluate => "evaluate"

inductive Failure where
  | unrouted (preset path : String)
  | invalidPattern (pattern : String)
  /-- The host failed to bring up the module at the path. -/
  | notBroughtUp (path : String) (stage : Stage) (cause : String)
  | unreadableConfig (fault : Json.Fault)
deriving DecidableEq

/-- The failure in words. What is wrong with a pattern is not told. -/
def Failure.message : Failure → String
  | unrouted preset path => "Preset " ++ preset ++ " has no transpiler rule for " ++ path
  | invalidPattern pattern => "Invalid path pattern " ++ pattern ++ ": "
  | notBroughtUp path stage cause => "Failed to " ++ stage.name ++ " virtual module " ++ path ++ ": " ++ cause
  | unreadableConfig fault => "Failed to parse preset config: " ++ fault.message

end SandboxRouting
