import SandboxRouting.Routing.Router

/-! # Requests to a router

A router is asked for a change of its list of rules, or for something that the list tells. All rules of a
change are built before the router is touched, for the pattern of a rule may not compile. Then the first
pattern that does not is the answer, and the list stays. -/

namespace SandboxRouting
namespace Routing

/-- A rule that somebody wants to have. -/
inductive Rule.Draft where
  | ready (rule : Rule)
  /-- The paths in which a pattern is found go through a chain. -/
  | search (pattern : String) (chain : Chain)

/-- The rule itself, if its pattern compiles. -/
def Rule.Draft.build : Rule.Draft → Except Failure Rule
  | ready rule => .ok rule
  | search pattern chain => Rule.ofPattern pattern chain

inductive Request where
  | append (draft : Rule.Draft)
  | replace (drafts : List Rule.Draft)
  | clear
  | lookUp (path : String)
  | recognize (path : String)
  | takeSnapshot

inductive Reply where
  | done
  | chain (chain : Chain)
  | recognized (answer : Bool)
  | list (snapshot : Snapshot)

namespace Router

/-- What is answered to a request, and what became of the router. -/
structure Responded where
  result : Except Failure Reply
  router : Router

/-- Makes a change, unless it could not be built. -/
def attempt (r : Router) : Except Failure Change → Responded
  | .ok c => ⟨.ok .done, r.change c⟩
  | .error failure => ⟨.error failure, r⟩

def respond (r : Router) : Request → Responded
  | .append draft => r.attempt (draft.build.map .append)
  | .replace drafts => r.attempt ((drafts.mapM Rule.Draft.build).map .replace)
  | .clear => r.attempt (.ok .clear)
  | .lookUp path => ⟨(r.chainFor path).map .chain, r⟩
  | .recognize path => ⟨.ok (.recognized (r.recognizes path)), r⟩
  | .takeSnapshot => ⟨.ok (.list r.snapshot), r⟩

end Router
end Routing
end SandboxRouting
