import SandboxRouting.Log.Filter

/-! # Sessions

In a session logging is installed once; later requests are turned down and change nothing. The first
request fixes the filter: what the environment asks for, with a directive for this library put over it
that follows from the verbosity alone. Where the environment asks for nothing, or for something that
cannot be read, warnings and errors are enabled for other targets. -/

namespace SandboxRouting
namespace Log

structure Request where
  verbosity : UInt8
  /-- Events are written as records instead of plain lines, which does not change what is enabled. -/
  asRecords : Bool
deriving DecidableEq

/-- The target of this library's events. -/
def ownTarget : String := "cra_preset"

/-- The level up to which this library's events are enabled at a verbosity. -/
def ownLevel (verbosity : UInt8) : Level :=
  if verbosity = 0 then .info else if verbosity = 1 then .debug else .trace

/-- What the environment asks for. -/
def requested (environment : Option String) : Filter :=
  match environment with
  | none => .warnings
  | some text => (Filter.read? text).getD .warnings

def installed (environment : Option String) (r : Request) : Filter :=
  (requested environment).put ⟨some ownTarget, none, ⟨some (ownLevel r.verbosity)⟩⟩

/-- The filter of a session, once it is installed. -/
structure Session where
  filter : Option Filter
deriving DecidableEq

namespace Session

def fresh : Session := ⟨none⟩

/-- Whether a request is granted, and the session after it. -/
def request (s : Session) (environment : Option String) (r : Request) : Bool × Session :=
  match s.filter with
  | some _ => (false, s)
  | none => (true, ⟨some (installed environment r)⟩)

/-- The answers to a list of requests, and the session after them. -/
def requests (s : Session) (environment : Option String) : List Request → List Bool × Session
  | [] => ([], s)
  | r :: rest =>
    let (granted, next) := s.request environment r
    let (answers, last) := next.requests environment rest
    (granted :: answers, last)

def enables (s : Session) (target : String) (l : Level) : Bool :=
  match s.filter with
  | none => false
  | some f => f.enables target l

/-- The levels that are enabled for a target, the one that matters most first. -/
def levels (s : Session) (target : String) : List Level := Level.all.filter (s.enables target)

end Session
end Log
end SandboxRouting
