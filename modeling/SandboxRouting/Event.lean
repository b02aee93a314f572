import SandboxRouting.Log.Level
import SandboxRouting.Version

/-! # Events

What the library has to say while it works. An event names its cause and what it is about; its level,
its wording and its fields follow from that. Nothing is decided by an event, so an operation hands
back its events beside its value. -/

namespace SandboxRouting

/-- Something worth saying. -/
inductive Event where
  /-- A version was compared that cannot be read. -/
  | versionUnreadable (cause : Version.Unreadable)
  | runtimeAdded (package version : String)
  | refreshEnabled (preset : String)
  | refreshDisabled (preset : String)
  | bootstrapInjected (path : String)
  /-- The rules are in line with the dependencies. -/
  | setupComplete (preset : String) (rebuilt : Bool)
  | remountForced (package below : String)
deriving DecidableEq

namespace Event

inductive Field where
  | text (value : String)
  | flag (value : Bool)
deriving DecidableEq

/-- How much the event matters: a forced remount is a warning, all else is for debugging. -/
def level : Event → Level
  | remountForced _ _ => .warn
  | _ => .debug

def message : Event → String
  | versionUnreadable _ => "version requirement treated as unsatisfied"
  | runtimeAdded _ _ => "adding refresh runtime dependency"
  | refreshEnabled _ => "refresh is enabled, registering additional transpiler"
  | refreshDisabled _ => "refresh is disabled"
  | bootstrapInjected _ => "injecting refresh bootstrap module"
  | setupComplete _ _ => "preset setup complete"
  | remountForced _ _ => "framework too old for hot patching, remounting on change"

def fields : Event → List (String × Field)
  | versionUnreadable cause => [("error", .text cause.message)]
  | runtimeAdded package version => [("package", .text package), ("version", .text version)]
  | refreshEnabled preset => [("preset", .text preset)]
  | refreshDisabled preset => [("preset", .text preset)]
  | bootstrapInjected path => [("path", .text path)]
  | setupComplete preset rebuilt => [("preset", .text preset), ("rebuilt", .flag rebuilt)]
  | remountForced package below => [("package", .text package), ("below", .text below)]

/-- What is said when a version is compared with a minimum: nothing unless one cannot be read. -/
def ofComparison (version minimum : String) : List Event :=
  match Version.atLeast version minimum with
  | .ok _ => []
  | .error cause => [versionUnreadable cause]

end Event

/-- A value with the events on the way to it, in order. -/
structure Logged (α : Type) where
  value : α
  events : List Event

/-- Whether a version is at or above a minimum, and what is said about it. -/
def Version.compare (version minimum : String) : Logged Bool :=
  ⟨Version.satisfies version minimum, Event.ofComparison version minimum⟩

end SandboxRouting
