import SandboxRouting.Event
import SandboxRouting.Table

/-! # Gates and supplements

A gate passes when a package is among the dependencies at or above a minimum version. A feature that
hangs on a gate is absent where the package is, and where either version cannot be read.

A supplement puts a package at a pinned version among the dependencies whenever its gate passes, and
leaves them as they are otherwise. An entry that the package already had gives way to the pinned one. -/

namespace SandboxRouting

/-- The packages a project asks for, each with a version or a range. -/
abbrev Dependencies := Table

/-- A package and the version from which it will do. -/
structure Gate where
  package : String
  minimum : String
deriving DecidableEq

namespace Gate

/-- The package is among the dependencies at or above the minimum. -/
def passes (g : Gate) (deps : Dependencies) : Bool :=
  match deps.get? g.package with
  | none => false
  | some version => Version.satisfies version g.minimum

/-- What is said while the gate is checked. -/
def events (g : Gate) (deps : Dependencies) : List Event :=
  match deps.get? g.package with
  | none => []
  | some version => Event.ofComparison version g.minimum

def check (g : Gate) (deps : Dependencies) : Logged Bool := ⟨g.passes deps, g.events deps⟩

theorem passes_iff {g : Gate} {deps : Dependencies} :
    g.passes deps = true ↔
      ∃ version, deps.get? g.package = some version ∧ Version.satisfies version g.minimum = true := by
  unfold passes
  cases deps.get? g.package <;> simp

end Gate

/-- A package that is added at a pinned version when a gate passes. -/
structure Supplement where
  gate : Gate
  package : String
  version : String
deriving DecidableEq

namespace Supplement

/-- The dependencies with what the supplement adds. -/
def apply (s : Supplement) (deps : Dependencies) : Dependencies :=
  if s.gate.passes deps then deps.insert s.package s.version else deps

def events (s : Supplement) (deps : Dependencies) : List Event :=
  s.gate.events deps ++ if s.gate.passes deps then [.runtimeAdded s.package s.version] else []

def process (s : Supplement) (deps : Dependencies) : Logged Dependencies := ⟨s.apply deps, s.events deps⟩

end Supplement
end SandboxRouting
