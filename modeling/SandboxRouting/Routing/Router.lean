import SandboxRouting.Routing.Rule

/-! # Routers

A router sends every path to the chain of the first of its rules that takes it. Its list of rules is
never edited: a change puts another list in its place and is counted. A snapshot is the list that was
installed at some moment, known by the count of changes at that moment; so it is still the installed one
exactly if there was no change since, whatever the lists hold. The count that is reported has 64 bits. -/

namespace SandboxRouting
namespace Routing

/-- Rules under the name of a preset, with the extensions of files that the preset claims. -/
structure Router where
  name : String
  extensions : List String
  rules : List Rule
  /-- How many times the list of rules was changed. -/
  changes : Nat

/-- A list of rules that was installed, known by the number of changes before. -/
structure Snapshot where
  rules : List Rule
  changes : Nat

inductive Change where
  /-- Puts a rule behind all others. -/
  | append (rule : Rule)
  /-- Puts a whole list in the place of the installed one. -/
  | replace (rules : List Rule)
  | clear

namespace Router

def fresh (name : String) (extensions : List String) : Router := ⟨name, extensions, [], 0⟩

/-- Puts a list of rules in the place of the installed one. -/
def install (r : Router) (rules : List Rule) : Router := { r with rules, changes := r.changes + 1 }

def change (r : Router) : Change → Router
  | .append rule => r.install (r.rules ++ [rule])
  | .replace rules => r.install rules
  | .clear => r.install []

/-- How many times the list of rules was changed, in 64 bits. -/
def generation (r : Router) : UInt64 := .ofNat r.changes

/-- The chain of the first rule that takes the path. -/
def chainFor (r : Router) (path : String) : Except Failure Chain :=
  match firstRule? r.rules path with
  | some rule => .ok rule.chain
  | none => .error (.unrouted r.name path)

/-- The path ends with a point and one of the claimed extensions. -/
def recognizes (r : Router) (path : String) : Bool :=
  r.extensions.any fun extension => Text.ends path ("." ++ extension)

def snapshot (r : Router) : Snapshot := ⟨r.rules, r.changes⟩

/-- The snapshot is the installed list itself. -/
def holds (r : Router) (s : Snapshot) : Bool := s.changes = r.changes

end Router
end Routing
end SandboxRouting
