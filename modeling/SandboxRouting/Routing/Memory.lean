import SandboxRouting.Routing.Request
import SandboxRouting.Routing.Upkeep

/-! # Lists of rules in memory

A router does not own its list of rules. It knows the place in memory where the list stands, and so does
everybody who keeps a snapshot. No list is ever written to: a change makes another list, at a place that is
not in use, and the router forgets the place of the old one. A list of which nobody knows the place is gone,
and another may come to stand there. -/

namespace SandboxRouting
namespace Routing

abbrev Place := Nat

/-- How a place is chosen for a new list: in any way, as long as it is not in use. The choice may hang on how many
    lists were made before. -/
structure Allocator where
  pick : Nat → List Place → Place
  pick_notMem : ∀ made used, pick made used ∉ used

/-- The lists in use by their places, the place of the installed list, and those of snapshots by who keeps them. -/
structure Memory where
  lists : List (Place × List Rule)
  installed : Place
  kept : List (Nat × Place)
  made : Nat

namespace Memory

/-- The empty list stands alone in memory. -/
def start (a : Allocator) : Memory := ⟨[(a.pick 0 [], [])], a.pick 0 [], [], 1⟩

def listAt (m : Memory) (p : Place) : Option (List Rule) := m.lists.lookup p

def current (m : Memory) : List Rule := (m.listAt m.installed).getD []

/-- The place of the snapshot that somebody keeps. -/
def placeOf (m : Memory) (holder : Nat) : Option Place := m.kept.lookup holder

/-- The places that the router or somebody with a snapshot knows. -/
def known (m : Memory) : List Place := m.installed :: m.kept.map (·.2)

/-- Drops the lists of which nobody knows the place. -/
def sweep (m : Memory) : Memory := { m with lists := m.lists.filter fun cell => m.known.contains cell.1 }

/-- The place that is chosen for the next list. -/
def vacant (m : Memory) (a : Allocator) : Place := a.pick m.made (m.lists.map (·.1))

/-- Makes a list and installs it, while the one of before is still there. -/
def make (m : Memory) (a : Allocator) (rules : List Rule) : Memory :=
  { m with lists := (m.vacant a, rules) :: m.lists, installed := m.vacant a, made := m.made + 1 }

/-- Makes a list and installs it, and drops the one of before if nobody keeps it. -/
def put (m : Memory) (a : Allocator) (rules : List Rule) : Memory := (m.make a rules).sweep

/-- Somebody keeps the installed list, and no longer the one that he kept before. -/
def keep (m : Memory) (holder : Nat) : Memory :=
  sweep { m with kept := (holder, m.installed) :: m.kept.filter (·.1 != holder) }

def release (m : Memory) (holder : Nat) : Memory := sweep { m with kept := m.kept.filter (·.1 != holder) }

/-- What a request to the router does in memory. A rule is put behind a copy of the installed list. -/
def receive (m : Memory) (a : Allocator) : Request → Memory
  | .append draft =>
    match draft.build with
    | .ok rule => m.put a (m.current ++ [rule])
    | .error _ => m
  | .replace drafts =>
    match drafts.mapM Rule.Draft.build with
    | .ok rules => m.put a rules
    | .error _ => m
  | .clear => m.put a []
  | _ => m

end Memory

/-- What is asked of a router under upkeep, and of those who keep snapshots of its list. -/
inductive Errand where
  | align (deps : Dependencies)
  | request (request : Request)
  | keep (holder : Nat)
  | release (holder : Nat)

/-- A router under upkeep with the memory in which its lists stand. -/
structure SharedUpkeep where
  upkeep : Upkeep
  memory : Memory

namespace SharedUpkeep

def start (a : Allocator) (name : String) (extensions : List String) (gate : Gate) (packageRoot : String) :
    SharedUpkeep :=
  ⟨⟨.fresh name extensions, gate, packageRoot, .uninitialized⟩, .start a⟩

def next (a : Allocator) (k : SharedUpkeep) : Errand → SharedUpkeep
  | .align deps =>
    let f := k.upkeep.features deps
    let memory :=
      if k.upkeep.phase = .configured f then k.memory
      else
        match standardRules f k.upkeep.packageRoot with
        | .ok rules => k.memory.put a rules
        | .error _ => k.memory
    ⟨(k.upkeep.align deps).value.upkeep, memory⟩
  | .request request =>
    ⟨{ k.upkeep with router := (k.upkeep.router.respond request).router }, k.memory.receive a request⟩
  | .keep holder => { k with memory := k.memory.keep holder }
  | .release holder => { k with memory := k.memory.release holder }

def run (a : Allocator) (k : SharedUpkeep) (errands : List Errand) : SharedUpkeep := errands.foldl (next a) k

end SharedUpkeep
end Routing
end SandboxRouting
