import SandboxRouting.Routing.Upkeep

/-! # Traffic on one upkeep

Several tasks may align one upkeep at the same time, while readers look up paths. A task tells by itself
what its dependencies make usable. All else it does under a lock, step by step: it compares that with the
phase, builds the rules, installs them, sets the phase, and lets go of the lock. A reader does without the
lock: it takes the installed list in one step and searches that list later, whatever is installed by then.

One step is made at a time, by any task or reader. Who cannot make a step stays where he is. -/

namespace SandboxRouting
namespace Routing

/-- The chain of the first rule of a snapshot that takes the path. -/
def Snapshot.chainFor (s : Snapshot) (preset path : String) : Except Failure Chain :=
  match firstRule? s.rules path with
  | some rule => .ok rule.chain
  | none => .error (.unrouted preset path)

/-- How far a task has come. It has the lock from `comparing` to `releasing`. -/
inductive Progress where
  | starting
  | waiting (f : Features)
  | comparing (f : Features)
  | building (f : Features)
  | installing (f : Features) (rules : List Rule)
  | recording (f : Features)
  | releasing (answer : Except Failure Bool)
  | done (answer : Except Failure Bool)

structure Task where
  deps : Dependencies
  progress : Progress

/-- How far a reader has come. -/
inductive Reading where
  | starting
  | holding (list : Snapshot)
  | done (list : Snapshot) (answer : Except Failure Chain)

/-- Somebody who looks up a path, or who asks for the list alone. -/
structure Reader where
  path? : Option String
  reading : Reading

structure Traffic where
  upkeep : Upkeep
  /-- The task that has the lock. -/
  holder : Option Nat
  tasks : List Task
  readers : List Reader
  /-- The dependencies of the tasks that got the lock so far, in the order in which they got it. -/
  order : List Dependencies

namespace Traffic

/-- Nobody has made a step so far. -/
def start (u : Upkeep) (demands : List Dependencies) (lookups : List (Option String)) : Traffic where
  upkeep := u
  holder := none
  tasks := demands.map fun deps => ⟨deps, .starting⟩
  readers := lookups.map fun path? => ⟨path?, .starting⟩
  order := []

def put (t : Traffic) (i : Nat) (task : Task) : Traffic := { t with tasks := t.tasks.set i task }

/-- One step of the task at a place, by how far it has come. -/
def proceed (t : Traffic) (i : Nat) (deps : Dependencies) : Progress → Traffic
  | .starting => t.put i ⟨deps, .waiting (t.upkeep.features deps)⟩
  | .waiting f =>
    if t.holder = none then
      { t.put i ⟨deps, .comparing f⟩ with holder := some i, order := t.order ++ [deps] }
    else t
  | .comparing f =>
    if t.upkeep.phase = .configured f then t.put i ⟨deps, .releasing (.ok false)⟩
    else t.put i ⟨deps, .building f⟩
  | .building f =>
    match standardRules f t.upkeep.packageRoot with
    | .ok rules => t.put i ⟨deps, .installing f rules⟩
    | .error failure => t.put i ⟨deps, .releasing (.error failure)⟩
  | .installing f rules =>
    { t.put i ⟨deps, .recording f⟩ with upkeep := { t.upkeep with router := t.upkeep.router.install rules } }
  | .recording f =>
    { t.put i ⟨deps, .releasing (.ok true)⟩ with upkeep := { t.upkeep with phase := .configured f } }
  | .releasing answer => { t.put i ⟨deps, .done answer⟩ with holder := none }
  | .done _ => t

def read (t : Traffic) (r : Reader) : Reader :=
  match r.reading, r.path? with
  | .starting, _ => { r with reading := .holding t.upkeep.router.snapshot }
  | .holding list, some path => { r with reading := .done list (list.chainFor t.upkeep.router.name path) }
  | .holding _, none => r
  | .done _ _, _ => r

/-- Who makes the next step. -/
inductive Act where
  | task (i : Nat)
  | reader (i : Nat)

def next (t : Traffic) : Act → Traffic
  | .task i =>
    match t.tasks[i]? with
    | some task => t.proceed i task.deps task.progress
    | none => t
  | .reader i => { t with readers := t.readers.modify i t.read }

def run (t : Traffic) (acts : List Act) : Traffic := acts.foldl next t

end Traffic
end Routing
end SandboxRouting
