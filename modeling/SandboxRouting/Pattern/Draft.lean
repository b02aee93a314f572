import SandboxRouting.Pattern.Expr

/-! # Drafts

While a pattern is read, the expression it stands for is a draft: it carries what the limits on
patterns are about. They bound how deep groups and expressions may be nested, and how much room a
pattern takes once every counted repetition is written out; the names of groups have to be distinct.
A draft within the limits is accepted, any other is refused.

A repetition of exactly one round is no expression of its own, and one of no round at all is the empty
text: what it repeats takes no room and is not nested, though its names count as given and its groups
keep their numbers. -/

namespace SandboxRouting
namespace Pattern

/-- An expression in the making, with its measures. -/
structure Draft where
  expr : Expr
  /-- How deep expressions are nested in it. -/
  height : Nat
  /-- How deep groups are nested in it. -/
  depth : Nat
  /-- The room it takes, in bytes, that of its groups' names and places left out. -/
  room : Nat
  /-- It may match the empty text, as far as that can be told without looking at a text. -/
  canBeEmpty : Bool
  names : List String
  /-- How many groups that are set apart it has. -/
  groups : Nat
  /-- The number of the last of them that takes room, the first being one, or zero if none does. -/
  lastGroup : Nat
  /-- The room of the names of those that take room. -/
  nameRoom : Nat

/-- How many times the item before it may be repeated; without a bound, any number from the least. -/
structure Repetition where
  least : Nat
  most : Option Nat

namespace Draft

/-- The room of one state of the machine that searches for a pattern. -/
def stateRoom : Nat := 32

/-- The room of one range of a set. -/
def rangeRoom : Nat := 8

/-- The room of one way on from a state. -/
def branchRoom : Nat := 4

/-- The room of a place for the name of a group. -/
def placeRoom : Nat := 16

/-- The room that a name takes besides its own text. -/
def indexRoom : Nat := 4

/-- The most room a pattern may take. -/
def roomLimit : Nat := 10 * Nat.pow 2 20

/-- How deep groups and expressions may be nested. -/
def nestingLimit : Nat := 50

/-! ### Single expressions -/

/-- A draft without groups that is not made of others. -/
def leaf (expr : Expr) (room : Nat) (canBeEmpty : Bool) : Draft := ⟨expr, 0, 0, room, canBeEmpty, [], 0, 0, 0⟩

def empty : Draft := leaf .empty stateRoom true

def char (c : Char) : Draft := leaf (.one (.single c)) stateRoom false

def set (s : CharSet) : Draft := leaf (.one s) (stateRoom + rangeRoom * s.rangeCount) false

def look (a : Assertion) : Draft := leaf (.look a) stateRoom true

/-! ### Several drafts together -/

/-- The measures of two drafts taken together, the groups of the second behind those of the first; the
    expression is that of the first. -/
def beside (d e : Draft) (canBeEmpty : Bool) : Draft where
  expr := d.expr
  height := max d.height e.height
  depth := max d.depth e.depth
  room := d.room + e.room
  canBeEmpty := canBeEmpty
  names := d.names ++ e.names
  groups := d.groups + e.groups
  lastGroup := if e.lastGroup = 0 then d.lastGroup else d.groups + e.lastGroup
  nameRoom := d.nameRoom + e.nameRoom

/-- The drafts under one expression, which takes some more room. -/
def gathered (join : Expr → Expr → Expr) (d : Draft) (rest : List Draft) (moreRoom : Nat)
    (isEmpty : Bool → Bool → Bool) : Draft :=
  let all := rest.foldl (fun d e => d.beside e (isEmpty d.canBeEmpty e.canBeEmpty)) d
  { all with
    expr := .joined join rest.length (d.expr :: rest.map (·.expr))
    height := all.height + 1
    room := all.room + moreRoom }

def sequence : List Draft → Draft
  | [] => empty
  | [d] => d
  | d :: rest => gathered .seq d rest 0 (· && ·)

def choice : List Draft → Draft
  | [] => empty
  | [d] => d
  | d :: rest => gathered .alt d rest (2 * stateRoom + branchRoom * (rest.length + 1)) (· || ·)

/-! ### Repetitions -/

/-- An expression as often as a repetition says. -/
def repeatedExpr (e : Expr) : Repetition → Expr
  | ⟨0, none⟩ => .star e
  | ⟨1, none⟩ => .plus e
  | ⟨n, none⟩ => .seq (.power e (n - 1)) (.plus e)
  | ⟨0, some 1⟩ => .opt e
  | ⟨0, some m⟩ => .power (.opt e) m
  | ⟨n, some m⟩ => if n = m then .power e n else .seq (.power e n) (.power (.opt e) (m - n))

/-- The room of as many rounds as a repetition says, each of which takes some room. Any number of rounds
    takes more if a round may be empty. -/
def repeatedRoom (round : Nat) (canBeEmpty : Bool) : Repetition → Nat
  | ⟨0, none⟩ => if canBeEmpty then round + 3 * stateRoom + 4 * branchRoom else round + stateRoom + 2 * branchRoom
  | ⟨n, none⟩ => n * round + stateRoom + 2 * branchRoom
  | ⟨0, some 1⟩ => round + 2 * stateRoom + 2 * branchRoom
  | ⟨0, some m⟩ => 2 * stateRoom + m * (round + stateRoom + 2 * branchRoom)
  | ⟨n, some m⟩ =>
    if n = m then n * round else n * round + stateRoom + (m - n) * (round + stateRoom + 2 * branchRoom)

def repeated (d : Draft) : Repetition → Draft
  | ⟨0, some 0⟩ => { empty with depth := d.depth, names := d.names, groups := d.groups }
  | ⟨1, some 1⟩ => d
  | r =>
    { d with
      expr := repeatedExpr d.expr r
      height := d.height + 1
      room := repeatedRoom d.room d.canBeEmpty r
      canBeEmpty := r.least == 0 || d.canBeEmpty }

/-! ### Groups -/

/-- A draft in parentheses that only hold it together. -/
def enclosed (d : Draft) : Draft := { d with depth := d.depth + 1 }

/-- A draft in parentheses that set it apart, possibly with a name. -/
def captured (name : Option String) (d : Draft) : Draft where
  expr := d.expr
  height := d.height + 1
  depth := d.depth + 1
  room := d.room + 2 * stateRoom
  canBeEmpty := d.canBeEmpty
  names := name.toList ++ d.names
  groups := d.groups + 1
  lastGroup := d.lastGroup + 1
  nameRoom := d.nameRoom + (name.map fun n => n.utf8ByteSize + indexRoom).getD 0

/-- The room of a whole pattern: the pattern is a group itself, and all groups up to the last that takes
    room have places for their names. -/
def wholeRoom (d : Draft) : Nat := d.room + 3 * stateRoom + placeRoom * (d.lastGroup + 1) + d.nameRoom

/-- The draft keeps to the limits, and its groups have names of their own. -/
def isAcceptable (d : Draft) : Bool :=
  d.height ≤ nestingLimit && d.depth ≤ nestingLimit && d.wholeRoom ≤ roomLimit && decide d.names.Nodup

end Draft
end Pattern
end SandboxRouting
