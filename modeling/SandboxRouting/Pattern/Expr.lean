import SandboxRouting.Pattern.CharSet

/-! # Expressions

What a pattern means is an expression over sets of characters. An assertion consumes nothing: it looks
at the characters before and after a position, either of which is missing at an end of the text. Words
are made of the letters, digits and underscore of ASCII.

An expression matches a piece of a text between the characters before and after the piece; `Matches`
says which pieces these are. -/

namespace SandboxRouting
namespace Pattern

/-- A test of a position in a text. -/
inductive Assertion where
  | textStart
  | textEnd
  /-- At the start of the text or after a line feed. -/
  | lineStart
  /-- At the end of the text or before a line feed. -/
  | lineEnd
  /-- As `lineStart`, where a carriage return ends a line too, unless a line feed follows it. -/
  | returnStart
  /-- As `lineEnd`, where a carriage return ends a line too, and a line feed after it does not. -/
  | returnEnd
  | wordBoundary
  | notWordBoundary
  | wordStart
  | wordEnd
  /-- No word character stands before the position. -/
  | wordStartHalf
  /-- No word character stands after the position. -/
  | wordEndHalf
deriving DecidableEq

/-- The neighbour of a position is a character of which words are made. -/
def isWordAt (neighbour : Option Char) : Bool := neighbour.any CharSet.word.mem

/-- The assertion holds between two neighbours, either of which is missing at an end of the text. -/
def Assertion.holds (before after : Option Char) : Assertion → Bool
  | textStart => before.isNone
  | textEnd => after.isNone
  | lineStart => before.isNone || before == some '\n'
  | lineEnd => after.isNone || after == some '\n'
  | returnStart => before.isNone || before == some '\n' || (before == some '\r' && after != some '\n')
  | returnEnd => after.isNone || after == some '\r' || (after == some '\n' && before != some '\r')
  | wordBoundary => isWordAt before != isWordAt after
  | notWordBoundary => isWordAt before == isWordAt after
  | wordStart => !isWordAt before && isWordAt after
  | wordEnd => isWordAt before && !isWordAt after
  | wordStartHalf => !isWordAt before
  | wordEndHalf => !isWordAt after

/-- What a pattern matches. -/
inductive Expr where
  | empty
  | one (set : CharSet)
  /-- The empty text at a position where an assertion holds. -/
  | look (assertion : Assertion)
  | seq (first second : Expr)
  | alt (left right : Expr)
  /-- An expression once or more often. -/
  | plus (body : Expr)
deriving DecidableEq

namespace Expr

/-- The character after a position, from the text that follows up to another position and the character
    after that one. -/
def following (text : List Char) (after : Option Char) : Option Char := text.head?.or after

/-- The character before a position, from the text that leads up to it from another position and the
    character before that one. -/
def preceding (before : Option Char) (text : List Char) : Option Char := text.getLast?.or before

/-- The expression matches a text that stands between two neighbours. -/
inductive Matches : Expr → Option Char → List Char → Option Char → Prop where
  | empty {before after : Option Char} : Matches .empty before [] after
  | one {set : CharSet} {before after : Option Char} {c : Char} (h : set.mem c = true) :
      Matches (.one set) before [c] after
  | look {assertion : Assertion} {before after : Option Char} (h : assertion.holds before after = true) :
      Matches (.look assertion) before [] after
  | seq {first second : Expr} {before after : Option Char} {u v : List Char}
      (h₁ : Matches first before u (following v after)) (h₂ : Matches second (preceding before u) v after) :
      Matches (.seq first second) before (u ++ v) after
  | left {left right : Expr} {before after : Option Char} {w : List Char} (h : Matches left before w after) :
      Matches (.alt left right) before w after
  | right {left right : Expr} {before after : Option Char} {w : List Char} (h : Matches right before w after) :
      Matches (.alt left right) before w after
  | once {body : Expr} {before after : Option Char} {w : List Char} (h : Matches body before w after) :
      Matches (.plus body) before w after
  | more {body : Expr} {before after : Option Char} {u v : List Char}
      (h₁ : Matches body before u (following v after)) (h₂ : Matches (.plus body) (preceding before u) v after) :
      Matches (.plus body) before (u ++ v) after

/-! ### Repetitions -/

def opt (e : Expr) : Expr := .alt .empty e

def star (e : Expr) : Expr := .opt (.plus e)

/-- An expression a fixed number of times, put together from halves. -/
def power (e : Expr) (count : Nat) : Expr :=
  if count = 0 then .empty
  else if count = 1 then e
  else
    let half := power e (count / 2)
    if count % 2 = 0 then .seq half half else .seq (.seq half half) e
termination_by count

/-! ### Many expressions -/

/-- Joins expressions two by two. -/
def paired (join : Expr → Expr → Expr) : List Expr → List Expr
  | e :: f :: rest => join e f :: paired join rest
  | es => es

/-- Joins expressions in rounds until one is left, in at most as many rounds as are given. -/
def joined (join : Expr → Expr → Expr) : Nat → List Expr → Expr
  | _, [] => .empty
  | _, [e] => e
  | 0, e :: _ => e
  | n + 1, e :: f :: rest => joined join n (paired join (e :: f :: rest))

end Expr
end Pattern
end SandboxRouting
