/-! # Levels and thresholds

How much an event matters, from an error, which matters most, to a trace. A threshold is a level or nothing
at all: it enables the levels that matter at least as much. It is written as the name of a level in small or
capital letters, as `off`, or as a number. -/

namespace SandboxRouting

inductive Level where
  | error
  | warn
  | info
  | debug
  | trace
deriving DecidableEq

namespace Level

/-- All levels, the one that matters most first. -/
def all : List Level := [error, warn, info, debug, trace]

/-- The place of a level among all, counted from one. -/
def rank : Level → Nat
  | error => 1
  | warn => 2
  | info => 3
  | debug => 4
  | trace => 5

def name : Level → String
  | error => "ERROR"
  | warn => "WARN"
  | info => "INFO"
  | debug => "DEBUG"
  | trace => "TRACE"

end Level

namespace Log

/-- The levels that are enabled: those that matter at least as much as one, or none. -/
structure Threshold where
  level : Option Level
deriving DecidableEq

/-- The small letters of a text of ASCII. -/
def lowered (text : List Char) : List Char := text.map Char.toLower

namespace Threshold

def off : Threshold := ⟨none⟩

def all : Threshold := ⟨some .trace⟩

def enables (t : Threshold) (l : Level) : Bool :=
  match t.level with
  | none => false
  | some least => l.rank ≤ least.rank

def ofNat? (n : Nat) : Option Threshold :=
  if n = 0 then some off else (Level.all.find? fun l => l.rank = n).map fun l => ⟨some l⟩

/-- Reads a number, which may have a plus before it. -/
def number? (text : List Char) : Option Nat :=
  let digits :=
    match text with
    | '+' :: rest => rest
    | _ => text
  if digits.isEmpty || !digits.all Char.isDigit then none else some (Nat.ofDigitChars 10 digits 0)

/-- Reads a threshold: a level by name in small or capital letters, `off`, or a number. -/
def read? (text : List Char) : Option Threshold :=
  match (number? text).bind ofNat? with
  | some t => some t
  | none =>
    if lowered text = "off".toList then some off
    else (Level.all.find? fun l => lowered l.name.toList = lowered text).map fun l => ⟨some l⟩

end Threshold
end Log
end SandboxRouting
