import SandboxRouting.Pattern.Draft
import SandboxRouting.Text.Character

/-! # Flags

Flags change how a pattern is read from the place where they are set to the end of the group. They say
what a letter, a dot and an anchor mean, and whether white space and comments between items are
skipped. A flag may be set or cleared once in one list of flags. One of them is known but makes no
difference, and another makes one only to patterns for values. -/

namespace SandboxRouting
namespace Pattern

/-- How a pattern is read. -/
structure Flags where
  /-- A letter stands for both of its cases. -/
  caseless : Bool
  /-- Anchors hold at lines too. -/
  lines : Bool
  /-- A dot stands for a line feed too. -/
  dotAll : Bool
  /-- A carriage return ends a line as well. -/
  returns : Bool
  /-- White space and comments are skipped. -/
  spaced : Bool
  /-- A pattern for values speaks of all characters, not of bytes. -/
  unicode : Bool
deriving DecidableEq

namespace Flags

def plain : Flags := ⟨false, false, false, false, false, true⟩

/-- The flags with one of them set or cleared, if there is such a flag. -/
def put? (f : Flags) (value : Bool) : Char → Option Flags
  | 'i' => some { f with caseless := value }
  | 'm' => some { f with lines := value }
  | 's' => some { f with dotAll := value }
  | 'R' => some { f with returns := value }
  | 'x' => some { f with spaced := value }
  | 'u' => some { f with unicode := value }
  | 'U' => some f
  | _ => none

/-- Reads a list of flags up to a colon or a closing parenthesis, which is left in place. `seen` holds
    the flags read so far, `value` is false once a minus was read, and `justCleared` says that the
    minus was the last thing read. -/
def readList (seen : List Char) (value justCleared : Bool) (f : Flags) : List Char → Option (Flags × List Char)
  | [] => none
  | c :: rest =>
    if c = ':' ∨ c = ')' then
      if justCleared then none else some (f, c :: rest)
    else if c = '-' then
      if value then readList seen false true f rest else none
    else if c ∈ seen then none
    else
      match f.put? value c with
      | some f => readList (c :: seen) value false f rest
      | none => none

/-- Skips white space and comments, which run from a number sign to the end of the line. -/
def skipBlanks (inComment : Bool) : List Char → List Char
  | [] => []
  | c :: rest =>
    if inComment then skipBlanks (c != '\n') rest
    else if Text.isBlank c then skipBlanks false rest
    else if c = '#' then skipBlanks true rest
    else c :: rest

/-- Skips what the flags say is to be skipped between items. -/
def skip (f : Flags) (text : List Char) : List Char :=
  if f.spaced then skipBlanks false text else text

def char (f : Flags) (c : Char) : Draft :=
  if f.caseless && c.isAlpha then .set (CharSet.single c).caseless else .char c

def dot (f : Flags) : Draft :=
  if f.dotAll then .set .any
  else if f.returns then .set (CharSet.union (.single '\n') (.single '\r')).complement
  else .set (CharSet.single '\n').complement

/-- The assertion of a circumflex under the flags. -/
def start (f : Flags) : Assertion :=
  if f.lines then if f.returns then .returnStart else .lineStart else .textStart

/-- The assertion of a dollar sign under the flags. -/
def finish (f : Flags) : Assertion :=
  if f.lines then if f.returns then .returnEnd else .lineEnd else .textEnd

end Flags
end Pattern
end SandboxRouting
