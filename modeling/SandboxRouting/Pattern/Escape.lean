import SandboxRouting.Pattern.Flags
import SandboxRouting.Text.Character

/-! # Escapes

What a backslash and the characters after it stand for: a character, one of a few sets, or an
assertion. Every mark of ASCII may be escaped and then stands for itself; a letter may only where it has
a meaning, and a digit never. A character can be given by its code point in hexadecimal, either with a
fixed number of digits or between braces. -/

namespace SandboxRouting
namespace Pattern

/-- What an escape stands for. -/
inductive Escape where
  | char (c : Char)
  | set (s : CharSet)
  | look (a : Assertion)

namespace Escape

/-- The meaning of an escape of one character. -/
def ofChar? : Char → Option Escape
  | 'd' => some (.set .digit)
  | 'D' => some (.set CharSet.digit.complement)
  | 's' => some (.set .space)
  | 'S' => some (.set CharSet.space.complement)
  | 'w' => some (.set .word)
  | 'W' => some (.set CharSet.word.complement)
  | 'a' => some (.char '\x07')
  | 'f' => some (.char '\x0C')
  | 't' => some (.char '\t')
  | 'n' => some (.char '\n')
  | 'r' => some (.char '\r')
  | 'v' => some (.char '\x0B')
  | 'A' => some (.look .textStart)
  | 'z' => some (.look .textEnd)
  | 'B' => some (.look .notWordBoundary)
  | '<' => some (.look .wordStart)
  | '>' => some (.look .wordEnd)
  | c => if c.toNat < 128 && !c.isAlphanum then some (.char c) else none

/-! ### Code points -/

/-- The character at a code point, if one is there. -/
def charAt? (n : Nat) : Option Char :=
  if n.isValidChar then some (Char.ofNat n) else none

/-- Reads a fixed number of hexadecimal digits behind the value of those already read. -/
def fixedDigits (f : Flags) : Nat → Nat → List Char → Option (Nat × List Char)
  | 0, value, text => some (value, text)
  | _ + 1, _, [] => none
  | n + 1, value, c :: rest =>
    match Text.hexValue? c with
    | some d => fixedDigits f n (16 * value + d) (f.skip rest)
    | none => none

/-- Reads hexadecimal digits up to a closing brace. `value` is what was read so far, if anything was. -/
def bracedDigits (f : Flags) (inComment : Bool) (value : Option Nat) : List Char → Option (Nat × List Char)
  | [] => none
  | c :: rest =>
    if inComment then bracedDigits f (c != '\n') value rest
    else if f.spaced && Text.isBlank c then bracedDigits f false value rest
    else if f.spaced && c == '#' then bracedDigits f true value rest
    else if c = '\x7d' then value.map (·, f.skip rest)
    else
      match Text.hexValue? c with
      | some d => bracedDigits f false (some (16 * value.getD 0 + d)) rest
      | none => none

/-- Reads the code point of an escape that would have `n` digits outside braces. -/
def codePoint (f : Flags) (n : Nat) (text : List Char) : Option (Escape × List Char) := do
  let (value, rest) ←
    match f.skip text with
    | '\x7b' :: rest => bracedDigits f false none rest
    | rest => fixedDigits f n 0 rest
  let c ← charAt? value
  return (.char c, rest)

/-! ### Word boundaries -/

/-- The kinds of word boundary that have a name. -/
def boundary? : String → Option Assertion
  | "start" => some .wordStart
  | "end" => some .wordEnd
  | "start-half" => some .wordStartHalf
  | "end-half" => some .wordEndHalf
  | _ => none

/-- A character that the name of a word boundary is made of. -/
def isBoundaryChar (c : Char) : Bool := c.isAlpha || c == '-'

/-- Reads the name of a word boundary up to its closing brace, behind what was read of it in reverse. -/
def boundaryName (f : Flags) (inComment : Bool) (name : List Char) : List Char → Option (String × List Char)
  | [] => none
  | c :: rest =>
    if inComment then boundaryName f (c != '\n') name rest
    else if f.spaced && Text.isBlank c then boundaryName f false name rest
    else if f.spaced && c == '#' then boundaryName f true name rest
    else if isBoundaryChar c then boundaryName f false (c :: name) rest
    else if c = '\x7d' then some (String.ofList name.reverse, rest)
    else none

/-- Reads what follows a word boundary: its kind between braces, unless the brace opens a count. -/
def boundary (f : Flags) (text : List Char) : Option (Escape × List Char) :=
  match text with
  | '\x7b' :: rest =>
    match f.skip rest with
    | [] => none
    | c :: more =>
      if isBoundaryChar c then do
        let (name, rest) ← boundaryName f false [] (c :: more)
        let a ← boundary? name
        return (.look a, rest)
      else some (.look .wordBoundary, text)
  | _ => some (.look .wordBoundary, text)

/-- Reads what follows a backslash. -/
def read (f : Flags) : List Char → Option (Escape × List Char)
  | [] => none
  | 'x' :: rest => codePoint f 2 rest
  | 'u' :: rest => codePoint f 4 rest
  | 'U' :: rest => codePoint f 8 rest
  | 'b' :: rest => boundary f rest
  | c :: rest => (ofChar? c).map (·, rest)

/-- The draft of an escape that stands for itself. -/
def draft (f : Flags) : Escape → Draft
  | char c => f.char c
  | set s => .set s
  | look a => .look a

end Escape
end Pattern
end SandboxRouting
