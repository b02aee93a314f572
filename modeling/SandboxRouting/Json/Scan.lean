import SandboxRouting.Json.Fault
import SandboxRouting.Json.Value

/-! # Reading the smallest parts

A reader takes what it reads from the beginning of a text and hands back the rest. The smallest parts of
a document are blanks, words, quoted texts and numerals. Each reader stops at the first fault: where the
text ends in the middle of a part it is unfinished, and where another character stands it is
malformed. -/

namespace SandboxRouting
namespace Json

/-- A blank between the parts of a document. -/
def isBlank (c : Char) : Bool := c == ' ' || c == '\t' || c == '\n' || c == '\r'

def skipBlanks (text : List Char) : List Char := text.dropWhile isBlank

def word : List Char → List Char → Except Fault (List Char)
  | [], text => .ok text
  | _ :: _, [] => .error .unfinished
  | w :: more, c :: rest => if w = c then word more rest else .error .malformed

/-! ### Escapes -/

/-- The bytes that the first characters of a text take, four of them at most. -/
def leadingBytes (text : List Char) : Nat := (text.take 4).foldl (fun n c => n + c.utf8Size) 0

/-- Reads four hexadecimal digits. The text is unfinished if fewer than four bytes are left of it. -/
def unit (text : List Char) : Except Fault (Nat × List Char) :=
  if leadingBytes text < 4 then .error .unfinished
  else
    match text with
    | a :: b :: c :: d :: rest =>
      match Text.hexValue? a, Text.hexValue? b, Text.hexValue? c, Text.hexValue? d with
      | some a, some b, some c, some d => .ok (((a * 16 + b) * 16 + c) * 16 + d, rest)
      | _, _, _, _ => .error .malformed
    | _ => .error .malformed

/-- Reads the unit that has to follow the first unit of a pair, and gives the character of the pair. -/
def secondUnit (first : Nat) : List Char → Except Fault (Char × List Char)
  | [] => .error .unfinished
  | ['\\'] => .error .unfinished
  | '\\' :: 'u' :: text => do
    let (second, rest) ← unit text
    if 0xDC00 ≤ second ∧ second ≤ 0xDFFF then
      return (Char.ofNat (0x10000 + (first - 0xD800) * 0x400 + (second - 0xDC00)), rest)
    else .error .malformed
  | _ => .error .malformed

/-- Reads a character given by number, which takes a pair of units beyond the first 65536 characters. -/
def numbered (text : List Char) : Except Fault (Char × List Char) := do
  let (first, rest) ← unit text
  if 0xDC00 ≤ first ∧ first ≤ 0xDFFF then .error .malformed
  else if 0xD800 ≤ first ∧ first ≤ 0xDBFF then secondUnit first rest
  else return (Char.ofNat first, rest)

/-- The character that a letter or mark stands for behind a backslash. -/
def escaped? : Char → Option Char
  | '"' => some '"'
  | '\\' => some '\\'
  | '/' => some '/'
  | 'b' => some '\x08'
  | 'f' => some '\x0C'
  | 'n' => some '\n'
  | 'r' => some '\r'
  | 't' => some '\t'
  | _ => none

def escape : List Char → Except Fault (Char × List Char)
  | [] => .error .unfinished
  | c :: rest =>
    if c = 'u' then numbered rest
    else
      match escaped? c with
      | some d => .ok (d, rest)
      | none => .error .malformed

/-- Skips an escape behind its backslash; units need not form pairs. -/
def skipEscape : List Char → Except Fault (List Char)
  | [] => .error .unfinished
  | c :: rest =>
    if c = 'u' then (unit rest).map (·.2)
    else if (escaped? c).isSome then .ok rest
    else .error .malformed

/-! ### Texts -/

/-- Reads a text behind its first quotation mark, in at most as many steps as are given. `found` is what
    was read so far, in reverse. -/
def textWithin : Nat → List Char → List Char → Except Fault (String × List Char)
  | 0, _, _ => .error .unfinished
  | _ + 1, _, [] => .error .unfinished
  | n + 1, found, c :: rest =>
    if c = '"' then .ok (String.ofList found.reverse, rest)
    else if c = '\\' then
      match escape rest with
      | .ok (d, rest) => textWithin n (d :: found) rest
      | .error fault => .error fault
    else if c.toNat < 0x20 then .error .malformed
    else textWithin n (c :: found) rest

def text (source : List Char) : Except Fault (String × List Char) :=
  textWithin (source.length + 1) [] source

/-- Skips a text behind its first quotation mark, in at most as many steps as are given. -/
def skipTextWithin : Nat → List Char → Except Fault (List Char)
  | 0, _ => .error .unfinished
  | _ + 1, [] => .error .unfinished
  | n + 1, c :: rest =>
    if c = '"' then .ok rest
    else if c = '\\' then
      match skipEscape rest with
      | .ok rest => skipTextWithin n rest
      | .error fault => .error fault
    else if c.toNat < 0x20 then .error .malformed
    else skipTextWithin n rest

def skipText (source : List Char) : Except Fault (List Char) :=
  skipTextWithin (source.length + 1) source

/-! ### Numerals -/

/-- The fault of a text that has no digit where one has to be. -/
def missingDigit : List Char → Fault
  | [] => .unfinished
  | _ :: _ => .malformed

/-- A decimal digit as a number below ten. -/
def digit (c : Char) : Fin 10 := Fin.ofNat 10 (c.toNat - 0x30)

/-- Reads the digits before the point. Only a lone zero begins with a zero. -/
def wholeDigits (text : List Char) : Except Fault (Nat × List Char) :=
  let digits := text.takeWhile Char.isDigit
  let rest := text.dropWhile Char.isDigit
  if digits.isEmpty then .error (missingDigit rest)
  else if digits.head? = some '0' ∧ digits.length ≠ 1 then .error .malformed
  else .ok (Nat.ofDigitChars 10 digits 0, rest)

/-- Reads the point and the digits after it, if there is a point. -/
def fractionDigits : List Char → Except Fault (List (Fin 10) × List Char)
  | '.' :: text =>
    let digits := text.takeWhile Char.isDigit
    let rest := text.dropWhile Char.isDigit
    if digits.isEmpty then .error (missingDigit rest) else .ok (digits.map digit, rest)
  | text => .ok ([], text)

def powerDigits (negative : Bool) (text : List Char) : Except Fault (Option Int × List Char) :=
  let digits := text.takeWhile Char.isDigit
  let rest := text.dropWhile Char.isDigit
  if digits.isEmpty then .error (missingDigit rest)
  else
    let n := Nat.ofDigitChars 10 digits 0
    .ok (some (if negative then -n else n), rest)

def power : List Char → Except Fault (Option Int × List Char)
  | [] => .ok (none, [])
  | c :: text =>
    if c = 'e' ∨ c = 'E' then
      match text with
      | '+' :: text => powerDigits false text
      | '-' :: text => powerDigits true text
      | text => powerDigits false text
    else .ok (none, c :: text)

def numeral (negative : Bool) (text : List Char) : Except Fault (Numeral × List Char) := do
  let (whole, rest) ← wholeDigits text
  let (fraction, rest) ← fractionDigits rest
  let (power, rest) ← power rest
  return (⟨negative, whole, fraction, power⟩, rest)

/-- Skips a numeral behind its sign; whatever is wrong with it is malformed. -/
def skipNumeral (text : List Char) : Except Fault (List Char) :=
  match numeral false text with
  | .ok (_, rest) => .ok rest
  | .error _ => .error .malformed

end Json
end SandboxRouting
