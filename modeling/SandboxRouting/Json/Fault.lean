import SandboxRouting.Json.Numeral
import SandboxRouting.Number.Shortest
import SandboxRouting.Text.Hidden

/-! # Faults of a document

Reading a document stops at its first fault. The text breaks the rules of writing, it ends too early, a
value is not of the type that is expected, or the name of a record's entry comes back. The last two are
faults of the data, and say in words what was found. A text that was found is shown between quotation
marks, with characters that do not show given by number. -/

namespace SandboxRouting
namespace Json

inductive Found where
  | null
  | flag (value : Bool)
  | number (value : Numeral.Value)
  | text (value : String)
  | list
  | record
deriving DecidableEq

inductive Expected where
  | text
  | flag
  | list
  | record
  | config
deriving DecidableEq

inductive Fault where
  /-- The text breaks the rules of writing. -/
  | malformed
  | unfinished
  | mistyped (found : Found) (expected : Expected)
  | repeated (name : String)
deriving DecidableEq

/-- The kinds of faults that are told apart without their wording. -/
inductive Category where
  | malformed
  | unfinished
  | data
deriving DecidableEq

/-- A number in hexadecimal, without leading zeros. -/
def hexText (n : Nat) : List Char := Nat.toDigits 16 n

/-- A character as it is shown between quotation marks. -/
def shownChar (c : Char) : List Char :=
  if c = '"' then ['\\', '"']
  else if c = '\\' then ['\\', '\\']
  else if c = '\n' then ['\\', 'n']
  else if c = '\r' then ['\\', 'r']
  else if c = '\t' then ['\\', 't']
  else if c = '\x00' then ['\\', '0']
  else if Text.isHidden c then '\\' :: 'u' :: '\x7b' :: (hexText c.toNat ++ ['\x7d'])
  else [c]

def shown (s : String) : String := String.ofList ('"' :: (s.toList.flatMap shownChar ++ ['"']))

def Found.phrase : Found → String
  | null => "null"
  | flag value => "boolean `" ++ (if value then "true" else "false") ++ "`"
  | number (.integer value) => "integer `" ++ value.repr ++ "`"
  | number (.binary negative value) =>
    "floating point `" ++ (if negative then "-" else "") ++ value.text ++ "`"
  | text value => "string " ++ shown value
  | list => "sequence"
  | record => "map"

def Expected.phrase : Expected → String
  | text => "a string"
  | flag => "a boolean"
  | list => "a sequence"
  | record => "a map"
  | config => "struct PresetConfig"

namespace Fault

def category : Fault → Category
  | malformed => .malformed
  | unfinished => .unfinished
  | mistyped _ _ => .data
  | repeated _ => .data

/-- A fault of the data in words; the others are told by their kind alone. -/
def message : Fault → String
  | malformed => ""
  | unfinished => ""
  | mistyped found expected => "invalid type: " ++ found.phrase ++ ", expected " ++ expected.phrase
  | repeated name => "duplicate field `" ++ name ++ "`"

end Fault
end Json
end SandboxRouting
