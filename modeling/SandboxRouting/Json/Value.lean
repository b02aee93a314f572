import SandboxRouting.Json.Numeral
import SandboxRouting.Text.Character

/-! # Values of a document

A value is nothing, a truth value, a number, a text, a list of values or a record of named values. The
entries of a record keep their order, and a name may come back. A value is written without blanks.

A text in a document stands between quotation marks. The quotation mark, the backslash and the control
characters are escaped, five of the latter by a letter and the others by number; every other character
stands for itself. -/

namespace SandboxRouting
namespace Json

/-! ### Quoted text -/

/-- A character between quotation marks. -/
def quoteChar (c : Char) : List Char :=
  if c = '"' then ['\\', '"']
  else if c = '\\' then ['\\', '\\']
  else if c = '\x08' then ['\\', 'b']
  else if c = '\x0C' then ['\\', 'f']
  else if c = '\n' then ['\\', 'n']
  else if c = '\r' then ['\\', 'r']
  else if c = '\t' then ['\\', 't']
  else if c.toNat < 0x20 then ['\\', 'u', '0', '0', Text.hexDigit (c.toNat / 16), Text.hexDigit (c.toNat % 16)]
  else [c]

def quote (s : String) : List Char := '"' :: (s.toList.flatMap quoteChar ++ ['"'])

/-! ### Values -/

inductive Value where
  | null
  | flag (value : Bool)
  | number (value : Numeral)
  | text (value : String)
  | list (values : List Value)
  | record (entries : List (String × Value))

namespace Value

instance : Inhabited Value := ⟨null⟩

mutual

def render : Value → List Char
  | null => "null".toList
  | flag value => if value then "true".toList else "false".toList
  | number value => value.text
  | text value => quote value
  | list values => '[' :: (renderList values ++ [']'])
  | record entries => '\x7b' :: (renderEntries entries ++ ['\x7d'])

def renderList : List Value → List Char
  | [] => []
  | [v] => v.render
  | v :: rest => v.render ++ ',' :: renderList rest

def renderEntries : List (String × Value) → List Char
  | [] => []
  | [(name, v)] => quote name ++ ':' :: v.render
  | (name, v) :: rest => quote name ++ ':' :: (v.render ++ ',' :: renderEntries rest)

end

def toText (v : Value) : String := String.ofList v.render

def ofTexts (texts : List String) : Value := list (texts.map text)

def ofTextEntries (entries : List (String × String)) : Value := record (entries.map fun e => (e.1, text e.2))

end Value
end Json
end SandboxRouting
