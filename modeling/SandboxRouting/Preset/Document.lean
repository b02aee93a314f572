import SandboxRouting.Json.Typed
import SandboxRouting.Preset.Config

/-! # Documents of configurations

A configuration is written as a record of all settings in their order. Reading lays a document over the
standard settings. In a record every setting may occur once, in any place, and names that stand for no
setting are skipped with their values; a setting that comes back is refused before its value is looked
at. A list holds the settings in their order from the first one on, and those that are missing keep
their standard. -/

namespace SandboxRouting
namespace Config
open Json

def Shape.read : (s : Shape) → List Char → Except Fault (s.Content × List Char)
  | text => readText
  | flag => readFlag
  | texts => readTexts
  | table => readTable

def Shape.toValue : (s : Shape) → s.Content → Value
  | text, (v : String) => .text v
  | flag, (v : Bool) => .flag v
  | texts, (v : List String) => .ofTexts v
  | table, (v : Table) => .ofTextEntries v.entries

/-! ### Writing -/

def toValue (c : Config) : Value := .record (Field.all.map fun f => (f.key, f.shape.toValue (c.get f)))

def toJson (c : Config) : String := c.toValue.toText

/-! ### Reading -/

/-- Reads the entries of a record over a configuration, in at most as many steps as are given. `seen` are
    the settings met so far. -/
def entriesWithin : Nat → Bool → List Field → Config → List Char → Except Fault (Config × List Char)
  | 0, _, _, _, _ => .error .unfinished
  | n + 1, isFirst, seen, c, source =>
    match nextEntry isFirst source with
    | .error fault => .error fault
    | .ok (.done rest) => .ok (c, rest)
    | .ok (.named key rest) =>
      match Field.ofKey? key with
      | none =>
        match colon rest with
        | .error fault => .error fault
        | .ok source =>
          match skipValue source with
          | .error fault => .error fault
          | .ok rest => entriesWithin n false seen c rest
      | some f =>
        if f ∈ seen then .error (.repeated key)
        else
          match colon rest with
          | .error fault => .error fault
          | .ok source =>
            match f.shape.read source with
            | .error fault => .error fault
            | .ok (v, rest) => entriesWithin n false (f :: seen) (c.set f v) rest

def listEnd (source : List Char) : Except Fault (List Char) :=
  match skipBlanks source with
  | [] => .error .unfinished
  | c :: rest => if c = ']' then .ok rest else .error .malformed

/-- Reads the elements of a list over a configuration, in the order of the settings that are left. -/
def elements : List Field → Bool → Config → List Char → Except Fault (Config × List Char)
  | [], _, c, source => (listEnd source).map (c, ·)
  | f :: fields, isFirst, c, source =>
    match nextElement isFirst source with
    | .error fault => .error fault
    | .ok (.done rest) => .ok (c, rest)
    | .ok (.present source) =>
      match f.shape.read source with
      | .error fault => .error fault
      | .ok (v, rest) => elements fields false (c.set f v) rest

/-- Reads a configuration over another one. -/
def readOver (c : Config) (source : List Char) : Except Fault (Config × List Char) :=
  match skipBlanks source with
  | [] => .error .unfinished
  | d :: rest =>
    if d = '\x7b' then entriesWithin (rest.length + 1) true [] c rest
    else if d = '[' then elements Field.all true c rest
    else .error (unexpected .config d rest)

/-- The configuration that a document stands for, over the standard settings. -/
def ofJson (source : String) : Except Fault Config := document (readOver standard) source

/-- The configuration that a document stands for, or the failure to read it. -/
def load (source : String) : Except Failure Config :=
  match ofJson source with
  | .ok c => .ok c
  | .error fault => .error (.unreadableConfig fault)

end Config
end SandboxRouting
