import SandboxRouting.Json.Skip
import SandboxRouting.Table

/-! # Reading values of a type

Where a value of a type is expected, its first character decides. A value of another type is a fault of
the data, and one that holds no others is read in full first, so that what is wrong with its writing
comes before what is wrong with its type. Lists and records are read entry by entry, from left to
right; in a table of texts the last text for a name counts. -/

namespace SandboxRouting
namespace Json

/-- The fault of a value of another type that was read, if it was read. A number that is too great cannot
    be told and is malformed. -/
def told {α : Type} (expected : Expected) (found : α → Option Found) : Except Fault α → Fault
  | .ok a =>
    match found a with
    | some f => .mistyped f expected
    | none => .malformed
  | .error fault => fault

/-- What a numeral is found to be. -/
def foundNumber (r : Numeral × List Char) : Option Found := r.1.value?.map .number

/-- The fault of a value that is not of the expected type, told from its first character and the rest. -/
def unexpected (expected : Expected) (c : Char) (rest : List Char) : Fault :=
  if c = 'n' then told expected (fun _ => some .null) (word ['u', 'l', 'l'] rest)
  else if c = 't' then told expected (fun _ => some (.flag true)) (word ['r', 'u', 'e'] rest)
  else if c = 'f' then told expected (fun _ => some (.flag false)) (word ['a', 'l', 's', 'e'] rest)
  else if c = '-' then told expected foundNumber (numeral true rest)
  else if c.isDigit then told expected foundNumber (numeral false (c :: rest))
  else if c = '"' then told expected (fun r => some (.text r.1)) (text rest)
  else if c = '[' then .mistyped .list expected
  else if c = '\x7b' then .mistyped .record expected
  else .malformed

/-! ### Single values -/

def readText (source : List Char) : Except Fault (String × List Char) :=
  match skipBlanks source with
  | [] => .error .unfinished
  | c :: rest => if c = '"' then text rest else .error (unexpected .text c rest)

def readFlag (source : List Char) : Except Fault (Bool × List Char) :=
  match skipBlanks source with
  | [] => .error .unfinished
  | c :: rest =>
    if c = 't' then (word ['r', 'u', 'e'] rest).map (true, ·)
    else if c = 'f' then (word ['a', 'l', 's', 'e'] rest).map (false, ·)
    else .error (unexpected .flag c rest)

/-! ### Lists and records -/

/-- What comes next in a list: an element, which begins here, or its end, with what follows it. -/
inductive Element where
  | present (source : List Char)
  | done (rest : List Char)

def nextElement (isFirst : Bool) (source : List Char) : Except Fault Element :=
  match skipBlanks source with
  | [] => .error .unfinished
  | c :: rest =>
    if c = ']' then .ok (.done rest)
    else if isFirst then .ok (.present (c :: rest))
    else if c = ',' then
      match skipBlanks rest with
      | [] => .error .unfinished
      | d :: more => if d = ']' then .error .malformed else .ok (.present (d :: more))
    else .error .malformed

/-- What comes next in a record: an entry of a name, or its end; either with what follows it. -/
inductive Entry where
  | named (name : String) (rest : List Char)
  | done (rest : List Char)

def entryName : List Char → Except Fault Entry
  | [] => .error .unfinished
  | c :: rest =>
    if c = '"' then
      match text rest with
      | .ok (name, rest) => .ok (.named name rest)
      | .error fault => .error fault
    else .error .malformed

/-- Goes to the next entry of a record, up to the end of its name. -/
def nextEntry (isFirst : Bool) (source : List Char) : Except Fault Entry :=
  match skipBlanks source with
  | [] => .error .unfinished
  | c :: rest =>
    if c = '\x7d' then .ok (.done rest)
    else if isFirst then entryName (c :: rest)
    else if c = ',' then entryName (skipBlanks rest)
    else .error .malformed

def colon (source : List Char) : Except Fault (List Char) :=
  match skipBlanks source with
  | [] => .error .unfinished
  | c :: rest => if c = ':' then .ok rest else .error .malformed

/-- Reads the elements of a list of texts, in at most as many steps as are given, behind those read so
    far, in reverse. -/
def textsWithin : Nat → Bool → List String → List Char → Except Fault (List String × List Char)
  | 0, _, _, _ => .error .unfinished
  | n + 1, isFirst, found, source =>
    match nextElement isFirst source with
    | .error fault => .error fault
    | .ok (.done rest) => .ok (found.reverse, rest)
    | .ok (.present source) =>
      match readText source with
      | .error fault => .error fault
      | .ok (s, rest) => textsWithin n false (s :: found) rest

def readTexts (source : List Char) : Except Fault (List String × List Char) :=
  match skipBlanks source with
  | [] => .error .unfinished
  | c :: rest => if c = '[' then textsWithin (rest.length + 1) true [] rest else .error (unexpected .list c rest)

/-- Reads the entries of a table of texts into a table, in at most as many steps as are given. -/
def tableWithin : Nat → Bool → Table → List Char → Except Fault (Table × List Char)
  | 0, _, _, _ => .error .unfinished
  | n + 1, isFirst, found, source =>
    match nextEntry isFirst source with
    | .error fault => .error fault
    | .ok (.done rest) => .ok (found, rest)
    | .ok (.named name rest) =>
      match colon rest with
      | .error fault => .error fault
      | .ok source =>
        match readText source with
        | .error fault => .error fault
        | .ok (s, rest) => tableWithin n false (found.insert name s) rest

def readTable (source : List Char) : Except Fault (Table × List Char) :=
  match skipBlanks source with
  | [] => .error .unfinished
  | c :: rest =>
    if c = '\x7b' then tableWithin (rest.length + 1) true .empty rest else .error (unexpected .record c rest)

/-! ### Documents -/

/-- The value of a document, after which nothing but blanks may follow. -/
def document {α : Type} (read : List Char → Except Fault (α × List Char)) (source : String) : Except Fault α :=
  match read source.toList with
  | .error fault => .error fault
  | .ok (a, rest) => if (skipBlanks rest).isEmpty then .ok a else .error .malformed

end Json

namespace Table

def ofJson (source : String) : Except Json.Fault Table := Json.document Json.readTable source

def toJson (t : Table) : String := (Json.Value.ofTextEntries t.entries).toText

end Table
end SandboxRouting
