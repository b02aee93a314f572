import SandboxRouting.Pattern.Bracket
import SandboxRouting.Pattern.Search
import SandboxRouting.Text.Character

/-! # Compiling a pattern

A pattern is a choice of branches, a branch a sequence of items, and an item a character, a set, an
assertion or a group, which may be followed by a repetition. A pattern that breaks the rules of writing
or the limits on drafts does not compile. -/

namespace SandboxRouting

/-- A pattern that compiled: its text and what it means. -/
structure Pattern where
  source : String
  expr : Pattern.Expr
deriving DecidableEq

namespace Pattern

/-! ### Groups -/

/-- What an opening parenthesis begins. -/
inductive Opening where
  /-- Flags for what follows, without a group. -/
  | directive (flags : Flags)
  /-- A group that only holds its items together. -/
  | enclosure (flags : Flags)
  /-- A group that is set apart, possibly with a name. -/
  | capture (name : Option String)

/-- A character that the name of a group may hold, or begin with. -/
def isNameChar (isFirst : Bool) (c : Char) : Bool :=
  if isFirst then c == '_' || Text.isLetter c
  else c == '_' || c == '.' || c == '[' || c == ']' || Text.isLetterOrNumber c

/-- Reads the name of a group up to the closing angle, behind what was read of it in reverse. -/
def groupName (name : List Char) : List Char → Option (String × List Char)
  | [] => none
  | c :: rest =>
    if c = '>' then if name.isEmpty then none else some (String.ofList name.reverse, rest)
    else if isNameChar name.isEmpty c then groupName (c :: name) rest
    else none

/-- Reads what follows an opening parenthesis up to the first item of the group, or a directive with its
    closing parenthesis. -/
def opening (f : Flags) (text : List Char) : Option (Opening × List Char) :=
  match f.skip text with
  | '?' :: rest =>
    match rest with
    | '=' :: _ => none
    | '!' :: _ => none
    | '<' :: '=' :: _ => none
    | '<' :: '!' :: _ => none
    | '<' :: rest => (groupName [] rest).map fun r => (.capture (some r.1), r.2)
    | 'P' :: '<' :: rest => (groupName [] rest).map fun r => (.capture (some r.1), r.2)
    | ')' :: _ => none
    | _ =>
      match Flags.readList [] true false f rest with
      | some (flags, ':' :: rest) => some (.enclosure flags, rest)
      | some (flags, ')' :: rest) => some (.directive flags, rest)
      | _ => none
  | rest => some (.capture none, rest)

/-! ### Repetitions -/

/-- Reads decimal digits, behind those already read in reverse. -/
def digits (f : Flags) (inComment : Bool) (found : List Char) : List Char → List Char × List Char
  | [] => (found.reverse, [])
  | c :: rest =>
    if inComment then digits f (c != '\n') found rest
    else if c.isDigit then digits f false (c :: found) rest
    else if f.spaced && Text.isBlank c then digits f false found rest
    else if f.spaced && c == '#' then digits f true found rest
    else (found.reverse, c :: rest)

/-- Reads a number of 32 bits with blanks around it. -/
def count (f : Flags) (text : List Char) : Option (Nat × List Char) :=
  let (found, rest) := digits f false [] (text.dropWhile Text.isBlank)
  let n := Nat.ofDigitChars 10 found 0
  if found.isEmpty || UInt32.size ≤ n then none else some (n, rest.dropWhile Text.isBlank)

/-- Drops the question mark that makes a repetition prefer less, which does not change what is found. -/
def dropPreference : List Char → List Char
  | '?' :: rest => rest
  | text => text

/-- Reads a counted repetition behind its opening brace. -/
def counted (f : Flags) (text : List Char) : Option (Repetition × List Char) := do
  let (least, rest) ← count f (f.skip text)
  match rest with
  | '\x7d' :: rest => return (⟨least, some least⟩, dropPreference (f.skip rest))
  | ',' :: rest =>
    match f.skip rest with
    | '\x7d' :: rest => return (⟨least, none⟩, dropPreference (f.skip rest))
    | rest =>
      let (most, rest) ← count f rest
      match rest with
      | '\x7d' :: rest => if least ≤ most then return (⟨least, some most⟩, dropPreference (f.skip rest)) else none
      | _ => none
  | _ => none

/-- Reads the repetition that a character begins, if it begins one. -/
def repetition? (f : Flags) (c : Char) (rest : List Char) : Option (Option (Repetition × List Char)) :=
  if c = '?' then some (some (⟨0, some 1⟩, dropPreference rest))
  else if c = '*' then some (some (⟨0, none⟩, dropPreference rest))
  else if c = '+' then some (some (⟨1, none⟩, dropPreference rest))
  else if c = '\x7b' then some (counted f rest)
  else none

/-! ### Items and branches -/

/-- Reads an item other than a group behind its first character. -/
def item (f : Flags) (c : Char) (rest : List Char) : Option (Draft × List Char) :=
  if c = '[' then (Bracket.read f rest).map fun r => (.set r.1, r.2)
  else if c = '\\' then (Escape.read f rest).map fun r => (r.1.draft f, r.2)
  else if c = '.' then some (f.dot, rest)
  else if c = '^' then some (.look f.start, rest)
  else if c = '$' then some (.look f.finish, rest)
  else some (f.char c, rest)

/-- Reads branches up to the end of the text or a closing parenthesis, which is left in place, in at most
    as many steps as are given. The branches and items read so far are in reverse. -/
def branches : Nat → Flags → List Draft → List Draft → List Char → Option (Draft × List Char)
  | 0, _, _, _, _ => none
  | n + 1, f, done, items, text =>
    match f.skip text with
    | [] => some (.choice (.sequence items.reverse :: done).reverse, [])
    | c :: rest =>
      if c = ')' then some (.choice (.sequence items.reverse :: done).reverse, c :: rest)
      else if c = '|' then branches n f (.sequence items.reverse :: done) [] rest
      else if c = '(' then
        match opening f rest with
        | none => none
        | some (.directive flags, rest) => branches n flags done items rest
        | some (.enclosure flags, rest) =>
          match branches n flags [] [] rest with
          | some (body, ')' :: rest) => branches n f done (body.enclosed :: items) rest
          | _ => none
        | some (.capture name, rest) =>
          match branches n f [] [] rest with
          | some (body, ')' :: rest) => branches n f done (body.captured name :: items) rest
          | _ => none
      else
        match repetition? f c rest with
        | some repetition =>
          match repetition, items with
          | some (r, rest), body :: items => branches n f done (body.repeated r :: items) rest
          | _, _ => none
        | none =>
          match item f c rest with
          | some (draft, rest) => branches n f done (draft :: items) rest
          | none => none

def draft? (source : String) : Option Draft :=
  match branches (source.toList.length + 1) .plain [] [] source.toList with
  | some (draft, []) => some draft
  | _ => none

def compile? (source : String) : Option Pattern :=
  match draft? source with
  | some draft => if draft.isAcceptable then some ⟨source, draft.expr⟩ else none
  | none => none

/-- The pattern is found somewhere in a text. -/
def occursIn (p : Pattern) (text : String) : Bool := p.expr.occursIn text

end Pattern
end SandboxRouting
