import SandboxRouting.Pattern.Compile

/-! # Patterns for values

The value that a field has to have may be given by a pattern. What is said here is which texts are such
patterns.

They are written like other patterns, and there is more that may stand between brackets: sets in sets,
and two hyphens, ampersands or tildes, which make an operation of what stands before them and behind
them. Flags are a part of their own, which cannot be repeated. The limit on nesting is another one: each
group, repetition and bracket counts, and so do several parts side by side, entries side by side, and
each operation.

A pattern for values does without tables of letters, and never matches a piece of a character. As long
as it speaks of all characters, what needs such a table is refused: classes of characters, boundaries of
words, and any character without regard to case. Where the flag for that is cleared it speaks of bytes,
and what could match a byte outside ASCII is refused: a dot, a complement, and bytes outside ASCII. -/

namespace SandboxRouting
namespace Log
namespace ValuePattern

open Pattern (Flags CharSet Assertion Escape)

/-- How deep parts may be nested. -/
def nestingLimit : Nat := 250

/-- How deep parts side by side are nested, of which each is nested as deep as is given. -/
def sideBySide : List Nat → Nat
  | [] => 0
  | [depth] => depth
  | depths => depths.foldl max 0 + 1

/-! ### What the flags allow -/

def isAscii (s : CharSet) : Bool := s.ranges.all fun r => r.2 < 128

/-- A character may stand for itself outside brackets. -/
def allowsChar (f : Flags) : Bool := !(f.unicode && f.caseless)

/-- The characters of a set may be listed between brackets. -/
def allowsListed (f : Flags) (s : CharSet) : Bool := if f.unicode then !f.caseless else isAscii s

/-- A class of characters that a letter stands for may be used. -/
def allowsClass (f : Flags) (s : CharSet) : Bool := !f.unicode && isAscii s

/-- An assertion may be made: any about lines and the whole text, and those about words of ASCII. -/
def allowsLook (f : Flags) : Assertion → Bool
  | .textStart => true
  | .textEnd => true
  | .lineStart => true
  | .lineEnd => true
  | .returnStart => true
  | .returnEnd => true
  | .wordBoundary => !f.unicode
  | .notWordBoundary => !f.unicode
  | .wordStart => !f.unicode
  | .wordEnd => !f.unicode
  | .wordStartHalf => !f.unicode
  | .wordEndHalf => !f.unicode

/-! ### Escapes -/

/-- What follows a backslash is a code point of two digits, which is a byte where the pattern speaks of bytes. -/
def isByte (f : Flags) : List Char → Bool
  | 'x' :: rest => !f.unicode && (f.skip rest).head? != some '\x7b'
  | _ => false

/-- Reads what follows a backslash outside brackets, which leaves the rest. -/
def escape? (f : Flags) (text : List Char) : Option (List Char) :=
  match Escape.read f text with
  | some (.char c, rest) => if allowsChar f && (!isByte f text || c.toNat < 128) then some rest else none
  | some (.set s, rest) => if allowsClass f s then some rest else none
  | some (.look a, rest) => if allowsLook f a then some rest else none
  | none => none

/-! ### Between brackets -/

/-- What was read between brackets: how deep what stands before the last operation is nested, if there is
    one, and how deep each of the entries since is. -/
structure Listing where
  before : Option Nat
  entries : List Nat

namespace Listing

def push (l : Listing) (depth : Nat) : Listing := { l with entries := depth :: l.entries }

def depth (l : Listing) : Nat :=
  match l.before with
  | none => sideBySide l.entries
  | some n => max n (sideBySide l.entries) + 1

end Listing

/-- Reads a character, a class or a range between brackets, which leaves the rest. Whether case is looked
    at makes no difference to which of these is there. -/
def entry? (f : Flags) (text : List Char) : Option (List Char) := do
  let cased := { f with caseless := false }
  let (first, _) ← Pattern.Bracket.entry cased text
  let (s, rest) ← Pattern.Bracket.range cased text
  match first with
  | .char _ => if allowsListed f s then some rest else none
  | .set _ => if allowsClass f s then some rest else none

/-- Two signs begin an operation. -/
def isOperation (c : Char) (rest : List Char) : Bool := (c == '&' || c == '-' || c == '~') && rest.head? == some c

/-- Reads the hyphens at the beginning as entries, in at most as many steps as are given. -/
def hyphens (f : Flags) : Nat → Listing → List Char → Listing × List Char
  | n + 1, l, '-' :: rest => hyphens f n (l.push 0) (f.skip rest)
  | _, l, text => (l, text)

/-- Reads what has its meaning only right behind an opening bracket: a circumflex, which takes the
    complement, and then hyphens or else one closing bracket, which stand for themselves. -/
def opening? (f : Flags) (text : List Char) : Option (Listing × List Char) :=
  let text := f.skip text
  let negated := text.head? == some '^'
  let text := if negated then f.skip (text.drop 1) else text
  if negated && !f.unicode then none
  else
    match text with
    | '-' :: _ => if allowsListed f (.single '-') then some (hyphens f text.length ⟨none, []⟩ text) else none
    | ']' :: rest => if allowsListed f (.single ']') then some (⟨none, [0]⟩, rest) else none
    | _ => some (⟨none, []⟩, text)

/-- Reads entries and operations up to the closing bracket, in at most as many steps as are given. Answers
    how deep all of them together are nested, and the rest. -/
def entries (f : Flags) : Nat → Listing → List Char → Option (Nat × List Char)
  | 0, _, _ => none
  | n + 1, l, text =>
    match f.skip text with
    | [] => none
    | ']' :: rest => some (l.depth, rest)
    | '[' :: rest =>
      match Pattern.Bracket.namedSet rest with
      | some (s, rest) => if allowsListed f s then entries f n (l.push 0) rest else none
      | none =>
        match opening? f rest with
        | none => none
        | some (inner, rest) =>
          match entries f n inner rest with
          | some (depth, rest) => entries f n (l.push (depth + 1)) rest
          | none => none
    | c :: rest =>
      if isOperation c rest then entries f n ⟨some l.depth, []⟩ (rest.drop 1)
      else
        match entry? f (c :: rest) with
        | some rest => entries f n (l.push 0) rest
        | none => none

/-- Reads a bracketed set behind its opening bracket: how deep it is nested, and the rest. -/
def bracket? (f : Flags) (text : List Char) : Option (Nat × List Char) := do
  let (l, rest) ← opening? f text
  let (depth, rest) ← entries f (text.length + 1) l rest
  return (depth + 1, rest)

/-! ### Parts and branches -/

structure Part where
  /-- How deep it is nested. -/
  depth : Nat
  /-- It sets flags and is nothing else. -/
  isDirective : Bool
  names : List String

namespace Part

/-- Parts side by side, as one part. -/
def together (parts : List Part) : Part := ⟨sideBySide (parts.map (·.depth)), false, parts.flatMap (·.names)⟩

/-- A part in parentheses, possibly with a name. -/
def grouped (name : Option String) (p : Part) : Part := ⟨p.depth + 1, false, name.toList ++ p.names⟩

/-- A part that is repeated, unless it only sets flags. -/
def repeated? (p : Part) : Option Part := if p.isDirective then none else some { p with depth := p.depth + 1 }

/-- The part is nested no deeper than it may be, and its groups have names of their own. -/
def isAcceptable (p : Part) : Bool := p.depth ≤ nestingLimit && decide p.names.Nodup

end Part

/-- Reads an item other than a group behind its first character: how deep it is nested, and the rest. -/
def item? (f : Flags) (c : Char) (rest : List Char) : Option (Nat × List Char) :=
  if c = '[' then bracket? f rest
  else if c = '\\' then (escape? f rest).map (0, ·)
  else if c = '.' then if f.unicode then some (0, rest) else none
  else if c = '^' ∨ c = '$' then some (0, rest)
  else if allowsChar f then some (0, rest)
  else none

/-- Reads branches up to the end of the text or a closing parenthesis, which is left in place, in at most
    as many steps as are given. The branches and parts read so far are in reverse. -/
def branches : Nat → Flags → List Part → List Part → List Char → Option (Part × List Char)
  | 0, _, _, _, _ => none
  | n + 1, f, done, parts, text =>
    match f.skip text with
    | [] => some (.together (.together parts :: done), [])
    | c :: rest =>
      if c = ')' then some (.together (.together parts :: done), c :: rest)
      else if c = '|' then branches n f (.together parts :: done) [] rest
      else if c = '(' then
        match Pattern.opening f rest with
        | none => none
        | some (.directive flags, rest) => branches n flags done (⟨0, true, []⟩ :: parts) rest
        | some (.enclosure flags, rest) =>
          match branches n flags [] [] rest with
          | some (body, ')' :: rest) => branches n f done (body.grouped none :: parts) rest
          | _ => none
        | some (.capture name, rest) =>
          match branches n f [] [] rest with
          | some (body, ')' :: rest) => branches n f done (body.grouped name :: parts) rest
          | _ => none
      else
        match Pattern.repetition? f c rest with
        | some repetition =>
          match repetition, parts with
          | some (_, rest), p :: parts =>
            match p.repeated? with
            | some p => branches n f done (p :: parts) rest
            | none => none
          | _, _ => none
        | none =>
          match item? f c rest with
          | some (depth, rest) => branches n f done (⟨depth, false, []⟩ :: parts) rest
          | none => none

/-- The text is a pattern for values. -/
def isPattern (text : List Char) : Bool :=
  match branches (text.length + 1) .plain [] [] text with
  | some (part, []) => part.isAcceptable
  | _ => false

end ValuePattern
end Log
end SandboxRouting
