import SandboxRouting.Pattern.Escape

/-! # Bracketed sets

A set between brackets lists characters, ranges of characters, escapes that stand for a character or a
set, and named sets of the form `[:name:]`. A circumflex at its beginning takes the complement. Hyphens
that come first and a closing bracket that comes first of all stand for themselves, so no set is empty.
Sets inside sets and operations on them are refused. -/

namespace SandboxRouting
namespace Pattern
namespace Bracket

/-- An entry of a bracketed set, of which only a character can end a range. -/
inductive Entry where
  | char (c : Char)
  | set (s : CharSet)

def Entry.chars : Entry → CharSet
  | char c => .single c
  | set s => s

/-- Reads a character or an escape. A letter escaped without regard to case stands for two characters,
    so it is a set. -/
def entry (f : Flags) : List Char → Option (Entry × List Char)
  | [] => none
  | '\\' :: rest =>
    match Escape.read f rest with
    | some (.char c, rest) =>
      some (if f.caseless && c.isAlpha then .set (CharSet.single c).caseless else .char c, rest)
    | some (.set s, rest) => some (.set s, rest)
    | some (.look _, _) => none
    | none => none
  | c :: rest => some (.char c, rest)

/-- The next character after a hyphen that is neither blank nor the sign that opens a comment. -/
def peek (f : Flags) (text : List Char) : Option Char :=
  if f.spaced then
    match text.dropWhile Text.isBlank with
    | '#' :: rest => (rest.dropWhile Text.isBlank).head?
    | rest => rest.head?
  else text.head?

/-- Reads an entry, or a range of which it is the beginning. -/
def range (f : Flags) (text : List Char) : Option (CharSet × List Char) := do
  let (first, rest) ← entry f text
  match f.skip rest with
  | [] => none
  | '-' :: more =>
    if peek f more = some ']' ∨ peek f more = some '-' then return (first.chars, '-' :: more)
    else
      match f.skip more with
      | [] => none
      | text =>
        let (last, rest) ← entry f text
        match first, last with
        | .char c, .char d => if c ≤ d then return (.between c d, rest) else none
        | _, _ => none
  | rest => return (first.chars, rest)

/-- Reads a named set behind its opening bracket. -/
def namedSet : List Char → Option (CharSet × List Char)
  | ':' :: text =>
    let negated := text.head? = some '^'
    let text := if negated then text.drop 1 else text
    match text.dropWhile (· != ':') with
    | ':' :: ']' :: rest => do
      let s ← CharSet.named? (String.ofList (text.takeWhile (· != ':')))
      return (if negated then s.complement else s, rest)
    | _ => none
  | _ => none

/-- Reads entries up to the closing bracket, in at most as many steps as are given. -/
def entries (f : Flags) : Nat → CharSet → List Char → Option (CharSet × List Char)
  | 0, _, _ => none
  | n + 1, s, text =>
    match f.skip text with
    | [] => none
    | ']' :: rest => some (s, rest)
    | '[' :: rest =>
      match namedSet rest with
      | some (t, rest) => entries f n (s.union t) rest
      | none => none
    | c :: rest =>
      if (c = '&' ∨ c = '-' ∨ c = '~') ∧ rest.head? = some c then none
      else
        match range f (c :: rest) with
        | some (t, rest) => entries f n (s.union t) rest
        | none => none

/-- Skips the hyphens at the beginning, in at most as many steps as are given. -/
def hyphens (f : Flags) : Nat → List Char → List Char
  | n + 1, '-' :: rest => hyphens f n (f.skip rest)
  | _, text => text

/-- Reads a bracketed set behind its opening bracket. -/
def read (f : Flags) (text : List Char) : Option (CharSet × List Char) := do
  let text := f.skip text
  let negated := text.head? = some '^'
  let text := if negated then f.skip (text.drop 1) else text
  let (s, rest) ←
    match text with
    | '-' :: _ => entries f (text.length + 1) (.single '-') (hyphens f text.length text)
    | ']' :: rest => entries f (text.length + 1) (.single ']') rest
    | _ => entries f (text.length + 1) ⟨[]⟩ text
  let s := if f.caseless then s.caseless else s
  return (if negated then s.complement else s, rest)

end Bracket
end Pattern
end SandboxRouting
