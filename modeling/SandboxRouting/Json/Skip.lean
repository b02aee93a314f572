import SandboxRouting.Json.Scan

/-! # Skipping a value

A value that nobody asks for is only checked for the rules of writing, however deep it is nested. What
is open around the place that was reached is kept as a list, so a value of any depth is skipped in one
pass. -/

namespace SandboxRouting
namespace Json

/-- A value that is open around a place. -/
inductive Frame where
  | list
  | record
deriving DecidableEq

/-- Whether a value is to follow or has just ended. -/
inductive Place where
  | before
  | after
deriving DecidableEq

def skipName (source : List Char) : Except Fault (List Char) :=
  match skipBlanks source with
  | [] => .error .unfinished
  | '"' :: rest => do
    let rest ← skipText rest
    match skipBlanks rest with
    | [] => .error .unfinished
    | ':' :: rest => return rest
    | _ => .error .malformed
  | _ => .error .malformed

/-- Skips a value that holds no others, behind its first character. -/
def skipScalar (c : Char) (rest : List Char) : Except Fault (List Char) :=
  if c = '"' then skipText rest
  else if c = 'n' then word ['u', 'l', 'l'] rest
  else if c = 't' then word ['r', 'u', 'e'] rest
  else if c = 'f' then word ['a', 'l', 's', 'e'] rest
  else if c = '-' then skipNumeral rest
  else if c.isDigit then skipNumeral (c :: rest)
  else .error .malformed

/-- Skips what is left of the open values, in at most as many steps as are given. -/
def skipWithin : Nat → Place → List Frame → List Char → Except Fault (List Char)
  | 0, _, _, _ => .error .unfinished
  | _ + 1, .after, [], source => .ok source
  | n + 1, .after, frame :: frames, source =>
    match skipBlanks source with
    | [] => .error .unfinished
    | c :: rest =>
      if c = ',' then
        match frame with
        | .list => skipWithin n .before (.list :: frames) rest
        | .record =>
          match skipName rest with
          | .ok rest => skipWithin n .before (.record :: frames) rest
          | .error fault => .error fault
      else if c = (match frame with | .list => ']' | .record => '\x7d') then skipWithin n .after frames rest
      else .error .malformed
  | n + 1, .before, frames, source =>
    match skipBlanks source with
    | [] => .error .unfinished
    | c :: rest =>
      if c = '[' then
        match skipBlanks rest with
        | ']' :: rest => skipWithin n .after frames rest
        | _ => skipWithin n .before (.list :: frames) rest
      else if c = '\x7b' then
        match skipBlanks rest with
        | '\x7d' :: rest => skipWithin n .after frames rest
        | _ =>
          match skipName rest with
          | .ok rest => skipWithin n .before (.record :: frames) rest
          | .error fault => .error fault
      else
        match skipScalar c rest with
        | .ok rest => skipWithin n .after frames rest
        | .error fault => .error fault

def skipValue (source : List Char) : Except Fault (List Char) :=
  skipWithin (source.length + 1) .before [] source

end Json
end SandboxRouting
