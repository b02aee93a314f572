import SandboxRouting.Log.Level
import SandboxRouting.Log.ValuePattern
import SandboxRouting.Text.Piece

/-! # Directives

A directive enables levels: for all targets or for those that begin with a text, inside all spans or
those with a name, and for all events or those with a field, which may have to have a value.

It is written as a level, as a target, or as a target with a span between brackets, either of which may
be missing, and with a level behind an equals sign. A span is a name with a field between braces, either
of which may be missing. Without a level, every level is enabled.

White space around a directive is not looked at, but places are kept: what stands between two signs is
cut from the whole text, at the places that the signs have in the text without the white space. So a
target that is written alone keeps its white space, and behind white space in front a level is not
found. -/

namespace SandboxRouting
namespace Log

/-- A field that an event has to have, possibly with a value. -/
structure Field where
  name : String
  value : Option String
deriving DecidableEq

namespace Field

/-- The text is a number without a sign, possibly with a point and a power of ten, or one of the words for
    what is no number or too great for one. -/
def isMagnitude (text : List Char) : Bool :=
  let whole := text.takeWhile Char.isDigit
  let rest := text.dropWhile Char.isDigit
  let behindPoint :=
    match rest with
    | '.' :: rest => rest
    | _ => []
  let fraction := behindPoint.takeWhile Char.isDigit
  let power :=
    match rest with
    | '.' :: _ => behindPoint.dropWhile Char.isDigit
    | _ => rest
  let isPower :=
    match lowered power with
    | [] => true
    | 'e' :: '+' :: digits => !digits.isEmpty && digits.all Char.isDigit
    | 'e' :: '-' :: digits => !digits.isEmpty && digits.all Char.isDigit
    | 'e' :: digits => !digits.isEmpty && digits.all Char.isDigit
    | _ => false
  (!(whole ++ fraction).isEmpty && isPower) ||
    lowered text ∈ ["inf".toList, "infinity".toList, "nan".toList]

/-- The text can be a value: it is a pattern, or a number with a plus before it, which is no pattern. -/
def isValue (text : List Char) : Bool :=
  match text with
  | '+' :: rest => isMagnitude rest
  | _ => ValuePattern.isPattern text

/-- Reads a field: its name and, behind an equals sign, its value up to another one. -/
def read? (text : List Char) : Option Field :=
  let name := String.ofList (text.takeWhile (· != '='))
  match text.dropWhile (· != '=') with
  | [] => if text.isEmpty then none else some ⟨name, none⟩
  | _ :: rest =>
    let value := rest.takeWhile (· != '=')
    if isValue value then some ⟨name, some (String.ofList value)⟩ else none

end Field

/-- The levels that are enabled where everything that is given holds. -/
structure Directive where
  target : Option String
  span : Option String
  field : Option Field
  threshold : Threshold
deriving DecidableEq

namespace Directive

/-- A character that a directive may begin with, a bracket aside. -/
def isFirst (c : Char) : Bool := c == '-' || c == ':' || c == '_' || Text.isLetterOrNumber c

/-- A text that is being read: `body` is the text without the white space around it. -/
structure Reading where
  text : List Char
  body : List Char

namespace Reading

/-- The place where a rest of the body begins. -/
def place (r : Reading) (rest : List Char) : Nat := Text.byteCount r.body - Text.byteCount rest

/-- What stands between two places, given as the rests of the body that begin there. -/
def piece (r : Reading) (start finish : List Char) : List Char := Text.piece r.text (r.place start) (r.place finish)

/-- Reads the level to which the rest of the text comes down. -/
def level? (r : Reading) (start : List Char) : Option Threshold :=
  match Text.behind (r.place start) r.text with
  | [] => some .all
  | text => Threshold.read? text

/-- Reads what follows a span. -/
def finish? (r : Reading) : List Char → Option Threshold
  | [] => some .all
  | '=' :: rest => r.level? rest
  | _ => none

/-- Reads a span behind its opening bracket, and what follows it. -/
def span? (r : Reading) (target : Option String) (start : List Char) : Option Directive :=
  match start.dropWhile fun c => c != ']' && c != '\x7b' with
  | [] => none
  | c :: rest =>
    let name := String.ofList (r.piece start (c :: rest))
    if c = ']' then (r.finish? rest).map fun t => ⟨target, some name, none, t⟩
    else
      match rest.dropWhile (· != '\x7d') with
      | '\x7d' :: ']' :: more => do
        let field ← Field.read? (r.piece rest ('\x7d' :: ']' :: more))
        let t ← r.finish? more
        return ⟨target, if name.isEmpty then none else some name, some field, t⟩
      | _ => none

end Reading

/-- Reads a directive that holds no comma. -/
def read? (text : List Char) : Option Directive :=
  let r : Reading := ⟨text, Text.trimmed text⟩
  match r.body with
  | [] => none
  | '[' :: rest => r.span? none rest
  | c :: _ =>
    if !isFirst c then none
    else
      match r.body.dropWhile fun c => c != '=' && c != '[' with
      | [] =>
        match Threshold.read? text with
        | some t => some ⟨none, none, none, t⟩
        | none => some ⟨some (String.ofList text), none, none, .all⟩
      | c :: rest =>
        let target := String.ofList (r.piece r.body (c :: rest))
        if c = '[' then r.span? (some target) rest
        else (r.level? rest).map fun t => ⟨some target, none, none, t⟩

end Directive
end Log
end SandboxRouting
