import SandboxRouting.Log.Directive
import SandboxRouting.Text.Piece

/-! # Filters

A filter is a list of entries. Each gives the levels that are enabled for the targets that begin with a
text, or for all targets, and possibly for events with a field alone. Whether a level is enabled is asked
of no event in particular, so an entry with a field is heeded as well. Of the entries for a target the
one with the longest text decides, of these one with a field, and of these the one whose field comes last
by name; a target that no entry is for has no level enabled. A later entry replaces one for the same
text and field.

A filter is written as directives between commas; one that cannot be read spoils the whole list. A
directive for spans with a name, or for a field with a value, bears on what happens inside spans and
gives no entry. -/

namespace SandboxRouting
namespace Log

/-- The levels that are enabled for the targets that begin with a text, or for all targets. -/
structure Entry where
  target : Option String
  /-- The field that events are expected to have. -/
  field : Option String
  threshold : Threshold
deriving DecidableEq

namespace Entry

def isFor (e : Entry) (target : String) : Bool :=
  match e.target with
  | none => true
  | some stem => Text.begins target stem

/-- How much of a target the entry is about: nothing for all targets. -/
def reach (e : Entry) : Nat :=
  match e.target with
  | none => 0
  | some stem => stem.length + 1

/-- A field of the second entry, if it has one, does not come before that of the first. -/
def fieldLE (d e : Entry) : Bool :=
  match d.field, e.field with
  | none, _ => true
  | some _, none => false
  | some f, some g => f ≤ g

/-- The second of two entries for a target decides rather than the first. -/
def yields (d e : Entry) : Bool := d.reach < e.reach || (d.reach == e.reach && fieldLE d e)

/-- The two entries are for the same text and field. -/
def sameKey (d e : Entry) : Bool := d.target == e.target && d.field == e.field

end Entry

/-- What a directive says where nothing is known of spans. -/
def Directive.entry? (d : Directive) : Option Entry :=
  match d.span, d.field with
  | none, none => some ⟨d.target, none, d.threshold⟩
  | none, some ⟨name, none⟩ => some ⟨d.target, some name, d.threshold⟩
  | _, _ => none

/-- A list of entries, one for each text and field. -/
abbrev Filter := List Entry

namespace Filter

/-- The filter with one more entry, in the place of one for the same text and field. -/
def put (f : Filter) (e : Entry) : Filter := f.filter (fun d => !d.sameKey e) ++ [e]

def deciding? (f : Filter) (target : String) : Option Entry :=
  (f.filter (·.isFor target)).foldl (fun best e =>
    match best with
    | none => some e
    | some d => if d.yields e then some e else some d) none

def enables (f : Filter) (target : String) (l : Level) : Bool :=
  match f.deciding? target with
  | none => false
  | some e => e.threshold.enables l

/-- What stands between the commas of a text. -/
def items (text : List Char) : List (List Char) := text.splitOn ','

/-- Reads a filter; what is empty between commas counts for nothing. -/
def read? (text : String) : Option Filter :=
  (((items text.toList).filter fun i => !i.isEmpty).mapM Directive.read?).map fun ds =>
    (ds.filterMap Directive.entry?).foldl put []

/-- Warnings and errors of all targets. -/
def warnings : Filter := [⟨none, none, ⟨some .warn⟩⟩]

end Filter
end Log
end SandboxRouting
