import SandboxRouting.Text.Character

/-! # Pieces of a text

Paths and package names are compared by how they begin and end, character by character. The tests
are Boolean functions on texts; the lemmas beside them say what they decide, and that the remainder
of a text is what is left once a given beginning is taken away.

A place in a text is counted in bytes from its beginning. A text can be cut at places, and freed of the
white space around it; a place in what is left is not the same place in the text itself if white space
was taken away in front. -/

namespace SandboxRouting
namespace Text

/-! ### Beginnings and ends -/

def begins (text stem : String) : Bool := stem.toList.isPrefixOf text.toList

def ends (text tail : String) : Bool := tail.toList.isSuffixOf text.toList

theorem begins_iff {text stem : String} : begins text stem = true ↔ stem.toList <+: text.toList :=
  List.isPrefixOf_iff_prefix

theorem ends_iff {text tail : String} : ends text tail = true ↔ tail.toList <:+ text.toList :=
  List.isSuffixOf_iff_suffix

/-- What follows `stem` in a list that begins with it. -/
def rest? : List Char → List Char → Option (List Char)
  | [], text => some text
  | _ :: _, [] => none
  | s :: stem, c :: text => if s = c then rest? stem text else none

theorem rest?_eq_some_iff {stem text rest : List Char} : rest? stem text = some rest ↔ text = stem ++ rest := by
  induction stem generalizing text with
  | nil => simp [rest?, eq_comm]
  | cons s stem ih =>
    cases text with
    | nil => simp [rest?]
    | cons c text =>
      by_cases h : s = c
      · simp [rest?, h, ih]
      · simp [rest?, h, Ne.symm h]

/-- What follows `stem` in a text that begins with it. -/
def remainder? (text stem : String) : Option String :=
  (rest? stem.toList text.toList).map String.ofList

theorem remainder?_eq_some_iff {text stem rest : String} :
    remainder? text stem = some rest ↔ text = stem ++ rest := by
  simp only [remainder?, Option.map_eq_some_iff, rest?_eq_some_iff, ← String.toList_inj, String.toList_append,
    String.toList_ofList]
  constructor
  · rintro ⟨l, hl, hr⟩
    exact hr ▸ hl
  · intro h
    exact ⟨rest.toList, h, rfl⟩

/-! ### Places -/

/-- The bytes of a text. -/
def byteCount (text : List Char) : Nat := text.foldl (fun n c => n + c.utf8Size) 0

/-- What is left of a text behind a place. -/
def behind (place : Nat) : List Char → List Char
  | [] => []
  | c :: rest => if place = 0 then c :: rest else behind (place - c.utf8Size) rest

/-- The beginning of a text that takes some bytes. -/
def ahead (bytes : Nat) : List Char → List Char
  | [] => []
  | c :: rest => if bytes = 0 then [] else c :: ahead (bytes - c.utf8Size) rest

/-- The piece of a text from one place to another. -/
def piece (text : List Char) (start finish : Nat) : List Char := ahead (finish - start) (behind start text)

/-- The text without the white space around it. -/
def trimmed (text : List Char) : List Char :=
  ((text.dropWhile isBlank).reverse.dropWhile isBlank).reverse

end Text
end SandboxRouting
