import SandboxRouting.Text.Character

/-! # Versions

A manifest asks for a package by an installed version or by a range of versions. Either text is
coerced to a plain triple of numbers before it is compared: only the first alternative of a range
counts, what leads up to its first number is skipped, up to three runs of digits joined by single dots
are read, and what follows them is dropped.

Versions are ordered by their numbers, the major one first. A text that stands for no version
satisfies nothing and is satisfied by nothing. -/

namespace SandboxRouting

structure Version where
  major : UInt64
  minor : UInt64
  patch : UInt64
deriving DecidableEq

namespace Version

/-! ### Order -/

/-- Versions are ordered by the first number in which they differ. -/
protected def le (v w : Version) : Prop :=
  v.major < w.major ∨ v.major = w.major ∧ (v.minor < w.minor ∨ v.minor = w.minor ∧ v.patch ≤ w.patch)

instance : LE Version := ⟨Version.le⟩

instance (v w : Version) : Decidable (v ≤ w) :=
  inferInstanceAs (Decidable (v.major < w.major ∨
    v.major = w.major ∧ (v.minor < w.minor ∨ v.minor = w.minor ∧ v.patch ≤ w.patch)))

def text (v : Version) : String :=
  v.major.toNat.repr ++ "." ++ v.minor.toNat.repr ++ "." ++ v.patch.toNat.repr

/-! ### Coercion -/

/-- What keeps a text from standing for a version. -/
inductive Defect where
  /-- There is no number where one has to be. -/
  | noNumber
  /-- One of the numbers that are read does not fit into 64 bits. -/
  | outOfRange
deriving DecidableEq

def Defect.reason : Defect → String
  | .noNumber => "no numeric version component"
  | .outOfRange => "version component out of range"

/-- A text that stands for no version, and why. -/
structure Unreadable where
  input : String
  defect : Defect
deriving DecidableEq

def Unreadable.message (e : Unreadable) : String :=
  "Invalid version '" ++ e.input ++ "': " ++ e.defect.reason

/-- What stands before the first double bar. -/
def firstAlternative : List Char → List Char
  | [] => []
  | c :: rest =>
    if c = '|' ∧ rest.head? = some '|' then [] else c :: firstAlternative rest

/-- A character that may lead up to the first number of a version: white space, a comparison or a `v`. -/
def isLead (c : Char) : Bool :=
  Text.isBlank c || c == '^' || c == '~' || c == '<' || c == '>' || c == '=' || c == 'v' || c == 'V'

/-- The first `n` runs of digits at the beginning of a text that joins them by single dots. -/
def runs : Nat → List Char → List (List Char)
  | 0, _ => []
  | n + 1, text =>
    let run := text.takeWhile Char.isDigit
    if run = [] then []
    else
      match text.dropWhile Char.isDigit with
      | '.' :: rest => run :: runs n rest
      | _ => [run]

/-- The version of which the numbers are given; those that are missing are zero. -/
def ofNumbers (numbers : List Nat) : Version :=
  ⟨.ofNat (numbers.getD 0 0), .ofNat (numbers.getD 1 0), .ofNat (numbers.getD 2 0)⟩

/-- The version that a text stands for. -/
def coerce (input : String) : Except Unreadable Version :=
  let found := runs 3 ((firstAlternative input.toList).dropWhile isLead)
  let numbers := found.map fun run => Nat.ofDigitChars 10 run 0
  if found = [] then .error ⟨input, .noNumber⟩
  else if numbers.all (· < UInt64.size) then .ok (ofNumbers numbers)
  else .error ⟨input, .outOfRange⟩

/-! ### Thresholds -/

/-- Whether a text stands for a version at or above the one that `minimum` stands for. The error is that
    of the first of the two that stands for none. -/
def atLeast (version minimum : String) : Except Unreadable Bool := do
  let v ← coerce version
  let m ← coerce minimum
  return decide (m ≤ v)

/-- Both texts stand for versions, of which the first is at or above the second. -/
def satisfies (version minimum : String) : Bool :=
  match atLeast version minimum with
  | .ok answer => answer
  | .error _ => false

theorem satisfies_iff {version minimum : String} :
    satisfies version minimum = true ↔ ∃ v m, coerce version = .ok v ∧ coerce minimum = .ok m ∧ m ≤ v := by
  unfold satisfies atLeast
  cases coerce version <;> cases coerce minimum <;> simp [bind, Except.bind, pure, Except.pure]

end Version
end SandboxRouting
