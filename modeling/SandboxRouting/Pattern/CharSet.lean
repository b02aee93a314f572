/-! # Sets of characters

A set of characters is written as a list of ranges of code points, ends included, in any order. The
complement is what is left of all code points when every range is taken away, and comes out as
separate ranges in increasing order; so the complement of the complement is the same set in as few
ranges as it can be written with.

Case is that of the Latin letters of ASCII alone, and goes by those fewest ranges: a range that holds
small letters gets the capitals of these, and only a range without small letters gets the small letters
of its capitals. So a range that runs on from capitals into small letters leaves out the small letters
of its capitals. -/

namespace SandboxRouting
namespace Pattern

/-- A set of characters as a list of ranges of code points, ends included. -/
structure CharSet where
  ranges : List (Nat × Nat)
deriving DecidableEq

namespace CharSet

def inRange (r : Nat × Nat) (n : Nat) : Bool := r.1 ≤ n && n ≤ r.2

def mem (s : CharSet) (c : Char) : Bool := s.ranges.any fun r => inRange r c.toNat

def single (c : Char) : CharSet := ⟨[(c.toNat, c.toNat)]⟩

/-- The characters from one to another, both included. -/
def between (c d : Char) : CharSet := ⟨[(c.toNat, d.toNat)]⟩

def union (s t : CharSet) : CharSet := ⟨s.ranges ++ t.ranges⟩

/-- What is left of some ranges when one is taken away. -/
def without (r : Nat × Nat) (ranges : List (Nat × Nat)) : List (Nat × Nat) :=
  ranges.flatMap fun a =>
    (if a.1 < r.1 then [(a.1, min a.2 (r.1 - 1))] else []) ++
      if r.2 < a.2 then [(max a.1 (r.2 + 1), a.2)] else []

def allPoints : Nat × Nat := (0, 0x10FFFF)

def complement (s : CharSet) : CharSet :=
  ⟨s.ranges.foldl (fun left r => without r left) [allPoints]⟩

def any : CharSet := ⟨[allPoints]⟩

/-- The set in as few ranges as it can be written with, in increasing order. -/
def fewest (s : CharSet) : CharSet := s.complement.complement

/-- The number of ranges that the set takes when it is written in as few as possible. -/
def rangeCount (s : CharSet) : Nat := s.fewest.ranges.length

/-- The part of a range that lies between two code points, moved by some places. -/
def moved (lo hi : Nat) (move : Nat → Nat) (r : Nat × Nat) : List (Nat × Nat) :=
  if max r.1 lo ≤ min r.2 hi then [(move (max r.1 lo), move (min r.2 hi))] else []

/-- The capitals of the small letters of a range, or the small letters of its capitals if it has no small
    letters. -/
def otherCase (r : Nat × Nat) : List (Nat × Nat) :=
  match moved 0x61 0x7A (· - 32) r with
  | [] => moved 0x41 0x5A (· + 32) r
  | capitals => capitals

/-- The set together with the other case of the letters of each of its fewest ranges. -/
def caseless (s : CharSet) : CharSet := ⟨s.fewest.ranges ++ s.fewest.ranges.flatMap otherCase⟩

/-! ### Membership -/

theorem mem_union {s t : CharSet} {c : Char} : (s.union t).mem c = (s.mem c || t.mem c) := by
  simp [mem, union, List.any_append]

theorem mem_single {c d : Char} : (single c).mem d = true ↔ d = c := by
  simp only [mem, single, List.any_cons, List.any_nil, Bool.or_false, inRange, Bool.and_eq_true, decide_eq_true_eq]
  constructor
  · rintro ⟨h₁, h₂⟩
    exact Char.toNat_inj.mp (Nat.le_antisymm h₂ h₁)
  · rintro rfl
    exact ⟨Nat.le_refl _, Nat.le_refl _⟩

/-- A code point is left over exactly when it was there and is not in the range taken away. -/
theorem any_without {r : Nat × Nat} {ranges : List (Nat × Nat)} {n : Nat} :
    ((without r ranges).any fun a => inRange a n) = ((ranges.any fun a => inRange a n) && !inRange r n) := by
  induction ranges with
  | nil => rfl
  | cons a rest ih =>
    have hcons : without r (a :: rest) = without r [a] ++ without r rest := by
      simp [without]
    have hone : ((without r [a]).any fun b => inRange b n) = (inRange a n && !inRange r n) := by
      rw [Bool.eq_iff_iff]
      by_cases h₁ : a.1 < r.1 <;> by_cases h₂ : r.2 < a.2 <;>
        simp [without, h₁, h₂, inRange] <;> omega
    rw [hcons, List.any_append, hone, ih, List.any_cons]
    cases inRange a n <;> cases inRange r n <;> simp

theorem mem_complement {s : CharSet} {c : Char} : s.complement.mem c = !s.mem c := by
  have hfold : ∀ (taken left : List (Nat × Nat)),
      ((taken.foldl (fun left r => without r left) left).any fun a => inRange a c.toNat) =
        ((left.any fun a => inRange a c.toNat) && !taken.any fun a => inRange a c.toNat) := by
    intro taken
    induction taken with
    | nil => simp
    | cons r taken ih =>
      intro left
      rw [List.foldl_cons, ih, any_without, List.any_cons]
      cases inRange r c.toNat <;> simp
  have hall : inRange allPoints c.toNat = true := by
    have hc : c.toNat < 0xD800 ∨ 0xDFFF < c.toNat ∧ c.toNat < 0x110000 := c.valid
    unfold inRange allPoints
    rw [Bool.and_eq_true, decide_eq_true_iff, decide_eq_true_iff]
    omega
  simp [mem, complement, hfold, hall]

theorem mem_fewest {s : CharSet} {c : Char} : s.fewest.mem c = s.mem c := by
  simp [fewest, mem_complement]

/-! ### Named sets -/

def digit : CharSet := ⟨[(0x30, 0x39)]⟩

def space : CharSet := ⟨[(0x09, 0x0D), (0x20, 0x20)]⟩

/-- Letters and digits of ASCII and the underscore, of which words are made. -/
def word : CharSet := ⟨[(0x30, 0x39), (0x41, 0x5A), (0x5F, 0x5F), (0x61, 0x7A)]⟩

/-- The sets that a class of the form `[:name:]` stands for. -/
def named? (name : String) : Option CharSet :=
  match name with
  | "alnum" => some ⟨[(0x30, 0x39), (0x41, 0x5A), (0x61, 0x7A)]⟩
  | "alpha" => some ⟨[(0x41, 0x5A), (0x61, 0x7A)]⟩
  | "ascii" => some ⟨[(0x00, 0x7F)]⟩
  | "blank" => some ⟨[(0x09, 0x09), (0x20, 0x20)]⟩
  | "cntrl" => some ⟨[(0x00, 0x1F), (0x7F, 0x7F)]⟩
  | "digit" => some digit
  | "graph" => some ⟨[(0x21, 0x7E)]⟩
  | "lower" => some ⟨[(0x61, 0x7A)]⟩
  | "print" => some ⟨[(0x20, 0x7E)]⟩
  | "punct" => some ⟨[(0x21, 0x2F), (0x3A, 0x40), (0x5B, 0x60), (0x7B, 0x7E)]⟩
  | "space" => some space
  | "upper" => some ⟨[(0x41, 0x5A)]⟩
  | "word" => some word
  | "xdigit" => some ⟨[(0x30, 0x39), (0x41, 0x46), (0x61, 0x66)]⟩
  | _ => none

end CharSet
end Pattern
end SandboxRouting
