import SandboxRouting.Proofs.Pattern.Ending
import SandboxRouting.Routing.Standard

/-! # Kinds of files

The standard rules tell seven kinds of files by how their paths end; all other files are passed on as
they are. Each kind has a pattern, and the pattern is found in exactly the paths that end with one of
the tails of the kind (`findsTails`).

The tails of two kinds overlap only where one kind is that of scoped style sheets and the other that
of plain ones, and there the scoped one has precedence. Declaration files are no scripts although they
end like them. So a path is of one kind at most (`includes_unique`). -/

namespace SandboxRouting
namespace Routing

/-- The kinds of files that have rules of their own. -/
inductive FileKind where
  | script
  | graphics
  | scopedSass
  | scopedStyle
  | style
  | sass
  | data
deriving DecidableEq

namespace FileKind

/-- All kinds, in the order of their rules. -/
def all : List FileKind := [script, graphics, scopedSass, scopedStyle, style, sass, data]

theorem mem_all (k : FileKind) : k ∈ all := by
  cases k <;> decide

def pattern : FileKind → String
  | script => scriptPattern
  | graphics => graphicsPattern
  | scopedSass => scopedSassPattern
  | scopedStyle => scopedStylePattern
  | style => stylePattern
  | sass => sassPattern
  | data => dataPattern

def tails : FileKind → List String
  | script => [".ts", ".tsx", ".js", ".jsx"]
  | graphics => [".svg"]
  | scopedSass => [".module.scss", ".module.sass"]
  | scopedStyle => [".module.css"]
  | style => [".css"]
  | sass => [".scss", ".sass"]
  | data => [".json"]

/-- The path ends like those of the kind. -/
def fits (k : FileKind) (path : String) : Bool := k.tails.any (Text.ends path)

/-- The path is that of a file of the kind: it ends like one, and is neither that of a declaration file
    nor, in the case of a plain style sheet, that of a scoped one. -/
def includes (k : FileKind) (path : String) : Bool :=
  k.fits path &&
    match k with
    | script => !Text.ends path declarationTail
    | style => !scopedStyle.fits path
    | sass => !scopedSass.fits path
    | _ => true

/-- The kind of a file, if it has rules of its own. -/
def of? (path : String) : Option FileKind := all.find? (·.includes path)

/-- Every pattern of a kind compiles, and it finds the tails of the kind. -/
theorem findsTails (k : FileKind) : Pattern.FindsTails k.pattern k.tails := by
  cases k <;> exact Pattern.findsTails_of_endings (by decide +kernel)

/-! ### A path is of one kind at most -/

theorem fits_iff {k : FileKind} {path : String} :
    k.fits path = true ↔ ∃ tail ∈ k.tails, tail.toList <:+ path.toList := by
  simp only [fits, List.any_eq_true, Text.ends_iff]

/-- A tail of one kind ends with a tail of another. -/
def overlaps (k l : FileKind) : Bool :=
  k.tails.any fun t => l.tails.any fun u => Text.ends t u || Text.ends u t

/-- Two tails of one path lie one in the other. -/
theorem overlaps_of_fits {k l : FileKind} {path : String} (hk : k.fits path = true) (hl : l.fits path = true) :
    k.overlaps l = true := by
  obtain ⟨t, ht, hpt⟩ := fits_iff.mp hk
  obtain ⟨u, hu, hpu⟩ := fits_iff.mp hl
  simp only [overlaps, List.any_eq_true, Bool.or_eq_true, Text.ends_iff]
  exact ⟨t, ht, u, hu, (List.suffix_or_suffix_of_suffix hpt hpu).symm⟩

/-- Apart from a kind and itself, only the scoped and the plain style sheets of either syntax overlap. -/
theorem eq_or_scoped_of_overlaps {k l : FileKind} (h : k.overlaps l = true) :
    k = l ∨ (k, l) ∈ [(scopedSass, sass), (sass, scopedSass), (scopedStyle, style), (style, scopedStyle)] := by
  have hall : ∀ k ∈ all, ∀ l ∈ all, k.overlaps l = true →
      k = l ∨ (k, l) ∈ [(scopedSass, sass), (sass, scopedSass), (scopedStyle, style), (style, scopedStyle)] := by
    decide +kernel
  exact hall k (mem_all k) l (mem_all l) h

theorem fits_of_includes {k : FileKind} {path : String} (h : k.includes path = true) : k.fits path = true := by
  simp only [includes, Bool.and_eq_true] at h
  exact h.1

/-- Only of scripts and plain style sheets more is asked than how their paths end. -/
theorem includes_eq_fits {k : FileKind} (h : k ∉ [script, style, sass]) (path : String) :
    k.includes path = k.fits path := by
  cases k <;> simp_all [includes]

theorem includes_unique {k l : FileKind} {path : String} (hk : k.includes path = true)
    (hl : l.includes path = true) : k = l := by
  rcases eq_or_scoped_of_overlaps (overlaps_of_fits (fits_of_includes hk) (fits_of_includes hl)) with h | h
  · exact h
  · -- A plain style sheet does not fit the scoped kind.
    simp only [List.mem_cons, Prod.mk.injEq, List.not_mem_nil, or_false] at h
    rcases h with ⟨rfl, rfl⟩ | ⟨rfl, rfl⟩ | ⟨rfl, rfl⟩ | ⟨rfl, rfl⟩ <;> simp_all [includes]

theorem of?_eq_some_iff {k : FileKind} {path : String} : of? path = some k ↔ k.includes path = true := by
  constructor
  · exact fun h => List.find?_some (p := fun k : FileKind => k.includes path) h
  · intro h
    cases hof : of? path with
    | none => exact absurd h (List.find?_eq_none.mp hof k (mem_all k))
    | some l => rw [includes_unique (List.find?_some (p := fun k : FileKind => k.includes path) hof) h]

theorem of?_eq_none_iff {path : String} : of? path = none ↔ ∀ k : FileKind, k.includes path = false := by
  simp [of?, List.find?_eq_none, mem_all]

theorem includes_eq (k : FileKind) (path : String) : k.includes path = decide (of? path = some k) := by
  rw [Bool.eq_iff_iff, decide_eq_true_iff, of?_eq_some_iff]

/-! ### Endings told apart -/

/-- What ends with a tail also ends with whatever the tail ends with. -/
theorem any_ends_of_tails {tails others : List String} (h : ∀ t ∈ tails, ∃ u ∈ others, Text.ends t u = true)
    {path : String} (hpath : tails.any (Text.ends path) = true) : others.any (Text.ends path) = true := by
  obtain ⟨t, ht, hpath⟩ := List.any_eq_true.mp hpath
  obtain ⟨u, hu, htu⟩ := h t ht
  exact List.any_eq_true.mpr ⟨u, hu, Text.ends_iff.mpr ((Text.ends_iff.mp htu).trans (Text.ends_iff.mp hpath))⟩

theorem fits_of_tails {k l : FileKind} (h : ∀ t ∈ k.tails, ∃ u ∈ l.tails, Text.ends t u = true) {path : String}
    (hk : k.fits path = true) : l.fits path = true :=
  any_ends_of_tails h hk

/-- What ends like a script is one, or a declaration file. -/
theorem fits_script (path : String) : script.fits path = (script.includes path || Text.ends path declarationTail) := by
  have htails : ∀ t ∈ [declarationTail], ∃ u ∈ script.tails, Text.ends t u = true := by decide +kernel
  have h : Text.ends path declarationTail = true → script.fits path = true := fun hd =>
    any_ends_of_tails htails (by simpa using hd)
  cases hd : Text.ends path declarationTail <;> simp_all [includes]

/-- What ends like a plain style sheet is one, or a scoped one. -/
theorem fits_style (path : String) : style.fits path = (style.includes path || scopedStyle.includes path) := by
  have h : scopedStyle.fits path = true → style.fits path = true := fits_of_tails (by decide +kernel)
  cases hs : scopedStyle.fits path <;> simp_all [includes]

/-- As `fits_style`, for style sheets with a syntax of their own. -/
theorem fits_sass (path : String) : sass.fits path = (sass.includes path || scopedSass.includes path) := by
  have h : scopedSass.fits path = true → sass.fits path = true := fits_of_tails (by decide +kernel)
  cases hs : scopedSass.fits path <;> simp_all [includes]

end FileKind
end Routing
end SandboxRouting
