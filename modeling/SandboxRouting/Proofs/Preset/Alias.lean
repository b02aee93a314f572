import SandboxRouting.Preset.Basic
import SandboxRouting.Proofs.Table

/-! # Which alias is taken

An alias is taken for its package and for everything in it: for what begins with the name of the package, if
nothing follows or a slash does. The names of several packages may begin a specifier like that. Then each of
them begins the longer ones, and a text comes ahead of all others that it begins (`lt_iff_length_lt`), so that a
search in the order of names comes to the shortest of them first (`aliasLaw`). -/

namespace SandboxRouting

/-! ### Texts that begin the same text -/

namespace Text

theorem lt_append {stem rest : String} (h : rest ≠ "") : stem < stem ++ rest := by
  rw [String.lt_iff, String.toList_append]
  have hne : rest.toList ≠ [] := by simpa using h
  induction stem.toList with
  | nil =>
    obtain ⟨c, tail, hrest⟩ := List.exists_cons_of_ne_nil hne
    simp [hrest]
  | cons c stem ih => simpa using ih

theorem exists_append_of_length_le {a b r s : String} (h : a ++ r = b ++ s) (hle : a.length ≤ b.length) :
    ∃ rest, b = a ++ rest := by
  have hlist : a.toList ++ r.toList = b.toList ++ s.toList := by
    simpa only [String.toList_append] using congrArg String.toList h
  have ha : a.toList <+: b.toList ++ s.toList := hlist ▸ List.prefix_append _ _
  rw [← String.length_toList, ← String.length_toList] at hle
  obtain ⟨rest, hrest⟩ := List.prefix_of_prefix_length_le ha (List.prefix_append _ _) hle
  exact ⟨String.ofList rest, String.toList_inj.mp (by simp [hrest])⟩

/-- Of the texts that begin the same text, the shorter ones come first. -/
theorem lt_iff_length_lt {a b r s : String} (h : a ++ r = b ++ s) : a < b ↔ a.length < b.length := by
  constructor
  · intro hlt
    refine Nat.lt_of_not_le fun hle => ?_
    obtain ⟨rest, rfl⟩ := exists_append_of_length_le h.symm hle
    by_cases hrest : rest = ""
    · subst hrest
      rw [String.append_empty] at hlt
      exact String.lt_irrefl b hlt
    · exact String.lt_irrefl b (String.lt_trans (lt_append hrest) hlt)
  · intro hlt
    obtain ⟨rest, rfl⟩ := exists_append_of_length_le h (Nat.le_of_lt hlt)
    refine lt_append ?_
    rintro rfl
    rw [String.append_empty] at hlt
    exact Nat.lt_irrefl _ hlt

end Text

/-! ### What an alias is taken for -/

/-- The specifier is the package and what follows in it: nothing, or a slash and more. -/
structure Within (specifier package rest : String) : Prop where
  split : specifier = package ++ rest
  boundary : rest = "" ∨ ∃ inner, rest = "/" ++ inner

theorem Within.eq_slash {specifier package rest : String} (h : Within specifier package rest) {c : Char}
    {more : List Char} (hrest : rest.toList = c :: more) : c = '/' := by
  rcases h.boundary with rfl | ⟨inner, rfl⟩
  · cases hrest
  · rw [String.toList_append] at hrest
    exact (List.cons.inj hrest).1.symm

theorem isBoundary_iff {rest : String} :
    (rest.isEmpty || Text.begins rest "/") = true ↔ rest = "" ∨ ∃ inner, rest = "/" ++ inner := by
  rw [Bool.or_eq_true, String.isEmpty_iff, Text.begins_iff]
  refine or_congr Iff.rfl ⟨?_, ?_⟩
  · rintro ⟨inner, hinner⟩
    exact ⟨String.ofList inner, String.toList_inj.mp (by simp [← hinner])⟩
  · rintro ⟨inner, rfl⟩
    exact ⟨inner.toList, by simp⟩

/-- What is imported in the place of a specifier if the alias is taken for it. -/
def standIn? (specifier package target : String) : Option String :=
  match Text.remainder? specifier package with
  | none => none
  | some rest => if rest.isEmpty || Text.begins rest "/" then some (target ++ rest) else none

theorem standIn?_eq_some_iff {specifier package target answer : String} :
    standIn? specifier package target = some answer ↔
      ∃ rest, Within specifier package rest ∧ answer = target ++ rest := by
  unfold standIn?
  constructor
  · intro h
    split at h
    · cases h
    next rest hrest =>
      split at h
      next hboundary =>
        exact ⟨rest, ⟨Text.remainder?_eq_some_iff.mp hrest, isBoundary_iff.mp hboundary⟩, (Option.some.inj h).symm⟩
      next => cases h
  · rintro ⟨rest, ⟨hsplit, hboundary⟩, rfl⟩
    rw [Text.remainder?_eq_some_iff.mpr hsplit]
    exact if_pos (isBoundary_iff.mpr hboundary)

theorem standIn?_eq_none_iff {specifier package target : String} :
    standIn? specifier package target = none ↔ ∀ rest, ¬ Within specifier package rest := by
  rw [Option.eq_none_iff_forall_ne_some]
  constructor
  · intro h rest hwithin
    exact h _ (standIn?_eq_some_iff.mpr ⟨rest, hwithin, rfl⟩)
  · intro h answer hanswer
    obtain ⟨rest, hwithin, -⟩ := standIn?_eq_some_iff.mp hanswer
    exact h rest hwithin

namespace Preset

theorem importedAs?_eq (p : Preset) (specifier : String) :
    p.importedAs? specifier = p.config.aliases.findSome? (standIn? specifier) := rfl

/-! ### The law of aliases -/

/-- What is imported in the place of a specifier. -/
structure AliasLaw (p : Preset) (specifier : String) : Prop where
  /-- The alias with the shortest name is taken, and what follows the name is kept. -/
  some_iff : ∀ answer, p.importedAs? specifier = some answer ↔
    ∃ package target rest, p.config.aliases.get? package = some target ∧ Within specifier package rest ∧
      (∀ other more behind, p.config.aliases.get? other = some more → Within specifier other behind →
        package.length ≤ other.length) ∧
      answer = target ++ rest
  none_iff : p.importedAs? specifier = none ↔
    ∀ package target rest, p.config.aliases.get? package = some target → ¬ Within specifier package rest
  /-- A package whose name merely begins with that of another is imported as itself. -/
  lookalike : (∀ package target rest, p.config.aliases.get? package = some target → specifier = package ++ rest →
    ∃ c more, rest.toList = c :: more ∧ c ≠ '/') → p.importedAs? specifier = none

theorem importedAs?_eq_none_iff {p : Preset} {specifier : String} :
    p.importedAs? specifier = none ↔
      ∀ package target rest, p.config.aliases.get? package = some target → ¬ Within specifier package rest := by
  rw [importedAs?_eq, Table.findSome?_eq_none_iff]
  simp only [standIn?_eq_none_iff]
  exact ⟨fun h package target rest htarget => h package target htarget rest,
    fun h package target htarget rest => h package target rest htarget⟩

theorem aliasLaw (p : Preset) (specifier : String) : AliasLaw p specifier where
  some_iff answer := by
    rw [importedAs?_eq, Table.findSome?_eq_some_iff]
    constructor
    · rintro ⟨package, target, htarget, hanswer, hlower⟩
      obtain ⟨rest, hwithin, rfl⟩ := standIn?_eq_some_iff.mp hanswer
      refine ⟨package, target, rest, htarget, hwithin, fun other more behind hmore hother => ?_, rfl⟩
      refine Nat.le_of_not_lt fun hlt => ?_
      have hlt : other < package := (Text.lt_iff_length_lt (hother.split.symm.trans hwithin.split)).mpr hlt
      exact standIn?_eq_none_iff.mp (hlower other more hmore hlt) behind hother
    · rintro ⟨package, target, rest, htarget, hwithin, hshortest, rfl⟩
      refine ⟨package, target, htarget, standIn?_eq_some_iff.mpr ⟨rest, hwithin, rfl⟩, fun other more hmore hlt => ?_⟩
      refine standIn?_eq_none_iff.mpr fun behind hother => ?_
      have hle := hshortest other more behind hmore hother
      have hlt := (Text.lt_iff_length_lt (hother.split.symm.trans hwithin.split)).mp hlt
      omega
  none_iff := importedAs?_eq_none_iff
  lookalike h := by
    refine importedAs?_eq_none_iff.mpr fun package target rest htarget hwithin => ?_
    obtain ⟨c, more, hrest, hslash⟩ := h package target rest htarget hwithin.split
    exact hslash (hwithin.eq_slash hrest)

/-- Shorter names are passed over where more than a slash follows them, and a longer one is not reached. -/
example :
    (ofConfig { Config.standard with
      aliases := .ofList [("ab/c", "x"), ("ab", "y"), ("", "z"), ("a", "v"), ("ab/", "w")] }).importedAs? "ab/c/d" =
      some "y/c/d" := by
  decide +kernel

end Preset
end SandboxRouting
