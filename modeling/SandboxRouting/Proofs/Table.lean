import Mathlib.Data.List.Nodup
import SandboxRouting.Table

/-! # What a table holds

The entries of a table are in increasing order of name, so no name comes twice and a lookup finds the one
entry of its name (`mem_entries_iff`). Two tables that give the same answers are the same table (`ext_get?`),
which turns every equation between tables into one between lookups. A search through the entries comes to the
lowest of the names that it is after (`findSome?_eq_some_iff`). -/

namespace SandboxRouting
namespace Table

theorem nodup_entries (t : Table) : t.entries.Nodup := by
  refine t.increasing.imp fun {a b} hlt => ?_
  rintro rfl
  exact String.lt_irrefl _ hlt

/-- An entry parts the lower names from the higher ones. -/
theorem lower_and_higher {t : Table} {name text : String} {before after : List (String × String)}
    (h : t.entries = before ++ (name, text) :: after) : (∀ e ∈ before, e.1 < name) ∧ ∀ e ∈ after, name < e.1 := by
  have hincreasing := t.increasing
  rw [h, List.pairwise_append, List.pairwise_cons] at hincreasing
  obtain ⟨-, ⟨hafter, -⟩, hbefore⟩ := hincreasing
  exact ⟨fun e he => hbefore e he _ List.mem_cons_self, hafter⟩

theorem mem_entries_iff {t : Table} {name text : String} : (name, text) ∈ t.entries ↔ t.get? name = some text := by
  rw [get?, List.lookup_eq_some_iff]
  constructor
  · intro hmem
    obtain ⟨before, after, hentries⟩ := List.append_of_mem hmem
    refine ⟨before, after, hentries, fun e he => ?_⟩
    have hlt : e.1 < name := (lower_and_higher hentries).1 e he
    exact bne_iff_ne.mpr (String.ne_of_lt hlt).symm
  · rintro ⟨before, after, hentries, -⟩
    rw [hentries]
    exact List.mem_append_right _ List.mem_cons_self

/-- No name comes twice, so it does not matter from which end the entries are searched. -/
theorem lookup_reverse_entries (t : Table) (name : String) : t.entries.reverse.lookup name = t.get? name := by
  cases h : t.entries.reverse.lookup name with
  | none =>
    symm
    rw [get?, List.lookup_eq_none_iff]
    exact fun e he => List.lookup_eq_none_iff.mp h e (List.mem_reverse.mpr he)
  | some text =>
    obtain ⟨before, after, hentries, -⟩ := List.lookup_eq_some_iff.mp h
    have hmem : (name, text) ∈ t.entries.reverse := by simp [hentries]
    exact (mem_entries_iff.mp (List.mem_reverse.mp hmem)).symm

theorem ext_get? {s t : Table} (h : ∀ name, s.get? name = t.get? name) : s = t := by
  have hperm : s.entries.Perm t.entries :=
    (List.perm_ext_iff_of_nodup s.nodup_entries t.nodup_entries).mpr fun ⟨name, text⟩ => by
      rw [mem_entries_iff, mem_entries_iff, h]
  have heq : s.entries = t.entries :=
    hperm.eq_of_pairwise (fun a b _ _ hab hba => absurd (String.lt_trans hab hba) (String.lt_irrefl _))
      s.increasing t.increasing
  cases s
  cases t
  cases heq
  rfl

theorem get?_insert (t : Table) (name text other : String) :
    (t.insert name text).get? other = if other = name then some text else t.get? other := by
  split
  next h => exact h ▸ get?_insert_self t name text
  next h => exact get?_insert_of_ne h t text

theorem insert_of_get? {t : Table} {name text : String} (h : t.get? name = some text) : t.insert name text = t := by
  refine ext_get? fun other => ?_
  rw [get?_insert]
  split
  next heq => rw [heq, h]
  next => rfl

/-- A table holds under each name the last text that it was collected from. -/
theorem get?_ofList (entries : List (String × String)) (name : String) :
    (ofList entries).get? name = entries.reverse.lookup name := by
  suffices hfold : ∀ t : Table, (entries.foldl (fun t e => t.insert e.1 e.2) t).get? name =
      (entries.reverse.lookup name).or (t.get? name) by
    rw [ofList, hfold, show empty.get? name = none from rfl, Option.or_none]
  induction entries with
  | nil => exact fun t => rfl
  | cons e rest ih =>
    intro t
    obtain ⟨key, text⟩ := e
    have hlast : [(key, text)].lookup name = if name = key then some text else none := by
      by_cases h : name = key
      · simp [h]
      · simp [List.lookup_cons, beq_false_of_ne h, h]
    rw [List.foldl_cons, ih, List.reverse_cons, List.lookup_append, Option.or_assoc, get?_insert, hlast]
    split <;> rfl

/-! ### The first answer -/

section
variable {α : Type} {t : Table} {f : String → String → Option α}

theorem findSome?_eq_none_iff : t.findSome? f = none ↔ ∀ name text, t.get? name = some text → f name text = none := by
  simp only [findSome?, List.findSome?_eq_none_iff, Prod.forall, mem_entries_iff]

/-- The answer is that of the lowest name that gives one. -/
theorem findSome?_eq_some_iff {answer : α} :
    t.findSome? f = some answer ↔ ∃ name text, t.get? name = some text ∧ f name text = some answer ∧
      ∀ other more, t.get? other = some more → other < name → f other more = none := by
  rw [findSome?, List.findSome?_eq_some_iff]
  constructor
  · rintro ⟨before, ⟨name, text⟩, after, hentries, hanswer, hbefore⟩
    refine ⟨name, text, mem_entries_iff.mp (by simp [hentries]), hanswer, fun other more hother hlt => ?_⟩
    have hmem : (other, more) ∈ before ++ (name, text) :: after := hentries ▸ mem_entries_iff.mpr hother
    rcases List.mem_append.mp hmem with hmem | hmem
    · exact hbefore _ hmem
    · -- What comes behind the name is not below it.
      rcases List.mem_cons.mp hmem with heq | hmem
      · cases heq
        exact absurd hlt (String.lt_irrefl name)
      · have hgt : name < other := (lower_and_higher hentries).2 _ hmem
        exact absurd (String.lt_trans hlt hgt) (String.lt_irrefl other)
  · rintro ⟨name, text, hname, hanswer, hbelow⟩
    obtain ⟨before, after, hentries⟩ := List.append_of_mem (mem_entries_iff.mpr hname)
    refine ⟨before, (name, text), after, hentries, hanswer, fun ⟨other, more⟩ hmem => ?_⟩
    exact hbelow other more (mem_entries_iff.mp (by simp [hentries, hmem])) ((lower_and_higher hentries).1 _ hmem)

end

end Table
end SandboxRouting
