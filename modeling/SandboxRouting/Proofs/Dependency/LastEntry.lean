import Mathlib.Data.List.Dedup
import Mathlib.Data.List.Perm.Basic
import SandboxRouting.Proofs.Dependency.Document

/-! # The last entry for a name counts

A table is collected from a list of entries, and more entries are put into it one after another. What it holds
then can be told from all of them in the order in which they came: under each name the text of the last entry
for it, and nothing where there was none (`get?_ofList_eq_some_iff`).

To put an entry changes nothing under other names, so two entries for different names can come in either order
(`insert_comm`), and a whole list without a name that comes twice in any order (`ofList_perm`). A table has no
more to it than the texts it gives, which is why all this can be said with equations between tables. -/

namespace SandboxRouting
namespace Table
variable {t : Table} {entries others : List (String × String)} {name text : String}

/-- The table with the entries put into it, one after another. -/
def insertAll (t : Table) (entries : List (String × String)) : Table :=
  entries.foldl (fun t e => t.insert e.1 e.2) t

theorem insertAll_ofList (entries more : List (String × String)) :
    (ofList entries).insertAll more = ofList (entries ++ more) := by
  rw [insertAll, ofList, ofList, List.foldl_append]

/-! ### The last entry for a name -/

/-- The list gives the text to the name, and no entry behind that one is for the name. -/
def LastFor (entries : List (String × String)) (name text : String) : Prop :=
  ∃ before after, entries = before ++ (name, text) :: after ∧ ∀ e ∈ after, e.1 ≠ name

theorem get?_ofList_eq_some_iff : (ofList entries).get? name = some text ↔ LastFor entries name text := by
  rw [get?_ofList, List.lookup_eq_some_iff]
  constructor
  · rintro ⟨after, before, hentries, hafter⟩
    refine ⟨before.reverse, after.reverse, ?_, fun e he heq => ?_⟩
    · rw [← List.reverse_reverse entries, hentries]
      simp
    · exact bne_iff_ne.mp (hafter e (List.mem_reverse.mp he)) heq.symm
  · rintro ⟨before, after, rfl, hafter⟩
    refine ⟨after.reverse, before.reverse, by simp, fun e he => ?_⟩
    exact bne_iff_ne.mpr (hafter e (List.mem_reverse.mp he)).symm

theorem get?_ofList_eq_none_iff : (ofList entries).get? name = none ↔ ∀ e ∈ entries, e.1 ≠ name := by
  rw [get?_ofList, List.lookup_eq_none_iff]
  constructor
  · intro h e he heq
    exact bne_iff_ne.mp (h e (List.mem_reverse.mpr he)) heq.symm
  · intro h e he
    exact bne_iff_ne.mpr (h e (List.mem_reverse.mp he)).symm

/-! ### The names -/

theorem nodup_names (t : Table) : (t.toList.map Prod.fst).Nodup := by
  rw [List.Nodup, List.pairwise_map]
  exact t.increasing.imp String.ne_of_lt

theorem mem_names_iff : name ∈ t.toList.map Prod.fst ↔ t.get? name ≠ none := by
  rw [Option.ne_none_iff_exists', List.mem_map]
  constructor
  · rintro ⟨e, he, rfl⟩
    exact ⟨e.2, mem_entries_iff.mp he⟩
  · rintro ⟨text, htext⟩
    exact ⟨(name, text), mem_entries_iff.mpr htext, rfl⟩

/-- A table has the names that it was collected from, each of them once. -/
theorem names_ofList_perm (entries : List (String × String)) :
    ((ofList entries).toList.map Prod.fst).Perm (entries.map Prod.fst).dedup := by
  refine (List.perm_ext_iff_of_nodup (nodup_names _) (List.nodup_dedup _)).mpr fun name => ?_
  rw [mem_names_iff, ne_eq, get?_ofList_eq_none_iff, List.mem_dedup, List.mem_map]
  simp only [ne_eq, not_forall, not_not, exists_prop]

theorem size_ofList (entries : List (String × String)) :
    (ofList entries).size = (entries.map Prod.fst).dedup.length := by
  rw [← (names_ofList_perm entries).length_eq, List.length_map]
  rfl

/-! ### The order in which entries come -/

theorem insert_comm {a b : String} (h : a ≠ b) (t : Table) (x y : String) :
    (t.insert a x).insert b y = (t.insert b y).insert a x := by
  refine ext_get? fun name => ?_
  simp only [get?_insert]
  by_cases ha : name = a
  · have hb : name ≠ b := ha ▸ h
    rw [if_pos ha, if_neg hb, if_pos ha]
  · rw [if_neg ha, if_neg ha]

theorem insert_insert (t : Table) (name x y : String) : (t.insert name x).insert name y = t.insert name y := by
  refine ext_get? fun other => ?_
  simp only [get?_insert]
  split <;> rfl

theorem ofList_perm (h : entries.Perm others) (hnodup : (entries.map Prod.fst).Nodup) :
    ofList entries = ofList others := by
  refine h.foldl_eq' (fun d hd e he t => ?_) empty
  by_cases hname : d.1 = e.1
  · rw [List.inj_on_of_nodup_map hnodup hd he hname]
  · exact insert_comm hname t d.2 e.2

/-! ### Tables as maps -/

/-- The table holds the entries that came, the last one for each name. -/
structure Holds (entries : List (String × String)) (t : Table) : Prop where
  /-- The names come in increasing order of code points. -/
  ordered : (t.toList.map fun e => codePoints e.1).Pairwise (List.Lex (· < ·))
  distinct : (t.toList.map Prod.fst).Nodup
  listed : ∀ name text, (name, text) ∈ t.toList ↔ t.get? name = some text
  last : ∀ name text, t.get? name = some text ↔ LastFor entries name text
  absent : ∀ name, t.get? name = none ↔ ∀ e ∈ entries, e.1 ≠ name
  contains : ∀ name, t.contains name = true ↔ ∃ text, t.get? name = some text
  size : t.size = (entries.map Prod.fst).dedup.length
  isEmpty : t.isEmpty = true ↔ t.size = 0

/-- What it does to a table to put an entry. -/
structure InsertLaw (t : Table) : Prop where
  put : ∀ name text, (t.insert name text).get? name = some text
  others : ∀ name text other, other ≠ name → (t.insert name text).get? other = t.get? other
  comm : ∀ a b x y, a ≠ b → (t.insert a x).insert b y = (t.insert b y).insert a x
  absorbed : ∀ name x y, (t.insert name x).insert name y = t.insert name y

theorem holds_ofList (entries : List (String × String)) : Holds entries (ofList entries) where
  ordered := List.pairwise_map.mpr ((ofList entries).increasing.imp codePoints_lt)
  distinct := nodup_names _
  listed _ _ := mem_entries_iff
  last _ _ := get?_ofList_eq_some_iff
  absent _ := get?_ofList_eq_none_iff
  contains _ := Option.isSome_iff_exists
  size := size_ofList entries
  isEmpty := List.isEmpty_iff_length_eq_zero

/-- A table that was collected and to which more was put holds the last entry for each name, goes on doing so
    when another entry is put, and is known by the texts that it gives. -/
theorem lastEntryLaw (entries more : List (String × String)) :
    Holds (entries ++ more) ((ofList entries).insertAll more) ∧ InsertLaw ((ofList entries).insertAll more) ∧
      (∀ s t : Table, s = t ↔ ∀ name, s.get? name = t.get? name) ∧
      ∀ others, entries.Perm others → (entries.map Prod.fst).Nodup → ofList entries = ofList others := by
  refine ⟨?_, ?_, fun s t => ⟨?_, ext_get?⟩, fun others => ofList_perm⟩
  · rw [insertAll_ofList]
    exact holds_ofList (entries ++ more)
  · exact {
      put := get?_insert_self _
      others := fun _ text _ hne => get?_insert_of_ne hne _ text
      comm := fun _ _ x y hne => insert_comm hne _ x y
      absorbed := insert_insert _ }
  · rintro rfl name
    rfl

/-- Names that come twice, in both lists and in different ones. The last two in order of code points are in the
    other order by their units of sixteen bits. -/
theorem lastEntryLaw_of_repeated_names :
    ∃ t, t = (ofList [("😀", "1"), ("～", "2"), ("a", "3"), ("😀", "4")]).insertAll [("b", "5"), ("a", "6")] ∧
      t.get? "😀" = some "4" ∧ t.get? "a" = some "6" ∧ t.get? "c" = none ∧ t.size = 4 ∧
      t.toList.map Prod.fst = ["a", "b", "～", "😀"] ∧ (t.insert "～" "7").get? "😀" = t.get? "😀" ∧
      ofList [("😀", "1"), ("～", "2"), ("a", "3")] = ofList [("a", "3"), ("～", "2"), ("😀", "1")] := by
  obtain ⟨hholds, hinsert, -, -⟩ :=
    lastEntryLaw [("😀", "1"), ("～", "2"), ("a", "3"), ("😀", "4")] [("b", "5"), ("a", "6")]
  obtain ⟨-, -, -, hperm⟩ := lastEntryLaw [("😀", "1"), ("～", "2"), ("a", "3")] []
  refine ⟨_, rfl, ?_, ?_, ?_, ?_, ?_, ?_, ?_⟩
  · exact (hholds.last _ _).mpr ⟨[("😀", "1"), ("～", "2"), ("a", "3")], [("b", "5"), ("a", "6")], rfl, by decide⟩
  · exact (hholds.last _ _).mpr ⟨[("😀", "1"), ("～", "2"), ("a", "3"), ("😀", "4"), ("b", "5")], [], rfl, by decide⟩
  · exact (hholds.absent _).mpr (by decide)
  · exact hholds.size.trans (by decide)
  · decide +kernel
  · exact hinsert.others "～" "7" "😀" (by decide)
  · exact hperm _ (by decide) (by decide)

end Table
end SandboxRouting
