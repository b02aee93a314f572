/-! # Tables from names to texts

A table maps names to texts and keeps its entries in strictly increasing order of name, so that two
tables with the same entries are the same value. Dependencies are a table from package names to
versions, aliases one from package names to package names.

An entry that is put under a name already taken replaces what was there, and a table collected from a
list holds the last text given for each name. -/

namespace SandboxRouting

/-- A table from names to texts, its entries in strictly increasing order of name. -/
structure Table where
  entries : List (String × String)
  increasing : entries.Pairwise fun a b => a.1 < b.1

namespace Table

instance : DecidableEq Table := fun s t =>
  if h : s.entries = t.entries then
    isTrue (by cases s; cases t; subst h; rfl)
  else
    isFalse fun e => h (congrArg Table.entries e)

def empty : Table := ⟨[], List.Pairwise.nil⟩

instance : Inhabited Table := ⟨empty⟩

/-! ### Looking up -/

def get? (t : Table) (name : String) : Option String := t.entries.lookup name

def contains (t : Table) (name : String) : Bool := (t.get? name).isSome

def size (t : Table) : Nat := t.entries.length

def isEmpty (t : Table) : Bool := t.entries.isEmpty

def toList (t : Table) : List (String × String) := t.entries

/-! ### Putting an entry -/

/-- Puts an entry at its place in an increasing list, where it replaces one of the same name. -/
def place (name text : String) : List (String × String) → List (String × String)
  | [] => [(name, text)]
  | e :: rest =>
    if e.1 < name then e :: place name text rest
    else if e.1 = name then (name, text) :: rest
    else (name, text) :: e :: rest

theorem mem_place {name text : String} {l : List (String × String)} {e : String × String}
    (h : e ∈ place name text l) : e = (name, text) ∨ e ∈ l := by
  induction l with
  | nil => simpa [place] using h
  | cons d rest ih =>
    simp only [place] at h
    split at h
    · rcases List.mem_cons.mp h with rfl | h
      · exact Or.inr List.mem_cons_self
      · exact (ih h).imp id (List.mem_cons_of_mem d)
    · split at h
      · exact (List.mem_cons.mp h).imp id (List.mem_cons_of_mem d)
      · exact List.mem_cons.mp h

theorem place_increasing (name text : String) {l : List (String × String)}
    (h : l.Pairwise fun a b => a.1 < b.1) : (place name text l).Pairwise fun a b => a.1 < b.1 := by
  induction l with
  | nil => simp [place]
  | cons d rest ih =>
    obtain ⟨hd, hrest⟩ := List.pairwise_cons.mp h
    simp only [place]
    split
    next hlt =>
      refine List.pairwise_cons.mpr ⟨fun e he => ?_, ih hrest⟩
      rcases mem_place he with rfl | he
      · exact hlt
      · exact hd e he
    next hnlt =>
      split
      next heq =>
        exact List.pairwise_cons.mpr ⟨fun e he => heq ▸ hd e he, hrest⟩
      next hne =>
        -- the names are ordered, so what is neither below nor equal is above
        have hlt : name < d.1 := by
          rcases String.le_total d.1 name with hle | hle
          · exact absurd (String.le_antisymm hle (String.not_lt.mp hnlt)) hne
          · exact String.not_le.mp fun hle' => hne (String.le_antisymm hle' hle)
        refine List.pairwise_cons.mpr ⟨fun e he => ?_, h⟩
        rcases List.mem_cons.mp he with rfl | he
        · exact hlt
        · exact String.lt_trans hlt (hd e he)

theorem lookup_place_self (name text : String) (l : List (String × String)) :
    (place name text l).lookup name = some text := by
  induction l with
  | nil => simp [place]
  | cons e rest ih =>
    obtain ⟨k, v⟩ := e
    simp only [place]
    split
    next hlt =>
      have hne : (name == k) = false := beq_false_of_ne (String.ne_of_lt hlt).symm
      simp only [List.lookup_cons, hne, ih]
    next => split <;> simp

theorem lookup_place_of_ne {name other : String} (h : other ≠ name) (text : String) (l : List (String × String)) :
    (place name text l).lookup other = l.lookup other := by
  have hne : (other == name) = false := beq_false_of_ne h
  induction l with
  | nil => simp [place, List.lookup_cons, hne]
  | cons e rest ih =>
    obtain ⟨k, v⟩ := e
    simp only [place]
    split
    next => simp only [List.lookup_cons, ih]
    next =>
      split
      next heq =>
        subst heq
        simp only [List.lookup_cons, hne]
      next => simp only [List.lookup_cons, hne]

/-- The table with a text under a name; any text it had there is gone. -/
def insert (t : Table) (name text : String) : Table :=
  ⟨place name text t.entries, place_increasing name text t.increasing⟩

theorem get?_insert_self (t : Table) (name text : String) : (t.insert name text).get? name = some text :=
  lookup_place_self name text t.entries

theorem get?_insert_of_ne {name other : String} (h : other ≠ name) (t : Table) (text : String) :
    (t.insert name text).get? other = t.get? other :=
  lookup_place_of_ne h text t.entries

/-- The table collected from a list of entries, of which the last for a name counts. -/
def ofList (entries : List (String × String)) : Table :=
  entries.foldl (fun t e => t.insert e.1 e.2) empty

/-- The first answer that the entries give, in order of name. -/
def findSome? {α : Type} (t : Table) (f : String → String → Option α) : Option α :=
  t.entries.findSome? fun e => f e.1 e.2

end Table
end SandboxRouting
