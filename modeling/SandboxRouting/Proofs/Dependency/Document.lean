import SandboxRouting.Proofs.Json.Rendering
import SandboxRouting.Proofs.Json.Unambiguity
import SandboxRouting.Proofs.Table

/-! # Tables as documents

A table comes from a list of entries or from a document that names them. Either way the entries are put one
after another, so the last text for a name counts and it does not matter which way was taken. A table that is
written and read again is the same, and so is one that is collected from its own entries.

A text holds one value, so the order in which a document lists the names can be told from its text alone: a
table is written with its names in order of code points. -/

namespace SandboxRouting
namespace Table
open Json

/-- The characters of a text as numbers. -/
def codePoints (s : String) : List Nat := s.toList.map Char.toNat

/-- Names are ordered by their code points, the first difference deciding. -/
theorem codePoints_lt {s t : String} (h : s < t) : List.Lex (· < ·) (codePoints s) (codePoints t) := by
  have hlex : List.Lex (· < ·) s.toList t.toList := h
  rw [codePoints, codePoints]
  generalize s.toList = chars, t.toList = others at hlex ⊢
  induction hlex with
  | nil => exact .nil
  | cons _ ih => exact .cons ih
  | rel hlt => exact .rel hlt

theorem ofJson_of_document {entries : List (String × String)} {source : String}
    (h : (Value.ofTextEntries entries).Document source) : ofJson source = .ok (ofList entries) := by
  rw [ofJson, document_of_reads reads_table h]
  exact Value.takeTable_eq_ok.mpr ⟨entries, rfl, rfl⟩

theorem ofList_toList (t : Table) : ofList t.toList = t := by
  refine ext_get? fun name => ?_
  rw [get?_ofList, toList, lookup_reverse_entries]

/-- A document in which a table was written lists nothing but its entries, in their order. -/
theorem eq_of_document_toJson {t : Table} {entries : List (String × Value)}
    (h : (Value.record entries).Document t.toJson) : entries = t.toList.map fun e => (e.1, .text e.2) :=
  Value.record.inj (h.unique (document_toText _))

/-- What entries are read as, and what a table is written as. -/
structure DocumentLaw (entries : List (String × String)) (t : Table) : Prop where
  /-- A document that lists the entries, however it is written, holds the table that is collected from them. -/
  listed : ∀ source, (Value.ofTextEntries entries).Document source → ofJson source = .ok (ofList entries)
  written : (Value.ofTextEntries t.toList).Document t.toJson
  again : ofJson t.toJson = .ok t
  collected : ofList t.toList = t
  /-- Whatever record the written text is taken for, its names are in increasing order of code points. -/
  increasing : ∀ others : List (String × Value), (Value.record others).Document t.toJson →
    (others.map fun e => codePoints e.1).Pairwise (List.Lex (· < ·))

theorem documentLaw (entries : List (String × String)) (t : Table) : DocumentLaw entries t where
  listed _ := ofJson_of_document
  written := document_toText _
  again := by
    rw [toJson, ofJson_of_document (document_toText _)]
    exact congrArg Except.ok (ofList_toList t)
  collected := ofList_toList t
  increasing others h := by
    rw [eq_of_document_toJson h, List.map_map, List.pairwise_map]
    exact t.increasing.imp codePoints_lt

/-- A name that comes twice, and one that is written by number. -/
example : ofJson "\x7b\"b\": \"1\", \"\\u0061\": \"2\", \"b\": \"3\"\x7d" =
    .ok (ofList [("b", "1"), ("a", "2"), ("b", "3")]) := by
  decide +kernel

end Table
end SandboxRouting
