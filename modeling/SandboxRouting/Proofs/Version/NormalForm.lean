import SandboxRouting.Proofs.Version.Reading

/-! # The normal form of a version

The text of a version is one of those that stand for it, and whatever may lead up to a version or follow it can be
put around that text (`coerce_framed`). So every text that stands for a version can be replaced by the text of the
version, on either side of a comparison, and alternatives behind the first one can be added or left out
(`normalFormLaw`). -/

namespace SandboxRouting
namespace Version

/-! ### The numbers as runs of digits -/

/-- The numbers of a version as runs of digits. -/
def digitRuns (v : Version) : List (List Char) := [v.major, v.minor, v.patch].map fun n => Nat.toDigits 10 n.toNat

theorem toList_text (v : Version) : v.text.toList = ['.'].intercalate v.digitRuns := by
  simp [text, digitRuns, Nat.toList_repr, List.intercalate_cons_cons, List.intercalate_singleton]

theorem exists_of_mem_digitRuns {v : Version} {run : List Char} (h : run ∈ v.digitRuns) :
    ∃ n : UInt64, run = Nat.toDigits 10 n.toNat := by
  obtain ⟨n, -, rfl⟩ := List.mem_map.mp h
  exact ⟨n, rfl⟩

/-- The text of a version among what may stand around it. Three runs are all that is wanted, so a dot may follow. -/
def framed (v : Version) (lead rest : List Char) (hlead : ∀ c ∈ lead, Text.isBlank c = true ∨ c ∈ marks)
    (hrest : ∀ c ∈ rest.head?, c.isDigit = false) : Reading where
  lead := lead
  runs := v.digitRuns
  rest := rest
  blank_or_mark := hlead
  runs_ne_nil := List.cons_ne_nil _ _
  length_runs_le := Nat.le_refl 3
  digits run h := by
    obtain ⟨n, rfl⟩ := exists_of_mem_digitRuns h
    exact ⟨Nat.toDigits_ne_nil, fun c hc => Nat.isDigit_of_mem_toDigits (by decide) (Nat.le_refl 10) hc⟩
  ends := ⟨hrest, fun h => absurd h (Nat.lt_irrefl 0)⟩

section
variable (v : Version) {lead rest : List Char} (hlead : ∀ c ∈ lead, Text.isBlank c = true ∨ c ∈ marks)
  (hrest : ∀ c ∈ rest.head?, c.isDigit = false)

theorem version_framed : (v.framed lead rest hlead hrest).version = v := by
  simp [Reading.version, Reading.number, framed, digitRuns, Nat.ofDigitChars_ten_toDigits]

theorem inRange_framed : (v.framed lead rest hlead hrest).InRange := by
  intro run hrun
  obtain ⟨n, rfl⟩ := exists_of_mem_digitRuns hrun
  rw [Nat.ofDigitChars_ten_toDigits]
  exact n.toNat_lt

end

theorem coerce_framed (v : Version) (lead rest : String) (hlead : ∀ c ∈ lead.toList, Text.isBlank c = true ∨ c ∈ marks)
    (hrest : ∀ c ∈ rest.toList.head?, c.isDigit = false) : coerce (lead ++ v.text ++ rest) = .ok v := by
  have htext : (lead ++ v.text ++ rest).toList = (v.framed lead.toList rest.toList hlead hrest).text := by
    rw [String.toList_append, String.toList_append, toList_text]
    rfl
  rcases coerce_of_reading htext with ⟨-, hok⟩ | ⟨hnot, -⟩
  · rw [hok, version_framed]
  · exact absurd (v.inRange_framed hlead hrest) hnot

theorem coerce_text (v : Version) : coerce v.text = .ok v := by
  have h := v.coerce_framed "" "" (by simp) (by simp)
  rwa [String.empty_append, String.append_empty] at h

/-! ### Verdicts -/

section
variable {s t : String}

theorem verdict_of_ok {v : Version} (h : coerce s = .ok v) : verdict s = .ok v := by
  rw [verdict, h]
  rfl

theorem verdict_of_error {e : Unreadable} (h : coerce s = .error e) : verdict s = .error e.defect := by
  rw [verdict, h]
  rfl

theorem verdict_eq_ok_iff {v : Version} : verdict s = .ok v ↔ coerce s = .ok v := by
  refine ⟨fun h => ?_, verdict_of_ok⟩
  cases hs : coerce s with
  | ok w =>
    rw [verdict_of_ok hs] at h
    cases h
    rfl
  | error e =>
    rw [verdict_of_error hs] at h
    cases h

/-- An error names the text that it is about, so no more than the defect is to be told. -/
theorem coerce_of_verdict_error {d : Defect} (h : verdict s = .error d) : coerce s = .error ⟨s, d⟩ := by
  rcases coerce_cases s with ⟨r, -, -, hs⟩ | ⟨r, -, -, hs⟩ | ⟨-, hs⟩
  · rw [verdict_of_ok hs] at h
    cases h
  · rw [verdict_of_error hs] at h
    cases h
    exact hs
  · rw [verdict_of_error hs] at h
    cases h
    exact hs

/-- What is compared are the verdicts alone. -/
theorem satisfies_congr {version version' minimum minimum' : String} (hversion : verdict version = verdict version')
    (hminimum : verdict minimum = verdict minimum') : satisfies version minimum = satisfies version' minimum' := by
  rw [Bool.eq_iff_iff, satisfies_iff, satisfies_iff]
  simp only [← verdict_eq_ok_iff, hversion, hminimum]

theorem verdict_text {v : Version} (h : coerce s = .ok v) : verdict v.text = verdict s := by
  rw [verdict_of_ok h, verdict_of_ok v.coerce_text]

/-- Two texts stand for the same version, or for none for the same reason. -/
theorem same_of_verdict (h : verdict t = verdict s) :
    (∃ v, coerce s = .ok v ∧ coerce t = .ok v) ∨ ∃ d, coerce s = .error ⟨s, d⟩ ∧ coerce t = .error ⟨t, d⟩ := by
  cases hs : verdict s with
  | ok v => exact Or.inl ⟨v, verdict_eq_ok_iff.mp hs, verdict_eq_ok_iff.mp (h.trans hs)⟩
  | error d => exact Or.inr ⟨d, coerce_of_verdict_error hs, coerce_of_verdict_error (h.trans hs)⟩

end

/-! ### The law of normal forms -/

/-- In which texts a version can be written, and what a text can be replaced by. -/
structure NormalFormLaw (s : String) : Prop where
  normal : ∀ v, coerce s = .ok v → coerce v.text = .ok v
  framed : ∀ (x y z : UInt64) (lead rest : String), (∀ c ∈ lead.toList, Text.isBlank c = true ∨ c ∈ marks) →
    (∀ c ∈ rest.toList.head?, c.isDigit = false) → coerce (lead ++ (mk x y z).text ++ rest) = .ok ⟨x, y, z⟩
  alternative : ∀ t, (∃ v, coerce s = .ok v ∧ coerce (s ++ "||" ++ t) = .ok v) ∨
    ∃ d, coerce s = .error ⟨s, d⟩ ∧ coerce (s ++ "||" ++ t) = .error ⟨s ++ "||" ++ t, d⟩
  version_normal : ∀ v minimum, coerce s = .ok v → satisfies v.text minimum = satisfies s minimum
  minimum_normal : ∀ v version, coerce s = .ok v → satisfies version v.text = satisfies version s
  version_alternative : ∀ t minimum, satisfies (s ++ "||" ++ t) minimum = satisfies s minimum
  minimum_alternative : ∀ t version, satisfies version (s ++ "||" ++ t) = satisfies version s

theorem normalFormLaw (s : String) : NormalFormLaw s where
  normal v _ := v.coerce_text
  framed x y z := coerce_framed ⟨x, y, z⟩
  alternative t := same_of_verdict (verdict_alternative s t)
  version_normal _ _ h := satisfies_congr (verdict_text h) rfl
  minimum_normal _ _ h := satisfies_congr rfl (verdict_text h)
  version_alternative t _ := satisfies_congr (verdict_alternative s t) rfl
  minimum_alternative t _ := satisfies_congr rfl (verdict_alternative s t)

/-- The greatest number that is read, a run with zeros ahead and a bar at the end. -/
theorem normalFormLaw_of_range :
    coerce "~ V18446744073709551615.007-rc|" = .ok ⟨18446744073709551615, 7, 0⟩ ∧
      coerce "18446744073709551615.7.0" = .ok ⟨18446744073709551615, 7, 0⟩ ∧
      coerce (">= " ++ "18446744073709551615.7.0" ++ ".x1") = .ok ⟨18446744073709551615, 7, 0⟩ ∧
      coerce ("~ V18446744073709551615.007-rc|" ++ "||" ++ "1") = .ok ⟨18446744073709551615, 7, 0⟩ ∧
      satisfies "18446744073709551615.7.0" "2" = satisfies "~ V18446744073709551615.007-rc|" "2" := by
  have hcoerce : coerce "~ V18446744073709551615.007-rc|" = .ok ⟨18446744073709551615, 7, 0⟩ := by rfl
  have htext : (mk 18446744073709551615 7 0).text = "18446744073709551615.7.0" := by decide +kernel
  have hlaw := normalFormLaw "~ V18446744073709551615.007-rc|"
  have hlead : ∀ c ∈ ">= ".toList, Text.isBlank c = true ∨ c ∈ marks := by simp [marks, Text.isBlank]
  have hrest : ∀ c ∈ ".x1".toList.head?, c.isDigit = false := by simp
  rw [← htext]
  refine ⟨hcoerce, hlaw.normal _ hcoerce, hlaw.framed _ _ _ _ _ hlead hrest, ?_, hlaw.version_normal _ _ hcoerce⟩
  rcases hlaw.alternative "1" with ⟨v, hv, halternative⟩ | ⟨d, herror, -⟩
  · rw [halternative, ← hv, hcoerce]
  · rw [hcoerce] at herror
    cases herror

end Version
end SandboxRouting
