import SandboxRouting.Text.Character
import SandboxRouting.Version

/-! # How a text is read as a version

A text that stands for a version falls into three parts: white space and marks of comparison, up to three
runs of digits joined by single dots, and the rest. Nothing in the rest could go on with the runs, so there
is only one way to take a text apart: its runs are those that are found in it (`found_text`), and where any
are found it can be taken apart (`exists_reading`). A double bar can stand in the rest alone, which is why it
does not matter that a text is cut there. -/

namespace SandboxRouting
namespace Version

/-! ### The parts of a text -/

/-- The marks that may stand ahead of a version, alone or among white space. -/
def marks : List Char := ['^', '~', '<', '>', '=', 'v', 'V']

/-- No digit comes first, and where more runs are wanted, no dot with a digit behind it. -/
structure Ends (wanted : Nat) (rest : List Char) : Prop where
  digit : ∀ c ∈ rest.head?, c.isDigit = false
  dot : 0 < wanted → ∀ c tail, rest = '.' :: c :: tail → c.isDigit = false

/-- A text in its parts. -/
structure Reading where
  lead : List Char
  runs : List (List Char)
  rest : List Char
  blank_or_mark : ∀ c ∈ lead, Text.isBlank c = true ∨ c ∈ marks
  runs_ne_nil : runs ≠ []
  length_runs_le : runs.length ≤ 3
  digits : ∀ run ∈ runs, run ≠ [] ∧ ∀ c ∈ run, c.isDigit = true
  ends : Ends (3 - runs.length) rest

namespace Reading

/-- The text that was taken apart. -/
def text (d : Reading) : List Char := d.lead ++ ['.'].intercalate d.runs ++ d.rest

/-- The number of a run. A run that is missing counts as zero. -/
def number (d : Reading) (i : Nat) : Nat := (d.runs[i]?).elim 0 fun run => Nat.ofDigitChars 10 run 0

end Reading

/-! ### Ends -/

namespace Ends
variable {wanted : Nat} {rest more : List Char}

theorem of_append (h : Ends wanted (rest ++ more)) : Ends wanted rest := by
  refine ⟨fun c hc => ?_, fun hw c tail htail => ?_⟩
  · cases rest with
    | nil => cases hc
    | cons d rest => exact h.digit c hc
  · rw [htail] at h
    exact h.dot hw c (tail ++ more) rfl

/-- A bar does not go on with any run. -/
theorem append (h : Ends wanted rest) (hmore : ∀ c ∈ more.head?, c = '|') : Ends wanted (rest ++ more) := by
  have hbar : ∀ c ∈ more.head?, c.isDigit = false := by
    intro c hc
    rw [hmore c hc]
    rfl
  refine ⟨fun c hc => ?_, fun hw c tail htail => ?_⟩
  · cases rest with
    | nil => exact hbar c hc
    | cons d rest => exact h.digit c hc
  · rcases rest with _ | ⟨d, _ | ⟨e, rest⟩⟩
    · have hdot : '.' = '|' := hmore '.' (by rw [List.nil_append] at htail; rw [htail]; rfl)
      cases hdot
    · have hmore : more = c :: tail := by simpa using (List.cons.inj htail).2
      exact hbar c (by rw [hmore]; rfl)
    · simp only [List.cons_append, List.cons.injEq] at htail
      obtain ⟨rfl, rfl, -⟩ := htail
      exact h.dot hw e rest rfl

end Ends

/-! ### Runs -/

theorem runs_of_head? {text : List Char} (h : ∀ c ∈ text.head?, c.isDigit = false) (n : Nat) : runs n text = [] := by
  cases n with
  | zero => rfl
  | succ n =>
    have hnone : text.takeWhile Char.isDigit = [] := by
      cases text with
      | nil => rfl
      | cons c rest => simp [h c rfl]
    simp [runs, hnone]

section
variable {run : List Char} (hne : run ≠ []) (hrun : ∀ c ∈ run, c.isDigit = true)
include hne hrun

theorem runs_dot (n : Nat) (behind : List Char) : runs (n + 1) (run ++ '.' :: behind) = run :: runs n behind := by
  have hrest : ∀ c ∈ ('.' :: behind).head?, c.isDigit = false := by
    rintro c ⟨⟩
    rfl
  rw [runs, Text.takeWhile_isDigit hrun hrest, Text.dropWhile_isDigit hrun hrest, if_neg hne]
  rfl

theorem runs_last {rest : List Char} (hrest : ∀ c ∈ rest.head?, c.isDigit = false)
    (hdot : ∀ behind, rest ≠ '.' :: behind) (n : Nat) : runs (n + 1) (run ++ rest) = [run] := by
  rw [runs, Text.takeWhile_isDigit hrun hrest, Text.dropWhile_isDigit hrun hrest, if_neg hne]
  split
  next behind => exact absurd rfl (hdot behind)
  next => rfl

end

/-- A text begins with no digit, or with a run of digits that a dot follows or that is the last one. -/
theorem runs_cases (text : List Char) :
    (∀ c ∈ text.head?, c.isDigit = false) ∨
      ∃ run rest, text = run ++ rest ∧ run ≠ [] ∧ (∀ c ∈ run, c.isDigit = true) ∧
        (∀ c ∈ rest.head?, c.isDigit = false) ∧
        ((∃ behind, rest = '.' :: behind) ∨ ∀ behind, rest ≠ '.' :: behind) := by
  cases hrun : text.takeWhile Char.isDigit with
  | nil =>
    left
    intro c hc
    obtain ⟨rest, rfl⟩ := List.head?_eq_some_iff.mp hc
    refine Bool.eq_false_iff.mpr fun hdigit => ?_
    rw [List.takeWhile_cons_of_pos hdigit] at hrun
    cases hrun
  | cons d run =>
    right
    refine ⟨d :: run, text.dropWhile Char.isDigit, ?_, by simp, ?_, fun c => Text.isDigit_of_head?_dropWhile, ?_⟩
    · rw [← hrun, List.takeWhile_append_dropWhile]
    · rw [← hrun]
      exact List.all_eq_true.mp List.all_takeWhile
    · exact Classical.or_iff_not_imp_left.mpr fun h behind hbehind => h ⟨behind, hbehind⟩

/-- Runs of digits that nothing goes on with are found as they are. -/
theorem runs_intercalate {given : List (List Char)} {rest : List Char} {n : Nat} (hne : given ≠ [])
    (hlength : given.length ≤ n) (hdigits : ∀ run ∈ given, run ≠ [] ∧ ∀ c ∈ run, c.isDigit = true)
    (hends : Ends (n - given.length) rest) : runs n (['.'].intercalate given ++ rest) = given := by
  induction given generalizing n with
  | nil => exact absurd rfl hne
  | cons run more ih =>
    obtain ⟨n, rfl⟩ := Nat.exists_eq_add_of_le' (Nat.lt_of_lt_of_le (Nat.succ_pos more.length) hlength)
    obtain ⟨hrun, hall⟩ := hdigits run List.mem_cons_self
    cases more with
    | nil =>
      rw [List.intercalate_singleton]
      by_cases hdot : ∃ behind, rest = '.' :: behind
      · obtain ⟨behind, rfl⟩ := hdot
        rw [runs_dot hrun hall]
        cases n with
        | zero => rfl
        | succ n =>
          have hbehind : ∀ c ∈ behind.head?, c.isDigit = false := by
            intro c hc
            obtain ⟨tail, rfl⟩ := List.head?_eq_some_iff.mp hc
            exact hends.dot (by simp) c tail rfl
          rw [runs_of_head? hbehind]
      · exact runs_last hrun hall hends.digit (fun behind h => hdot ⟨behind, h⟩) n
    | cons next more =>
      have hbehind := ih (by simp) (Nat.le_of_succ_le_succ hlength) (fun r hr => hdigits r (List.mem_cons_of_mem _ hr))
        (by simpa using hends)
      rw [List.intercalate_cons_cons, List.append_assoc, List.append_assoc, List.singleton_append,
        runs_dot hrun hall, hbehind]

theorem length_runs_le (n : Nat) (text : List Char) : (runs n text).length ≤ n := by
  induction n generalizing text with
  | zero => exact Nat.le_refl 0
  | succ n ih =>
    rcases runs_cases text with hhead | ⟨run, rest, rfl, hne, hrun, hrest, ⟨behind, rfl⟩ | hdot⟩
    · simp [runs_of_head? hhead]
    · rw [runs_dot hne hrun]
      exact Nat.succ_le_succ (ih behind)
    · simp [runs_last hne hrun hrest hdot]

theorem digits_of_mem_runs {n : Nat} {text run : List Char} (h : run ∈ runs n text) :
    run ≠ [] ∧ ∀ c ∈ run, c.isDigit = true := by
  induction n generalizing text with
  | zero => cases h
  | succ n ih =>
    rcases runs_cases text with hhead | ⟨first, rest, rfl, hne, hfirst, hrest, ⟨behind, rfl⟩ | hdot⟩
    · rw [runs_of_head? hhead] at h
      cases h
    · rw [runs_dot hne hfirst] at h
      rcases List.mem_cons.mp h with rfl | h
      · exact ⟨hne, hfirst⟩
      · exact ih h
    · rw [runs_last hne hfirst hrest hdot, List.mem_singleton] at h
      exact h ▸ ⟨hne, hfirst⟩

theorem head?_of_runs_eq_nil {n : Nat} {text : List Char} (h : runs (n + 1) text = []) :
    ∀ c ∈ text.head?, c.isDigit = false := by
  rcases runs_cases text with hhead | ⟨run, rest, rfl, hne, hrun, hrest, ⟨behind, rfl⟩ | hdot⟩
  · exact hhead
  · rw [runs_dot hne hrun] at h
    cases h
  · rw [runs_last hne hrun hrest hdot] at h
    cases h

/-- What is found begins the text, and nothing goes on with it. -/
theorem exists_rest_of_runs {n : Nat} {text : List Char} (h : runs n text ≠ []) :
    ∃ rest, text = ['.'].intercalate (runs n text) ++ rest ∧ Ends (n - (runs n text).length) rest := by
  induction n generalizing text with
  | zero => exact absurd rfl h
  | succ n ih =>
    rcases runs_cases text with hhead | ⟨run, rest, rfl, hne, hrun, hrest, ⟨behind, rfl⟩ | hdot⟩
    · exact absurd (runs_of_head? hhead _) h
    · rw [runs_dot hne hrun]
      cases hmore : runs n behind with
      | nil =>
        refine ⟨'.' :: behind, by rw [List.intercalate_singleton], hrest, fun hn c tail htail => ?_⟩
        obtain rfl : behind = c :: tail := (List.cons.inj htail).2
        obtain ⟨n, rfl⟩ : ∃ m, n = m + 1 := Nat.exists_eq_add_one.mpr (by simpa using hn)
        exact head?_of_runs_eq_nil hmore c rfl
      | cons next more =>
        obtain ⟨rest, hbehind, hends⟩ := ih (by rw [hmore]; simp)
        rw [hmore] at hbehind hends
        refine ⟨rest, ?_, by simpa using hends⟩
        rw [List.intercalate_cons_cons, hbehind]
        simp
    · rw [runs_last hne hrun hrest hdot]
      exact ⟨rest, by rw [List.intercalate_singleton], hrest, fun _ c tail htail => absurd htail (hdot _)⟩

/-! ### Where a text is cut, and what leads up to its numbers -/

theorem firstAlternative_append {ahead : List Char} (h : '|' ∉ ahead) (text : List Char) :
    firstAlternative (ahead ++ text) = ahead ++ firstAlternative text := by
  induction ahead with
  | nil => rfl
  | cons c ahead ih =>
    obtain ⟨hc, hahead⟩ := List.ne_and_not_mem_of_not_mem_cons h
    rw [List.cons_append, firstAlternative, if_neg (fun hbar => hc hbar.1.symm), ih hahead, List.cons_append]

theorem exists_cut (text : List Char) : ∃ cut, text = firstAlternative text ++ cut ∧ ∀ c ∈ cut.head?, c = '|' := by
  induction text with
  | nil => exact ⟨[], rfl, by simp⟩
  | cons c text ih =>
    rw [firstAlternative]
    split
    next hbar => exact ⟨c :: text, rfl, fun d hd => (Option.some.inj hd).symm.trans hbar.1⟩
    next =>
      obtain ⟨cut, htext, hcut⟩ := ih
      exact ⟨cut, by rw [List.cons_append, ← htext], hcut⟩

theorem isLead_iff {c : Char} : isLead c = true ↔ Text.isBlank c = true ∨ c ∈ marks := by
  simp [isLead, marks, or_assoc]

theorem isLead_of_isDigit {c : Char} (h : c.isDigit = true) : isLead c = false := by
  refine Bool.eq_false_iff.mpr fun hlead => ?_
  rcases isLead_iff.mp hlead with hblank | hmark
  · rw [Text.isBlank_of_isDigit h] at hblank
    cases hblank
  · have hnot : ∀ d ∈ marks, d.isDigit = false := by simp [marks]
    rw [hnot c hmark] at h
    cases h

/-- The runs of digits that a text is searched for. -/
def found (text : List Char) : List (List Char) := runs 3 ((firstAlternative text).dropWhile isLead)

namespace Reading

theorem bar_notMem_lead (d : Reading) : '|' ∉ d.lead := fun h => by
  rcases d.blank_or_mark _ h with h | h
  · cases h
  · revert h
    decide

theorem bar_notMem_runs (d : Reading) : '|' ∉ ['.'].intercalate d.runs := by
  have hdigits := d.digits
  generalize d.runs = runs at hdigits
  induction runs with
  | nil => exact List.not_mem_nil
  | cons run more ih =>
    have hrun : '|' ∉ run := fun hbar => Text.ne_of_isDigit ((hdigits run List.mem_cons_self).2 _ hbar) rfl rfl
    cases more with
    | nil => rwa [List.intercalate_singleton]
    | cons next more =>
      have hmore := ih fun r hr => hdigits r (List.mem_cons_of_mem _ hr)
      rw [List.intercalate_cons_cons]
      simp [hrun, hmore]

theorem exists_head_runs (d : Reading) : ∃ c tail, ['.'].intercalate d.runs = c :: tail ∧ c.isDigit = true := by
  obtain ⟨run, more, hruns⟩ := List.exists_cons_of_ne_nil d.runs_ne_nil
  obtain ⟨hne, hrun⟩ := d.digits run (hruns ▸ List.mem_cons_self)
  obtain ⟨c, tail, rfl⟩ := List.exists_cons_of_ne_nil hne
  rw [hruns]
  cases more with
  | nil => exact ⟨c, tail, List.intercalate_singleton, hrun c List.mem_cons_self⟩
  | cons next more =>
    rw [List.intercalate_cons_cons]
    exact ⟨c, _, rfl, hrun c List.mem_cons_self⟩

/-- The runs of a text that was taken apart are those that are found. -/
theorem found_text (d : Reading) : found d.text = d.runs := by
  obtain ⟨cut, hcut, -⟩ := exists_cut d.rest
  have hends : Ends (3 - d.runs.length) (firstAlternative d.rest) := by
    have hrest := d.ends
    rw [hcut] at hrest
    exact hrest.of_append
  have hlead : ∀ c ∈ d.lead, isLead c = true := fun c hc => isLead_iff.mpr (d.blank_or_mark c hc)
  have hbody : (['.'].intercalate d.runs ++ firstAlternative d.rest).dropWhile isLead =
      ['.'].intercalate d.runs ++ firstAlternative d.rest := by
    obtain ⟨c, tail, hhead, hc⟩ := d.exists_head_runs
    rw [hhead, List.cons_append, List.dropWhile_cons_of_neg (by simp [isLead_of_isDigit hc])]
  rw [found, text, List.append_assoc, firstAlternative_append d.bar_notMem_lead,
    firstAlternative_append d.bar_notMem_runs, List.dropWhile_append_of_pos hlead, hbody]
  exact runs_intercalate d.runs_ne_nil d.length_runs_le d.digits hends

end Reading

/-- A text in which runs are found can be taken apart. -/
theorem exists_reading {text : List Char} (h : found text ≠ []) :
    ∃ d : Reading, text = d.text ∧ d.runs = found text := by
  obtain ⟨cut, htext, hcut⟩ := exists_cut text
  obtain ⟨rest, hfound, hends⟩ := exists_rest_of_runs h
  refine ⟨⟨(firstAlternative text).takeWhile isLead, found text, rest ++ cut, fun c hc => ?_, h, length_runs_le 3 _,
    fun run hrun => digits_of_mem_runs hrun, hends.append hcut⟩, ?_, rfl⟩
  · exact isLead_iff.mp (List.all_eq_true.mp List.all_takeWhile c hc)
  · have hjoined : (firstAlternative text).dropWhile isLead = ['.'].intercalate (found text) ++ rest := hfound
    calc text = firstAlternative text ++ cut := htext
      _ = (firstAlternative text).takeWhile isLead ++ (firstAlternative text).dropWhile isLead ++ cut := by
        rw [List.takeWhile_append_dropWhile]
      _ = (firstAlternative text).takeWhile isLead ++ (['.'].intercalate (found text) ++ rest) ++ cut := by rw [hjoined]
      _ = _ := by simp [Reading.text]

/-! ### Numbers -/

namespace Reading

/-- The number of every run fits into 64 bits. -/
def InRange (d : Reading) : Prop := ∀ run ∈ d.runs, Nat.ofDigitChars 10 run 0 < UInt64.size

theorem number_lt {d : Reading} (h : d.InRange) (i : Nat) : d.number i < UInt64.size := by
  unfold number
  cases hrun : d.runs[i]? with
  | none => decide
  | some run => exact h run (List.mem_of_getElem? hrun)

theorem inRange_of_number {d : Reading} (h : ∀ i < 3, d.number i < UInt64.size) : d.InRange := by
  intro run hrun
  obtain ⟨i, hi, rfl⟩ := List.getElem_of_mem hrun
  have hnumber := h i (Nat.lt_of_lt_of_le hi d.length_runs_le)
  rwa [number, List.getElem?_eq_getElem hi] at hnumber

def version (d : Reading) : Version := ⟨.ofNat (d.number 0), .ofNat (d.number 1), .ofNat (d.number 2)⟩

end Reading

theorem coerce_eq (s : String) :
    coerce s =
      if found s.toList = [] then .error ⟨s, .noNumber⟩
      else if ((found s.toList).map fun run => Nat.ofDigitChars 10 run 0).all (· < UInt64.size) then
        .ok (ofNumbers ((found s.toList).map fun run => Nat.ofDigitChars 10 run 0))
      else .error ⟨s, .outOfRange⟩ := rfl

theorem coerce_of_reading {s : String} {d : Reading} (h : s.toList = d.text) :
    (d.InRange ∧ coerce s = .ok d.version) ∨ ¬ d.InRange ∧ coerce s = .error ⟨s, .outOfRange⟩ := by
  have hversion : ofNumbers (d.runs.map fun run => Nat.ofDigitChars 10 run 0) = d.version := by
    have hnumber : ∀ i, (d.runs.map fun run => Nat.ofDigitChars 10 run 0).getD i 0 = d.number i := by
      intro i
      rw [List.getD_eq_getElem?_getD, List.getElem?_map, Reading.number]
      cases d.runs[i]? <;> rfl
    rw [ofNumbers, hnumber, hnumber, hnumber]
    rfl
  have hall : ((d.runs.map fun run => Nat.ofDigitChars 10 run 0).all (· < UInt64.size)) = true ↔ d.InRange := by
    simp [Reading.InRange]
  rw [coerce_eq, h, d.found_text, if_neg d.runs_ne_nil, hversion]
  by_cases hrange : d.InRange
  · exact Or.inl ⟨hrange, if_pos (hall.mpr hrange)⟩
  · exact Or.inr ⟨hrange, if_neg (mt hall.mp hrange)⟩

theorem coerce_of_no_reading {s : String} (h : ∀ d : Reading, s.toList ≠ d.text) :
    coerce s = .error ⟨s, .noNumber⟩ := by
  have hfound : found s.toList = [] := by
    refine Classical.not_not.mp fun hne => ?_
    obtain ⟨d, hd, -⟩ := exists_reading hne
    exact h d hd
  rw [coerce_eq, if_pos hfound]

/-! ### Bars -/

/-- The same beginning with another rest. -/
def Reading.withRest (d : Reading) (rest : List Char) (h : Ends (3 - d.runs.length) rest) : Reading :=
  { d with rest, ends := h }

/-- Bars never belong to a number, so what is found ahead of them does not hang on them. -/
theorem found_append_bars (text more : List Char) : found (text ++ '|' :: '|' :: more) = found text := by
  by_cases hnone : found text = []
  · rw [hnone]
    refine Classical.not_not.mp fun hne => ?_
    obtain ⟨d, hd, -⟩ := exists_reading hne
    -- The bars come behind the runs, so that the text without them can be taken apart too.
    obtain ⟨rest, htext, hrest⟩ : ∃ rest, text = d.lead ++ ['.'].intercalate d.runs ++ rest ∧
        d.rest = rest ++ '|' :: '|' :: more := by
      rcases List.append_eq_append_iff.mp hd with ⟨as, hahead, hbars⟩ | ⟨rest, htext, hrest⟩
      · cases as with
        | nil => exact ⟨[], by simpa using hahead.symm, by simpa using hbars.symm⟩
        | cons c as =>
          obtain ⟨rfl, -⟩ := List.cons.inj hbars
          have hbar : '|' ∈ d.lead ++ ['.'].intercalate d.runs := hahead ▸ by simp
          rcases List.mem_append.mp hbar with hbar | hbar
          · exact absurd hbar d.bar_notMem_lead
          · exact absurd hbar d.bar_notMem_runs
      · exact ⟨rest, htext, hrest⟩
    have hends : Ends (3 - d.runs.length) rest := by
      have hbars := d.ends
      rw [hrest] at hbars
      exact hbars.of_append
    have hfound : found text = d.runs := htext ▸ (d.withRest rest hends).found_text
    exact d.runs_ne_nil (hfound.symm.trans hnone)
  · obtain ⟨d, rfl, hruns⟩ := exists_reading hnone
    have hends : Ends (3 - d.runs.length) (d.rest ++ '|' :: '|' :: more) := d.ends.append (by simp)
    have hfound := (d.withRest _ hends).found_text
    rw [← hruns]
    simpa [Reading.text, Reading.withRest] using hfound

/-! ### The law of coercion -/

theorem coerce_cases (s : String) :
    (∃ d : Reading, s.toList = d.text ∧ d.InRange ∧ coerce s = .ok d.version) ∨
      (∃ d : Reading, s.toList = d.text ∧ ¬ d.InRange ∧ coerce s = .error ⟨s, .outOfRange⟩) ∨
      (∀ d : Reading, s.toList ≠ d.text) ∧ coerce s = .error ⟨s, .noNumber⟩ := by
  by_cases hread : ∃ d : Reading, s.toList = d.text
  · obtain ⟨d, hd⟩ := hread
    rcases coerce_of_reading hd with ⟨hrange, hok⟩ | ⟨hrange, herror⟩
    · exact Or.inl ⟨d, hd, hrange, hok⟩
    · exact Or.inr (Or.inl ⟨d, hd, hrange, herror⟩)
  · have hnone : ∀ d : Reading, s.toList ≠ d.text := fun d hd => hread ⟨d, hd⟩
    exact Or.inr (Or.inr ⟨hnone, coerce_of_no_reading hnone⟩)

theorem Reading.not_inRange_iff {d : Reading} :
    ¬ d.InRange ↔ ∃ run ∈ d.runs, UInt64.size ≤ Nat.ofDigitChars 10 run 0 := by
  simp [InRange]

section
variable {s : String}

theorem coerce_eq_ok_iff {x y z : UInt64} :
    coerce s = .ok ⟨x, y, z⟩ ↔
      ∃ d : Reading, s.toList = d.text ∧ d.number 0 = x.toNat ∧ d.number 1 = y.toNat ∧ d.number 2 = z.toNat := by
  constructor
  · intro hok
    rcases coerce_cases s with ⟨d, hd, hrange, h⟩ | ⟨d, -, -, h⟩ | ⟨-, h⟩ <;> rw [h] at hok <;> cases hok
    refine ⟨d, hd, ?_, ?_, ?_⟩ <;> rw [UInt64.toNat_ofNat_of_lt' (Reading.number_lt hrange _)]
  · rintro ⟨d, hd, hx, hy, hz⟩
    have hrange : d.InRange := by
      refine Reading.inRange_of_number fun i hi => ?_
      match i, hi with
      | 0, _ => exact hx ▸ x.toNat_lt
      | 1, _ => exact hy ▸ y.toNat_lt
      | 2, _ => exact hz ▸ z.toNat_lt
    rcases coerce_of_reading hd with ⟨-, hok⟩ | ⟨hnot, -⟩
    · rw [hok, Reading.version, hx, hy, hz]
      simp
    · exact absurd hrange hnot

theorem coerce_outOfRange_iff :
    (∃ e, coerce s = .error e ∧ e.defect.reason = "version component out of range") ↔
      ∃ d : Reading, s.toList = d.text ∧ ∃ run ∈ d.runs, UInt64.size ≤ Nat.ofDigitChars 10 run 0 := by
  constructor
  · rintro ⟨e, herror, hreason⟩
    rcases coerce_cases s with ⟨d, -, -, h⟩ | ⟨d, hd, hrange, -⟩ | ⟨-, h⟩
    · rw [h] at herror
      cases herror
    · exact ⟨d, hd, Reading.not_inRange_iff.mp hrange⟩
    · rw [h] at herror
      cases herror
      have hother : Defect.noNumber.reason ≠ "version component out of range" := by decide
      exact absurd hreason hother
  · rintro ⟨d, hd, hlarge⟩
    rcases coerce_of_reading hd with ⟨hrange, -⟩ | ⟨-, herror⟩
    · exact absurd hrange (Reading.not_inRange_iff.mpr hlarge)
    · exact ⟨_, herror, rfl⟩

theorem coerce_noNumber_iff :
    (∃ e, coerce s = .error e ∧ e.defect.reason = "no numeric version component") ↔
      ∀ d : Reading, s.toList ≠ d.text := by
  constructor
  · rintro ⟨e, herror, hreason⟩
    rcases coerce_cases s with ⟨d, -, -, h⟩ | ⟨d, -, -, h⟩ | ⟨hnone, -⟩
    · rw [h] at herror
      cases herror
    · rw [h] at herror
      cases herror
      have hother : Defect.outOfRange.reason ≠ "no numeric version component" := by decide
      exact absurd hreason hother
    · exact hnone
  · intro hnone
    exact ⟨_, coerce_of_no_reading hnone, rfl⟩

end

/-- What a text stands for, or why it stands for nothing. -/
def verdict (s : String) : Except Defect Version := (coerce s).mapError (·.defect)

theorem verdict_congr {s t : String} (h : found s.toList = found t.toList) : verdict s = verdict t := by
  rw [verdict, verdict, coerce_eq, coerce_eq, h]
  split
  · rfl
  · split <;> rfl

/-- A bar at the end of the text, or none before the two that are added, does not matter either. -/
theorem verdict_alternative (s t : String) : verdict (s ++ "||" ++ t) = verdict s :=
  verdict_congr (by simpa using found_append_bars s.toList t.toList)

/-- What a text is coerced to is told by its parts. -/
structure CoercionLaw (s : String) : Prop where
  ok_iff : ∀ x y z : UInt64, coerce s = .ok ⟨x, y, z⟩ ↔
    ∃ d : Reading, s.toList = d.text ∧ d.number 0 = x.toNat ∧ d.number 1 = y.toNat ∧ d.number 2 = z.toNat
  /-- The text can be taken apart, but one of its numbers is too large. -/
  outOfRange_iff : (∃ e, coerce s = .error e ∧ e.defect.reason = "version component out of range") ↔
    ∃ d : Reading, s.toList = d.text ∧ ∃ run ∈ d.runs, UInt64.size ≤ Nat.ofDigitChars 10 run 0
  noNumber_iff : (∃ e, coerce s = .error e ∧ e.defect.reason = "no numeric version component") ↔
    ∀ d : Reading, s.toList ≠ d.text
  input : ∀ e, coerce s = .error e → e.input = s
  /-- Texts with the same runs stand for the same, whatever comes ahead of the runs and behind them. -/
  same_runs : ∀ (t : String) (d d' : Reading), s.toList = d.text → t.toList = d'.text → d'.runs = d.runs →
    verdict t = verdict s
  /-- Only the first alternative counts. -/
  alternative : ∀ t : String, verdict (s ++ "||" ++ t) = verdict s

theorem coercionLaw (s : String) : CoercionLaw s where
  ok_iff x y z := coerce_eq_ok_iff
  outOfRange_iff := coerce_outOfRange_iff
  noNumber_iff := coerce_noNumber_iff
  input e he := by
    rcases coerce_cases s with ⟨d, -, -, h⟩ | ⟨d, -, -, h⟩ | ⟨-, h⟩ <;> rw [h] at he <;> cases he <;> rfl
  same_runs t d d' hs ht hruns := verdict_congr (by rw [hs, ht, d.found_text, d'.found_text, hruns])
  alternative := verdict_alternative s

end Version
end SandboxRouting
