import SandboxRouting.Json.Skip
import SandboxRouting.Proofs.Json.Scan

/-! # Skipping what was written

A value is skipped in one pass, with what is open around the place kept as a list. So the lemmas below speak
of a pass that is under way (`Skips`). How many steps it takes from one place to another does not matter, but
they are no more than the characters that it passes. The stretches of a pass are put together by
`Skips.trans`; the longest one goes over a whole value and leaves everything around it open (`skippable`).
A pass that may take as many steps as there are characters comes to its end (`skipValue_of_written`). -/

namespace SandboxRouting
namespace Json

/-- A pass gets from one place of a text to another in no more steps than there are characters between. -/
def Skips (place : Place) (frames : List Frame) (source : List Char) (place' : Place) (frames' : List Frame)
    (rest : List Char) : Prop :=
  ∃ k, k + rest.length ≤ source.length ∧
    ∀ n, skipWithin (n + k) place frames source = skipWithin n place' frames' rest

namespace Skips
variable {place place' place'' : Place} {frames frames' frames'' : List Frame} {source middle rest : List Char}

theorem trans (h : Skips place frames source place' frames' middle)
    (h' : Skips place' frames' middle place'' frames'' rest) : Skips place frames source place'' frames'' rest := by
  obtain ⟨k, hk, hfirst⟩ := h
  obtain ⟨m, hm, hsecond⟩ := h'
  exact ⟨m + k, by omega, fun n => by rw [← Nat.add_assoc, hfirst, hsecond]⟩

theorem step (hlength : rest.length < source.length)
    (h : ∀ n, skipWithin (n + 1) place frames source = skipWithin n place' frames' rest) :
    Skips place frames source place' frames' rest := ⟨1, by omega, h⟩

end Skips

variable {frames : List Frame} {source start behind ahead rest : List Char}

/-! ### Single steps -/

theorem Blanks.length_lt {c : Char} (h : Blanks source (c :: rest)) : rest.length < source.length :=
  Nat.lt_of_lt_of_le (Nat.lt_succ_self _) h.length_le

theorem skips_blanks (h : Blanks source start) : Skips .before frames source .before frames start := by
  -- Blanks take no step of their own: the step that follows goes over them.
  refine ⟨0, by have := h.length_le; omega, fun n => ?_⟩
  cases n with
  | zero => simp [skipWithin]
  | succ n => simp only [skipWithin, skipBlanks_eq h]

theorem skips_scalar {c : Char} (hc : isBlank c = false) (hlist : c ≠ '[') (hrecord : c ≠ '\x7b')
    (hlength : rest.length ≤ source.length) (h : skipScalar c source = .ok rest) :
    Skips .before frames (c :: source) .after frames rest := by
  refine .step (Nat.lt_succ_of_le hlength) fun n => ?_
  simp only [skipWithin, skipBlanks_cons hc, if_neg hlist, if_neg hrecord, h]

theorem skips_numeral {n : Numeral} (h : WrittenNumeral n source rest) (hrest : Stops rest) :
    Skips .before frames source .after frames rest := by
  cases h with
  | positive hmagnitude =>
    obtain ⟨c, more, rfl, hdigit, hlength⟩ := hmagnitude.head
    have hread := numeral_of_written hmagnitude hrest false
    have hne : ∀ d : Char, d.isDigit = false → c ≠ d := fun d => Text.ne_of_isDigit hdigit
    refine skips_scalar (isBlank_of_isDigit hdigit) (hne '[' rfl) (hne '\x7b' rfl) hlength ?_
    simp [skipScalar, skipNumeral, hread, hdigit, hne '"' rfl, hne 'n' rfl, hne 't' rfl, hne 'f' rfl, hne '-' rfl]
  | negative hmagnitude =>
    obtain ⟨c, more, rfl, -, hlength⟩ := hmagnitude.head
    refine skips_scalar (by decide) (by decide) (by decide) (Nat.le_succ_of_le hlength) ?_
    simp [skipScalar, skipNumeral, numeral_of_written hmagnitude hrest false]

theorem skipName_of_written {name text : List Char} (hquote : Blanks source ('"' :: text))
    (hname : WrittenText name text behind) (hcolon : Blanks behind (':' :: ahead)) : skipName source = .ok ahead := by
  rw [skipName, skipBlanks_of_blanks hquote (by decide)]
  simp [skipText_of_written hname, skipBlanks_of_blanks hcolon (by decide), bind, Except.bind, pure, Except.pure]

theorem skips_comma (h : Blanks source (',' :: rest)) :
    Skips .after (.list :: frames) source .before (.list :: frames) rest := by
  refine .step h.length_lt fun n => ?_
  simp [skipWithin, skipBlanks_of_blanks h (by decide)]

theorem skips_comma_and_name (h : Blanks source (',' :: ahead)) (hname : skipName ahead = .ok rest)
    (hlength : rest.length < ahead.length) :
    Skips .after (.record :: frames) source .before (.record :: frames) rest := by
  refine .step (Nat.lt_trans hlength h.length_lt) fun n => ?_
  simp [skipWithin, skipBlanks_of_blanks h (by decide), hname]

/-- The mark behind the last entry of an open value. -/
def Frame.mark : Frame → Char
  | .list => ']'
  | .record => '\x7d'

theorem skips_mark {frame : Frame} (h : Blanks source (frame.mark :: rest)) :
    Skips .after (frame :: frames) source .after frames rest := by
  refine .step h.length_lt fun n => ?_
  cases frame <;> simp [skipWithin, skipBlanks_of_blanks h (by decide), Frame.mark]

/-! ### Lists and records -/

/-- A value is skipped wherever it is written, whatever is open around it. -/
def Skippable (v : Value) : Prop :=
  ∀ source rest frames, Written v source rest → Stops rest → Skips .before frames source .after frames rest

/-- A further entry is skipped, from the comma ahead of it on. -/
def SkippableBehindComma {α : Type} (frame : Frame) (entry : α → List Char → List Char → Prop) (a : α) : Prop :=
  ∀ source start rest frames, Leads false source start → entry a start rest → Stops rest →
    Skips .after (frame :: frames) source .after (frame :: frames) rest

/-- Behind an entry the pass skips the further ones and the mark behind the last. -/
theorem skips_further {α : Type} {entry : α → List Char → List Char → Prop} {frame : Frame} {entries : List α}
    (h : Items entry frame.mark false entries source rest)
    (hentries : ∀ a ∈ entries, SkippableBehindComma frame entry a) :
    Skips .after (frame :: frames) source .after frames rest := by
  generalize hfirst : false = isFirst at h
  induction h with
  | done hmark => exact skips_mark hmark
  | more hleads hwritten hfurther ih =>
    subst hfirst
    have hstops := hfurther.stops (by cases frame <;> simp [Frame.mark])
    exact (hentries _ List.mem_cons_self _ _ _ _ hleads hwritten hstops).trans
      (ih (fun a ha => hentries a (List.mem_cons_of_mem _ ha)) rfl)

theorem Skippable.element {v : Value} (hv : Skippable v) : SkippableBehindComma .list Written v := by
  intro source start rest frames hleads h hrest
  cases hleads with
  | further hcomma hstart => exact (skips_comma hcomma).trans ((skips_blanks hstart).trans (hv start rest _ h hrest))

/-- Behind the name of an entry and its colon the pass skips the value. -/
theorem Skippable.named {e : String × Value} (hv : Skippable e.2) (frames : List Frame) (hstart : Blanks ahead start)
    (h : WrittenEntry Written e start rest) (hrest : Stops rest) :
    ∃ value, skipName ahead = .ok value ∧ value.length < ahead.length ∧
      Skips .before frames value .after frames rest := by
  cases h with
  | named hname hcolon hvalue hwritten =>
    have hbehind := hname.length_lt
    have hahead := hcolon.length_lt
    have htext := hstart.length_lt
    exact ⟨_, skipName_of_written hstart hname hcolon, by omega, (skips_blanks hvalue).trans (hv _ _ _ hwritten hrest)⟩

theorem Skippable.entry {e : String × Value} (hv : Skippable e.2) :
    SkippableBehindComma .record (WrittenEntry Written) e := by
  intro source start rest frames hleads h hrest
  cases hleads with
  | further hcomma hstart =>
    obtain ⟨value, hname, hlength, hskip⟩ := hv.named _ hstart h hrest
    exact (skips_comma_and_name hcomma hname hlength).trans hskip

theorem skippable_list {values : List Value} (hvalues : ∀ v ∈ values, Skippable v) : Skippable (.list values) := by
  intro source rest frames h hrest
  cases h with
  | @list _ text _ hitems =>
    cases hitems with
    | done hmark =>
      refine .step (Nat.lt_succ_of_lt hmark.length_lt) fun n => ?_
      simp [skipWithin, skipBlanks_cons, isBlank, skipBlanks_of_blanks hmark (by decide)]
    -- No comma is ahead of the first element, and the pass looks at it before it opens the list.
    | @more _ v others _ start middle _ hleads hwritten hfurther =>
      cases hleads with
      | first hstart =>
        have hopen : Skips .before frames ('[' :: text) .before (.list :: frames) text := by
          obtain ⟨c, more, rfl, hc, hne⟩ := hwritten.head
          refine .step (Nat.lt_succ_self _) fun n => ?_
          simp [skipWithin, skipBlanks_cons, isBlank, skipBlanks_of_blanks hstart hc, hne]
        have hfirst := hvalues _ List.mem_cons_self _ _ (.list :: frames) hwritten (hfurther.stops (Or.inl rfl))
        have hothers : Skips .after (.list :: frames) middle .after frames rest :=
          skips_further hfurther fun a ha => (hvalues a (List.mem_cons_of_mem v ha)).element
        exact hopen.trans ((skips_blanks hstart).trans (hfirst.trans hothers))

theorem skippable_record {entries : List (String × Value)} (hentries : ∀ e ∈ entries, Skippable e.2) :
    Skippable (.record entries) := by
  intro source rest frames h hrest
  cases h with
  | @record _ text _ hitems =>
    cases hitems with
    | done hmark =>
      refine .step (Nat.lt_succ_of_lt hmark.length_lt) fun n => ?_
      simp [skipWithin, skipBlanks_cons, isBlank, skipBlanks_of_blanks hmark (by decide)]
    | @more _ e others _ start middle _ hleads hwritten hfurther =>
      cases hleads with
      | first hstart =>
        obtain ⟨value, hname, hlength, hfirst⟩ := (hentries e List.mem_cons_self).named (.record :: frames)
          hstart hwritten (hfurther.stops (Or.inr rfl))
        have hopen : Skips .before frames ('\x7b' :: text) .before (.record :: frames) value := by
          cases hwritten
          refine .step (Nat.lt_succ_of_lt hlength) fun n => ?_
          simp [skipWithin, skipBlanks_cons, isBlank, skipBlanks_of_blanks hstart, hname]
        have hothers : Skips .after (.record :: frames) middle .after frames rest :=
          skips_further hfurther fun a ha => (hentries a (List.mem_cons_of_mem e ha)).entry
        exact hopen.trans (hfirst.trans hothers)

/-! ### Values -/

/-- Every value is skipped, however deep it is nested. -/
theorem skippable (v : Value) : Skippable v := by
  induction v using Value.induct with
  | null =>
    intro source rest frames h _
    cases h
    exact skips_scalar (by decide) (by decide) (by decide) (by simp only [List.length_cons]; omega) rfl
  | flag b =>
    intro source rest frames h _
    cases h <;>
      exact skips_scalar (by decide) (by decide) (by decide) (by simp only [List.length_cons]; omega) rfl
  | number n =>
    intro source rest frames h hrest
    cases h with
    | number hnumeral => exact skips_numeral hnumeral hrest
  | text s =>
    intro source rest frames h _
    cases h with
    | text hchars =>
      exact skips_scalar (by decide) (by decide) (by decide) (Nat.le_of_lt hchars.length_lt)
        (skipText_of_written hchars)
  | list values ih => exact skippable_list ih
  | record entries ih => exact skippable_record ih

/-- What follows a value is no longer than what is ahead of it. -/
theorem Written.length_le {v : Value} (h : Written v source rest) (hrest : Stops rest) :
    rest.length ≤ source.length := by
  obtain ⟨k, hk, -⟩ := skippable v source rest [] h hrest
  omega

theorem skipValue_of_written {v : Value} (hstart : Blanks source start) (h : Written v start rest) (hrest : Stops rest) :
    skipValue source = .ok rest := by
  obtain ⟨k, hk, hskip⟩ := (skips_blanks hstart).trans (skippable v start rest [] h hrest)
  obtain ⟨n, hn⟩ := Nat.exists_eq_add_of_le' (show k ≤ source.length by omega)
  rw [skipValue, hn, Nat.add_right_comm, hskip]
  rfl

end Json
end SandboxRouting
