import SandboxRouting.Pattern.Expr

/-! # Searching a text

A text is read once, from its first character to its last. While it is read, marks in the expression
keep track of all matches under way: a mark stands at a set whose character was read last. At each
position a signal is sent into the expression, for a match may begin anywhere. It passes through what
matches the empty text there, and marks the sets that hold the next character; and every mark sends a
signal on from where it stands before it goes out. A match ends where a signal comes out.

Parts without marks are kept as they are, so the work at a position is in proportion to the parts that
are busy. `occursIn_iff` says that the search finds exactly what `Expr.Matches` describes. -/

namespace SandboxRouting
namespace Pattern

/-- An expression with marks in it. -/
inductive Progress where
  /-- An expression without any mark. -/
  | idle (e : Expr)
  /-- A set that holds the character read last, with a mark. -/
  | mark (set : CharSet)
  | seq (first second : Progress)
  | alt (left right : Progress)
  | plus (body : Progress)

/-- What becomes of a signal that is sent into an expression without marks. -/
inductive Response where
  /-- Nothing comes of it. -/
  | blocked
  /-- It comes out, and leaves no mark. -/
  | passes
  /-- It leaves a mark. -/
  | marks

namespace Expr

/-- The expression matches the empty text between two neighbours. -/
def isEmptyAt (before after : Option Char) : Expr → Bool
  | empty => true
  | one _ => false
  | look a => a.holds before after
  | seq e f => e.isEmptyAt before after && f.isEmptyAt before after
  | alt e f => e.isEmptyAt before after || f.isEmptyAt before after
  | plus e => e.isEmptyAt before after

/-- What becomes of a signal, given the characters before and after the position. -/
def respond (before : Option Char) (c : Char) : Expr → Response
  | empty => .passes
  | one set => if set.mem c then .marks else .blocked
  | look a => if a.holds before (some c) then .passes else .blocked
  | seq e f =>
    match e.respond before c with
    | .blocked => .blocked
    | .passes => f.respond before c
    | .marks => .marks
  | alt e f =>
    match e.respond before c with
    | .blocked => f.respond before c
    | .passes =>
      match f.respond before c with
      | .marks => .marks
      | _ => .passes
    | .marks => .marks
  | plus e => e.respond before c

end Expr

namespace Progress

/-- The expression without its marks. -/
def expr : Progress → Expr
  | idle e => e
  | mark set => .one set
  | seq first second => .seq first.expr second.expr
  | alt left right => .alt left.expr right.expr
  | plus body => .plus body.expr

/-- One after the other, as a plain expression if neither has a mark. -/
def joinSeq : Progress → Progress → Progress
  | idle e, idle f => idle (.seq e f)
  | g, h => seq g h

/-- Either of two, as a plain expression if neither has a mark. -/
def joinAlt : Progress → Progress → Progress
  | idle e, idle f => idle (.alt e f)
  | g, h => alt g h

/-- Once or more often, as a plain expression if it has no mark. -/
def joinPlus : Progress → Progress
  | idle e => idle (.plus e)
  | g => plus g

/-- A signal comes out at a position, given whether one is sent in there. -/
def passes (before after : Option Char) (signal : Bool) : Progress → Bool
  | idle e => signal && e.isEmptyAt before after
  | mark _ => true
  | seq first second => second.passes before after (first.passes before after signal)
  | alt left right => left.passes before after signal || right.passes before after signal
  | plus body => body.passes before after signal

end Progress

/-- Sends a signal into an expression without marks and reads a character: the expression afterwards, and
    whether the signal came out before the character. -/
def Expr.enter (before : Option Char) (c : Char) : Expr → Progress × Bool
  | empty => (.idle .empty, true)
  | one set => (if set.mem c then .mark set else .idle (.one set), false)
  | look a => (.idle (.look a), a.holds before (some c))
  | seq e f =>
    let (g, signal) := e.enter before c
    if signal then
      let (h, signal) := f.enter before c
      (.joinSeq g h, signal)
    else (.joinSeq g (.idle f), false)
  | alt e f =>
    let (g, signal) := e.enter before c
    let (h, signal') := f.enter before c
    (.joinAlt g h, signal || signal')
  | plus e =>
    let (g, signal) := e.enter before c
    (.joinPlus g, signal)

namespace Progress

/-- Reads a character, given whether a signal is sent in before it: the expression afterwards, and whether
    a signal came out before the character. -/
def read (before : Option Char) (c : Char) (signal : Bool) : Progress → Progress × Bool
  | idle e =>
    if signal then
      -- What no mark is left in is not put together anew.
      match e.respond before c with
      | .blocked => (idle e, false)
      | .passes => (idle e, true)
      | .marks => e.enter before c
    else (idle e, false)
  | mark set => (if signal && set.mem c then mark set else idle (.one set), true)
  | seq first second =>
    let (g, signal) := first.read before c signal
    let (h, signal) := second.read before c signal
    (joinSeq g h, signal)
  | alt left right =>
    let (g, signal₁) := left.read before c signal
    let (h, signal₂) := right.read before c signal
    (joinAlt g h, signal₁ || signal₂)
  | plus body =>
    let (g, signal) := body.read before c (signal || body.passes before (some c) false)
    (joinPlus g, signal)

/-- A match ends somewhere in the rest of a text, while a new one may begin anywhere. -/
def finds (before : Option Char) (g : Progress) : List Char → Bool
  | [] => g.passes before none true
  | c :: rest =>
    let (next, signal) := g.read before c true
    signal || next.finds (some c) rest

end Progress

/-- The expression matches some part of the text. -/
def Expr.occursIn (e : Expr) (text : String) : Bool := (Progress.idle e).finds none text.toList

/-! ### The search finds what is described

`Continues` says by which texts the matches under way can be brought to an end. Reading a character takes
it off these texts, and adds those by which a match that begins before the character can be ended. -/

namespace Expr

theorem preceding_cons {before : Option Char} {c : Char} {w : List Char} :
    preceding before (c :: w) = preceding (some c) w := by
  cases w with
  | nil => rfl
  | cons d w => simp [preceding, List.getLast?_eq_some_getLast]

theorem matches_empty_iff {before after : Option Char} {w : List Char} :
    Matches .empty before w after ↔ w = [] := by
  constructor
  · intro h
    cases h
    rfl
  · rintro rfl
    exact .empty

theorem matches_one_iff {set : CharSet} {before after : Option Char} {w : List Char} :
    Matches (.one set) before w after ↔ ∃ c, w = [c] ∧ set.mem c = true := by
  constructor
  · intro h
    cases h with
    | one h => exact ⟨_, rfl, h⟩
  · rintro ⟨c, rfl, h⟩
    exact .one h

theorem matches_one_cons_iff {set : CharSet} {before after : Option Char} {c : Char} {w : List Char} :
    Matches (.one set) before (c :: w) after ↔ w = [] ∧ set.mem c = true := by
  rw [matches_one_iff]
  constructor
  · rintro ⟨d, hw, h⟩
    obtain ⟨rfl, rfl⟩ := List.cons.inj hw
    exact ⟨rfl, h⟩
  · rintro ⟨rfl, h⟩
    exact ⟨c, rfl, h⟩

theorem matches_look_iff {a : Assertion} {before after : Option Char} {w : List Char} :
    Matches (.look a) before w after ↔ w = [] ∧ a.holds before after = true := by
  constructor
  · intro h
    cases h with
    | look h => exact ⟨rfl, h⟩
  · rintro ⟨rfl, h⟩
    exact .look h

theorem matches_seq_iff {e f : Expr} {before after : Option Char} {w : List Char} :
    Matches (.seq e f) before w after ↔
      ∃ u v, w = u ++ v ∧ e.Matches before u (following v after) ∧ f.Matches (preceding before u) v after := by
  constructor
  · intro h
    cases h with
    | seq h₁ h₂ => exact ⟨_, _, rfl, h₁, h₂⟩
  · rintro ⟨u, v, rfl, h₁, h₂⟩
    exact .seq h₁ h₂

theorem matches_alt_iff {e f : Expr} {before after : Option Char} {w : List Char} :
    Matches (.alt e f) before w after ↔ e.Matches before w after ∨ f.Matches before w after := by
  constructor
  · intro h
    cases h with
    | left h => exact .inl h
    | right h => exact .inr h
  · rintro (h | h)
    · exact .left h
    · exact .right h

/-- The first character of a text belongs to the first of two expressions, or that matches the empty text. -/
theorem matches_seq_cons_iff {e f : Expr} {before after : Option Char} {c : Char} {w : List Char} :
    Matches (.seq e f) before (c :: w) after ↔
      (∃ u v, w = u ++ v ∧ e.Matches before (c :: u) (following v after) ∧
        f.Matches (preceding (some c) u) v after) ∨
      e.Matches before [] (some c) ∧ f.Matches before (c :: w) after := by
  rw [matches_seq_iff]
  constructor
  · rintro ⟨u, v, hw, h₁, h₂⟩
    cases u with
    | nil =>
      obtain rfl : c :: w = v := hw
      exact .inr ⟨h₁, h₂⟩
    | cons d u =>
      obtain ⟨rfl, rfl⟩ := List.cons.inj hw
      exact .inl ⟨u, v, rfl, h₁, preceding_cons ▸ h₂⟩
  · rintro (⟨u, v, rfl, h₁, h₂⟩ | ⟨h₁, h₂⟩)
    · exact ⟨c :: u, v, rfl, h₁, preceding_cons ▸ h₂⟩
    · exact ⟨[], c :: w, rfl, h₁, h₂⟩

/-- The empty text in one round of a repetition is the empty text in all of them. -/
theorem matches_plus_nil_iff {e : Expr} {before after : Option Char} :
    Matches (.plus e) before [] after ↔ e.Matches before [] after := by
  refine ⟨fun h => ?_, .once⟩
  generalize hw : ([] : List Char) = w at h
  generalize hp : Expr.plus e = p at h
  induction h with
  | once h =>
    cases hp
    exact hw ▸ h
  | more h₁ _ _ _ =>
    cases hp
    obtain ⟨rfl, rfl⟩ := List.append_eq_nil_iff.mp hw.symm
    exact h₁
  | _ => cases hp

/-- The first character of a text in a repetition belongs to a round that is not empty, with which the
    repetition may as well begin. -/
theorem matches_plus_cons_iff {e : Expr} {before after : Option Char} {c : Char} {w : List Char} :
    Matches (.plus e) before (c :: w) after ↔
      e.Matches before (c :: w) after ∨
        ∃ u v, w = u ++ v ∧ e.Matches before (c :: u) (following v after) ∧
          Matches (.plus e) (preceding (some c) u) v after := by
  constructor
  · intro h
    generalize hw : c :: w = w' at h
    generalize hp : Expr.plus e = p at h
    induction h with
    | once h =>
      cases hp
      exact .inl (hw ▸ h)
    | @more body before after u v h₁ h₂ _ ih =>
      cases hp
      cases u with
      | nil => exact ih hw rfl
      | cons d u =>
        obtain ⟨rfl, rfl⟩ := List.cons.inj hw
        exact .inr ⟨u, v, rfl, h₁, preceding_cons ▸ h₂⟩
    | _ => cases hp
  · rintro (h | ⟨u, v, rfl, h₁, h₂⟩)
    · exact .once h
    · have h : Matches (.plus e) before ((c :: u) ++ v) after := .more h₁ (preceding_cons ▸ h₂)
      exact h

theorem isEmptyAt_iff {e : Expr} {before after : Option Char} :
    e.isEmptyAt before after = true ↔ e.Matches before [] after := by
  induction e with
  | empty => simp [isEmptyAt, matches_empty_iff]
  | one set => simp [isEmptyAt, matches_one_iff]
  | look a => simp [isEmptyAt, matches_look_iff]
  | seq e f ihe ihf =>
    simp only [isEmptyAt, Bool.and_eq_true, ihe, ihf, matches_seq_iff]
    constructor
    · rintro ⟨h₁, h₂⟩
      exact ⟨[], [], rfl, h₁, h₂⟩
    · rintro ⟨u, v, hw, h₁, h₂⟩
      obtain ⟨rfl, rfl⟩ := List.append_eq_nil_iff.mp hw.symm
      exact ⟨h₁, h₂⟩
  | alt e f ihe ihf => simp [isEmptyAt, ihe, ihf, matches_alt_iff]
  | plus e ih => simp [isEmptyAt, ih, matches_plus_nil_iff]

end Expr

namespace Progress
open Pattern.Expr

/-- A text that stands between two neighbours brings a match under way to an end. -/
def Continues : Progress → Option Char → List Char → Option Char → Prop
  | idle _, _, _, _ => False
  | mark _, _, w, _ => w = []
  | seq first second, before, w, after =>
    (∃ u v, w = u ++ v ∧ first.Continues before u (following v after) ∧
      second.expr.Matches (preceding before u) v after) ∨ second.Continues before w after
  | alt left right, before, w, after => left.Continues before w after ∨ right.Continues before w after
  | plus body, before, w, after =>
    body.Continues before w after ∨
      ∃ u v, w = u ++ v ∧ body.Continues before u (following v after) ∧
        Expr.Matches (.plus body.expr) (preceding before u) v after

theorem expr_joinSeq {g h : Progress} : (joinSeq g h).expr = .seq g.expr h.expr := by
  cases g <;> cases h <;> rfl

theorem expr_joinAlt {g h : Progress} : (joinAlt g h).expr = .alt g.expr h.expr := by
  cases g <;> cases h <;> rfl

theorem expr_joinPlus {g : Progress} : (joinPlus g).expr = .plus g.expr := by
  cases g <;> rfl

theorem continues_joinSeq {g h : Progress} {before after : Option Char} {w : List Char} :
    (joinSeq g h).Continues before w after ↔ (seq g h).Continues before w after := by
  cases g <;> cases h <;> simp [joinSeq, Continues]

theorem continues_joinAlt {g h : Progress} {before after : Option Char} {w : List Char} :
    (joinAlt g h).Continues before w after ↔ (alt g h).Continues before w after := by
  cases g <;> cases h <;> simp [joinAlt, Continues]

theorem continues_joinPlus {g : Progress} {before after : Option Char} {w : List Char} :
    (joinPlus g).Continues before w after ↔ (plus g).Continues before w after := by
  cases g <;> simp [joinPlus, Continues]

theorem passes_iff {g : Progress} {before after : Option Char} {signal : Bool} :
    g.passes before after signal = true ↔
      g.Continues before [] after ∨ signal = true ∧ g.expr.Matches before [] after := by
  induction g generalizing signal with
  | idle e => simp [passes, Continues, expr, isEmptyAt_iff]
  | mark set => simp [passes, Continues]
  | seq g h ihg ihh =>
    simp only [passes, ihg, ihh, Continues, expr, matches_seq_iff]
    constructor
    · rintro (h₁ | ⟨h₁ | ⟨hs, h₁⟩, h₂⟩)
      · exact .inl (.inr h₁)
      · exact .inl (.inl ⟨[], [], rfl, h₁, h₂⟩)
      · exact .inr ⟨hs, [], [], rfl, h₁, h₂⟩
    · rintro ((⟨u, v, hw, h₁, h₂⟩ | h₁) | ⟨hs, u, v, hw, h₁, h₂⟩)
      · obtain ⟨rfl, rfl⟩ := List.append_eq_nil_iff.mp hw.symm
        exact .inr ⟨.inl h₁, h₂⟩
      · exact .inl h₁
      · obtain ⟨rfl, rfl⟩ := List.append_eq_nil_iff.mp hw.symm
        exact .inr ⟨.inr ⟨hs, h₁⟩, h₂⟩
  | alt g h ihg ihh =>
    simp only [passes, Bool.or_eq_true, ihg, ihh, Continues, expr, matches_alt_iff]
    grind
  | plus g ih =>
    simp only [passes, ih, Continues, expr, matches_plus_nil_iff]
    constructor
    · rintro (h | h)
      · exact .inl (.inl h)
      · exact .inr h
    · rintro ((h | ⟨u, v, hw, h₁, _⟩) | h)
      · exact .inl h
      · obtain ⟨rfl, rfl⟩ := List.append_eq_nil_iff.mp hw.symm
        exact .inl h₁
      · exact .inr h

end Progress

namespace Expr
open Pattern.Progress

theorem expr_enter {e : Expr} {before : Option Char} {c : Char} : (e.enter before c).1.expr = e := by
  induction e with
  | one set =>
    by_cases h : set.mem c <;> simp [enter, h, expr]
  | seq e f ihe ihf =>
    by_cases h : (e.enter before c).2 <;> simp [enter, h, expr_joinSeq, ihe, ihf, expr]
  | alt e f ihe ihf => simp [enter, expr_joinAlt, ihe, ihf]
  | plus e ih => simp [enter, expr_joinPlus, ih]
  | _ => rfl

theorem snd_enter {e : Expr} {before : Option Char} {c : Char} :
    (e.enter before c).2 = e.isEmptyAt before (some c) := by
  induction e with
  | seq e f ihe ihf =>
    by_cases h : (e.enter before c).2 <;> simp [enter, isEmptyAt, h, ← ihe, ← ihf]
  | alt e f ihe ihf => simp [enter, isEmptyAt, ihe, ihf]
  | plus e ih => simp [enter, isEmptyAt, ih]
  | _ => rfl

/-- A signal that leaves no mark leaves the expression as it is. -/
theorem enter_of_respond {e : Expr} {before : Option Char} {c : Char} :
    (e.respond before c = .blocked → e.enter before c = (.idle e, false)) ∧
      (e.respond before c = .passes → e.enter before c = (.idle e, true)) := by
  induction e with
  | empty => simp [respond, enter]
  | one set => by_cases h : set.mem c <;> simp [respond, enter, h]
  | look a => by_cases h : a.holds before (some c) <;> simp [respond, enter, h]
  | seq e f ihe ihf =>
    cases he : e.respond before c with
    | blocked => simp [respond, enter, he, ihe.1 he, joinSeq]
    | passes =>
      cases hf : f.respond before c <;> simp [respond, enter, he, hf, ihe.2 he, ihf, joinSeq]
    | marks => simp [respond, he]
  | alt e f ihe ihf =>
    cases he : e.respond before c with
    | blocked =>
      cases hf : f.respond before c <;> simp [respond, enter, he, hf, ihe.1 he, ihf, joinAlt]
    | passes =>
      cases hf : f.respond before c <;> simp [respond, enter, he, hf, ihe.2 he, ihf, joinAlt]
    | marks => simp [respond, he]
  | plus e ih => cases he : e.respond before c <;> simp [respond, enter, he, ih, joinPlus]

/-- What is marked after a character are the matches that began before it. -/
theorem continues_enter {e : Expr} {before after : Option Char} {c : Char} {w : List Char} :
    (e.enter before c).1.Continues (some c) w after ↔ e.Matches before (c :: w) after := by
  induction e generalizing w after with
  | empty => simp [enter, Continues, matches_empty_iff]
  | one set => by_cases h : set.mem c <;> simp [enter, h, Continues, matches_one_cons_iff]
  | look a => simp [enter, Continues, matches_look_iff]
  | seq e f ihe ihf =>
    rw [matches_seq_cons_iff]
    by_cases h : (e.enter before c).2
    · have he : e.Matches before [] (some c) := isEmptyAt_iff.mp (snd_enter ▸ h)
      simp [enter, h, continues_joinSeq, Continues, ihe, ihf, expr_enter, he]
    · have he : ¬ e.Matches before [] (some c) := fun he => h (snd_enter ▸ isEmptyAt_iff.mpr he)
      simp [enter, h, continues_joinSeq, Continues, ihe, expr, he]
  | alt e f ihe ihf => simp [enter, continues_joinAlt, Continues, ihe, ihf, matches_alt_iff]
  | plus e ih => simp [enter, continues_joinPlus, Continues, ih, expr_enter, matches_plus_cons_iff]

end Expr

namespace Progress
open Pattern.Expr

theorem read_idle {e : Expr} {before : Option Char} {c : Char} {signal : Bool} :
    (idle e).read before c signal = if signal then e.enter before c else (idle e, false) := by
  cases h : e.respond before c <;> simp [read, h, enter_of_respond]

theorem expr_read {g : Progress} {before : Option Char} {c : Char} {signal : Bool} :
    (g.read before c signal).1.expr = g.expr := by
  induction g generalizing signal with
  | idle e => cases signal <;> simp [read_idle, expr, expr_enter]
  | mark set =>
    by_cases h : (signal && set.mem c) = true <;> simp [read, h, expr]
  | seq g h ihg ihh => simp [read, expr_joinSeq, expr, ihg, ihh]
  | alt g h ihg ihh => simp [read, expr_joinAlt, expr, ihg, ihh]
  | plus g ih => simp [read, expr_joinPlus, expr, ih]

theorem snd_read {g : Progress} {before : Option Char} {c : Char} {signal : Bool} :
    (g.read before c signal).2 = g.passes before (some c) signal := by
  induction g generalizing signal with
  | idle e => cases signal <;> simp [read_idle, passes, snd_enter]
  | mark set => rfl
  | seq g h ihg ihh => simp [read, passes, ihg, ihh]
  | alt g h ihg ihh => simp [read, passes, ihg, ihh]
  | plus g ih =>
    simp only [read, passes, ih]
    rw [Bool.eq_iff_iff]
    simp only [passes_iff, Bool.or_eq_true]
    grind

/-- Reading a character takes it off what continues a match, and adds what continues the matches that begin
    before it. -/
theorem continues_read {g : Progress} {before after : Option Char} {c : Char} {signal : Bool} {w : List Char} :
    (g.read before c signal).1.Continues (some c) w after ↔
      g.Continues before (c :: w) after ∨ signal = true ∧ g.expr.Matches before (c :: w) after := by
  induction g generalizing signal w after with
  | idle e => cases signal <;> simp [read_idle, Continues, expr, continues_enter]
  | mark set =>
    cases signal <;> by_cases h : set.mem c <;> simp [read, h, Continues, expr, matches_one_cons_iff]
  | seq g h ihg ihh =>
    simp only [read, continues_joinSeq, Continues, ihg, ihh, expr_read, snd_read, passes_iff, expr,
      matches_seq_cons_iff]
    constructor
    · rintro (⟨u, v, rfl, h₁ | ⟨hs, h₁⟩, h₂⟩ | h₁ | ⟨h₁ | ⟨hs, h₁⟩, h₂⟩)
      · exact .inl (.inl ⟨c :: u, v, rfl, h₁, preceding_cons ▸ h₂⟩)
      · exact .inr ⟨hs, .inl ⟨u, v, rfl, h₁, h₂⟩⟩
      · exact .inl (.inr h₁)
      · exact .inl (.inl ⟨[], c :: w, rfl, h₁, h₂⟩)
      · exact .inr ⟨hs, .inr ⟨h₁, h₂⟩⟩
    · rintro ((⟨u, v, hw, h₁, h₂⟩ | h₁) | ⟨hs, ⟨u, v, rfl, h₁, h₂⟩ | ⟨h₁, h₂⟩⟩)
      · cases u with
        | nil =>
          obtain rfl : c :: w = v := hw
          exact .inr (.inr ⟨.inl h₁, h₂⟩)
        | cons d u =>
          obtain ⟨rfl, rfl⟩ := List.cons.inj hw
          exact .inl ⟨u, v, rfl, .inl h₁, preceding_cons ▸ h₂⟩
      · exact .inr (.inl h₁)
      · exact .inl ⟨u, v, rfl, .inr ⟨hs, h₁⟩, h₂⟩
      · exact .inr (.inr ⟨.inr ⟨hs, h₁⟩, h₂⟩)
  | alt g h ihg ihh =>
    simp only [read, continues_joinAlt, Continues, ihg, ihh, expr, matches_alt_iff]
    grind
  | plus g ih =>
    simp only [read, continues_joinPlus, Continues, ih, expr_read, expr, matches_plus_cons_iff, Bool.or_eq_true,
      passes_iff]
    constructor
    · rintro ((h₁ | ⟨hs | h₀ | ⟨hf, _⟩, h₁⟩) | ⟨u, v, rfl, h₁ | ⟨hs | h₀ | ⟨hf, _⟩, h₁⟩, h₂⟩)
      · exact .inl (.inl h₁)
      · exact .inr ⟨hs, .inl h₁⟩
      · exact .inl (.inr ⟨[], c :: w, rfl, h₀, .once h₁⟩)
      · cases hf
      · exact .inl (.inr ⟨c :: u, v, rfl, h₁, preceding_cons ▸ h₂⟩)
      · exact .inr ⟨hs, .inr ⟨u, v, rfl, h₁, h₂⟩⟩
      · exact .inl (.inr ⟨[], c :: (u ++ v), rfl, h₀, matches_plus_cons_iff.mpr (.inr ⟨u, v, rfl, h₁, h₂⟩)⟩)
      · cases hf
    · rintro ((h₁ | ⟨u, v, hw, h₁, h₂⟩) | ⟨hs, h₁ | ⟨u, v, rfl, h₁, h₂⟩⟩)
      · exact .inl (.inl h₁)
      · cases u with
        | nil =>
          obtain rfl : c :: w = v := hw
          rcases matches_plus_cons_iff.mp h₂ with h₂ | ⟨u, v, rfl, h₂, h₃⟩
          · exact .inl (.inr ⟨.inr (.inl h₁), h₂⟩)
          · exact .inr ⟨u, v, rfl, .inr ⟨.inr (.inl h₁), h₂⟩, h₃⟩
        | cons d u =>
          obtain ⟨rfl, rfl⟩ := List.cons.inj hw
          exact .inr ⟨u, v, rfl, .inl h₁, preceding_cons ▸ h₂⟩
      · exact .inl (.inr ⟨.inl hs, h₁⟩)
      · exact .inr ⟨u, v, rfl, .inr ⟨.inl hs, h₁⟩, h₂⟩

/-- A match under way is ended by the beginning of the text, or one that begins in the text is found in it. -/
theorem finds_iff {g : Progress} {before : Option Char} {text : List Char} :
    g.finds before text = true ↔
      (∃ w rest, text = w ++ rest ∧ g.Continues before w rest.head?) ∨
        ∃ skipped w rest, text = skipped ++ w ++ rest ∧ g.expr.Matches (preceding before skipped) w rest.head? := by
  induction text generalizing g before with
  | nil =>
    simp only [finds, passes_iff, true_and]
    constructor
    · rintro (h | h)
      · exact .inl ⟨[], [], rfl, h⟩
      · exact .inr ⟨[], [], [], rfl, h⟩
    · rintro (⟨w, rest, hw, h⟩ | ⟨skipped, w, rest, hw, h⟩)
      · obtain ⟨rfl, rfl⟩ := List.append_eq_nil_iff.mp hw.symm
        exact .inl h
      · have hw := List.append_eq_nil_iff.mp hw.symm
        obtain ⟨rfl, rfl⟩ := List.append_eq_nil_iff.mp hw.1
        obtain rfl := hw.2
        exact .inr h
  | cons c text ih =>
    simp only [finds, Bool.or_eq_true, snd_read, passes_iff, ih, continues_read, expr_read, true_and]
    constructor
    · rintro ((h | h) | ⟨w, rest, rfl, h | h⟩ | ⟨skipped, w, rest, rfl, h⟩)
      · exact .inl ⟨[], c :: text, rfl, h⟩
      · exact .inr ⟨[], [], c :: text, rfl, h⟩
      · exact .inl ⟨c :: w, rest, rfl, h⟩
      · exact .inr ⟨[], c :: w, rest, rfl, h⟩
      · exact .inr ⟨c :: skipped, w, rest, rfl, preceding_cons ▸ h⟩
    · rintro (⟨w, rest, hw, h⟩ | ⟨skipped, w, rest, hw, h⟩)
      · cases w with
        | nil =>
          obtain rfl : c :: text = rest := hw
          exact .inl (.inl h)
        | cons d w =>
          obtain ⟨rfl, rfl⟩ := List.cons.inj hw
          exact .inr (.inl ⟨w, rest, rfl, .inl h⟩)
      · cases skipped with
        | nil =>
          cases w with
          | nil =>
            obtain rfl : c :: text = rest := hw
            exact .inl (.inr h)
          | cons d w =>
            obtain ⟨rfl, rfl⟩ := List.cons.inj hw
            exact .inr (.inl ⟨w, rest, rfl, .inr h⟩)
        | cons d skipped =>
          obtain ⟨rfl, rfl⟩ := List.cons.inj hw
          exact .inr (.inr ⟨skipped, w, rest, rfl, preceding_cons ▸ h⟩)

end Progress

/-- An expression occurs in a text exactly when it matches a piece of it between what stands before and after
    the piece. -/
theorem Expr.occursIn_iff {e : Expr} {text : String} :
    e.occursIn text = true ↔
      ∃ u w v, text.toList = u ++ w ++ v ∧ e.Matches u.getLast? w v.head? := by
  rw [Expr.occursIn, Progress.finds_iff]
  simp [Progress.Continues, Progress.expr, Expr.preceding]

end Pattern
end SandboxRouting
