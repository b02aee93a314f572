import SandboxRouting.Proofs.Json.Typed

/-! # A text holds one value

The ways of writing a value overlap nowhere: what is ahead in a text is told by its first character, the parts
that hold no others are read in one way only, and the entries of a list or a record are cut apart by the marks
between them. So a value that is ahead of a text, and what follows it, are both told by the text
(`Written.unique`), and a document holds one value (`Value.Document.unique`). -/

namespace SandboxRouting
namespace Json

variable {source start rest rest' : List Char} {v w : Value}

/-! ### Parts that hold no others -/

theorem WrittenText.unique {s t : String} (hs : WrittenText s.toList source rest) (ht : WrittenText t.toList source rest') :
    s = t ∧ rest = rest' := by
  have heq := text_of_written hs
  rw [text_of_written ht] at heq
  cases heq
  exact ⟨rfl, rfl⟩

section Magnitude
variable {m n : Nat} {ds es : List (Fin 10)} {p q : Option Int}

theorem WrittenMagnitude.unique (h : WrittenMagnitude m ds p source rest) (hrest : Stops rest)
    (h' : WrittenMagnitude n es q source rest') (hrest' : Stops rest') : m = n ∧ ds = es ∧ p = q ∧ rest = rest' := by
  have heq := numeral_of_written h hrest false
  rw [numeral_of_written h' hrest' false] at heq
  cases heq
  exact ⟨rfl, rfl, rfl, rfl⟩

theorem WrittenMagnitude.not_minus : ¬ WrittenMagnitude n ds p ('-' :: source) rest := by
  intro h
  obtain ⟨c, more, heq, hdigit, -⟩ := h.head
  cases heq
  cases hdigit

end Magnitude

/-- Only a minus can come ahead of the digits, so a number can be read with one sign only. -/
theorem WrittenNumeral.unique {m n : Numeral} (hm : WrittenNumeral m source rest) (hrest : Stops rest)
    (hn : WrittenNumeral n source rest') (hrest' : Stops rest') : m = n ∧ rest = rest' := by
  cases hm with
  | positive h =>
    cases hn with
    | positive h' =>
      obtain ⟨rfl, rfl, rfl, rfl⟩ := h.unique hrest h' hrest'
      exact ⟨rfl, rfl⟩
    | negative h' => exact absurd h WrittenMagnitude.not_minus
  | negative h =>
    cases hn with
    | positive h' => exact absurd h' WrittenMagnitude.not_minus
    | negative h' =>
      obtain ⟨rfl, rfl, rfl, rfl⟩ := h.unique hrest h' hrest'
      exact ⟨rfl, rfl⟩

/-! ### Lists and records -/

section Items
variable {α : Type} {entry : α → List Char → List Char → Prop} {mark : Char} {isFirst : Bool}

theorem Leads.unique {c d : Char} {more more' : List Char} (h : Leads isFirst source (c :: more)) (hc : isBlank c = false)
    (h' : Leads isFirst source (d :: more')) (hd : isBlank d = false) : c :: more = d :: more' := by
  cases h with
  | first hblanks =>
    cases h' with
    | first hblanks' => rw [← skipBlanks_of_blanks hblanks hc, skipBlanks_of_blanks hblanks' hd]
  | further hcomma hblanks =>
    cases h' with
    | further hcomma' hblanks' =>
      have hahead := skipBlanks_of_blanks hcomma (by decide)
      rw [skipBlanks_of_blanks hcomma' (by decide)] at hahead
      cases hahead
      rw [← skipBlanks_of_blanks hblanks hc, skipBlanks_of_blanks hblanks' hd]

/-- Where the mark behind the last entry is ahead, no entry is. -/
theorem Leads.not_mark {c : Char} {more : List Char} (h : Leads isFirst source (c :: more)) (hc : isBlank c = false)
    (hne : c ≠ mark) (hmark : mark = ']' ∨ mark = '\x7d') : ¬ Blanks source (mark :: rest) := by
  have hblank : isBlank mark = false := by
    rcases hmark with rfl | rfl <;> rfl
  have hcomma : mark ≠ ',' := by
    rcases hmark with rfl | rfl <;> decide
  intro hend
  have hahead := skipBlanks_of_blanks hend hblank
  cases h with
  | first hblanks =>
    rw [skipBlanks_of_blanks hblanks hc] at hahead
    exact hne (List.cons.inj hahead).1
  | further hbehind =>
    rw [skipBlanks_of_blanks hbehind (by decide)] at hahead
    exact hcomma (List.cons.inj hahead).1.symm

/-- Whatever is written in the place of an entry is that entry, and as long. -/
def Settled (entry : α → List Char → List Char → Prop) (a : α) : Prop :=
  ∀ start rest b rest', entry a start rest → Stops rest → entry b start rest' → Stops rest' → a = b ∧ rest = rest'

theorem Items.unique {as bs : List α} (h : Items entry mark isFirst as source rest)
    (h' : Items entry mark isFirst bs source rest') (hmark : mark = ']' ∨ mark = '\x7d')
    (hhead : ∀ a start rest, entry a start rest → ∃ c more, start = c :: more ∧ isBlank c = false ∧ c ≠ mark)
    (hsettled : ∀ a ∈ as, Settled entry a) : as = bs ∧ rest = rest' := by
  have hblank : isBlank mark = false := by
    rcases hmark with rfl | rfl <;> rfl
  induction h generalizing bs with
  | done hend =>
    cases h' with
    | done hend' =>
      have hahead := skipBlanks_of_blanks hend hblank
      rw [skipBlanks_of_blanks hend' hblank] at hahead
      exact ⟨rfl, (List.cons.inj hahead).2.symm⟩
    | more hleads hentry =>
      obtain ⟨c, more, rfl, hc, hne⟩ := hhead _ _ _ hentry
      exact absurd hend (hleads.not_mark hc hne hmark)
  | more hleads hentry hothers ih =>
    obtain ⟨c, more, rfl, hc, hne⟩ := hhead _ _ _ hentry
    cases h' with
    | done hend => exact absurd hend (hleads.not_mark hc hne hmark)
    | more hleads' hentry' hothers' =>
      obtain ⟨d, more', rfl, hd, -⟩ := hhead _ _ _ hentry'
      rw [← hleads.unique hc hleads' hd] at hentry'
      obtain ⟨rfl, rfl⟩ := hsettled _ List.mem_cons_self _ _ _ _ hentry (hothers.stops hmark) hentry' (hothers'.stops hmark)
      obtain ⟨rfl, rfl⟩ := ih hothers' fun a ha => hsettled a (List.mem_cons_of_mem _ ha)
      exact ⟨rfl, rfl⟩

end Items

theorem settled_entry {e : String × Value} (hv : Settled Written e.2) : Settled (WrittenEntry Written) e := by
  intro start rest d rest' h hrest h' hrest'
  cases h with
  | named hname hcolon hstart hwritten =>
    cases h' with
    | named hname' hcolon' hstart' hwritten' =>
      obtain ⟨rfl, rfl⟩ := hname.unique hname'
      have hahead := skipBlanks_of_blanks hcolon (by decide)
      rw [skipBlanks_of_blanks hcolon' (by decide)] at hahead
      cases hahead
      obtain ⟨c, more, rfl, hc, -⟩ := hwritten.head
      obtain ⟨d, more', rfl, hd, -⟩ := hwritten'.head
      rw [← (Leads.first hstart).unique hc (Leads.first hstart') hd] at hwritten'
      obtain ⟨rfl, rfl⟩ := hv _ _ _ _ hwritten hrest hwritten' hrest'
      exact ⟨rfl, rfl⟩

/-! ### Values -/

theorem settled (v : Value) : Settled Written v := by
  induction v using Value.induct with
  | null =>
    intro start rest w rest' h _ h' _
    cases h
    cases h' with
    | null => exact ⟨rfl, rfl⟩
    | number hn => exact absurd (by decide) hn.head_notMem
  | flag b =>
    intro start rest w rest' h _ h' _
    cases h with
    | yes =>
      cases h' with
      | yes => exact ⟨rfl, rfl⟩
      | number hn => exact absurd (by decide) hn.head_notMem
    | no =>
      cases h' with
      | no => exact ⟨rfl, rfl⟩
      | number hn => exact absurd (by decide) hn.head_notMem
  | number n =>
    intro start rest w rest' h hrest h' hrest'
    cases h with
    | number hn =>
      cases h' with
      | number hm =>
        obtain ⟨rfl, rfl⟩ := hn.unique hrest hm hrest'
        exact ⟨rfl, rfl⟩
      | _ => exact absurd (by decide) hn.head_notMem
  | text s =>
    intro start rest w rest' h _ h' _
    cases h with
    | text hchars =>
      cases h' with
      | text hchars' =>
        obtain ⟨rfl, rfl⟩ := hchars.unique hchars'
        exact ⟨rfl, rfl⟩
      | number hn => exact absurd (by decide) hn.head_notMem
  | list values ih =>
    intro start rest w rest' h _ h' _
    cases h with
    | list hitems =>
      cases h' with
      | list hitems' =>
        obtain ⟨rfl, rfl⟩ := hitems.unique hitems' (Or.inl rfl) (fun _ _ _ => Written.head) ih
        exact ⟨rfl, rfl⟩
      | number hn => exact absurd (by decide) hn.head_notMem
  | record entries ih =>
    intro start rest w rest' h _ h' _
    cases h with
    | record hitems =>
      cases h' with
      | record hitems' =>
        have hhead : ∀ e start rest, WrittenEntry Written e start rest →
            ∃ c more, start = c :: more ∧ isBlank c = false ∧ c ≠ '\x7d' := by
          intro e start rest hentry
          cases hentry
          exact ⟨_, _, rfl, by decide, by decide⟩
        obtain ⟨rfl, rfl⟩ := hitems.unique hitems' (Or.inr rfl) hhead fun e he => settled_entry (ih e he)
        exact ⟨rfl, rfl⟩
      | number hn => exact absurd (by decide) hn.head_notMem

theorem Written.unique (h : Written v source rest) (hrest : Stops rest) (h' : Written w source rest')
    (hrest' : Stops rest') : v = w ∧ rest = rest' := settled v _ _ _ _ h hrest h' hrest'

theorem Value.Document.unique {source : String} (h : v.Document source) (h' : w.Document source) : v = w := by
  obtain ⟨start, rest, hstart, hwritten, hrest⟩ := h
  obtain ⟨start', rest', hstart', hwritten', hrest'⟩ := h'
  obtain ⟨c, more, rfl, hc, -⟩ := hwritten.head
  obtain ⟨d, more', rfl, hd, -⟩ := hwritten'.head
  rw [← (Leads.first hstart).unique hc (Leads.first hstart') hd] at hwritten'
  exact (hwritten.unique (hrest.stops stops_nil) hwritten' (hrest'.stops stops_nil)).1

end Json
end SandboxRouting
