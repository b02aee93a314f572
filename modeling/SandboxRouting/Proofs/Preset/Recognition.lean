import SandboxRouting.Preset.Config
import SandboxRouting.Proofs.Routing.Standard

/-! # Which files are claimed

A preset claims files by a list of extensions, and the rules route files by patterns. With the standard list the
two tell the same files: those of which the chain begins with the transformer of scripts or with the one of data
(`recognizes_standard`, `leader_chainOfPath`). Declaration files are the exception. They end like scripts and are
claimed, but they are passed on as they are. -/

namespace SandboxRouting
namespace Routing
open FileKind

/-! ### The extensions -/

/-- An extension of two parts adds nothing to its second part. -/
theorem any_extension_standard (path : String) :
    (Config.standard.extensions.any fun extension => Text.ends path ("." ++ extension)) =
      (script.fits path || data.fits path) := by
  have htails : (Config.standard.extensions.any fun extension => Text.ends path ("." ++ extension)) =
      (Config.standard.extensions.map ("." ++ ·)).any (Text.ends path) := by
    rw [List.any_map]
    rfl
  have hkinds : (script.fits path || data.fits path) = (script.tails ++ data.tails).any (Text.ends path) := by
    rw [List.any_append]
    rfl
  rw [htails, hkinds, Bool.eq_iff_iff]
  constructor
  · exact any_ends_of_tails (by decide +kernel)
  · exact any_ends_of_tails (by decide +kernel)

theorem recognizes_standard {r : Router} (hextensions : r.extensions = Config.standard.extensions) (path : String) :
    r.recognizes path = true ↔
      (of? path = some script ∨ of? path = some data) ∨ Text.ends path declarationTail = true := by
  have hdata : data.fits path = data.includes path := (includes_eq_fits (by decide) path).symm
  rw [Router.recognizes, hextensions, any_extension_standard, fits_script, hdata]
  rw [Bool.or_eq_true, Bool.or_eq_true, ← of?_eq_some_iff, ← of?_eq_some_iff]
  exact or_right_comm

/-! ### The chains -/

/-- The transformer that comes first for the files of a kind. -/
def leader : Option FileKind → Transformer
  | some script => .babel
  | some graphics => .svgr
  | some scopedSass | some sass => .sass
  | some scopedStyle | some style => .styles
  | some data => .json
  | none => .raw

theorem leader_chainOfPath (f : Features) (packageRoot path : String) :
    ∃ step more, chainOfPath f packageRoot path = step :: more ∧ step.transformer = leader (of? path) := by
  unfold chainOfPath
  rcases of? path with _ | kind
  · exact ⟨_, _, rfl, rfl⟩
  · cases kind with
    | script =>
      cases hrefresh : f.refresh && !Text.begins path packageRoot with
      | true => exact ⟨_, _, if_pos hrefresh, rfl⟩
      | false => exact ⟨_, _, if_neg (by simp [hrefresh]), rfl⟩
    | _ => exact ⟨_, _, rfl, rfl⟩

theorem leader_eq_iff {kind : Option FileKind} :
    leader kind = .babel ∨ leader kind = .json ↔ kind = some script ∨ kind = some data := by
  rcases kind with _ | (_ | _) <;> simp [leader]

theorem of?_of_declaration {path : String} (h : Text.ends path declarationTail = true) : of? path = none := by
  refine of?_eq_none_iff.mpr fun k => Bool.eq_false_iff.mpr fun hk => ?_
  have hscript : script.fits path = true := by rw [fits_script, h, Bool.or_true]
  rcases eq_or_scoped_of_overlaps (overlaps_of_fits (fits_of_includes hk) hscript) with rfl | hscoped
  · simp [includes, h] at hk
  · simp at hscoped

/-! ### The law of claims -/

/-- The claimed files are those that the chains of the router tell apart. -/
structure RecognitionLaw (r : Router) (path : String) : Prop where
  recognizes_iff : r.recognizes path = true ↔
    (∃ step more, r.chainFor path = .ok (step :: more) ∧
      (step.transformer = .babel ∨ step.transformer = .json)) ∨
    Text.ends path ".d.ts" = true
  declaration : Text.ends path ".d.ts" = true →
    r.recognizes path = true ∧ r.chainFor path = .ok [⟨.raw, .null⟩]

/-- A router with the standard extensions and the standard rules keeps to the law, however it came to them. -/
theorem recognitionLaw_standardRules (f : Features) (packageRoot : String) :
    ∃ rules, standardRules f packageRoot = .ok rules ∧ ∀ (name : String) (changes : Nat) (path : String),
      RecognitionLaw ⟨name, Config.standard.extensions, rules, changes⟩ path := by
  refine ⟨rulesFor f packageRoot, standardRules_eq f packageRoot, fun name changes path => ?_⟩
  have hchain := Router.chainFor_of_rules
    (r := ⟨name, Config.standard.extensions, rulesFor f packageRoot, changes⟩) rfl path
  obtain ⟨step, more, hleads, hleader⟩ := leader_chainOfPath f packageRoot path
  have hrecognizes := recognizes_standard
    (r := ⟨name, Config.standard.extensions, rulesFor f packageRoot, changes⟩) rfl path
  refine ⟨?_, fun hdeclaration => ⟨?_, ?_⟩⟩
  · rw [hrecognizes, ← leader_eq_iff, ← hleader, hchain, hleads]
    refine or_congr ⟨fun h => ⟨step, more, rfl, h⟩, ?_⟩ Iff.rfl
    rintro ⟨first, others, heq, h⟩
    cases heq
    exact h
  · exact hrecognizes.mpr (Or.inr hdeclaration)
  · rw [hchain, chainOfPath, of?_of_declaration hdeclaration]

/-- A path that is nothing but the tail, with a prefix that every path has. -/
theorem recognitionLaw_of_bare_declaration :
    ∃ rules, standardRules ⟨true⟩ "" = .ok rules ∧
      (Router.mk "preset" Config.standard.extensions rules 1).recognizes ".d.ts" = true ∧
      (Router.mk "preset" Config.standard.extensions rules 1).chainFor ".d.ts" = .ok [⟨.raw, .null⟩] := by
  obtain ⟨rules, hrules, hlaw⟩ := recognitionLaw_standardRules ⟨true⟩ ""
  exact ⟨rules, hrules, (hlaw "preset" 1 ".d.ts").declaration (by decide +kernel)⟩

end Routing
end SandboxRouting
