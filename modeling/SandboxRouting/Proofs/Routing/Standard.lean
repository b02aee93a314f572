import SandboxRouting.Proofs.Routing.FileKind
import SandboxRouting.Routing.Router

/-! # Where the standard rules send a path

The standard rules can always be built, and they are known in full (`standardRules_eq`): their tests
search for the patterns of the kinds of files. Which rules take a path is therefore told by the kind of the
path (`filter_frontRules`), and the first of them is the one of its kind. Refresh handling is for scripts
outside the place of installed packages, and a path of no kind is passed on as it is. -/

namespace SandboxRouting
namespace Routing
open FileKind

/-! ### The rules in full -/

/-- The test that searches for the pattern of a kind. -/
def FileKind.search (k : FileKind) : PathTest :=
  match PathTest.ofPattern k.pattern with
  | .ok test => test
  | .error _ => .never

theorem ofPattern_pattern (k : FileKind) : PathTest.ofPattern k.pattern = .ok k.search := by
  obtain ⟨p, hp, -⟩ := findsTails k
  simp [FileKind.search, PathTest.ofPattern, hp]

theorem passes_search (k : FileKind) (path : String) : k.search.passes path = k.fits path := by
  obtain ⟨p, hp, hfinds⟩ := findsTails k
  have hsearch : k.search = .finds p := by simp [FileKind.search, PathTest.ofPattern, hp]
  rw [hsearch]
  exact hfinds path

def isScript : PathTest := .both script.search (.negated (.endsWith declarationTail))

theorem passes_isScript (path : String) : isScript.passes path = script.includes path := by
  simp [isScript, PathTest.passes, passes_search, includes]

/-- The standard rules, one by one. -/
def rulesFor (f : Features) (packageRoot : String) : List Rule :=
  (if f.refresh then
    [⟨.both (.negated (.beginsWith packageRoot)) isScript, [scriptStep true, .plain .reactRefresh]⟩] else []) ++
  [⟨isScript, [scriptStep false]⟩,
   ⟨graphics.search, [.plain .svgr, scriptStep false]⟩,
   ⟨scopedSass.search, [.plain .sass, styleStep true f]⟩,
   ⟨scopedStyle.search, [styleStep true f]⟩,
   ⟨style.search, [styleStep false f]⟩,
   ⟨sass.search, [.plain .sass, styleStep false f]⟩,
   ⟨data.search, [.plain .json]⟩,
   .forAll [.plain .raw]]

theorem rule_ofPattern (k : FileKind) (chain : Chain) : Rule.ofPattern k.pattern chain = .ok ⟨k.search, chain⟩ := by
  simp [Rule.ofPattern, ofPattern_pattern]

theorem scriptTest_eq : scriptTest = .ok isScript := by
  have h : PathTest.ofPattern scriptPattern = .ok script.search := ofPattern_pattern script
  simp [scriptTest, h, isScript, bind, Except.bind, pure, Except.pure]

/-- Building the standard rules never fails. -/
theorem standardRules_eq (f : Features) (packageRoot : String) :
    standardRules f packageRoot = .ok (rulesFor f packageRoot) := by
  have hgraphics : ∀ c, Rule.ofPattern graphicsPattern c = .ok ⟨graphics.search, c⟩ := rule_ofPattern graphics
  have hscopedSass : ∀ c, Rule.ofPattern scopedSassPattern c = .ok ⟨scopedSass.search, c⟩ := rule_ofPattern scopedSass
  have hscopedStyle : ∀ c, Rule.ofPattern scopedStylePattern c = .ok ⟨scopedStyle.search, c⟩ :=
    rule_ofPattern scopedStyle
  have hstyle : ∀ c, Rule.ofPattern stylePattern c = .ok ⟨style.search, c⟩ := rule_ofPattern style
  have hsass : ∀ c, Rule.ofPattern sassPattern c = .ok ⟨sass.search, c⟩ := rule_ofPattern sass
  have hdata : ∀ c, Rule.ofPattern dataPattern c = .ok ⟨data.search, c⟩ := rule_ofPattern data
  cases hf : f.refresh <;>
    simp [standardRules, commonRules, refreshRule, scriptTest_eq, hgraphics, hscopedSass, hscopedStyle, hstyle, hsass,
      hdata, rulesFor, hf, bind, Except.bind, pure, Except.pure]

/-! ### The rules by what they are for -/

/-- The rule of a kind of files. Scripts have another one ahead of it where refresh is usable. -/
def FileKind.rule (f : Features) : FileKind → Rule
  | script => ⟨isScript, [scriptStep false]⟩
  | graphics => ⟨graphics.search, [.plain .svgr, scriptStep false]⟩
  | scopedSass => ⟨scopedSass.search, [.plain .sass, styleStep true f]⟩
  | scopedStyle => ⟨scopedStyle.search, [styleStep true f]⟩
  | style => ⟨style.search, [styleStep false f]⟩
  | sass => ⟨sass.search, [.plain .sass, styleStep false f]⟩
  | data => ⟨data.search, [.plain .json]⟩

/-- The rule that gives refresh handling to scripts. -/
def refreshing (packageRoot : String) : Rule :=
  ⟨.both (.negated (.beginsWith packageRoot)) isScript, [scriptStep true, .plain .reactRefresh]⟩

def passing : Rule := .forAll [.plain .raw]

/-- The standard rules but the last one. -/
def frontRules (f : Features) (packageRoot : String) : List Rule :=
  (if f.refresh then [refreshing packageRoot] else []) ++ FileKind.all.map (FileKind.rule f)

theorem rulesFor_eq (f : Features) (packageRoot : String) :
    rulesFor f packageRoot = frontRules f packageRoot ++ [passing] := by
  unfold rulesFor frontRules
  rw [List.append_assoc]
  rfl

/-! ### The rules that take a path -/

/-- The rules but the last one that take a path, given its kind. -/
def takenBy (f : Features) (packageRoot path : String) : Option FileKind → List Rule
  | none => []
  | some script =>
    if f.refresh && !Text.begins path packageRoot then [refreshing packageRoot, script.rule f] else [script.rule f]
  | some scopedSass => [scopedSass.rule f, sass.rule f]
  | some scopedStyle => [scopedStyle.rule f, style.rule f]
  | some k => [k.rule f]

theorem filter_frontRules (f : Features) (packageRoot path : String) :
    (frontRules f packageRoot).filter (·.takes path) = takenBy f packageRoot path (of? path) := by
  -- Every test is told by the kind of the path, so only the kinds have to be gone through.
  have htakes : ∀ k : FileKind, k.includes path = decide (of? path = some k) := fun k => includes_eq k path
  have hfits : ∀ k : FileKind, k ∉ [script, style, sass] → k.fits path = decide (of? path = some k) := by
    intro k hk
    rw [← includes_eq_fits hk, htakes]
  have hstyle : style.fits path = decide (of? path = some style ∨ of? path = some scopedStyle) := by
    rw [fits_style, htakes, htakes, Bool.decide_or]
  have hsass : sass.fits path = decide (of? path = some sass ∨ of? path = some scopedSass) := by
    rw [fits_sass, htakes, htakes, Bool.decide_or]
  simp only [frontRules, FileKind.all, List.map_cons, List.map_nil]
  cases hf : f.refresh <;> cases hinstalled : Text.begins path packageRoot <;> rcases hk : of? path with _ | (_ | _) <;>
    simp [Rule.takes, PathTest.passes, passes_search, passes_isScript, htakes, hfits, hstyle, hsass, hk,
      hf, hinstalled, takenBy, FileKind.rule, refreshing]

/-! ### The options with refresh -/

/-- The value with one element more in the list to which some names lead, behind all others. -/
def pushed (element : Json.Value) : List String → Json.Value → Json.Value
  | [], .list elements => .list (elements ++ [element])
  | name :: names, .record entries =>
    .record (entries.map fun e => (e.1, if e.1 = name then pushed element names e.2 else e.2))
  | _, value => value

/-- With refresh the script transformer gets the same options as without, but for one plugin more. -/
def refreshOptions : Json.Value := pushed refreshPlugin ["config", "plugins"] (scriptOptions false)

theorem scriptOptions_true : scriptOptions true = refreshOptions := by
  simp [scriptOptions, refreshOptions, pushed]

/-! ### The first rule for a path -/

/-- The chain for the files of a kind, given what is usable and whether the file belongs to an installed
    package. -/
def FileKind.chain (f : Features) (installed : Bool) : FileKind → Chain
  | script =>
    if f.refresh && !installed then [⟨.babel, refreshOptions⟩, ⟨.reactRefresh, .null⟩]
    else [⟨.babel, scriptOptions false⟩]
  | graphics => [⟨.svgr, .null⟩, ⟨.babel, scriptOptions false⟩]
  | scopedSass => [⟨.sass, .null⟩, ⟨.styles, .record [("module", .flag true), ("hmrEnabled", .flag f.refresh)]⟩]
  | scopedStyle => [⟨.styles, .record [("module", .flag true), ("hmrEnabled", .flag f.refresh)]⟩]
  | style => [⟨.styles, .record [("hmrEnabled", .flag f.refresh)]⟩]
  | sass => [⟨.sass, .null⟩, ⟨.styles, .record [("hmrEnabled", .flag f.refresh)]⟩]
  | data => [⟨.json, .null⟩]

def chainOfPath (f : Features) (packageRoot path : String) : Chain :=
  match FileKind.of? path with
  | some k => k.chain f (Text.begins path packageRoot)
  | none => [⟨.raw, .null⟩]

theorem chainOfPath_ne_nil (f : Features) (packageRoot path : String) : chainOfPath f packageRoot path ≠ [] := by
  unfold chainOfPath
  split
  next k _ =>
    cases k <;> simp only [FileKind.chain] <;> first | split <;> simp | simp
  next => simp

/-- Of the rules that take a path the first is the one of its kind, or the one with refresh handling. -/
theorem firstRule?_rulesFor (f : Features) (packageRoot path : String) :
    (firstRule? (rulesFor f packageRoot) path).map Rule.chain = some (chainOfPath f packageRoot path) := by
  have hfirst : (frontRules f packageRoot).find? (·.takes path) = (takenBy f packageRoot path (of? path)).head? := by
    rw [← List.head?_filter, filter_frontRules]
  have hlast : [passing].find? (·.takes path) = some passing := rfl
  rw [firstRule?, rulesFor_eq, List.find?_append, hfirst, hlast, chainOfPath]
  cases hf : f.refresh <;> cases hinstalled : Text.begins path packageRoot <;> rcases of? path with _ | (_ | _) <;>
    simp [takenBy, FileKind.rule, FileKind.chain, refreshing, passing, Rule.forAll, hf, hinstalled, scriptStep,
      scriptOptions_true, styleStep, sheetOptions, Step.plain]

theorem Router.chainFor_of_rules {r : Router} {f : Features} {packageRoot : String}
    (hrules : r.rules = rulesFor f packageRoot) (path : String) : r.chainFor path = .ok (chainOfPath f packageRoot path) := by
  obtain ⟨rule, hrule, hchain⟩ := Option.map_eq_some_iff.mp (firstRule?_rulesFor f packageRoot path)
  rw [chainFor, hrules, hrule, ← hchain]

/-- A path of one of the kinds goes through the chain of the kind, and any other path through the one
    that passes it on. -/
theorem firstRule?_standardRules (f : Features) (packageRoot : String) :
    ∃ rules, standardRules f packageRoot = .ok rules ∧ ∀ path,
      (∀ kind : FileKind, kind.includes path = true →
        (firstRule? rules path).map Rule.chain = some (kind.chain f (Text.begins path packageRoot))) ∧
      ((∀ kind : FileKind, kind.includes path = false) →
        (firstRule? rules path).map Rule.chain = some [⟨.raw, .null⟩]) := by
  refine ⟨rulesFor f packageRoot, standardRules_eq f packageRoot, fun path => ⟨fun kind hkind => ?_, fun hnone => ?_⟩⟩
  · rw [firstRule?_rulesFor, chainOfPath, of?_eq_some_iff.mpr hkind]
  · rw [firstRule?_rulesFor, chainOfPath, of?_eq_none_iff.mpr hnone]

/-- A script whose name looks like that of a declaration file, and a declaration file beside it. -/
theorem firstRule?_of_script_and_declaration :
    script.includes "/src/ü.d.tsx" = true ∧ (∀ kind : FileKind, kind.includes "/src/ü.d.ts" = false) ∧
      ∃ rules, standardRules ⟨true⟩ "/node_modules" = .ok rules ∧
        (firstRule? rules "/src/ü.d.tsx").map Rule.chain =
          some [⟨.babel, scriptOptions true⟩, ⟨.reactRefresh, .null⟩] ∧
        (firstRule? rules "/src/ü.d.ts").map Rule.chain = some [⟨.raw, .null⟩] := by
  have hscript : script.includes "/src/ü.d.tsx" = true := by decide +kernel
  have hnone : ∀ kind : FileKind, kind.includes "/src/ü.d.ts" = false := by
    intro kind
    cases kind <;> decide +kernel
  have houtside : Text.begins "/src/ü.d.tsx" "/node_modules" = false := by decide +kernel
  obtain ⟨rules, hrules, hroute⟩ := firstRule?_standardRules ⟨true⟩ "/node_modules"
  refine ⟨hscript, hnone, rules, hrules, ?_, (hroute _).2 hnone⟩
  rw [(hroute _).1 script hscript, houtside, scriptOptions_true]
  rfl

end Routing
end SandboxRouting
