import SandboxRouting.Routing.Rule

/-! # The standard rules

The rules of this preset depend on whether refresh is usable and on where installed packages are kept,
which never get refresh handling. Scripts come first, with refresh handling ahead of those without;
graphics, scoped and plain style sheets and data follow, and the last rule takes every path. Earlier
rules have priority, so scoped style sheets come before plain ones.

Declaration files look like scripts and are not treated as such.

With refresh, the transformer of scripts gets one plugin more, after all others; that of style sheets is told
whether they can be replaced while the page runs, and whether their names are scoped to the module. -/

namespace SandboxRouting
namespace Routing
open Json

/-! ### Options of the transformers -/

/-- A plugin or a group of plugins with options of its own. -/
def configured (name : String) (options : List (String × Value)) : Value := .list [.text name, .record options]

/-- The plugin that marks components for refresh. -/
def refreshPlugin : Value := .text "react-refresh/babel"

def scriptPlugins : List Value :=
  [configured "proposal-decorators" [("legacy", .flag true)],
   .text "@babel/plugin-transform-react-jsx-source",
   .text "@babel/plugin-proposal-optional-chaining",
   .text "@babel/plugin-proposal-nullish-coalescing-operator",
   .text "transform-flow-strip-types",
   .text "transform-destructuring",
   .text "babel-plugin-macros",
   configured "proposal-class-properties" [("loose", .flag true)],
   configured "proposal-object-rest-spread" [("useBuiltIns", .flag true)],
   configured "transform-runtime" [("corejs", .flag false), ("helpers", .flag true), ("regenerator", .flag true)],
   .text "syntax-dynamic-import"]

def scriptPresets : List Value :=
  [configured "env"
     [("targets", .record [("ie", .number (.ofNat 9))]),
      ("ignoreBrowserslistConfig", .flag true),
      ("useBuiltIns", .flag false),
      ("modules", .flag false)],
   .text "react",
   .text "typescript"]

/-- The options of the script transformer, with refresh or without. -/
def scriptOptions (refresh : Bool) : Value :=
  .record
    [("isV7", .flag true),
     ("compileNodeModulesWithEnv", .flag true),
     ("config", .record
       [("plugins", .list (scriptPlugins ++ if refresh then [refreshPlugin] else [])),
        ("presets", .list scriptPresets)])]

def sheetOptions (modular refresh : Bool) : Value :=
  .record ((if modular then [("module", .flag true)] else []) ++ [("hmrEnabled", .flag refresh)])

/-! ### Rules -/

/-- What the rules depend on besides the place of installed packages. -/
structure Features where
  /-- Refresh is usable. -/
  refresh : Bool
deriving DecidableEq

/-- Without anything known, no feature is there. -/
def Features.none : Features := ⟨false⟩

def scriptPattern : String := "\\.(t|j)sx?$"

def graphicsPattern : String := "\\.svg$"

/-- How the paths of scoped style sheets with a syntax of their own end. -/
def scopedSassPattern : String := "\\.module\\.s[ca]ss$"

def scopedStylePattern : String := "\\.module\\.css$"

def stylePattern : String := "\\.css$"

/-- How the paths of style sheets with a syntax of their own end. -/
def sassPattern : String := "\\.s[ca]ss$"

def dataPattern : String := "\\.json$"

def declarationTail : String := ".d.ts"

def scriptStep (refresh : Bool) : Step := ⟨.babel, scriptOptions refresh⟩

def styleStep (modular : Bool) (f : Features) : Step := ⟨.styles, sheetOptions modular f.refresh⟩

/-- The test of scripts, declaration files left out. -/
def scriptTest : Except Failure PathTest := do
  let test ← PathTest.ofPattern scriptPattern
  return .both test (.negated (.endsWith declarationTail))

/-- The rule that gives refresh handling to scripts outside the place of installed packages. -/
def refreshRule (packageRoot : String) : Except Failure Rule := do
  let test ← scriptTest
  return ⟨.both (.negated (.beginsWith packageRoot)) test, [scriptStep true, .plain .reactRefresh]⟩

/-- The rules that do not depend on the place of installed packages. -/
def commonRules (f : Features) : Except Failure (List Rule) := do
  let script ← scriptTest
  let graphics ← Rule.ofPattern graphicsPattern [.plain .svgr, scriptStep false]
  let scopedSass ← Rule.ofPattern scopedSassPattern [.plain .sass, styleStep true f]
  let scopedStyle ← Rule.ofPattern scopedStylePattern [styleStep true f]
  let style ← Rule.ofPattern stylePattern [styleStep false f]
  let sass ← Rule.ofPattern sassPattern [.plain .sass, styleStep false f]
  let data ← Rule.ofPattern dataPattern [.plain .json]
  return [⟨script, [scriptStep false]⟩, graphics, scopedSass, scopedStyle, style, sass, data,
    .forAll [.plain .raw]]

def standardRules (f : Features) (packageRoot : String) : Except Failure (List Rule) := do
  let common ← commonRules f
  if f.refresh then return (← refreshRule packageRoot) :: common else return common

end Routing
end SandboxRouting
