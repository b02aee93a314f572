import SandboxRouting.Failure
import SandboxRouting.Json.Value
import SandboxRouting.Pattern.Compile
import SandboxRouting.Text.Piece

/-! # Chains and rules

A file is transformed by a chain of steps, each of which takes what the one before it gives. A step
names a transformer that the host knows how to run, and holds the options for it.

A rule sends the paths that pass a test through a chain of transformers. A test looks at how a path
begins or ends, or searches it for a pattern; tests are combined by conjunction and negation. Of a list
of rules the first one whose test a path passes decides. -/

namespace SandboxRouting
namespace Routing

/-! ### Chains of transformers -/

/-- A transformer that the host knows how to run. -/
inductive Transformer where
  /-- Scripts. -/
  | babel
  /-- Registration of components for refresh, behind the script transformer. -/
  | reactRefresh
  /-- Graphics to components. -/
  | svgr
  /-- Style sheets with a syntax of their own to plain ones. -/
  | sass
  /-- Plain style sheets, scoped to a module or not. -/
  | styles
  /-- Data. -/
  | json
  /-- Files that are passed on as they are. -/
  | raw
deriving DecidableEq

namespace Transformer

def all : List Transformer := [babel, reactRefresh, svgr, sass, styles, json, raw]

def name : Transformer → String
  | babel => "babel"
  | reactRefresh => "react-refresh"
  | svgr => "svgr"
  | sass => "sass"
  | styles => "styles"
  | json => "json"
  | raw => "raw"

def ofName? (name : String) : Option Transformer := all.find? fun t => t.name = name

end Transformer

/-- One transformer with the options for it, which are null where it takes none. -/
structure Step where
  transformer : Transformer
  options : Json.Value

def Step.plain (t : Transformer) : Step := ⟨t, .null⟩

/-- The steps that a file goes through, the first one first. -/
abbrev Chain := List Step

def Chain.names (c : Chain) : List String := c.map (·.transformer.name)

/-! ### Tests and rules -/

inductive PathTest where
  | always
  | never
  | beginsWith (stem : String)
  | endsWith (tail : String)
  | finds (pattern : Pattern)
  | both (first second : PathTest)
  | negated (test : PathTest)
deriving DecidableEq

def PathTest.passes (path : String) : PathTest → Bool
  | always => true
  | never => false
  | beginsWith stem => Text.begins path stem
  | endsWith tail => Text.ends path tail
  | finds pattern => pattern.occursIn path
  | both first second => first.passes path && second.passes path
  | negated test => !test.passes path

/-- The test that searches for a pattern, which has to compile. -/
def PathTest.ofPattern (pattern : String) : Except Failure PathTest :=
  match Pattern.compile? pattern with
  | some p => .ok (.finds p)
  | none => .error (.invalidPattern pattern)

/-- The paths that pass a test go through a chain. -/
structure Rule where
  test : PathTest
  chain : Chain

namespace Rule

def takes (r : Rule) (path : String) : Bool := r.test.passes path

/-- The rule for the paths in which a pattern is found. -/
def ofPattern (pattern : String) (chain : Chain) : Except Failure Rule :=
  match PathTest.ofPattern pattern with
  | .ok test => .ok ⟨test, chain⟩
  | .error failure => .error failure

def forAll (chain : Chain) : Rule := ⟨.always, chain⟩

/-- The rule as it is shown: the names of its transformers, while its test stays hidden. -/
def shown (r : Rule) : String :=
  "PipelineRule \x7b chain: [" ++ ", ".intercalate (r.chain.names.map Json.shown) ++ "], .. \x7d"

end Rule

/-- The first of some rules that takes the path. -/
def firstRule? (rules : List Rule) (path : String) : Option Rule := rules.find? (·.takes path)

/-- The places of all rules that take the path, in order. -/
def takers (rules : List Rule) (path : String) : List Nat :=
  (rules.zipIdx.filter fun r => r.1.takes path).map (·.2)

end Routing
end SandboxRouting
