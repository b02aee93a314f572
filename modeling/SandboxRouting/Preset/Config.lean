import SandboxRouting.Dependency.Gate
import SandboxRouting.Sandbox.Bootstrap

/-! # Configurations

What a preset can be set to: its name, the extensions of files it claims, aliases of packages, the
package and the versions that features hang on, and the paths that have a meaning of their own. Each of
the settings has a name in documents and a shape: a text, a truth value, a list of texts or a table of
texts. -/

namespace SandboxRouting

structure Config where
  name : String
  /-- Extensions of the files that the preset claims, without the point. -/
  extensions : List String
  /-- Packages that are imported in the place of others. -/
  aliases : Table
  /-- Files with settings of the environment are honoured. -/
  hasDotEnv : Bool
  /-- The package whose version the features hang on. -/
  frameworkPackage : String
  /-- The version of the framework from which refresh is usable. -/
  refreshMinimum : String
  /-- The version of the framework from which the runtime of refresh is added to the dependencies. -/
  augmentMinimum : String
  /-- The version of the framework below which modules are remounted on change. -/
  remountBelow : String
  runtimePackage : String
  runtimeVersion : String
  /-- The path that is kept for the bootstrap module. -/
  bootstrapPath : String
  /-- The beginning of the paths of installed packages. -/
  packageRoot : String
deriving DecidableEq

namespace Config

/-- The settings where nothing else is said. -/
def standard : Config where
  name := "create-react-app-v3"
  extensions := ["web.js", "js", "json", "web.jsx", "jsx", "ts", "tsx"]
  aliases := .ofList [("react-native", "react-native-web")]
  hasDotEnv := true
  frameworkPackage := "react-dom"
  refreshMinimum := "16.9.0"
  augmentMinimum := "16.9.0"
  remountBelow := "16.8.0"
  runtimePackage := "react-refresh"
  runtimeVersion := "0.7.1"
  bootstrapPath := "/node_modules/__csb/react-dom-entrypoint.js"
  packageRoot := "/node_modules"

/-! ### Settings one by one -/

inductive Shape where
  | text
  | flag
  | texts
  | table
deriving DecidableEq

/-- What a setting of a shape holds. -/
def Shape.Content : Shape → Type
  | text => String
  | flag => Bool
  | texts => List String
  | table => Table

inductive Field where
  | name
  | extensions
  | aliases
  | hasDotEnv
  | frameworkPackage
  | refreshMinimum
  | augmentMinimum
  | remountBelow
  | runtimePackage
  | runtimeVersion
  | bootstrapPath
  | packageRoot
deriving DecidableEq

namespace Field

/-- All settings, in the order of documents. -/
def all : List Field :=
  [name, extensions, aliases, hasDotEnv, frameworkPackage, refreshMinimum, augmentMinimum, remountBelow,
    runtimePackage, runtimeVersion, bootstrapPath, packageRoot]

/-- The name of a setting in documents. -/
def key : Field → String
  | name => "name"
  | extensions => "extensions"
  | aliases => "aliases"
  | hasDotEnv => "hasDotEnv"
  | frameworkPackage => "frameworkPackage"
  | refreshMinimum => "refreshMinVersion"
  | augmentMinimum => "augmentMinVersion"
  | remountBelow => "remountBelowVersion"
  | runtimePackage => "refreshRuntimePackage"
  | runtimeVersion => "refreshRuntimeVersion"
  | bootstrapPath => "bootstrapPath"
  | packageRoot => "dependencyPrefix"

/-- The setting that a name in a document stands for. -/
def ofKey? (key : String) : Option Field := all.find? fun f => f.key = key

def shape : Field → Shape
  | extensions => .texts
  | aliases => .table
  | hasDotEnv => .flag
  | _ => .text

theorem mem_all (f : Field) : f ∈ all := by
  cases f <;> decide

end Field

def get (c : Config) : (f : Field) → f.shape.Content
  | .name => c.name
  | .extensions => c.extensions
  | .aliases => c.aliases
  | .hasDotEnv => c.hasDotEnv
  | .frameworkPackage => c.frameworkPackage
  | .refreshMinimum => c.refreshMinimum
  | .augmentMinimum => c.augmentMinimum
  | .remountBelow => c.remountBelow
  | .runtimePackage => c.runtimePackage
  | .runtimeVersion => c.runtimeVersion
  | .bootstrapPath => c.bootstrapPath
  | .packageRoot => c.packageRoot

def set (c : Config) : (f : Field) → f.shape.Content → Config
  | .name, (v : String) => { c with name := v }
  | .extensions, (v : List String) => { c with extensions := v }
  | .aliases, (v : Table) => { c with aliases := v }
  | .hasDotEnv, (v : Bool) => { c with hasDotEnv := v }
  | .frameworkPackage, (v : String) => { c with frameworkPackage := v }
  | .refreshMinimum, (v : String) => { c with refreshMinimum := v }
  | .augmentMinimum, (v : String) => { c with augmentMinimum := v }
  | .remountBelow, (v : String) => { c with remountBelow := v }
  | .runtimePackage, (v : String) => { c with runtimePackage := v }
  | .runtimeVersion, (v : String) => { c with runtimeVersion := v }
  | .bootstrapPath, (v : String) => { c with bootstrapPath := v }
  | .packageRoot, (v : String) => { c with packageRoot := v }

@[simp] theorem get_set (c : Config) (f : Field) (v : f.shape.Content) : (c.set f v).get f = v := by
  cases f <;> rfl

theorem get_set_of_ne {c : Config} {f g : Field} {v : f.shape.Content} (h : g ≠ f) :
    (c.set f v).get g = c.get g := by
  cases f <;> cases g <;> first | rfl | exact absurd rfl h

/-- Two configurations with the same settings are the same. -/
theorem ext_get {c d : Config} (h : ∀ f, c.get f = d.get f) : c = d := by
  cases c
  cases d
  have := h .name
  have := h .extensions
  have := h .aliases
  have := h .hasDotEnv
  have := h .frameworkPackage
  have := h .refreshMinimum
  have := h .augmentMinimum
  have := h .remountBelow
  have := h .runtimePackage
  have := h .runtimeVersion
  have := h .bootstrapPath
  have := h .packageRoot
  simp_all [get]

/-! ### What hangs on the settings -/

def refreshGate (c : Config) : Gate := ⟨c.frameworkPackage, c.refreshMinimum⟩

/-- The runtime of refresh as a supplement to the dependencies. -/
def supplement (c : Config) : Supplement :=
  ⟨⟨c.frameworkPackage, c.augmentMinimum⟩, c.runtimePackage, c.runtimeVersion⟩

def bootstrap (c : Config) : Sandbox.Bootstrap := ⟨c.refreshGate, c.bootstrapPath⟩

end Config
end SandboxRouting
