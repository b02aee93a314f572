import SandboxRouting.Preset.Config
import SandboxRouting.Routing.Upkeep

/-! # Presets

A preset is a configuration with a router that is kept in line with the dependencies of a host. Before
the modules of a project are evaluated it brings up the bootstrap module, if refresh is usable, and
then tells a host without reload of its own to remount on change, if the framework is there and not
known to be recent enough for anything better. -/

namespace SandboxRouting
open Routing Sandbox

/-- A configuration with the state of its router. -/
structure Preset where
  config : Config
  router : Router
  phase : Phase

namespace Preset

/-- The preset of a configuration, before anything was aligned. -/
def ofConfig (c : Config) : Preset := ⟨c, .fresh c.name c.extensions, .uninitialized⟩

/-- The upkeep of the preset's router. -/
def upkeep (p : Preset) : Upkeep := ⟨p.router, p.config.refreshGate, p.config.packageRoot, p.phase⟩

/-- The preset as the upkeep of its router left it. -/
def withUpkeep (p : Preset) (u : Upkeep) : Preset := { p with router := u.router, phase := u.phase }

/-! ### Rules -/

/-- Whether the rules are in line, and what became of the preset. -/
structure Aligned where
  result : Except Failure Unit
  preset : Preset

/-- Brings the rules in line with the dependencies. -/
def align (p : Preset) (deps : Dependencies) : Logged Aligned :=
  let first := p.upkeep.align deps
  let next := p.withUpkeep first.value.upkeep
  match first.value.result with
  | .ok rebuilt => ⟨⟨.ok (), next⟩, first.events ++ [.setupComplete p.config.name rebuilt]⟩
  | .error failure => ⟨⟨.error failure, next⟩, first.events⟩

/-! ### Before evaluation -/

/-- What was done before the modules of a project are evaluated. -/
structure Report where
  /-- The bootstrap module was brought up. -/
  injected : Bool
  /-- The host was told to remount on change. -/
  remounting : Bool
deriving DecidableEq

/-- The host has no reload of its own, and the framework is there but not known to be recent enough. -/
def needsRemount (p : Preset) (h : Host) : Bool :=
  !h.nativeReload &&
    match h.dependencies.get? p.config.frameworkPackage with
    | none => false
    | some version => !Version.satisfies version p.config.remountBelow

/-- What is said while the need to remount is told. -/
def remountEvents (p : Preset) (h : Host) : List Event :=
  if h.nativeReload then []
  else
    (match h.dependencies.get? p.config.frameworkPackage with
      | none => []
      | some version => Event.ofComparison version p.config.remountBelow) ++
      if p.needsRemount h then [.remountForced p.config.frameworkPackage p.config.remountBelow] else []

/-- The report or the failure, and what became of the host. -/
structure Prepared where
  result : Except Failure Report
  host : Host

/-- Prepares a host for the evaluation of the project's modules. -/
def prepare (p : Preset) (h : Host) : Logged Prepared :=
  let first := p.config.bootstrap.inject h
  let h := first.value.host
  match first.value.result with
  | .error failure => ⟨⟨.error failure, h⟩, first.events⟩
  | .ok injected =>
    let remounting := p.needsRemount h
    ⟨⟨.ok ⟨injected, remounting⟩, if remounting then h.note .remountOnChange else h⟩,
      first.events ++ p.remountEvents h⟩

/-! ### Lookups -/

/-- The dependencies to install. -/
def toInstall (p : Preset) (deps : Dependencies) : Logged Dependencies :=
  p.config.supplement.process deps

def chainFor (p : Preset) (path : String) : Except Failure Chain := p.router.chainFor path

/-- The preset claims the path by its extension. -/
def recognizes (p : Preset) (path : String) : Bool := p.router.recognizes path

/-- What is imported in the place of a package or of something in it. A package whose name merely begins
    with that of another is not in it. -/
def importedAs? (p : Preset) (specifier : String) : Option String :=
  p.config.aliases.findSome? fun package target =>
    match Text.remainder? specifier package with
    | none => none
    | some rest => if rest.isEmpty || Text.begins rest "/" then some (target ++ rest) else none

end Preset
end SandboxRouting
