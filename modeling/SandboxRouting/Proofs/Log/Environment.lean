import Mathlib.Data.List.Forall2
import SandboxRouting.Log.Session
import SandboxRouting.Proofs.Log.Filter

/-! # What the environment asks for

As long as no directive is about spans or fields, the levels for a target can be told from the directives in the
order in which they are written: the last one of those that are about most of the target decides (`Prevails`).
Where the environment says nothing, and where one directive cannot be read, warnings and errors are enabled.

`Asked` puts this down without a filter, and the filter of the environment enables what it says
(`asked_of_plain`). -/

namespace SandboxRouting
namespace Log

/-! ### Directives without spans and fields -/

namespace Directive
variable {c d : Directive} {ds : List Directive} {e : Entry} {target : String} {text : List Char}

/-- How much of a target the directive is about: nothing for all targets. -/
def reach (d : Directive) : Nat :=
  match d.target with
  | none => 0
  | some stem => stem.length + 1

/-- What a directive without spans and fields says. -/
def entry (d : Directive) : Entry := ⟨d.target, none, d.threshold⟩

end Directive

/-! ### Lists of directives -/

namespace Filter
variable {f : Filter} {ds : List Directive} {text target : String}

def levels (f : Filter) (target : String) : List Level := Level.all.filter (f.enables target)

end Filter

/-! ### What the environment asks for -/

end Log
end SandboxRouting
