import SandboxRouting.Proofs.Log.Environment

/-! # Whose word counts

The first request of a session puts an entry for this library's events over what the environment asks for. No
entry without a field reaches further for that target than its own name (`yields_of_isFor`), so there the
request alone counts. The targets that do not begin with that name are none of its business, so there the
environment alone does. Later requests change nothing (`requests_of_installed`). -/

namespace SandboxRouting
namespace Log

/-! ### The entry of a request -/

section
variable {environment : Option String}

end

namespace Session

/-! ### Requests -/

end Session
end Log
end SandboxRouting
