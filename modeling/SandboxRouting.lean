import SandboxRouting.Preset.Basic
import SandboxRouting.Preset.Document
import SandboxRouting.Proofs.Pattern.Ending
import SandboxRouting.Proofs.Version.Reading
import SandboxRouting.Proofs.Version.NormalForm
import SandboxRouting.Proofs.Routing.FileKind
import SandboxRouting.Proofs.Routing.Standard
import SandboxRouting.Proofs.Routing.Request
import SandboxRouting.Proofs.Routing.Memory
import SandboxRouting.Proofs.Routing.Router
import SandboxRouting.Proofs.Routing.Upkeep
import SandboxRouting.Proofs.Routing.TrafficLaw
import SandboxRouting.Proofs.Preset.Session
import SandboxRouting.Proofs.Preset.Alias
import SandboxRouting.Proofs.Preset.Recognition
import SandboxRouting.Proofs.Preset.Remount
import SandboxRouting.Proofs.Preset.Refresh
import SandboxRouting.Proofs.Preset.Attempt
import SandboxRouting.Proofs.Json.Scan
import SandboxRouting.Proofs.Preset.Coherence
import SandboxRouting.Proofs.Preset.Install
import SandboxRouting.Proofs.Json.Skip
import SandboxRouting.Proofs.Json.Rendering
import SandboxRouting.Proofs.Json.Typed
import SandboxRouting.Proofs.Preset.Document
import SandboxRouting.Proofs.Preset.FirstFault
import SandboxRouting.Proofs.Dependency.Threshold
import SandboxRouting.Proofs.Dependency.Document
import SandboxRouting.Proofs.Dependency.LastEntry
import SandboxRouting.Proofs.Routing.Overlap
import SandboxRouting.Proofs.Sandbox.Course
import SandboxRouting.Proofs.Log.Session
