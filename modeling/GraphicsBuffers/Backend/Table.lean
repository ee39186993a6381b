import GraphicsBuffers.Backend.Dumb
import GraphicsBuffers.Backend.Scripted
import GraphicsBuffers.Text.Quoted
/-!
# The table of backends

Which backend serves which kernel driver. Names are matched exactly, a driver that is not listed
has no backend, and a driver that is listed again keeps only its last backend.
-/

namespace GraphicsBuffers

/-- Makes a backend for an open card. -/
abbrev BackendConstructor := Card → Attempt BackendError Backend

/-- Constructors by driver name, in the order of their registration. -/
structure BackendTable where
  entries : List (String × BackendConstructor) := []

namespace BackendTable

/-- Lists a constructor for a driver, in place of an earlier one. -/
def register (t : BackendTable) (driver : String) (constructor : BackendConstructor) :
    BackendTable :=
  ⟨t.entries.filter (fun e => decide (e.1 ≠ driver)) ++ [(driver, constructor)]⟩

/-- The constructor listed for a driver. -/
def lookup? (t : BackendTable) (driver : String) : Option BackendConstructor :=
  (t.entries.find? fun e => decide (e.1 = driver)).map (·.2)

/-- Makes the backend listed for a driver; `none` if there is none. -/
def create? (t : BackendTable) (driver : String) (card : Card) :
    HostM (Option (Except BackendError Backend)) :=
  match t.lookup? driver with
  | none => return none
  | some constructor => do
    let outcome ← (constructor card).run
    if let .ok backend := outcome then Host.report (.backendCreated backend.name driver)
    return some outcome

/-- The constructor of the dumb-buffer backend. -/
def dumb : BackendConstructor := fun card => return .dumb card.fd

/-- Kernel drivers that the dumb-buffer backend serves unless told otherwise. Among them is every
driver that a listed framebuffer can lead to. -/
def dumbDrivers : List String :=
  ["amdgpu", "i915", "nouveau", "radeon", "vmwgfx", "virtio_gpu", "vkms", "bochs-drm", "simpledrm",
   "qxl"]

/-- The table in use unless another is given. -/
def standard : BackendTable := dumbDrivers.foldl (fun t driver => t.register driver dumb) {}

/-- The listed drivers, quoted. -/
def text (t : BackendTable) : String :=
  "[" ++ ", ".intercalate (t.entries.map fun e => Text.quoted e.1) ++ "]"

end BackendTable

end GraphicsBuffers
