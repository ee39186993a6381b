import GraphicsBuffers.Backend.Table
import GraphicsBuffers.Device.Probe
/-!
# The device context

The card of an allocator and the backend on it. The card is opened the first time something needs
it. If that fails, or no backend serves the card's driver, the failure is remembered and every later
call reports it again. Bringing up the display is a second step, taken only for those who scan out;
if it fails, it may be tried again, and the backend stays in use.
-/

namespace GraphicsBuffers

/-- Opens the card of a context, or says why it cannot. -/
abbrev Opener := Attempt String Card

/-- Opens the card of a configuration. -/
def Opener.ofConfig (config : DeviceConfig) : Opener :=
  explain config.openCard fun e => pure (": ".intercalate (e.message :: e.causes))

/-- Reports the path of the card that is opened. -/
def Opener.reporting (opener : Opener) : Opener := do
  let card ← opener
  Host.report (.opened card.path)
  return card

/-- An opened card and its backend. -/
structure Ready where
  card : Card
  backend : Backend
  /-- Whether the display is up. -/
  displayReady : Bool := false

/-- Why a context will never be ready. -/
inductive StartFailure
  | unavailable
  | unsupported (driver : String)
  deriving DecidableEq

/-- How far a context is. -/
inductive ContextState
  | untried
  | ready (r : Ready)
  | failed (f : StartFailure)

/-- A device context. -/
structure Context where
  opener : Opener
  table : BackendTable
  state : ContextState := .untried

/-- A computation on a context. -/
abbrev ContextM := StateT Context HostM

/-- What a remembered failure is to callers. -/
def StartFailure.error : StartFailure → Error
  | unavailable => .backendUnavailable
  | unsupported driver => .unsupportedBackend driver

namespace Context

/-- Opens the card and makes the backend for its driver. A card without a backend is closed. -/
def start (opener : Opener) (table : BackendTable) : Attempt StartFailure Ready := do
  let card ← explain opener fun reason => do
    Host.report (.openFailed reason)
    return .unavailable
  let giveUp (event : LogEvent) (failure : StartFailure) : Attempt StartFailure Ready := do
    Host.report event
    card.release
    throw failure
  match ← (Device.version card.fd).run with
  | .error e => giveUp (.invalidDevice e) .unavailable
  | .ok info =>
    match ← table.create? info.name card with
    | some (.ok backend) => return { card, backend }
    | some (.error e) => giveUp (.backendFailed info.name e) .unavailable
    | none => giveUp (.unsupportedDriver info.name) (.unsupported info.name)

/-- The card and backend, if the context is ready or can be made so. -/
def ready : ExceptT Error ContextM Ready := do
  let c ← getThe Context
  match c.state with
  | .ready r => return r
  | .failed f => throw f.error
  | .untried =>
    let begin : ContextM (Except StartFailure Ready) := StateT.lift (start c.opener c.table).run
    match ← begin with
    | .ok r =>
      set { c with state := .ready r }
      return r
    | .error f =>
      set { c with state := .failed f }
      throw f.error

/-- Makes sure that the card is open with a backend on it, and if `needDisplay` is set that the
display is up. -/
def ensureReady (needDisplay : Bool) : ExceptT Error ContextM Unit := do
  let r ← ready
  if needDisplay && !r.displayReady then
    let bringUp : Attempt Error Wire.CardResources :=
      explain (Device.initDisplay r.card.fd) fun e => do
        Host.report (.displayFailed e)
        return .displayInitFailed e.errno
    let resources ← ExceptT.mk (StateT.lift bringUp.run)
    Host.report (.displayReady resources)
    modifyThe Context fun c => { c with state := .ready { r with displayReady := true } }

/-- Whether the display is up. -/
def displayReady (c : Context) : Bool :=
  match c.state with
  | .ready r => r.displayReady
  | .untried | .failed _ => false

/-- Sends a control request to the card. -/
def exchange {α : Type} (x : Wire.Exchange α) : ExceptT Error ContextM α := do
  let r ← ready
  let send : Attempt Error α := explain (Host.exchange r.card.fd x) fun e => pure (.kernel e)
  ExceptT.mk (StateT.lift send.run)

/-- The token another client authenticates us with. -/
def authMagic : ExceptT Error ContextM UInt32 := exchange .getMagic

/-- Authenticates the client that got `magic`. -/
def authenticate (magic : UInt32) : ExceptT Error ContextM Unit := exchange (.authMagic magic)

/-- Becomes the master of the card. -/
def acquireMaster : ExceptT Error ContextM Unit := exchange .setMaster

/-- Ceases to be the master of the card. -/
def releaseMaster : ExceptT Error ContextM Unit := exchange .dropMaster

/-- Lets go of the card. -/
def dispose (c : Context) : HostM Unit :=
  match c.state with
  | .ready r => r.card.release
  | .untried | .failed _ => return

end Context

end GraphicsBuffers
