import PhoneAccounts.Listener.Bus
import PhoneAccounts.Registry.Startup
import PhoneAccounts.Registry.Step

/-!
Contract: a registry at work on a device, with its listeners.

Each step is made on behalf of a caller.  A change that has an effect is carried out first,
and then its event goes to the listeners, unless the catalog cannot be written out; what they do
is again steps, on behalf of the same caller unless they name another.

Owns: `Session`, starting and restarting it, and performing a step.

Does not own: the effects of the changes (see `PhoneAccounts.Registry.Change`) and the
answers to the inquiries (see `PhoneAccounts.Registry.Query`).
-/

namespace PhoneAccounts

/-- A registry on a device, its listeners, and a line for every event that one of them has
heard. -/
structure Session where
  device : Device
  registry : Registry
  bus : Bus
  lines : List String

namespace Session

/-- Begins a session of a process that runs in a scope. -/
def start (device : Device) (processScope : Scope) : Except StateFile.Stop Session := do
  let (registry, device) ← Registry.start device processScope
  .ok ⟨device, registry, .empty, []⟩

/-! ## Inquiries -/

def stateContent? (session : Session) : Option (List UInt8) :=
  match session.device.files.read session.registry.stateFile.parts with
  | .ok content => some content
  | .error _ => none

def answer (session : Session) (caller : Scope) : Inquiry → Answer :=
  let registry := session.registry
  let device := session.device
  fun
  | .services component scope => .services (device.installs.resolve component scope)
  | .defaultVoice => .integer device.subscriptions.defaultVoice
  | .stateFile => .content session.stateContent?
  | .files => .paths device.files.listing
  | .caller => .scope caller
  | .foreground => .scope registry.foreground
  | .catalog => .catalog registry.catalog
  | .account handle => .account (registry.account? handle)
  | .visibleAccount handle => .account (registry.visibleAccount? device caller handle)
  | .chosenOutgoing => .handle (registry.chosenOutgoing? device caller)
  | .callManager => .handle (registry.callManager? device caller)
  | .outgoingFor scheme => .handle (registry.outgoingFor? device caller scheme)
  | .allAccounts => .accounts (registry.allAccounts device caller)
  | .allHandles => .handles (registry.allHandles device caller)
  | .simHandles => .handles (registry.simHandles device caller)
  | .managerHandles => .handles (registry.managerHandles device caller)
  | .callCapableHandles scheme includeDisabled =>
      .handles (registry.callCapableHandles device caller scheme includeDisabled)
  | .ownedHandles package => .handles (registry.ownedHandles device caller package)
  | .requiresBind handle => .flag (Registry.requiresBind device handle)
  | .subscriptionOf handle => .integer (registry.subscriptionOf device caller handle)
  | .isSmsAccount handle => .flag (registry.isSmsAccount device caller handle)
  | .isVoicemail handle number => .flag (registry.isVoicemail device caller handle number)

/-! ## Adjustments -/

/-- The files after something has been done at the place of the state file. -/
def withFiles (session : Session) (files : Entry) : Session :=
  { session with device := { session.device with files := files } }

/-- The files without the state file, whatever stands in its place. -/
def filesWithoutState (session : Session) : Entry :=
  session.device.files.delete session.registry.stateFile.parts

def withSubscriptions (session : Session) (subscriptions : Subscriptions) : Session :=
  { session with device := { session.device with subscriptions := subscriptions } }

def withDirectory (session : Session) (directory : ScopeDirectory) : Session :=
  { session with device := { session.device with directory := directory } }

def withInstalls (session : Session) (installs : Installs) : Session :=
  { session with device := { session.device with installs := installs } }

def withSettings (session : Session) (settings : Settings) : Session :=
  { session with device := { session.device with settings := settings } }

/-- Makes an adjustment.  Blocking the state file puts an empty directory in its place. -/
def adjust (session : Session) : Adjustment → Session :=
  let device := session.device
  fun
  | .install component scope permission =>
      session.withInstalls (device.installs.install component scope permission)
  | .uninstall component scope =>
      session.withInstalls (device.installs.uninstall component scope)
  | .addScope scope serial parent =>
      session.withDirectory (device.directory.add scope serial parent)
  | .removeScope scope => session.withDirectory (device.directory.remove scope)
  | .assignSubscription handle subscription =>
      session.withSubscriptions (device.subscriptions.assign handle subscription)
  | .addVoicemail subscription number =>
      session.withSubscriptions (device.subscriptions.addVoicemail subscription number)
  | .setDefaultSms subscription =>
      session.withSubscriptions (device.subscriptions.withDefaultSms subscription)
  | .setDefaultManager component =>
      session.withSettings { device.settings with defaultManager := component }
  | .setSipOption option => session.withSettings { device.settings with sipOption := option }
  | .deleteFile => session.withFiles session.filesWithoutState
  | .blockFile =>
      let files := session.filesWithoutState
      session.withFiles
        ((files.makeDirectory? session.registry.stateFile.parts).getD files)
  | .bringToFront scope => { session with registry := session.registry.bringToFront scope }
  | .addListener name => { session with bus := session.bus.add name }
  | .removeListener name => { session with bus := session.bus.remove? name }

/-! ## Steps -/

/-- Answers a change that has been carried out and fires its event.  Where the catalog that it
leads to cannot be written out, the change stays in use, unsaved and untold. -/
def announce
    (session : Session)
    (fire : Event → Session → Session)
    (event : Event)
    (answer : Answer) :
    Answer × Session :=
  if session.registry.isWritable session.device then (answer, fire event session)
  else (.stopped .longInteger, session)

/-- Carries out a change and fires its event, or says why it is refused. -/
def change
    (session : Session)
    (fire : Event → Session → Session)
    (caller : Scope)
    (change : Change) :
    Answer × Session :=
  match session.registry.effectOf session.device caller change with
  | .error refusal => (.ofRefusal refusal, session)
  | .ok effect =>
      let (registry, device) := session.registry.commit session.device effect
      let committed : Session := { session with registry := registry, device := device }
      committed.announce fire effect.event (.ofSuccess change)

def writeFile (session : Session) (content : List UInt8) : Answer × Session :=
  match session.device.files.write? content session.registry.stateFile.parts with
  | some files => (.nothing, session.withFiles files)
  | none => (.fileIsDirectory, session)

/-- A new registry on the same device, without listeners.  If its start is stopped, the session
stays as it is. -/
def restart (session : Session) : Answer × Session :=
  match start session.device session.registry.processScope with
  | .ok fresh => (.nothing, { fresh with lines := session.lines })
  | .error stop => (.stopped stop, session)

/-- Makes a step on behalf of a caller, given how an event is fired. -/
def perform
    (session : Session)
    (fire : Scope → Event → Session → Session)
    (caller : Scope)
    (step : Step) :
    Answer × Session :=
  let caller := step.caller.getD caller
  match step.operation with
  | .ask inquiry => (session.answer caller inquiry, session)
  | .adjust adjustments => (.nothing, adjustments.foldl adjust session)
  | .change change => session.change (fire caller) caller change
  | .writeFile content => session.writeFile content
  | .restart => session.restart
  | .fail => (.failed, session)

/-- Notes that a listener hears an event, with the number of accounts that the caller can
see. -/
def note (caller : Scope) (name : String) (event : Event) (session : Session) : Session :=
  let count := (session.registry.allHandles session.device caller).length
  let line := name ++ ":" ++ event.name ++ ":" ++ String.ofList (Text.naturalText count)
  { session with lines := session.lines ++ [line] }

/-- A step of a reaction: what it leaves, and whether the reaction goes on. -/
def reactWith
    (fire : Scope → Event → Session → Session)
    (caller : Scope)
    (step : Step)
    (session : Session) :
    Session × Bool :=
  let (answer, session) := session.perform fire caller step
  (session, !answer.isFailure)

/-- Fires an event on behalf of a caller.  `depth` bounds how deep reactions may fire events
themselves. -/
def fire (scripts : Scripts Step) : (depth : Nat) → Scope → Event → Session → Session
  | 0, _, _, session => session
  | depth + 1, caller, event, session =>
      Delivery.toAll scripts (note caller) (reactWith (fire scripts depth) caller) event
        session.bus.listeners session

/-- Makes a step of its own: its answer, the lines that it added, and the session after it. -/
def run (session : Session) (scripts : Scripts Step) (step : Step) :
    Answer × List String × Session :=
  let (answer, session) :=
    perform { session with lines := [] } (fire scripts Delivery.deepestNesting) Scope.owner step
  (answer, session.lines, session)

end Session

end PhoneAccounts
