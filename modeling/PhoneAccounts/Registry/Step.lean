import PhoneAccounts.Registry.Change

/-!
Contract: the steps of a session, and what they answer.

Owns: `Inquiry`, `Adjustment`, `Operation`, `Step` and `Answer`.

Does not own: making the steps (see `PhoneAccounts.Registry.Session`).
-/

namespace PhoneAccounts

/-- What can be asked without changing anything. -/
inductive Inquiry where
  | services (component : Component) (scope : Option Scope)
  | defaultVoice
  | stateFile
  | files
  | caller
  | foreground
  | catalog
  | account (handle : Option Handle)
  | visibleAccount (handle : Option Handle)
  | chosenOutgoing
  | callManager
  | outgoingFor (scheme : Option String)
  | allAccounts
  | allHandles
  | simHandles
  | managerHandles
  | callCapableHandles (scheme : Option String) (includeDisabled : Bool)
  | ownedHandles (package : Option String)
  | requiresBind (handle : Handle)
  | subscriptionOf (handle : Option Handle)
  | isSmsAccount (handle : Option Handle)
  | isVoicemail (handle : Option Handle) (number : String)
deriving DecidableEq, Repr

/-- What can be changed around the catalog; nothing of it is refused. -/
inductive Adjustment where
  | install (component : Component) (scope : Option Scope) (permission : Option String)
  | uninstall (component : Component) (scope : Option Scope)
  | addScope (scope : Scope) (serial : Option Int) (parent : Option Scope)
  | removeScope (scope : Scope)
  | assignSubscription (handle : Handle) (subscription : Int)
  | addVoicemail (subscription : Int) (number : String)
  | setDefaultSms (subscription : Int)
  | setDefaultManager (component : String)
  | setSipOption (option : Option String)
  | deleteFile
  | blockFile
  | bringToFront (scope : Option Scope)
  | addListener (name : String)
  | removeListener (name : Option String)
deriving DecidableEq, Repr

/-- What a step does.  A failure is something that only a reaction holds. -/
inductive Operation where
  | ask (inquiry : Inquiry)
  | adjust (adjustments : List Adjustment)
  | change (change : Change)
  | writeFile (content : List UInt8)
  | restart
  | fail
deriving DecidableEq, Repr

/-- An operation, and the scope on whose behalf it is made if that is another than the
caller's. -/
structure Step where
  caller : Option Scope
  operation : Operation
deriving DecidableEq, Repr

/-- What a step answers. -/
inductive Answer where
  | nothing
  | integer (value : Int)
  | flag (value : Bool)
  | services (services : List Service)
  | content (content : Option (List UInt8))
  | paths (paths : List String)
  | scope (scope : Scope)
  | catalog (catalog : Catalog)
  | account (account : Option Account)
  | accounts (accounts : List Account)
  | handle (handle : Option Handle)
  | handles (handles : List Handle)
  | outcome (outcome : Outcome)
  | denied
  | stopped (stop : StateFile.Stop)
  | fileIsDirectory
  | failed
deriving DecidableEq, Repr

/-- The step could not be made.  A change that is rejected was made: its outcome says so. -/
def Answer.isFailure : Answer → Bool
  | .denied => true
  | .stopped _ => true
  | .fileIsDirectory => true
  | .failed => true
  | _ => false

/-- What a refused change answers.  The reason is put into words at once, if it can be. -/
def Answer.ofRefusal : Refusal → Answer
  | .denied => .denied
  | .rejected reason =>
      if reason.isWritable then .outcome (.rejected reason) else .stopped .longInteger

/-- What a change answers that has been carried out. -/
def Answer.ofSuccess : Change → Answer
  | .register _ => .nothing
  | _ => .outcome .applied

end PhoneAccounts
