import VirtualKubelet.Drivers.Iosxe.Inventory
import VirtualKubelet.Go.Range
import VirtualKubelet.Program

/-!
# Apps on an IOS-XE device

The driver talks to the device over RESTCONF: it reads the configured apps and
the operational data, posts and deletes configuration, and issues lifecycle
RPCs. `reconcileApp` drives an app one state closer to the state it should be
in, `deleteApp` repeats it until the app is gone.

Everything the driver does not decide is a request with an arbitrary reply: the
answers of the device, whether a deadline has passed, whether the context was
cancelled during a wait, and the order of a loop over a map.
-/

namespace VirtualKubelet.Drivers.Iosxe

open Go

/-! ## Requests -/

/-- An error of the RESTCONF client: its text, the status and the error tags if
the device answered, and whether a mutation may have been applied. -/
structure ClientError where
  text : String
  status : Option Nat := none
  errorTags : List String := []
  ambiguous : Bool := false
  deriving DecidableEq

namespace ClientError

/-- `fmt.Errorf("...: %w", err)`. -/
def wrap (err : ClientError) (context : String) : ClientError :=
  { err with text := context ++ ": " ++ err.text }

def isStatus (err : ClientError) (statusCode : Nat) : Bool := err.status = some statusCode

def hasErrorTag (err : ClientError) (tag : String) : Bool := err.errorTags.contains tag

end ClientError

inductive Operation
  | install
  | activate
  | start
  | stop
  | deactivate
  | uninstall
  deriving DecidableEq

def Operation.name : Operation → String
  | install => "install"
  | activate => "activate"
  | start => "start"
  | stop => "stop"
  | deactivate => "deactivate"
  | uninstall => "uninstall"

structure DeviceConfig where
  appName : String
  runOpts : List String
  start : Bool
  deriving DecidableEq

inductive Request
  | listApps
  | operData
  | installNotification (appID : String)
  | postConfig (config : DeviceConfig)
  | deleteConfig (appID : String)
  | rpc (operation : Operation) (appID : String) (package : String)
  | copy (source destination : String)
  | beforeDeadline
  | wait
  | range (m : Go.Map String)

abbrev Reply : Request → Type
  | .listApps => Except ClientError (List (Option App))
  | .operData => Except ClientError OperData
  | .installNotification _ => String
  | .postConfig _ => Except ClientError Unit
  | .deleteConfig _ => Except ClientError Unit
  | .rpc _ _ _ => Except ClientError String
  | .copy _ _ => Except ClientError Unit
  | .beforeDeadline => Bool
  | .wait => Bool
  | .range m => Enumeration m

/-- What a driver function does on the device, and what it returns. -/
abbrev Driver := Program Request Reply

def ask (r : Request) : Driver (Reply r) := Program.request r

/-! ## Lifecycle RPCs -/

def canonicalAppHostingRPCResult (result : String) : String :=
  let normalized := String.intercalate " " (fields result)
  replaceAll "successfullyCurrent state is:" "successfully Current state is:" normalized

/-- The text behind a prefix it has. -/
def afterPrefix (start s : String) : Option String :=
  if start.toList.isPrefixOf s.toList then some (String.ofList (s.toList.drop start.toList.length))
  else none

def filesystemPrefixes : List String :=
  ["flash:", "bootflash:", "harddisk:", "usb:", "usbflash0:", "usbflash1:", "nvram:"]

/-- The spelling of a device path with and without a slash behind the file
system. -/
def otherSpelling (packagePath start : String) : Option String :=
  match afterPrefix (start ++ "/") packagePath with
  | some rest => some (start ++ rest)
  | none =>
    match afterPrefix start packagePath with
    | some rest => if rest = "" then none else some (start ++ "/" ++ rest)
    | none => none

def appHostingPackagePathVariants (packagePath : String) : List String :=
  packagePath :: (filesystemPrefixes.findSome? (otherSpelling packagePath)).toList

/-- Only complete texts, specific to the operation, count as success. -/
def appHostingLifecycleResultMatches (operation : Operation) (appID packagePath result : String) :
    Bool :=
  let result := canonicalAppHostingRPCResult result
  let reached (done state : String) :=
    result == appID ++ " " ++ done ++ " successfully Current state is: " ++ state
  match operation with
  | .install =>
    reached "installed" "DEPLOYED" ||
      (appHostingPackagePathVariants packagePath).any fun candidate =>
        result == "Installing package '" ++ candidate ++ "' for '" ++ appID ++
          "'. Use 'show app-hosting list' for progress."
  | .activate => reached "activated" "ACTIVATED" || reached "activated" "STOPPED"
  | .start => reached "started" "RUNNING"
  | .stop => reached "stopped" "STOPPED"
  | .deactivate => reached "deactivated" "DEPLOYED"
  | .uninstall =>
    result == "Uninstalling '" ++ appID ++ "'. Use 'show app-hosting list' for progress."

def appHostingRPCResultIsDefinitiveRejection (result : String) : Bool :=
  let normalized := (trimSpace result).toLower
  let starts (word : String) := word.toList.isPrefixOf normalized.toList
  starts "%" ||
    normalized == "error" || starts "error:" || starts "error " ||
    normalized == "failed" || starts "failed:" || starts "failed " ||
    normalized == "no action is taken" || normalized == "no action is taken."

/-- What the text in the device's answer means. -/
def appHostingRPCOutcome (operation : Operation) (appID packagePath result : String) :
    Except ClientError Unit :=
  if blank result then
    .error
      { text := operation.name ++ " operation returned no result for app " ++ appID
        ambiguous := true }
  else if appHostingLifecycleResultMatches operation appID packagePath result then .ok ()
  else if appHostingRPCResultIsDefinitiveRejection result then
    .error
      { text := operation.name ++ " operation result was not recognized as success for app " ++
          appID ++ "; response omitted" }
  else
    .error
      { text := operation.name ++ " operation returned an unrecognized result for app " ++ appID ++
          "; response omitted"
        ambiguous := true }

def appHostingRPC (operation : Operation) (appID : String) (packagePath : String := "") :
    Driver (Except ClientError Unit) := do
  match ← ask (.rpc operation appID packagePath) with
  | .error err =>
    return .error (err.wrap (operation.name ++ " operation failed for app " ++ appID))
  | .ok result => return appHostingRPCOutcome operation appID packagePath result

/-! ## One reconciliation step -/

inductive AppDesiredState
  | running
  | deleted
  deriving DecidableEq

inductive AppPhase
  | converging
  | ready
  | deleting
  | deleted
  | error
  deriving DecidableEq

def AppPhase.name : AppPhase → String
  | converging => "Converging"
  | ready => "Ready"
  | deleting => "Deleting"
  | deleted => "Deleted"
  | error => "Error"

structure AppHostingStatus where
  observedState : String := ""
  phase : AppPhase
  message : String := ""
  /-- The RPC that was accepted and has shown no effect yet. -/
  pendingOperation : Option Operation := none
  pendingState : String := ""
  pendingPresent : Bool := false
  deriving DecidableEq

structure AppObservation where
  state : String := ""
  pkgPolicyInvalid : Bool := false
  valid : Bool := false
  present : Bool := false
  deriving DecidableEq

def OperData.observe (oper : OperData) (appID : String) : AppObservation :=
  match oper.find appID with
  | none => { valid := true }
  | some app =>
    { state := app.state.getD "", pkgPolicyInvalid := app.pkgPolicyInvalid
      valid := true, present := true }

def getAppObservation (appID : String) : Driver AppObservation := do
  match ← ask .operData with
  | .error _ => return {}
  | .ok oper => return oper.observe appID

/-- An RPC that may have reached the device is pending; one that was refused is
not. -/
def recordPendingAppOperation (status : AppHostingStatus) (operation : Operation)
    (obs : AppObservation) (outcome : Except ClientError Unit) : Option AppHostingStatus :=
  let pending : AppHostingStatus :=
    { status with
      pendingOperation := some operation
      pendingState := obs.state
      pendingPresent := obs.present }
  match outcome with
  | .ok () => some pending
  | .error err =>
    if err.ambiguous then
      some { pending with
        message := operation.name ++ " completion uncertain; observing device state" }
    else none

/-- Issues the RPC a state calls for. -/
def issue (status : AppHostingStatus) (obs : AppObservation) (operation : Operation)
    (appID : String) (packagePath : String) (phase : AppPhase) (message : String) :
    Driver AppHostingStatus := do
  let status := { status with phase, message }
  let outcome ← appHostingRPC operation appID packagePath
  match recordPendingAppOperation status operation obs outcome, outcome with
  | some status, _ => return status
  | none, .error err =>
    return { status with phase := .error, message := operation.name ++ " failed: " ++ err.text }
  | none, .ok () => return status

section Reconcile

variable (allowUnsignedApps : Bool) (appID imagePath : String)

def reconcileForward (status : AppHostingStatus) (obs : AppObservation) :
    Driver AppHostingStatus :=
  match obs.state with
  | "RUNNING" => return { status with phase := .ready, message := "App is running" }
  | "ACTIVATED" => issue status obs .start appID "" .converging "Starting app"
  | "STOPPED" => issue status obs .start appID "" .converging "Restarting stopped app"
  | "DEPLOYED" => issue status obs .activate appID "" .converging "Activating app"
  | "INSTALLING" => do
      -- A policy verdict without a notification is the default of the first seconds.
      let waiting : AppHostingStatus :=
        { status with phase := .converging, message := "Install in progress, waiting" }
      if obs.pkgPolicyInvalid && !allowUnsignedApps then
        if (← ask (.installNotification appID)) ≠ "" then
          return { status with
            phase := .error
            message := "install blocked by device package policy; inspect the device locally " ++
              "for details" }
        else return waiting
      else return waiting
  | _ =>
    if obs.present then
      return { status with phase := .error, message := "device reported an unsupported app state" }
    else if imagePath = "" then
      return { status with phase := .error, message := "no image path available for install" }
    else issue status obs .install appID imagePath .converging "Re-issuing install"

/-- Whether a failed removal means that there was nothing to remove. -/
def configAlreadyAbsent (err : ClientError) : Bool := err.isStatus 404 || contains err.text "404"

/-- Removes the configuration of an app without operational data. -/
def removeConfig (status : AppHostingStatus) : Driver AppHostingStatus := do
  match ← ask (.deleteConfig appID) with
  | .ok () => return { status with phase := .deleted, message := "App fully removed" }
  | .error err =>
    if configAlreadyAbsent err then
      return { status with phase := .deleted, message := "App fully removed (config was absent)" }
    else
      return { status with phase := .error, message := "config delete failed: " ++ err.text }

def reconcileReverse (status : AppHostingStatus) (obs : AppObservation) :
    Driver AppHostingStatus :=
  match obs.state with
  | "RUNNING" => issue status obs .stop appID "" .deleting "Stopping app"
  | "ACTIVATED" => issue status obs .deactivate appID "" .deleting "Deactivating app"
  | "STOPPED" => issue status obs .deactivate appID "" .deleting "Deactivating app"
  | "DEPLOYED" => issue status obs .uninstall appID "" .deleting "Uninstalling app"
  | _ =>
    if obs.present then
      return { status with
        phase := .error
        message := "device reported an unsupported app state during deletion" }
    else removeConfig appID { status with phase := .deleting, message := "Removing config" }

/-- The status while an accepted RPC has not changed the state it was sent in. -/
def stillPending (status : AppHostingStatus) (obs : AppObservation) : Option AppHostingStatus :=
  match status.pendingOperation with
  | none => none
  | some operation =>
    if obs.state = status.pendingState && obs.present = status.pendingPresent then
      some { status with message := "Waiting for accepted " ++ operation.name ++ " operation" }
    else none

/-- Forgets an RPC whose effect has shown. -/
def clearPending (status : AppHostingStatus) : AppHostingStatus :=
  if status.pendingOperation.isSome then
    { status with pendingOperation := none, pendingState := "", pendingPresent := false }
  else status

def reconcileApp (desired : AppDesiredState) (status : AppHostingStatus) :
    Driver AppHostingStatus := do
  let obs ← getAppObservation appID
  let status := { status with observedState := obs.state }
  if !obs.valid then
    if status.pendingOperation.isSome then
      return { status with message := "Waiting for a valid device-state observation" }
    else return { status with phase := .error, message := "unable to observe app state" }
  else
    match stillPending status obs with
    | some status => return status
    | none =>
      match desired with
      | .running => reconcileForward allowUnsignedApps appID imagePath (clearPending status) obs
      | .deleted => reconcileReverse appID (clearPending status) obs

end Reconcile

/-! ## Deletion and waiting -/

def maxAttempts : Nat := 15

/-- The passes of `deleteApp` that are left. -/
def deletePasses (appID : String) : Nat → AppHostingStatus → Driver (Except String Unit)
  | 0, status =>
    return .error ("app " ++ appID ++ " not fully deleted after " ++ decimal maxAttempts ++
      " reconcile attempts (last phase: " ++ status.phase.name ++ ", observed: " ++
      quote status.observedState ++ ")")
  | n + 1, status => do
      let status ← reconcileApp false appID "" .deleted status
      if status.phase = .deleted then return .ok ()
      else if status.phase = .error then
        return .error ("app " ++ appID ++ " deletion failed: " ++ status.message)
      else if ← ask .wait then
        return .error ("context cancelled while deleting app " ++ appID)
      else deletePasses appID n status

def deleteApp (appID : String) : Driver (Except String Unit) :=
  deletePasses appID maxAttempts { phase := .deleting }

/-- A wait: the polls that fit in it, and how it prints. -/
structure Timeout where
  polls : Nat
  text : String
  deriving DecidableEq

/-- Polls until the app is in one of the states. -/
def pollAppStatus (appID : String) (expected : List String) (timeout : Timeout) :
    Nat → Driver (Except String Unit)
  | 0 =>
    return .error ("timeout waiting for app " ++ appID ++ " to reach status " ++
      String.intercalate " or " expected ++ " after " ++ timeout.text)
  | n + 1 => do
      if !(← ask .beforeDeadline) then
        return .error ("timeout waiting for app " ++ appID ++ " to reach status " ++
          String.intercalate " or " expected ++ " after " ++ timeout.text)
      else
        match ← ask .operData with
        | .error _ => pollAppStatus appID expected timeout n
        | .ok oper =>
          if expected.any fun state => (oper.find appID).bind AppOper.state == some state then
            return .ok ()
          else if ← ask .wait then
            return .error ("context cancelled while waiting for app " ++ appID ++ " status")
          else pollAppStatus appID expected timeout n

def waitForAppStatuses (appID : String) (timeout : Timeout) (expected : List String) :
    Driver (Except String Unit) :=
  pollAppStatus appID expected timeout timeout.polls

end VirtualKubelet.Drivers.Iosxe
