import VirtualKubelet.Drivers.Iosxe.PodLifecycle

/-!
# Deleting Pods from an NX-OS device

The NX-OS driver talks to the device in commands. It learns the state of an app
from the text of `show app-hosting detail`, drives the app towards removal
command by command, and removes its configuration when the app is gone.
-/

namespace VirtualKubelet.Drivers.Nxos

open Go
open Drivers.Iosxe (Pod Timeout)

/-! ## Requests -/

inductive Request
  | «show» (command : String)
  | conf (commands : List String)
  | afterDeadline
  | wait
  | range (m : Go.Map String)

/-- A wait that was cut short has the error of the context. -/
abbrev Reply : Request → Type
  | .show _ => Except String String
  | .conf _ => Except String Unit
  | .afterDeadline => Bool
  | .wait => Option String
  | .range m => Enumeration m

abbrev Driver := Program Request Reply

def ask (r : Request) : Driver (Reply r) := Program.request r

/-! ## The text of a detail command -/

/-- `\s` of a regular expression. -/
def isPatternSpace (c : Char) : Bool :=
  c == ' ' || c == '\t' || c == '\n' || c == '\r' || c == Char.ofNat 12

def skipSpaces (line : List Char) : List Char := line.dropWhile isPatternSpace

/-- The rest of the line behind a word, in any case. -/
def skipWord (word line : List Char) : Option (List Char) :=
  if (line.take word.length).map Char.toLower = word then some (line.drop word.length) else none

/-- What follows a colon, as far as the test goes; nothing if that is empty. -/
def valueAfterColon (test : Char → Bool) (line : List Char) : Option (List Char) :=
  match skipSpaces line with
  | ':' :: rest =>
    let value := (skipSpaces rest).takeWhile test
    if value.isEmpty then none else some value
  | _ => none

def isStateChar (c : Char) : Bool :=
  ('A' ≤ c && c ≤ 'Z') || ('a' ≤ c && c ≤ 'z') || isDigit c || c == '_' || c == '-'

def stateInLine (line : List Char) : Option String := do
  let rest ← skipWord ['s', 't', 'a', 't', 'e'] (skipSpaces line)
  let value ← valueAfterColon isStateChar rest
  some (String.ofList value).toUpper

/-- `app id: VALUE` or `appid: VALUE`. -/
def appIDInLine (line : List Char) : Option String := do
  let rest ← skipWord ['a', 'p', 'p'] (skipSpaces line)
  let rest ← skipWord ['i', 'd'] (skipSpaces rest)
  let value ← valueAfterColon (fun c => !isPatternSpace c) rest
  some (trimSpace (String.ofList value))

structure NxosApp where
  id : String := ""
  state : String := ""
  deriving DecidableEq

/-- The last line that has a value counts. -/
def NxosApp.read (app : NxosApp) (line : List Char) : NxosApp where
  id := (appIDInLine line).getD app.id
  state := (stateInLine line).getD app.state

def parseAppDetail (out : String) : NxosApp := (out.toList.splitOn '\n').foldl NxosApp.read {}

/-! ## State -/

def validateAppID (appID : String) : Except String Unit :=
  if isCVKManagedApp appID then .ok () else .error "invalid NX-OS CVK app ID"

def detailCommand (appID : String) : String := "show app-hosting detail appid " ++ appID

/-- The app in the text of its detail command; a text about another app is an
error. -/
def appInDetail (appID out : String) : Except String NxosApp :=
  let app := parseAppDetail out
  if app.id = "" then .ok { app with id := appID }
  else if (validateAppID app.id).isOk && app.id = appID then .ok app
  else .error "NX-OS app detail returned an invalid or mismatched CVK app ID"

def appDetail (appID : String) : Driver (Except String NxosApp) :=
  match validateAppID appID with
  | .error err => return .error err
  | .ok () => do
      match ← ask (.show (detailCommand appID)) with
      | .error err => return .error err
      | .ok out => return appInDetail appID out

def appState (appID : String) : Driver (Except String String) := do
  let app ← appDetail appID
  return app.map NxosApp.state

/-! ## Deletion -/

/-- The test by which the driver takes an app for gone. -/
def takenForGone : Except String String → Bool
  | .error _ => true
  | .ok state => state == "" || state == "UNINSTALLED"

def removeCommands (appID : String) : List String :=
  ["configure terminal", "no app-hosting appid " ++ appID]

def removeAppConfig (appID : String) : Driver (Except String Unit) :=
  match validateAppID appID with
  | .error err => return .error err
  | .ok () => ask (.conf (removeCommands appID))

/-- The command that brings an app closer to removal. -/
def removalCommand (appID state : String) : Option String :=
  match state with
  | "RUNNING" => some ("app-hosting stop appid " ++ appID)
  | "ACTIVATED" => some ("app-hosting deactivate appid " ++ appID)
  | "STOPPED" => some ("app-hosting deactivate appid " ++ appID)
  | "DEPLOYED" => some ("app-hosting uninstall appid " ++ appID)
  | "INSTALLING" => none
  | _ => some ("app-hosting uninstall appid " ++ appID)

/-- Issues the command of a state; the last error is kept. -/
def advance (appID : String) (state : Except String String) (lastErr : Option String) :
    Driver (Option String) :=
  match state with
  | .error _ => return lastErr
  | .ok state =>
    match removalCommand appID state with
    | none => return lastErr
    | some command => do
        match ← ask (.conf [command]) with
        | .error err => return some err
        | .ok () => return lastErr

def finish (appID context : String) : Driver (Except String Unit) := do
  let removed ← removeAppConfig appID
  return removed.mapError ("app " ++ appID ++ ": " ++ context ++ ": " ++ ·)

/-- One more look at the app after the deadline. -/
def finalCheck (appID : String) (timeout : Timeout) (lastErr : Option String) :
    Driver (Except String Unit) := do
  let state ← appState appID
  if takenForGone state then finish appID "remove stale config after timeout"
  else
    return .error ("app " ++ appID ++ ": timed out after " ++ timeout.text ++
      " deleting from state " ++ quote (state.toOption.getD "") ++
      (lastErr.map (": " ++ ·)).getD "")

/-- The rounds that fit before the deadline; it has passed when there are none
left. -/
def deleteRounds (appID : String) (timeout : Timeout) :
    Nat → Option String → Driver (Except String Unit)
  | 0, lastErr => do
      let state ← appState appID
      if takenForGone state then finish appID "remove stale config"
      else
        let lastErr ← advance appID state lastErr
        finalCheck appID timeout lastErr
  | n + 1, lastErr => do
      let state ← appState appID
      if takenForGone state then finish appID "remove stale config"
      else
        let lastErr ← advance appID state lastErr
        if ← ask .afterDeadline then finalCheck appID timeout lastErr
        else
          match ← ask .wait with
          | some err => return .error err
          | none => deleteRounds appID timeout n lastErr

def deleteApp (appID : String) (timeout : Timeout) : Driver (Except String Unit) :=
  match validateAppID appID with
  | .error err => return .error err
  | .ok () => deleteRounds appID timeout timeout.polls none

/-- Deletes the apps in turn and collects the errors. -/
def deleteApps (timeout : Timeout) :
    List (Sigma fun _ : String => String) → Driver (List String)
  | [] => return []
  | ⟨_, appID⟩ :: rest => do
      match ← deleteApp appID timeout with
      | .ok () => deleteApps timeout rest
      | .error err => do
          let errors ← deleteApps timeout rest
          return err :: errors

def deletePod (pod : Pod) (timeout : Timeout) : Driver (Except String Unit) := do
  let order ← ask (.range pod.appIDs)
  let errors ← deleteApps timeout order.entries
  if errors = [] then return .ok ()
  else
    return .error ("delete NX-OS app-hosting pod " ++ pod.namespace ++ "/" ++ pod.name ++ ": " ++
      String.intercalate "; " errors)

end VirtualKubelet.Drivers.Nxos
