import VirtualKubelet.Drivers.Iosxe.Device
import VirtualKubelet.Drivers.Iosxe.RunOpts

/-!
# Pods on an IOS-XE device

A Pod is deployed as one app per container, found again by the names and the
labels of the apps on the device, and deleted or redeployed app by app.
-/

namespace VirtualKubelet.Drivers.Iosxe

open Go

/-- What the driver was configured with, and what it takes from the Pod by
functions that do not touch the device. -/
structure XEDriver where
  listers : Listers := {}
  /-- An absolute HTTP(S) URL with a host. -/
  isHTTPURL : String → Bool := fun _ => false
  /-- The flash destination in the Pod's annotation. -/
  getPackageDest : Pod → Except String String := fun _ => .ok ""
  getPackageTimeout : Pod → Timeout
  networkResource : Pod → Container → Except String Unit := fun _ _ => .ok ()
  /-- The image URL with registry credentials; without them if they cannot be
  resolved. -/
  maybeAddAuthToURL : Pod → String → String := fun _ url => url
  imageReferenceForLog : String → String := id

structure AppHostingConfig where
  appName : String
  containerName : String
  imagePath : String
  imagePullPolicy : PullPolicy
  /-- The image with registry credentials. -/
  authorizedImage : String
  packageDest : String
  packageTimeout : Timeout
  requiresTwoPhaseStart : Bool
  deviceConfig : DeviceConfig
  deriving DecidableEq

def Pod.appIDs (pod : Pod) : Go.Map String :=
  generateContainerAppIDs pod.uid (pod.containers.map Container.name)

/-! ## Deployment -/

section Deploy

variable (d : XEDriver)

def convertContainer (pod : Pod) (packageDest : String) (container : Container) :
    Except String AppHostingConfig := do
  let appName := pod.appIDs.get "" container.name
  d.networkResource pod container
  let envOpts ← (buildEnvironmentOptions d.listers container.env).mapError
    ("failed to build environment options for container " ++ container.name ++ ": " ++ ·)
  let runOpts ← (distributeRunOpts (baseOpts pod container) envOpts).mapError
    ("failed to distribute RunOpts for container " ++ container.name ++ ": " ++ ·)
  -- Apps of one Pod share one shape of the lifecycle.
  let hasDockerResource := decide (1 < pod.containers.length) || !envOpts.isEmpty
  .ok
    { appName
      containerName := container.name
      imagePath := container.image
      imagePullPolicy := container.imagePullPolicy
      authorizedImage := d.maybeAddAuthToURL pod container.image
      packageDest
      packageTimeout := d.getPackageTimeout pod
      requiresTwoPhaseStart := hasDockerResource
      deviceConfig := { appName, runOpts, start := !hasDockerResource } }

def convertPodToAppConfigs (pod : Pod) : Except String (List AppHostingConfig) := do
  let packageDest ← d.getPackageDest pod
  pod.containers.mapM (convertContainer d pod packageDest)

def acceptedOrAmbiguousAppHostingRPC : Except ClientError Unit → Bool
  | .ok () => true
  | .error err => err.ambiguous

/-- The error of an RPC that was not accepted. -/
def rejection (context : String) (outcome : Except ClientError Unit) : Except String Unit :=
  outcome.mapError fun err => context ++ ": " ++ err.text

def startAndWait (config : AppHostingConfig) : Driver (Except String Unit) := do
  let outcome ← appHostingRPC .start config.appName
  if !acceptedOrAmbiguousAppHostingRPC outcome then
    return rejection ("failed to start app " ++ config.appName) outcome
  else
    let waited ← waitForAppStatuses config.appName config.packageTimeout ["RUNNING"]
    return waited.mapError ("app " ++ config.appName ++ " did not reach RUNNING after start: " ++ ·)

/-- The sequence that apps with a Docker resource and copied images need. -/
def activateAndStart (config : AppHostingConfig) : Driver (Except String Unit) := do
  let outcome ← appHostingRPC .activate config.appName
  if !acceptedOrAmbiguousAppHostingRPC outcome then
    return rejection ("failed to activate app " ++ config.appName) outcome
  else
    match ← waitForAppStatuses config.appName config.packageTimeout ["ACTIVATED", "STOPPED"] with
    | .error err =>
      return .error ("app " ++ config.appName ++
        " did not reach ACTIVATED or STOPPED after activate: " ++ err)
    | .ok () =>
      let outcome ← appHostingRPC .start config.appName
      if !acceptedOrAmbiguousAppHostingRPC outcome then
        return rejection ("failed to start app " ++ config.appName) outcome
      else
        let waited ← waitForAppStatuses config.appName config.packageTimeout ["RUNNING"]
        return waited.mapError ("app " ++ config.appName ++ " did not reach RUNNING: " ++ ·)

/-- What is done for an app whose configuration exists already; nothing if it
has no operational data. -/
def convergeExistingApp (config : AppHostingConfig) : Driver (Option (Except String Unit)) := do
  let obs ← getAppObservation config.appName
  if !obs.valid then
    return some (.error ("cannot reconcile existing app " ++ config.appName ++
      " without a valid device-state observation"))
  else
    match obs.state with
    | "RUNNING" => return some (.ok ())
    | "ACTIVATED" => some <$> startAndWait config
    | "STOPPED" => some <$> startAndWait config
    | "DEPLOYED" => some <$> activateAndStart config
    | "INSTALLING" => do
        match ← waitForAppStatuses config.appName config.packageTimeout ["DEPLOYED"] with
        | .error err =>
          return some (.error ("app " ++ config.appName ++
            " did not reach DEPLOYED while reconciling existing config: " ++ err))
        | .ok () => some <$> activateAndStart config
    | _ =>
      if obs.present then
        return some (.error ("cannot reconcile existing app " ++ config.appName ++
          " in an unsupported device state"))
      else return none

def isRESTCONFDataExists (err : ClientError) : Bool :=
  (err.isStatus 409 && err.hasErrorTag "data-exists") ||
    (contains err.text "409 Conflict" && contains err.text "data-exists")

/-- Copies the image to flash and installs it from there. -/
def copyAndInstall (config : AppHostingConfig) (dest : String) : Driver (Except String Unit) := do
  match ← ask (.copy config.authorizedImage dest) with
  | .error err =>
    return .error ("copy failed for app " ++ config.appName ++ ": copy RPC failed (" ++
      d.imageReferenceForLog config.authorizedImage ++ " -> " ++ d.imageReferenceForLog dest ++
      "): " ++ err.text)
  | .ok () =>
    let outcome ← appHostingRPC .install config.appName dest
    if !acceptedOrAmbiguousAppHostingRPC outcome then
      return rejection ("failed to reinstall app " ++ config.appName ++ " from flash") outcome
    else
      let waited ← waitForAppStatuses config.appName config.packageTimeout ["DEPLOYED"]
      return waited.mapError
        ("app " ++ config.appName ++ " did not reach DEPLOYED after flash install: " ++ ·)

/-- The configuration again, with `start` off. -/
def repost (config : AppHostingConfig) : Driver (Except ClientError Unit) :=
  ask (.postConfig { config.deviceConfig with start := false })

/-- Installs a cached image, and copies it if there is none. -/
def installCached (config : AppHostingConfig) (dest : String) : Driver (Except String Unit) := do
  let outcome ← appHostingRPC .install config.appName dest
  if acceptedOrAmbiguousAppHostingRPC outcome then
    match ← waitForAppStatuses config.appName config.packageTimeout ["DEPLOYED"] with
    | .ok () => return .ok ()
    | .error err =>
      return .error ("accepted cached install did not converge for app " ++ config.appName ++
        "; refusing destructive fallback: " ++ err)
  else
    let _ ← deleteApp config.appName
    match ← repost config with
    | .error err =>
      return .error ("failed to re-post config after cache miss for app " ++ config.appName ++
        ": " ++ err.text)
    | .ok () => copyAndInstall d config dest

def copyFallbackToFlash (config : AppHostingConfig) : Driver (Except String Unit) := do
  let dest :=
    if config.packageDest = "" then "flash:/virtual-kubelet/" ++ config.appName ++ ".tar"
    else config.packageDest
  let _ ← deleteApp config.appName
  match ← repost config with
  | .error err =>
    return .error ("failed to re-post config (Start=false) for app " ++ config.appName ++ ": " ++
      err.text)
  | .ok () =>
    if config.imagePullPolicy = .ifNotPresent then installCached d config dest
    else copyAndInstall d config dest

/-- The device pulls the image itself, or the driver copies it. -/
def awaitPull (config : AppHostingConfig) (state : String) (reached : Driver (Except String Unit)) :
    Driver (Except String Unit) := do
  match ← waitForAppStatuses config.appName config.packageTimeout [state] with
  | .ok () => reached
  | .error _ =>
    match ← copyFallbackToFlash d config with
    | .error err => return .error err
    | .ok () => activateAndStart config

/-- What follows the configuration of a new app. -/
def installAndStart (config : AppHostingConfig) : Driver (Except String Unit) := do
  let outcome ← appHostingRPC .install config.appName config.imagePath
  if !acceptedOrAmbiguousAppHostingRPC outcome then
    return rejection ("failed to install app " ++ config.appName) outcome
  else if config.requiresTwoPhaseStart then
    if d.isHTTPURL config.imagePath then awaitPull d config "DEPLOYED" (activateAndStart config)
    else
      match ← waitForAppStatuses config.appName config.packageTimeout ["DEPLOYED"] with
      | .error err =>
        return .error ("app " ++ config.appName ++
          " did not reach DEPLOYED state for phase 2: " ++ err)
      | .ok () => activateAndStart config
  else if d.isHTTPURL config.imagePath then awaitPull d config "RUNNING" (return .ok ())
  else
    let waited ← waitForAppStatuses config.appName config.packageTimeout ["RUNNING"]
    return waited.mapError
      ("app " ++ config.appName ++ " did not reach RUNNING after flash install: " ++ ·)

def createAppHostingApp (config : AppHostingConfig) : Driver (Except String Unit) := do
  if config.imagePullPolicy = .never && d.isHTTPURL config.imagePath then
    return .error ("app " ++ config.appName ++ ": imagePullPolicy is Never but image is an HTTP " ++
      "URL — image must be pre-loaded on flash")
  else
    match ← ask (.postConfig config.deviceConfig) with
    | .ok () => installAndStart d config
    | .error err =>
      if isRESTCONFDataExists err then
        match ← convergeExistingApp config with
        | some outcome => return outcome
        | none => installAndStart d config
      else
        return .error ("AppHosting config failed for app " ++ config.appName ++ ": " ++ err.text)

/-- Creates the apps in turn; the first failure ends it. -/
def createApps (context : AppHostingConfig → String) :
    List AppHostingConfig → Driver (Except String Unit)
  | [] => return .ok ()
  | config :: configs => do
      match ← createAppHostingApp d config with
      | .error err => return .error (context config ++ ": " ++ err)
      | .ok () => createApps context configs

def deployPod (pod : Pod) : Driver (Except String Unit) :=
  match convertPodToAppConfigs d pod with
  | .error err => return .error ("failed to convert pod to app configs: " ++ err)
  | .ok configs =>
    createApps d (fun config => "failed to deploy app for container " ++ config.containerName)
      configs

end Deploy

/-! ## Discovery -/

section Discovery

variable (pod : Pod)

/-- The name of an app whose name contains the UID of the Pod. -/
def nameWithUID (app : Option App) : Option String :=
  match app.bind App.applicationName with
  | none => none
  | some name => if contains name (cleanUID pod.uid) then some name else none

/-- The container that an app runs for the Pod: the label if the labels are the
Pod's, and else the index in a CVK name. -/
def containerOf (app : App) (appName : String) : String :=
  let identity := podIdentityFromRunOpts app.lines
  let labelled :=
    if identity.namespace = pod.namespace && identity.name = pod.name && identity.uid = pod.uid then
      identity.container
    else ""
  if labelled ≠ "" then labelled
  else
    match parseCVKAppName appName with
    | some (index, _) => "container-" ++ decimal index
    | none => ""

/-- One round of the discovery loop. -/
def discoverApp (found : Go.Map String) (app : Option App) : Go.Map String :=
  match app, stableName app with
  | some app, some appName =>
    if !contains appName (cleanUID pod.uid) then found
    else
      let container := containerOf pod app appName
      if container ≠ "" then found.set container appName else found
  | _, _ => found

def missingContainers (found : Go.Map String) : List String :=
  (pod.containers.map Container.name).filter fun name => (found.find name).isNone

/-- The apps found, and an error if a container has none. -/
def discovered (apps : List (Option App)) : Go.Map String × Option String :=
  let found := apps.foldl (discoverApp pod) ∅
  if found.len ≠ pod.containers.length ∧ missingContainers pod found ≠ [] then
    (found, some ("missing containers: [" ++ String.intercalate " " (missingContainers pod found) ++
      "]"))
  else (found, none)

/-- Apps that only the operational data has, taken in where the configuration
has none. -/
def operApps (oper : OperData) : List (Option App) :=
  (oper.names.filter fun name => contains name (cleanUID pod.uid) && isCVKManagedApp name).map
    operOnlyApp

def getPodContainers : Driver (Go.Map String × Option String) := do
  match ← ask .listApps with
  | .error err => return (∅, some ("failed to list apps: " ++ err.text))
  | .ok apps =>
    if apps.any fun app => (nameWithUID pod app).isSome then return discovered pod apps
    else
      match ← ask .operData with
      | .error _ => return discovered pod apps
      | .ok oper => return discovered pod (apps ++ operApps pod oper)

/-! ## Deletion -/

structure Targets where
  targets : Go.Map String
  seenAppIDs : Multiset String

/-- Adds the app that a container should have, unless it is seen already. -/
def Targets.add (t : Targets) (container : Sigma fun _ : String => String) : Targets :=
  if container.2 ∈ t.seenAppIDs then t
  else ⟨t.targets.set container.1 container.2, container.2 ::ₘ t.seenAppIDs⟩

/-- The targets, with the Pod's own apps visited in the given order. -/
def podDeletionTargets (generated : List (Sigma fun _ : String => String))
    (found : Go.Map String) : Go.Map String :=
  (generated.foldl Targets.add ⟨found, found.entries.map Sigma.snd⟩).targets

def deletionTargets : Driver (Go.Map String) := do
  let (found, _) ← getPodContainers pod
  let generated ← ask (.range pod.appIDs)
  return podDeletionTargets generated.entries found

/-- Deletes the apps in turn and collects the errors. -/
def deleteApps : List (Sigma fun _ : String => String) → Driver (List String)
  | [] => return []
  | ⟨container, appID⟩ :: rest => do
      match ← deleteApp appID with
      | .ok () => deleteApps rest
      | .error err => do
          let errors ← deleteApps rest
          return ("failed to delete container " ++ container ++ " (app " ++ appID ++ "): " ++ err)
            :: errors

def deleteTargets (targets : Go.Map String) : Driver (Except String Unit) := do
  let order ← ask (.range targets)
  let errors ← deleteApps order.entries
  if errors = [] then return .ok ()
  else
    return .error ("encountered " ++ decimal errors.length ++ " errors during pod cleanup: " ++
      String.intercalate "; " errors)

def deletePod : Driver (Except String Unit) := do
  let targets ← deletionTargets pod
  deleteTargets targets

/-! ## Update -/

/-- States from which the apps still come to run by themselves. -/
def healthyStates : List String := ["RUNNING", "ACTIVATED", "DEPLOYED", "INSTALLING"]

def needingRedeploy (oper : OperData) (found : List (Sigma fun _ : String => String)) :
    List String :=
  (found.map Sigma.snd).filter fun appID =>
    match (oper.find appID).bind AppOper.state with
    | none => false
    | some state => !healthyStates.contains state

def deleteEach : List String → Driver Unit
  | [] => return ()
  | appID :: rest => do
      let _ ← deleteApp appID
      deleteEach rest

variable (d : XEDriver)

/-- Deletes the apps and creates those of the Pod's containers again. -/
def redeploy (appIDs : List String) : Driver (Except String Unit) := do
  deleteEach appIDs
  match convertPodToAppConfigs d pod with
  | .error err => return .error ("failed to convert pod to app configs: " ++ err)
  | .ok configs =>
    createApps d (fun config => "UpdatePod: failed to redeploy app " ++ config.appName)
      (configs.filter fun config => appIDs.contains (pod.appIDs.get "" config.containerName))

/-- The operational data; a failed read counts as none. -/
def operDataOrNone : Driver OperData := do
  match ← ask .operData with
  | .error _ => return OperData.empty
  | .ok oper => return oper

def updatePod : Driver (Except String Unit) := do
  if pod.deleting then deletePod pod
  else
    let (found, err) ← getPodContainers pod
    if err.isSome || found.len = 0 then
      let _ ← deletePod pod
      deployPod d pod
    else
      let oper ← operDataOrNone
      let order ← ask (.range found)
      let appIDs := needingRedeploy oper order.entries
      if appIDs = [] then return .ok ()
      else redeploy pod d appIDs

end Discovery

end VirtualKubelet.Drivers.Iosxe
