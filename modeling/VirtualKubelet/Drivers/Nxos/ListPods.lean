import VirtualKubelet.Drivers.Nxos.Deletion

/-!
# The Pods an NX-OS device has

`ListPods` collects the containers of a Pod in the order in which the device
lists their apps, and looks each app up under the name that
`GenerateContainerAppIDs` makes of its place. That is the container's own app
only if the apps are listed by their indices, with none missing.
-/

namespace VirtualKubelet.Drivers.Nxos

open Go

structure ListedApp where
  id : String := ""
  state : String := ""
  image : String := ""
  ipv4 : String := ""
  runOpts : List String := []
  containerName : String := ""

/-- What `listApps` and `appDetail` return; `none` is an error. -/
structure DeviceApps where
  listed : List ListedApp
  appDetail : String → Option ListedApp

/-- With the app it was found as, which `v1.Container` does not keep. -/
structure ListedContainer where
  name : String
  image : String
  app : String

structure ListedPod where
  «namespace» : String
  name : String
  uid : String
  containers : List ListedContainer := []

def ListedPod.names (pod : ListedPod) : List String := pod.containers.map (·.name)

/-- One app in the first loop of `ListPods`. -/
def DeviceApps.addApp (d : DeviceApps) (pods : Go.Map ListedPod) (listed : ListedApp) :
    Go.Map ListedPod :=
  if !isCVKManagedApp listed.id || !(validateAppID listed.id).isOk then pods
  else
    let app := (d.appDetail listed.id).getD listed
    let identity := podIdentityFromRunOpts app.runOpts
    if identity.namespace = "" || identity.name = "" then pods
    else
      let key := identity.namespace ++ "/" ++ identity.name
      let pod := pods.get ⟨identity.namespace, identity.name, identity.uid, []⟩ key
      let container := seenOr (seenOr identity.container app.containerName) app.id
      pods.set key { pod with containers := pod.containers ++ [⟨container, app.image, listed.id⟩] }

inductive ContainerState
  | running
  | waiting (message : String)
  | terminated
  deriving DecidableEq

structure ContainerStatus where
  name : String
  image : String
  containerID : String
  state : ContainerState

def containerState (state : String) : ContainerState :=
  if state = "RUNNING" then .running
  else if state ∈ ["DEPLOYED", "ACTIVATED", "INSTALLING"] then .waiting ("App state: " ++ state)
  else if state ∈ ["STOPPED", "UNINSTALLED"] then .terminated
  else .waiting "Waiting for NX-OS app-hosting state"

def containerStatus (c : ListedContainer) (app : ListedApp) : ContainerStatus where
  name := c.name
  image := c.image
  containerID := "cisco-nxos://" ++ app.id
  state := containerState app.state

structure PodStatus where
  running : Bool
  ready : Bool
  podIP : String
  containerStatuses : List ContainerStatus

def setPodStatus (pod : ListedPod) (observed : String → ListedApp) : PodStatus :=
  let states := pod.containers.map fun c => containerState (observed c.name).state
  let running := pod.containers.filter fun c => containerState (observed c.name).state = .running
  { running := !running.isEmpty
    ready := !running.isEmpty && states.all (· = .running)
    podIP := ((running.map fun c => (observed c.name).ipv4).find? (· ≠ "")).getD "0.0.0.0"
    containerStatuses := pod.containers.map fun c => containerStatus c (observed c.name) }

def DeviceApps.pods (d : DeviceApps) : Go.Map ListedPod := d.listed.foldl d.addApp ∅

/-- The app that is looked up for the containers of a name. -/
def ListedPod.appID (pod : ListedPod) (container : String) : String :=
  (generateContainerAppIDs pod.uid pod.names).get "" container

/-- What `ListPods` reports of a Pod. -/
def DeviceApps.status (d : DeviceApps) (pod : ListedPod) : PodStatus :=
  setPodStatus pod fun container => (d.appDetail (pod.appID container)).getD {}

/-- Of the containers with one name, each is the app whose index is the place of the last. -/
def ListedPod.Numbered (pod : ListedPod) : Prop :=
  ∀ i, ∀ c ∈ pod.containers, pod.names[i]? = some c.name →
    (∀ j, i < j → pod.names[j]? ≠ some c.name) → c.app = getAppHostingName pod.uid (Int8.ofNat i)

/-- The status of every container is that of its own app, exactly if the apps of every Pod are
listed by their indices. -/
theorem status_of_own_app_iff (d : DeviceApps) :
    (∀ key pod, d.pods.find key = some pod → (d.status pod).containerStatuses =
        pod.containers.map (fun c => containerStatus c ((d.appDetail (pod.appID c.name)).getD {})) ∧
      ∀ c ∈ pod.containers, pod.appID c.name = c.app) ↔
    ∀ key pod, d.pods.find key = some pod → pod.Numbered := by
  have hown : ∀ pod : ListedPod, (∀ c ∈ pod.containers, pod.appID c.name = c.app) ↔ pod.Numbered := by
    intro pod
    constructor
    · intro h i c hc hi hlast
      obtain ⟨i', hi', hlast', hget⟩ := generate_last pod.uid (List.mem_map_of_mem hc)
      have hsame : i' = i := by
        rcases lt_trichotomy i' i with hlt | heq | hgt
        · exact absurd hi (hlast' i hlt)
        · exact heq
        · exact absurd hi' (hlast i' hgt)
      rw [← h c hc, ListedPod.appID, ListedPod.names, Map.get, hget, hsame]
      rfl
    · intro h c hc
      obtain ⟨i, hi, hlast, hget⟩ := generate_last pod.uid (List.mem_map_of_mem hc)
      rw [h i c hc hi hlast, ListedPod.appID, ListedPod.names, Map.get, hget]
      rfl
  constructor
  · intro h key pod hpod
    exact (hown pod).mp (h key pod hpod).2
  · intro h key pod hpod
    exact ⟨rfl, (hown pod).mpr (h key pod hpod)⟩

/-- The app of the second container is listed first. -/
def swapped : DeviceApps :=
  let app (index : Int8) (container state : String) : ListedApp := {
    id := getAppHostingName "5e9f0c7d-a1b8-4e6f-9c2d-3b4a5c6d7e8f" index
    state
    runOpts := ["--label io.kubernetes.pod.name=web --label io.kubernetes.pod.namespace=shop " ++
      "--label io.kubernetes.pod.uid=5e9f0c7d-a1b8-4e6f-9c2d-3b4a5c6d7e8f " ++
      "--label io.kubernetes.container.name=" ++ container] }
  let apps := [app 1 "db" "STOPPED", app 0 "web" "RUNNING"]
  ⟨apps, fun id => apps.find? (·.id = id)⟩

/-- The stopped container is reported as running. -/
theorem status_of_other_app : (swapped.pods.find "shop/web").map
    (fun pod => (swapped.status pod).containerStatuses.map fun s => (s.name, s.state)) =
      some [("db", .running), ("web", .terminated)] := by
  decide +kernel

end VirtualKubelet.Drivers.Nxos
