import Mathlib.Algebra.Order.Ring.Nat

/-!
# What a Pod takes on the Node it moves to

Before a drain the manager checks that another Node has room for the Pod. It
counts the containers, and of the init containers only the largest. Kubernetes
lets a restartable init container run on beside those that come after it, so
its request is added to theirs and to that of the containers.

Quantities are counted in a unit that divides them all.
-/

namespace VirtualKubelet.Rollout.Placement

/-- A loop over such a map that writes only the entry it is at treats each name
for itself. -/
abbrev ResourceList := String → Option Nat

namespace ResourceList

def empty : ResourceList := fun _ => none

/-- `target[name]`, where a missing quantity is zero. -/
def quantity (l : ResourceList) (name : String) : Nat := (l name).getD 0

def add (target source : ResourceList) : ResourceList := fun name =>
  match source name with
  | none => target name
  | some quantity => some (target.quantity name + quantity)

/-- Raises each quantity to that of `source`, if that is larger. -/
def raise (target source : ResourceList) : ResourceList := fun name =>
  match source name with
  | none => target name
  | some quantity => if target.quantity name < quantity then some quantity else target name

theorem quantity_add {target source : ResourceList} :
    (target.add source).quantity name = target.quantity name + source.quantity name := by
  unfold quantity add
  cases source name <;> rfl

theorem quantity_raise {target source : ResourceList} :
    (target.raise source).quantity name = max (target.quantity name) (source.quantity name) := by
  have hsource : source.quantity name = (source name).getD 0 := rfl
  rw [quantity, raise, hsource]
  cases source name with
  | none => exact (Nat.max_zero _).symm
  | some q =>
    dsimp only [Option.getD_some]
    by_cases hlt : target.quantity name < q
    · rw [if_pos hlt, max_eq_right (le_of_lt hlt), Option.getD_some]
    · rw [if_neg hlt, max_eq_left (not_lt.mp hlt), quantity]

end ResourceList

structure Container where
  requests : ResourceList
  /-- An init container with the restart policy `Always`. -/
  restartable : Bool := false

structure PodSpec where
  containers : List Container
  initContainers : List Container := []
  overhead : ResourceList := .empty
  /-- The requests at the level of the Pod. Validation admits them only for the
  resources for which Kubernetes reads them. -/
  resources : Option ResourceList := none

def drainPodRequests (pod : PodSpec) : ResourceList :=
  let requests := (pod.containers.map (·.requests)).foldl ResourceList.add .empty
  let initMax := (pod.initContainers.map (·.requests)).foldl ResourceList.raise .empty
  let requests := (requests.raise initMax).add pod.overhead
  match pod.resources with
  | none => requests
  | some podRequests => requests.raise podRequests

/-! ## What Kubernetes counts -/

section

variable (name : String)

/-- The loop over the init containers: what the restartable ones take so far,
and the most that was taken at any time. -/
def initRequests : List Container → Nat → Nat → Nat × Nat
  | [], running, peak => (running, peak)
  | c :: rest, running, peak =>
    initRequests rest (if c.restartable then running + c.requests.quantity name else running)
      (max peak (running + c.requests.quantity name))

def total (cs : List Container) : Nat := (cs.map fun c => c.requests.quantity name).sum

def effectiveRequest (pod : PodSpec) : Nat :=
  let init := initRequests name pod.initContainers 0 0
  let aggregate := max (total name pod.containers + init.1) init.2
  ((pod.resources.bind fun l => l name).getD aggregate) + pod.overhead.quantity name

def counted (pod : PodSpec) : Nat :=
  max (total name pod.containers) ((pod.initContainers.map fun c => c.requests.quantity name).foldl max 0)

def restartable (cs : List Container) : List Container := cs.filter (·.restartable)

/-- The request of the Pod is as good as counted if that of the Pod itself is,
or comes without overhead; and if there is none, if the containers with all
restartable init containers are, and each init container with the restartable
ones before it. -/
def Covered (pod : PodSpec) : Prop :=
  match pod.resources.bind fun l => l name with
  | some quantity => pod.overhead.quantity name = 0 ∨ quantity ≤ counted name pod
  | none =>
    total name pod.containers + total name (restartable pod.initContainers) ≤ counted name pod ∧
    ∀ before c after, pod.initContainers = before ++ c :: after →
      total name (restartable before) + c.requests.quantity name ≤ counted name pod

end

section

variable {name : String} {cs : List Container} {running peak bound : Nat}

theorem quantity_foldl_add {ls : List ResourceList} :
    (ls.foldl ResourceList.add target).quantity name =
      target.quantity name + (ls.map (·.quantity name)).sum := by
  induction ls generalizing target with
  | nil => rfl
  | cons l rest ih =>
    rw [List.foldl_cons, ih, ResourceList.quantity_add, List.map_cons, List.sum_cons, Nat.add_assoc]

theorem quantity_foldl_raise {ls : List ResourceList} :
    (ls.foldl ResourceList.raise target).quantity name =
      (ls.map (·.quantity name)).foldl max (target.quantity name) := by
  induction ls generalizing target with
  | nil => rfl
  | cons l rest ih =>
    rw [List.foldl_cons, ih, ResourceList.quantity_raise, List.map_cons, List.foldl_cons]

theorem quantity_drainPodRequests : (drainPodRequests pod).quantity name =
    max (counted name pod + pod.overhead.quantity name)
      ((pod.resources.bind fun l => l name).getD 0) := by
  have hnone : ResourceList.empty.quantity name = 0 := rfl
  unfold drainPodRequests counted total
  cases pod.resources with
  | none =>
    simp only [ResourceList.quantity_add, ResourceList.quantity_raise, quantity_foldl_add,
      quantity_foldl_raise, hnone, List.map_map]
    simp [Function.comp_def]
  | some l =>
    simp only [ResourceList.quantity_add, ResourceList.quantity_raise, quantity_foldl_add,
      quantity_foldl_raise, hnone, List.map_map]
    simp [Function.comp_def, ResourceList.quantity]

theorem initRequests_running :
    (initRequests name cs running peak).1 = running + total name (restartable cs) := by
  induction cs generalizing running peak with
  | nil => rfl
  | cons c rest ih =>
    rw [initRequests, ih]
    cases hc : c.restartable <;> simp [restartable, total, hc, Nat.add_assoc]

/-- The peak stays below a bound if every init container does, with what runs
beside it. -/
theorem initRequests_peak : (initRequests name cs running peak).2 ≤ bound ↔ peak ≤ bound ∧
    ∀ before c after, cs = before ++ c :: after →
      running + total name (restartable before) + c.requests.quantity name ≤ bound := by
  induction cs generalizing running peak with
  | nil => simp [initRequests]
  | cons c rest ih =>
    have hnext : ∀ before, (if c.restartable then running + c.requests.quantity name else running) +
        total name (restartable before) = running + total name (restartable (c :: before)) := by
      intro before
      cases hc : c.restartable <;> simp [restartable, total, hc, Nat.add_assoc]
    simp only [initRequests, ih, hnext, max_le_iff, and_assoc]
    refine and_congr_right fun _ => ⟨?_, ?_⟩
    · rintro ⟨hfirst, hrest⟩ before c' after heq
      cases before with
      | nil =>
        cases heq
        exact hfirst
      | cons b before =>
        cases heq
        exact hrest before c' after rfl
    · intro h
      exact ⟨h [] c rest rfl, fun before c' after heq => h (c :: before) c' after (by rw [heq]; rfl)⟩

/-- For every Pod and every resource: the manager counts at least the effective
request exactly if the restartable init containers are covered. -/
theorem pod_requests_covered_iff (pod : PodSpec) (name : String) :
    effectiveRequest name pod ≤ (drainPodRequests pod).quantity name ↔ Covered name pod := by
  rw [quantity_drainPodRequests]
  unfold effectiveRequest Covered
  dsimp only
  cases pod.resources.bind fun l => l name with
  | some q =>
    dsimp only [Option.getD_some]
    omega
  | none =>
    have hpeak := @initRequests_peak name pod.initContainers 0 0 (counted name pod)
    simp only [Nat.zero_le, true_and, Nat.zero_add] at hpeak
    simp only [Option.getD_none, Nat.max_zero, Nat.add_le_add_iff_right, max_le_iff,
      initRequests_running, Nat.zero_add, hpeak]

/-- A container with a sidecar: each takes one, the Pod takes two, and one is
counted. -/
theorem sidecar_not_counted :
    let cpu : ResourceList := fun name => if name = "cpu" then some 1 else none
    let pod : PodSpec := { containers := [⟨cpu, false⟩], initContainers := [⟨cpu, true⟩] }
    (drainPodRequests pod).quantity "cpu" = 1 ∧ effectiveRequest "cpu" pod = 2 :=
  ⟨rfl, rfl⟩

end

end VirtualKubelet.Rollout.Placement
