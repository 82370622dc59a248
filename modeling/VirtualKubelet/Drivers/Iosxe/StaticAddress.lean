import VirtualKubelet.Drivers.Iosxe.RunOpts

/-!
# Static addresses of IOS-XE apps

Without DHCP the first container of a Pod gets a guest address computed from
the `podCIDR` alone. So all Pods of a device share it, and whether it can be
used depends on the prefix length.
-/

namespace VirtualKubelet.Drivers.Iosxe

/-- An IPv4 `net.IPNet` as `net.ParseCIDR` returns it: the host bits are zero. Addresses are
numbers here; the code has their dotted texts, none of which is empty. -/
structure IPNet where
  ip : Nat
  ones : Nat
  ones_le : ones ≤ 32
  masked : 2 ^ (32 - ones) ∣ ip

namespace IPNet

def hostBits (n : IPNet) : Nat := 32 - n.ones

def mask (n : IPNet) : Nat := 2 ^ 32 - 2 ^ n.hostBits

def broadcast (n : IPNet) : Nat := n.ip + (2 ^ n.hostBits - 1)

/-- An address of the network that a guest may have. -/
def Usable (n : IPNet) (a : Nat) : Prop :=
  a / 2 ^ n.hostBits = n.ip / 2 ^ n.hostBits ∧ a ≠ n.ip ∧ a ≠ n.broadcast

/-- `getIPForContainer`: the sum is one of bytes. -/
def getIPForContainer (n : IPNet) (containerIndex : Nat) : Nat :=
  n.ip / 256 * 256 + (n.ip % 256 + (10 + containerIndex)) % 256

end IPNet

inductive AppGigMode
  | access
  | trunk
  | other (mode : String)

/-- `XEInterfaceConfig` by its type. A missing block reads as DHCP, or as an empty mode. Without a
VLAN no rule carries an address, so that the other `dhcp` of the ports is left out. -/
inductive Interface
  | virtualPortGroup (dhcp : Bool)
  | appGigabitEthernet (mode : AppGigMode) (vlan : Nat) (dhcp : Bool)
  | management (dhcp : Bool)
  | other (type : String)

/-- The part of the device configuration that the addresses depend on. -/
structure NetworkSpec where
  podCIDR : String
  interface : Option Interface
  /-- `net.ParseCIDR`; an IPv6 network is `none`. -/
  parseCIDR : String → Except String (Option IPNet)

namespace NetworkSpec

variable (d : NetworkSpec) (pod : Pod) (container : Container)

def getContainerIndex : Nat :=
  let i := pod.containers.findIdx (·.name == container.name)
  if i < pod.containers.length then i else 0

/-- The address and its mask, where there are both. -/
def allocateIPForContainer : Except String (Option (Nat × Nat)) :=
  if d.podCIDR = "" then .error "podCIDR is empty"
  else match d.parseCIDR d.podCIDR with
    | .error err => .error ("invalid podCIDR: " ++ err)
    | .ok net =>
      if getContainerIndex pod container ≠ 0 then .ok none
      else .ok (net.map fun n => (n.getIPForContainer 0, n.mask))

/-- The error of the allocation is kept and never looked at. -/
def staticAddress : Except String (Option (Nat × Nat)) :=
  let address := (d.allocateIPForContainer pod container).toOption.join
  if getContainerIndex pod container = 0 ∧ address = none then
    .error "podCIDR is required to allocate IPs when dhcp=false"
  else .ok address

/-- The guest address that `ConvertPodToAppConfigs` configures for a container. -/
def guestAddress : Except String (Option (Nat × Nat)) :=
  let assign (useDHCP : Bool) := if useDHCP then .ok none else d.staticAddress pod container
  match d.interface with
  | none => .ok none
  | some (.virtualPortGroup dhcp) => assign dhcp
  | some (.management dhcp) => assign dhcp
  | some (.appGigabitEthernet (.other mode) _ _) =>
    .error ("unsupported AppGigabitEthernet mode: " ++ mode)
  | some (.appGigabitEthernet _ vlan dhcp) => if vlan = 0 then .ok none else assign dhcp
  | some (.other type) => .error ("unsupported interface type: " ++ type)

def guestAddresses : Except String (List (Option (Nat × Nat))) :=
  pod.containers.mapM (d.guestAddress pod)

/-- The interface is configured without DHCP. -/
def Static : Prop :=
  match d.interface with
  | some (.virtualPortGroup dhcp) => dhcp = false
  | some (.management dhcp) => dhcp = false
  | some (.appGigabitEthernet .access vlan dhcp) => vlan ≠ 0 ∧ dhcp = false
  | some (.appGigabitEthernet .trunk vlan dhcp) => vlan ≠ 0 ∧ dhcp = false
  | _ => False

end NetworkSpec

theorem IPNet.usable_iff (n : IPNet) : n.Usable (n.getIPForContainer 0) ↔ n.ones ≤ 28 := by
  have hle := n.ones_le
  obtain ⟨q, hq⟩ := n.masked
  simp only [Usable, broadcast, getIPForContainer, hostBits]
  by_cases h : n.ones ≤ 28
  · -- the last byte is a multiple of 16, so that the sum has no carry
    obtain ⟨k, hk⟩ : ∃ k, 32 - n.ones = k + 4 := ⟨28 - n.ones, by omega⟩
    have hpos := Nat.one_le_two_pow (n := k)
    have hpow : 2 ^ (32 - n.ones) = 16 * 2 ^ k := by rw [hk, Nat.pow_add, Nat.mul_comm]
    have hsum : n.ip / 256 * 256 + (n.ip % 256 + (10 + 0)) % 256 = n.ip + 10 := by
      rw [hpow, Nat.mul_assoc] at hq
      omega
    have hdiv : (n.ip + 10) / 2 ^ (32 - n.ones) = n.ip / 2 ^ (32 - n.ones) := by
      rw [hq, Nat.mul_add_div (by omega), Nat.div_eq_of_lt (by omega), Nat.mul_div_right _ (by omega)]
      rfl
    rw [hsum]
    omega
  · obtain h | h | h | h : n.ones = 29 ∨ n.ones = 30 ∨ n.ones = 31 ∨ n.ones = 32 := by omega
    all_goals
      simp only [h, Nat.reduceSub, Nat.reducePow] at hq ⊢
      omega

namespace NetworkSpec

variable {d : NetworkSpec} {n : IPNet}

theorem guestAddress_static (hstatic : d.Static) (hne : d.podCIDR ≠ "")
    (hcidr : d.parseCIDR d.podCIDR = .ok (some n)) (pod : Pod) (c : Container) :
    d.guestAddress pod c = pure (if getContainerIndex pod c = 0 then
      some (n.getIPForContainer 0, n.mask) else none) := by
  have hassign : d.staticAddress pod c = pure (if getContainerIndex pod c = 0 then
      some (n.getIPForContainer 0, n.mask) else none) := by
    by_cases h : getContainerIndex pod c = 0 <;>
      simp [staticAddress, allocateIPForContainer, hne, hcidr, h, Except.toOption, pure, Except.pure]
  unfold Static at hstatic
  unfold guestAddress
  split at hstatic <;> simp_all

/-- Every Pod gets the same address, and it is usable up to a prefix length of 28. -/
theorem static_addresses (hstatic : d.Static) (hne : d.podCIDR ≠ "")
    (hcidr : d.parseCIDR d.podCIDR = .ok (some n)) :
    (∀ pod : Pod, pod.containers ≠ [] → ∃ rest,
      d.guestAddresses pod = .ok (some (n.getIPForContainer 0, n.mask) :: rest)) ∧
    (n.Usable (n.getIPForContainer 0) ↔ n.ones ≤ 28) := by
  refine ⟨fun pod hpod => ?_, n.usable_iff⟩
  obtain ⟨c, cs, hcs⟩ := List.exists_cons_of_ne_nil hpod
  have hfirst : getContainerIndex pod c = 0 := by
    simp [getContainerIndex, hcs, List.findIdx_cons]
  have hall := funext (guestAddress_static hstatic hne hcidr pod)
  rw [guestAddresses, hall, List.mapM_pure, hcs, List.map_cons, if_pos hfirst]
  exact ⟨_, rfl⟩

/-- `10.0.0.0/30` -/
def smallNet : IPNet := ⟨167772160, 30, by decide, by decide⟩

def smallSpec : NetworkSpec where
  podCIDR := "10.0.0.0/30"
  interface := some (.virtualPortGroup false)
  parseCIDR := fun _ => .ok (some smallNet)

def smallPod (uid : String) : Pod := ⟨"default", "web", uid, [⟨"app", [], "", .always⟩], false⟩

/-- Two Pods get `10.0.0.10`, which is not even in the network. -/
theorem small_network_address :
    smallSpec.guestAddresses (smallPod "1") = .ok [some (167772170, smallNet.mask)] ∧
    smallSpec.guestAddresses (smallPod "2") = .ok [some (167772170, smallNet.mask)] ∧
    ¬smallNet.Usable 167772170 :=
  ⟨rfl, rfl, fun h => absurd h.1 (by decide)⟩

theorem small_network_static : ∃ rest, smallSpec.guestAddresses (smallPod "1") =
    .ok (some (smallNet.getIPForContainer 0, smallNet.mask) :: rest) :=
  (static_addresses (d := smallSpec) rfl (by decide) rfl).1 _ (by simp [smallPod])

end NetworkSpec

end VirtualKubelet.Drivers.Iosxe
