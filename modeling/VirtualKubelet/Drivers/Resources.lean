import Mathlib.Algebra.Group.Nat.Defs
import VirtualKubelet.Go.Checks

/-!
# The resources of an app

Both drivers turn the requests of a container into numbers of 16 bits. NX-OS
rounds up and refuses what does not fit. IOS-XE rounds memory and disk down and
cuts off what does not fit.
-/

namespace VirtualKubelet.Drivers

open Go

/-- A `resource.Quantity`, which is at most `2 ^ 63 - 1` units. -/
structure Quantity where
  nanos : Nat
  /-- What `MilliValue` returns where the number does not fit into an `int64`. -/
  wrapped : Int := 0
  capped : nanos ≤ (2 ^ 63 - 1) * 1000000000 := by decide

namespace Quantity

def value (q : Quantity) : Nat := (q.nanos + 999999999) / 1000000000

def milliValue (q : Quantity) : Int :=
  if q.nanos ≤ (2 ^ 63 - 1) * 1000000 then (q.nanos + 999999) / 1000000 else q.wrapped

/-- A quantity that is zero or missing leaves the default. -/
def orDefault {α : Type} (q : Quantity) (default given : α) : α :=
  if q.nanos = 0 then default else given

/-- `(q.MilliValue() + 999) / 1000` of an `int64`. -/
def roundedVCPU (q : Quantity) : Int := ((q.milliValue + 999).bmod (2 ^ 64)).tdiv 1000

end Quantity

/-- The requests of a container and its CPU limit. What is missing counts as zero. -/
structure Resources where
  cpu : Quantity
  memory : Quantity
  storage : Quantity
  cpuLimit : Quantity

structure ResourceConfig where
  cpuUnits : Nat
  memoryMB : Nat
  diskMB : Nat
  vcpu : Nat
  deriving DecidableEq

/-- The conversion of an `int64` to `uint16`. -/
def uint16 (n : Int) : Nat := (n % 65536).toNat

def bytesPerMiB : Nat := 1048576

def Iosxe.getResourceConfig (r : Resources) : ResourceConfig where
  cpuUnits := r.cpu.orDefault 1000 (uint16 r.cpu.milliValue)
  memoryMB := r.memory.orDefault 512 (uint16 (r.memory.value / bytesPerMiB))
  diskMB := r.storage.orDefault 1024 (uint16 (r.storage.value / bytesPerMiB))
  vcpu := r.cpuLimit.orDefault 1 (max 1 (uint16 r.cpuLimit.roundedVCPU))

namespace Nxos

def nxosUint16Resource (name : String) (value : Int) : Except String Nat :=
  if value < 0 then .error (name ++ " must be non-negative, got " ++ toString value)
  else if 65535 < value then
    .error (name ++ " " ++ toString value ++ " exceeds NX-OS app-hosting maximum 65535")
  else .ok value.toNat

/-- No quantity here is negative. -/
def nxosMiBResource (name : String) (bytes : Nat) : Except String Nat :=
  nxosUint16Resource name
    (if bytes % bytesPerMiB ≠ 0 then bytes / bytesPerMiB + 1 else bytes / bytesPerMiB)

def nxosVCPUResource (name : String) (q : Quantity) : Except String Nat :=
  if q.milliValue < 0 then
    .error (name ++ " must be non-negative, got " ++ toString q.milliValue ++ " milli-cores")
  else nxosUint16Resource name (max 1 q.roundedVCPU)

def getResourceConfig (r : Resources) : Except String ResourceConfig := do
  let cpuUnits ← r.cpu.orDefault (.ok 1000)
    (nxosUint16Resource "cpu request milli-units" r.cpu.milliValue)
  let memoryMB ← r.memory.orDefault (.ok 512) (nxosMiBResource "memory request MiB" r.memory.value)
  let diskMB ← r.storage.orDefault (.ok 1024)
    (nxosMiBResource "ephemeral-storage request MiB" r.storage.value)
  let vcpu ← r.cpuLimit.orDefault (.ok 1) (nxosVCPUResource "cpu limit rounded vcpu" r.cpuLimit)
  if 1 < vcpu then .error ("NX-OS app-hosting on this transport does not support vcpu reservation; " ++
    "use CPU requests to reserve cpu units")
  else pure { cpuUnits, memoryMB, diskMB, vcpu }

end Nxos

/-- The configuration has at least what is asked for. -/
structure Covers (r : Resources) (c : ResourceConfig) : Prop where
  cpu : r.cpu.nanos ≤ c.cpuUnits * 1000000
  memory : r.memory.nanos ≤ c.memoryMB * bytesPerMiB * 1000000000
  storage : r.storage.nanos ≤ c.diskMB * bytesPerMiB * 1000000000
  vcpu : r.cpuLimit.nanos ≤ c.vcpu * 1000000000

/-- Whole MiB that fit into 16 bits. -/
def Quantity.WholeMiB (q : Quantity) : Prop :=
  q.value % bytesPerMiB = 0 ∧ q.value ≤ 65535 * bytesPerMiB

variable {q : Quantity}

theorem cpu_covered_iff : q.nanos ≤ q.orDefault 1000 (uint16 q.milliValue) * 1000000 ↔
    q.nanos ≤ 65535000000 := by
  unfold Quantity.orDefault uint16 Quantity.milliValue
  split_ifs <;> omega

theorem memory_covered_iff (size : Nat) :
    q.nanos ≤ q.orDefault size (uint16 (q.value / bytesPerMiB)) * bytesPerMiB * 1000000000 ↔
      q.WholeMiB := by
  unfold Quantity.WholeMiB Quantity.orDefault uint16 Quantity.value bytesPerMiB
  split_ifs <;> omega

theorem roundedVCPU_eq (h : q.nanos ≤ 65535000000000) :
    q.roundedVCPU = ((q.nanos + 999999999) / 1000000000 : Nat) := by
  unfold Quantity.roundedVCPU Quantity.milliValue
  rw [if_pos (by omega), Int.bmod_eq_of_le (by omega) (by omega),
    Int.tdiv_eq_ediv_of_nonneg (by omega)]
  omega

theorem vcpu_covered_iff : q.nanos ≤ q.orDefault 1 (max 1 (uint16 q.roundedVCPU)) * 1000000000 ↔
    q.nanos ≤ 65535000000000 := by
  unfold Quantity.orDefault uint16
  constructor
  · intro h
    generalize q.roundedVCPU = n at h
    split_ifs at h <;> omega
  · intro h
    rw [roundedVCPU_eq h]
    split_ifs <;> omega

namespace Nxos

theorem nxosUint16Resource_ok (h : nxosUint16Resource name v = .ok n) : v.toNat = n := by
  unfold nxosUint16Resource at h
  split_ifs at h
  exact Except.ok.inj h

theorem cpu_covers (h : q.orDefault (.ok units) (nxosUint16Resource name q.milliValue) = .ok n)
    (hsmall : q.nanos ≤ 65535000000) : q.nanos ≤ n * 1000000 := by
  rw [Quantity.milliValue, if_pos (by omega)] at h
  unfold Quantity.orDefault at h
  split at h
  · omega
  · have hn := nxosUint16Resource_ok h
    omega

theorem memory_covers (h : q.orDefault (.ok size) (nxosMiBResource name q.value) = .ok n) :
    q.nanos ≤ n * bytesPerMiB * 1000000000 := by
  unfold Quantity.orDefault at h
  split at h
  · omega
  · have hn := nxosUint16Resource_ok h
    unfold Quantity.value bytesPerMiB at hn
    unfold bytesPerMiB
    split_ifs at hn <;> omega

theorem vcpu_covers (h : q.orDefault (.ok 1) (nxosVCPUResource name q) = .ok n)
    (hsmall : q.nanos ≤ 65535000000000) : q.nanos ≤ n * 1000000000 := by
  unfold Quantity.orDefault nxosVCPUResource at h
  rw [roundedVCPU_eq hsmall] at h
  split_ifs at h
  · omega
  · have hn := nxosUint16Resource_ok h
    omega

theorem getResourceConfig_covers (h : getResourceConfig r = .ok c)
    (hcpu : r.cpu.nanos ≤ 65535000000) (hlimit : r.cpuLimit.nanos ≤ 65535000000000) :
    Covers r c := by
  simp only [getResourceConfig, bind_ok] at h
  obtain ⟨cpuUnits, hunits, memoryMB, hmemory, diskMB, hdisk, vcpu, hvcpu, hconfig⟩ := h
  split at hconfig
  · cases hconfig
  obtain rfl := Except.ok.inj hconfig
  exact ⟨cpu_covers hunits hcpu, memory_covers hmemory, memory_covers hdisk,
    vcpu_covers hvcpu hlimit⟩

end Nxos

/-- Neither driver configures less than is asked for, for exactly these containers. -/
theorem resources_covered_iff (r : Resources) :
    (Covers r (Iosxe.getResourceConfig r) ∧
      ∀ c, Nxos.getResourceConfig r = .ok c → Covers r c) ↔
    r.cpu.nanos ≤ 65535000000 ∧ r.memory.WholeMiB ∧ r.storage.WholeMiB ∧
      r.cpuLimit.nanos ≤ 65535000000000 := by
  constructor
  · rintro ⟨h, -⟩
    exact ⟨cpu_covered_iff.mp h.cpu, (memory_covered_iff 512).mp h.memory,
      (memory_covered_iff 1024).mp h.storage, vcpu_covered_iff.mp h.vcpu⟩
  · rintro ⟨hcpu, hmemory, hstorage, hlimit⟩
    exact ⟨⟨cpu_covered_iff.mpr hcpu, (memory_covered_iff 512).mpr hmemory,
      (memory_covered_iff 1024).mpr hstorage, vcpu_covered_iff.mpr hlimit⟩,
      fun c h => Nxos.getResourceConfig_covers h hcpu hlimit⟩

/-- For 66 cores IOS-XE configures 464 units, and for half a MiB no memory. -/
theorem requests_cut_off :
    let r : Resources := ⟨{ nanos := 66000000000 }, { nanos := 524288000000000 }, { nanos := 0 },
      { nanos := 0 }⟩
    Iosxe.getResourceConfig r = ⟨464, 0, 1024, 1⟩ ∧ ¬Covers r (Iosxe.getResourceConfig r) :=
  ⟨by decide, fun h => absurd h.cpu (by decide)⟩

end VirtualKubelet.Drivers
