import VirtualKubelet.Proofs.WriterPrune

/-!
# What a scoped prune deletes

`mem_pruned` says it for every writer: the keys read back from the entries of
the kept keys, less the desired ones. Where reading back gives the kept keys
again, these are the observed keys that are owned and not desired, and the two
theorems say that nothing else does.
-/

namespace VirtualKubelet.Config

open Go

namespace PruneWriter

variable [Formatting] {w : PruneWriter}

/-- The key a writer reads from the entry rebuilt from a key. -/
def reads : PruneWriter → String → Option String
  | keyedList w => stubKey w.keyField
  | nestedKeyedList w => stubKey w.base.keyField
  | vlan _ => some
  | dhcp _ => DHCPWriter.reads
  | nxosVLAN => some

/-- `PruneDiff` can read the desired block and is willing to prune what was
kept. -/
def Accepts : PruneWriter → Value → List String → Prop
  | keyedList w, desired, _ => w.Accepts desired
  | nestedKeyedList w, desired, _ => w.base.Accepts desired
  | vlan _, desired, _ => VLANWriter.Accepts desired
  | dhcp _, desired, _ => DHCPWriter.Accepts desired
  | nxosVLAN, desired, kept => NXOS.Accepts desired kept

/-- A family's writer that prunes as this one and does anything else in its own
way. -/
def sectionWriter (w : PruneWriter) (other : SectionWriter) : SectionWriter :=
  { other with pruneDiff := some w.pruneDiff, keysOf := some w.keysOf }

/-- The prune half of a family's plan under `pruneOnRelinquish`. -/
def pruned (w : PruneWriter) (family : String) (res : ResolvedIntent) (other : SectionWriter)
    (desired observed : Value) : List Op :=
  match Engine.pruneOps family { res with pruneOnRelinquish := true } (w.sectionWriter other)
      desired observed with
  | .ok ops => ops
  | .error _ => []

def kept (w : PruneWriter) (desired observed : Value) (owned : List String) : List String :=
  Engine.scopedKeys (w.keysOf observed) (w.keysOf desired) owned

theorem mem_kept :
    k ∈ w.kept desired observed owned ↔
      k ∈ w.keysOf observed ∧ (k ∈ owned ∨ k ∈ w.keysOf desired) := by
  rw [kept, Engine.scopedKeys, List.mem_eraseDups, List.mem_filter]
  simp

theorem pruned_eq (family : String) (res : ResolvedIntent) (other : SectionWriter)
    (desired observed : Value) : w.pruned family res other desired observed =
      opsOf (w.pruneDiff desired
        (Engine.scopeObservedToOwned w.keysOf observed desired (res.ownedKeys family))) := by
  have howned : ({ res with pruneOnRelinquish := true } : ResolvedIntent).ownedKeys family =
      res.ownedKeys family := rfl
  cases hprune : w.pruneDiff desired
      (Engine.scopeObservedToOwned w.keysOf observed desired (res.ownedKeys family)) with
  | error err | ok ops => simp [pruned, Engine.pruneOps, sectionWriter, howned, hprune, opsOf]

omit [Formatting] in
theorem exists_ids (h : ∀ k ∈ ks, ∃ id : Int64, decimal id.toInt = k) :
    ∃ ids : List Int64, ids.map (fun id => decimal id.toInt) = ks := by
  induction ks with
  | nil => exact ⟨[], rfl⟩
  | cons k rest ih =>
    obtain ⟨id, hid⟩ := h k (List.mem_cons_self ..)
    obtain ⟨ids, hids⟩ := ih fun k' hk' => h k' (List.mem_cons_of_mem _ hk')
    exact ⟨id :: ids, by rw [List.map_cons, hid, hids]⟩

omit [Formatting] in
theorem exists_decimal {ids : List Int64} {ks : List String} {op : Op} {f : String → Op} :
    (∃ id ∈ ids, decimal id.toInt ∉ ks ∧ op = f (decimal id.toInt)) ↔
      ∃ k ∉ ks, (∃ k₀ ∈ ids.map fun id => decimal id.toInt, some k₀ = some k) ∧ op = f k := by
  constructor
  · rintro ⟨id, hid, hnot, rfl⟩
    exact ⟨_, hnot, ⟨_, List.mem_map.mpr ⟨id, hid, rfl⟩, rfl⟩, rfl⟩
  · rintro ⟨k, hnot, ⟨k₀, hk₀, hread⟩, rfl⟩
    obtain rfl := Option.some.inj hread
    obtain ⟨id, hid, rfl⟩ := List.mem_map.mp hk₀
    exact ⟨id, hid, hnot, rfl⟩

theorem mem_pruneDiff_stubs {desired : Value} {ks : List String} {op : Op}
    (h : ∀ k ∈ ks, ∃ v, k ∈ w.keysOf v) :
    op ∈ opsOf (w.pruneDiff desired (.maps (ks.map Engine.stubEntryFromKey))) ↔
      w.Accepts desired ks ∧
        ∃ k ∉ w.keysOf desired, (∃ k₀ ∈ ks, w.reads k₀ = some k) ∧ op = w.deleteOp k := by
  cases w with
  | keyedList w =>
    show op ∈ opsOf (w.pruneDiff desired _) ↔ _
    rw [KeyedListWriter.mem_pruneDiff rfl]
    simp only [KeyedListWriter.mem_keysIn_stubs]
    rfl
  | nestedKeyedList w =>
    show op ∈ opsOf (w.pruneDiff desired _) ↔ _
    rw [NestedKeyedListWriter.pruneDiff_plain, KeyedListWriter.mem_pruneDiff rfl]
    · simp only [KeyedListWriter.mem_keysIn_stubs]
      rfl
    · intro list hlist e he k _
      obtain rfl := Except.ok.inj hlist
      obtain ⟨k₀, -, rfl⟩ := List.mem_map.mp he
      exact NestedKeyedListWriter.plain_stub k₀
  | vlan w =>
    obtain ⟨ids, rfl⟩ := exists_ids fun k hk => VLANWriter.keysOf_decimal (h k hk).choose_spec
    show op ∈ opsOf (w.pruneDiff desired _) ↔ _
    rw [VLANWriter.mem_pruneDiff]
    exact and_congr_right fun _ => exists_decimal
  | dhcp w =>
    show op ∈ opsOf (w.pruneDiff desired _) ↔ _
    rw [DHCPWriter.mem_pruneDiff rfl]
    simp only [DHCPWriter.namesIn_stubs, List.mem_filterMap]
    rfl
  | nxosVLAN =>
    obtain ⟨ids, rfl⟩ := exists_ids fun k hk => NXOS.keysOf_decimal (h k hk).choose_spec
    show op ∈ opsOf (NXOS.pruneDiff desired _) ↔ _
    rw [NXOS.mem_pruneDiff]
    exact and_congr_right fun _ => exists_decimal

theorem pruneDiff_unkeyed (h : w.keysOf observed = []) :
    opsOf (w.pruneDiff desired observed) = [] := by
  cases w with
  | keyedList w => exact KeyedListWriter.pruneDiff_unkeyed h
  | nestedKeyedList w =>
    show opsOf (w.pruneDiff desired observed) = []
    rw [NestedKeyedListWriter.pruneDiff_plain]
    · exact KeyedListWriter.pruneDiff_unkeyed h
    -- no observed entry has a key
    intro list hlist e he k hk
    have hmem : k ∈ w.base.keysIn list := List.mem_filterMap.mpr ⟨e, he, by rw [hk]; rfl⟩
    rw [← KeyedListWriter.mem_keysOf (coerceList_block hlist w.base.innerKey "observed")] at hmem
    change w.base.keysOf observed = [] at h
    rw [h] at hmem
    cases hmem
  | vlan w => exact VLANWriter.pruneDiff_unkeyed h
  | dhcp w => exact DHCPWriter.pruneDiff_unkeyed h
  | nxosVLAN => exact NXOS.pruneDiff_unkeyed h

theorem mem_pruned :
    op ∈ w.pruned family res other desired observed ↔
      w.Accepts desired (w.kept desired observed (res.ownedKeys family)) ∧
        ∃ k ∉ w.keysOf desired,
          (∃ k₀ ∈ w.kept desired observed (res.ownedKeys family), w.reads k₀ = some k) ∧
            op = w.deleteOp k := by
  rw [pruned_eq, Engine.scopeObservedToOwned]
  split
  · -- nothing observed has a key: the writer sees the device as it is
    rename_i hempty
    have hnone : w.keysOf observed = [] := List.isEmpty_iff.mp hempty
    rw [pruneDiff_unkeyed hnone]
    refine ⟨fun h => absurd h List.not_mem_nil, ?_⟩
    rintro ⟨-, k, -, ⟨k₀, hk₀, -⟩, -⟩
    have hobserved := (mem_kept.mp hk₀).1
    rw [hnone] at hobserved
    cases hobserved
  · exact mem_pruneDiff_stubs fun k hk => ⟨observed, (mem_kept.mp hk).1⟩

section

omit [Formatting]

theorem deleteEntry_injective
    (h : deleteEntry yangPath keyField k = deleteEntry yangPath keyField k') : k = k' := by
  have hpath : yangPath ++ "=" ++ k = yangPath ++ "=" ++ k' := congrArg Op.path h
  exact (String.append_right_inj _).mp hpath

theorem deleteOp_injective (h : w.deleteOp k = w.deleteOp k') : k = k' := by
  cases w with
  | nxosVLAN =>
    have hpath : "sys/bd/bd-[vlan-" ++ k ++ "]" = "sys/bd/bd-[vlan-" ++ k' ++ "]" :=
      congrArg Op.path h
    exact (String.append_right_inj _).mp ((String.append_left_inj _).mp hpath)
  | _ => exact deleteEntry_injective h

theorem deleteOp_verb (w : PruneWriter) (k : String) : (w.deleteOp k).verb = .delete := by
  cases w <;> rfl

end

/-! ## Foreign entries -/

def Relinquished (w : PruneWriter) (desired observed : Value) (owned : List String) (k : String) :
    Prop :=
  k ∈ w.keysOf observed ∧ k ∈ owned ∧ k ∉ w.keysOf desired

/-- What is read back from a kept key is desired or to be given up. -/
def ReadsRelinquished (w : PruneWriter) (desired observed : Value) (owned : List String) : Prop :=
  ∀ k₀ ∈ w.kept desired observed owned, ∀ k, w.reads k₀ = some k →
    k ∈ w.keysOf desired ∨ w.Relinquished desired observed owned k

/-- The keys a scoped prune deletes are the observed ones that are owned and not
desired, for every writer and every state, exactly where the writer reads none
but these back from the kept keys, and, if there are any, accepts to prune and
reads back them all. -/
theorem pruned_complete_iff (w : PruneWriter) (family : String) (res : ResolvedIntent)
    (other : SectionWriter) (desired observed : Value) :
    ((∀ op ∈ w.pruned family res other desired observed, op.verb = .delete →
        ∃ k, op = w.deleteOp k ∧ w.Relinquished desired observed (res.ownedKeys family) k) ∧
      ∀ k, w.Relinquished desired observed (res.ownedKeys family) k →
        w.deleteOp k ∈ w.pruned family res other desired observed) ↔
      (w.Accepts desired (w.kept desired observed (res.ownedKeys family)) →
        w.ReadsRelinquished desired observed (res.ownedKeys family)) ∧
      ∀ k, w.Relinquished desired observed (res.ownedKeys family) k →
        w.Accepts desired (w.kept desired observed (res.ownedKeys family)) ∧
          ∃ k₀ ∈ w.kept desired observed (res.ownedKeys family), w.reads k₀ = some k := by
  constructor
  · rintro ⟨honly, hall⟩
    refine ⟨fun haccepts k₀ hk₀ k hread => ?_, fun k hk => ?_⟩
    · by_cases hdesired : k ∈ w.keysOf desired
      · exact .inl hdesired
      have hop : w.deleteOp k ∈ w.pruned family res other desired observed :=
        mem_pruned.mpr ⟨haccepts, k, hdesired, ⟨k₀, hk₀, hread⟩, rfl⟩
      obtain ⟨k', heq, hk⟩ := honly _ hop (w.deleteOp_verb k)
      obtain rfl := deleteOp_injective heq
      exact .inr hk
    · obtain ⟨haccepts, k', -, hread, heq⟩ := mem_pruned.mp (hall k hk)
      obtain rfl := deleteOp_injective heq
      exact ⟨haccepts, hread⟩
  · rintro ⟨hreads, hall⟩
    refine ⟨fun op hop _ => ?_, fun k hk => ?_⟩
    · obtain ⟨haccepts, k, hdesired, ⟨k₀, hk₀, hread⟩, rfl⟩ := mem_pruned.mp hop
      rcases hreads haccepts k₀ hk₀ k hread with hmem | hk
      · exact absurd hmem hdesired
      · exact ⟨k, rfl, hk⟩
    · obtain ⟨haccepts, hread⟩ := hall k hk
      exact mem_pruned.mpr ⟨haccepts, k, hk.2.2, hread, rfl⟩

end PruneWriter

namespace Sample

/-- A way to print that is as good as any: the keys below are text. -/
@[reducible]
def formatting : Formatting where
  typeName _ := ""
  sprint _ := ""
  formatFloat _ := ""
  truncate _ := 0
  integral _ := false
  fitsInt _ := false
  marshal _ := .ok ""

attribute [local instance] formatting

def vrfWriter : PruneWriter := .keyedList {
  family := "vrf"
  yangPath := "/Cisco-IOS-XE-native:native/vrf/definition"
  envelopeKey := "Cisco-IOS-XE-native:definition"
  innerKey := "vrfs"
  keyField := "name"
  managedLeaves := ["rd", "description", "address_family_ipv4", "address_family_ipv6"] }

def staticRouteWriter : PruneWriter := .keyedList {
  family := "static_route"
  yangPath := "/Cisco-IOS-XE-native:native/ip/route/ip-route-interface-forwarding-list"
  envelopeKey := "Cisco-IOS-XE-native:ip-route-interface-forwarding-list"
  innerKey := "routes"
  keyField := "prefix"
  managedLeaves := ["mask", "fwd-list", "distance", "tag", "description"] }

/-- The other half of a writer, which a prune does not use. -/
def idle : SectionWriter where
  fetch := pure (.ok .nil)
  diff _ _ := .ok []
  apply _ := pure none

def owner (family key : String) : ResolvedIntent where
  managedFamilies := [family]
  configuration := ∅
  pruneOnRelinquish := true
  atomicReplaceOwnedKeys := (∅ : Map (List String)).set family [key]

theorem owner_ownedKeys (family key : String) : (owner family key).ownedKeys family = [key] := by
  rw [ResolvedIntent.ownedKeys, owner, Map.find_set_self]
  rfl

/-- The route that is owned and no longer desired stays: its rebuilt entry has
no prefix. -/
theorem relinquished_route_kept :
    staticRouteWriter.Relinquished (.maps []) (.maps [[("prefix", .text "10.0.0.0")]])
        ((owner "static_route" "10.0.0.0").ownedKeys "static_route") "10.0.0.0" ∧
      staticRouteWriter.pruned "static_route" (owner "static_route" "10.0.0.0") idle (.maps [])
        (.maps [[("prefix", .text "10.0.0.0")]]) = [] := by
  rw [PruneWriter.Relinquished, List.eq_nil_iff_forall_not_mem, owner_ownedKeys]
  refine ⟨?_, fun op hop => ?_⟩
  · decide
  obtain ⟨-, k, -, ⟨k₀, hk₀, hread⟩, -⟩ := PruneWriter.mem_pruned.mp hop
  rw [owner_ownedKeys, PruneWriter.mem_kept] at hk₀
  have hkey : k₀ = "10.0.0.0" := by
    have hobserved : k₀ ∈ ["10.0.0.0"] := hk₀.1
    simpa using hobserved
  subst hkey
  have hnone : staticRouteWriter.reads "10.0.0.0" = none := by decide
  rw [hnone] at hread
  cases hread

end Sample

end VirtualKubelet.Config
