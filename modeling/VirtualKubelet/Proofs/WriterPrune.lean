import VirtualKubelet.Config.Engine
import VirtualKubelet.Go.Checks
import VirtualKubelet.Proofs.ScopeMerge

/-!
# What the writers read back

Ownership reaches a writer as text. The engine keeps the observed keys that are
owned or desired, rebuilds an entry from each, and hands the entries to
`PruneDiff`, which reads the keys back out of them. So what is deleted is not
what was kept but what is read back; here it is worked out for each writer.

An entry is rebuilt from a key in one of two ways, and both lose something. A
key with an equals sign past its first character is taken for an interface and
split there. Any other goes into the three fields `name`, `id` and `sequence`,
and a writer whose key field is none of these finds nothing.
-/

namespace VirtualKubelet.Config

open Go
open List hiding after keys map next

/-! ## Keys and shapes -/

variable {k : String} {id : Int64} {ids : List Int64}

theorem mem_sortStrings : k ∈ sortStrings keys ↔ k ∈ keys :=
  (perm_insertionSort _ keys).mem_iff

theorem mem_sortInts : id ∈ sortInts ids ↔ id ∈ ids :=
  (perm_insertionSort _ ids).mem_iff

variable [Formatting] {desired observed : Value} {e : Fields} {list observedList : List Fields}
  {op : Op} {ops : List Op}

/-- Whether a value is a list, and which, does not depend on what its errors
are to call it. -/
theorem coerceItems_ok (h : coerceItems o i items = .ok list) (o' : String) (j : Nat) :
    coerceItems o' j items = .ok list := by
  induction items generalizing i j list with
  | nil => exact h
  | cons item rest ih =>
    cases item with
    | map m =>
      rw [coerceItems] at h ⊢
      obtain ⟨out, hrest, hout⟩ := bind_ok.mp h
      exact bind_ok.mpr ⟨out, ih hrest (j + 1), hout⟩
    | _ => cases h

theorem coerceList_ok (h : coerceList v o = .ok list) (o' : String) :
    coerceList v o' = .ok list := by
  cases v with
  | list items => exact coerceItems_ok h o' 0
  | nil | maps items => exact h
  | _ => cases h

theorem coerceBlock_list (h : ∀ m, v ≠ .map m) : coerceBlock innerKey v o = coerceList v o := by
  cases v with
  | map m => exact absurd rfl (h m)
  | _ => rfl

theorem coerceBlock_ok (h : coerceBlock innerKey v o = .ok list)
    (o' : String) : coerceBlock innerKey v o' = .ok list := by
  by_cases hmap : ∃ m, v = .map m
  · obtain ⟨m, rfl⟩ := hmap
    unfold coerceBlock at h ⊢
    dsimp only at h ⊢
    cases hfind : Fields.find m innerKey with
    | none => rw [hfind] at h; exact h
    | some inner => rw [hfind] at h; exact coerceList_ok h _
  · have hlist : ∀ m, v ≠ .map m := fun m hm => hmap ⟨m, hm⟩
    rw [coerceBlock_list hlist] at h ⊢
    exact coerceList_ok h o'

theorem coerceList_block (h : coerceList v o = .ok list)
    (innerKey o' : String) : coerceBlock innerKey v o' = .ok list := by
  cases v with
  | map m => cases h
  | _ => exact coerceList_ok h o'

/-! ## Rebuilding an entry -/

/-- The key a writer with a key field reads from the entry rebuilt from a key. -/
def stubKey (field k : String) : Option String :=
  match k.toList.span (· ≠ '=') with
  | (first :: before, '=' :: after) =>
    if field = "type" then some (String.ofList (first :: before))
    else if field = "name" then some (String.ofList after)
    else none
  | _ => if field = "name" ∨ field = "id" ∨ field = "sequence" then some k else none

theorem entryKey_missing (h : Fields.find e field = none) : (entryKey e field).toOption = none := by
  rw [entryKey, h]
  rfl

theorem entryKey_pair (field type name : String) :
    (entryKey [("type", .text type), ("name", .text name)] field).toOption =
      if field = "type" then some type else if field = "name" then some name else none := by
  by_cases htype : field = "type"
  · subst htype
    rfl
  by_cases hname : field = "name"
  · subst hname
    rfl
  · rw [if_neg htype, if_neg hname]
    refine entryKey_missing ?_
    rw [find_cons, if_neg htype, find_cons, if_neg hname]
    rfl

theorem entryKey_scalar (field k : String) :
    (entryKey [("name", .text k), ("id", .text k), ("sequence", .text k)] field).toOption =
      if field = "name" ∨ field = "id" ∨ field = "sequence" then some k else none := by
  by_cases hfield : field = "name" ∨ field = "id" ∨ field = "sequence"
  · rw [if_pos hfield]
    rcases hfield with rfl | rfl | rfl <;> rfl
  rw [if_neg hfield]
  simp only [not_or] at hfield
  refine entryKey_missing ?_
  rw [find_cons, if_neg hfield.1, find_cons, if_neg hfield.2.1, find_cons, if_neg hfield.2.2]
  rfl

omit [Formatting] in
/-- A key is split at an equals sign, or goes into three fields. -/
theorem stub_cases (k : String) :
    (∃ type name, Engine.stubEntryFromKey k = [("type", .text type), ("name", .text name)] ∧
      ∀ field, stubKey field k =
        if field = "type" then some type else if field = "name" then some name else none) ∨
    Engine.stubEntryFromKey k = [("name", .text k), ("id", .text k), ("sequence", .text k)] ∧
      ∀ field, stubKey field k =
        if field = "name" ∨ field = "id" ∨ field = "sequence" then some k else none := by
  by_cases h : ∃ first before after, k.toList.span (· ≠ '=') = (first :: before, '=' :: after)
  · obtain ⟨first, before, after, hspan⟩ := h
    refine .inl ⟨String.ofList (first :: before), String.ofList after, ?_, fun field => ?_⟩
    · simp only [Engine.stubEntryFromKey, hspan]
    · simp only [stubKey, hspan]
  refine .inr ⟨?_, fun field => ?_⟩
  · unfold Engine.stubEntryFromKey
    split
    · next hspan => exact absurd ⟨_, _, _, hspan⟩ h
    · rfl
  · unfold stubKey
    split
    · next hspan => exact absurd ⟨_, _, _, hspan⟩ h
    · rfl

theorem entryKey_stub (field k : String) :
    (entryKey (Engine.stubEntryFromKey k) field).toOption = stubKey field k := by
  rcases stub_cases k with ⟨type, name, hentry, hkey⟩ | ⟨hentry, hkey⟩
  · rw [hentry, hkey]
    exact entryKey_pair field type name
  · rw [hentry, hkey]
    exact entryKey_scalar field k

/-! ## What each writer reads back -/

/-- The operations of a plan that was made. -/
def opsOf : Except Failure (List Op) → List Op
  | .ok ops => ops
  | .error _ => []

omit [Formatting] in
theorem mem_opsOf : op ∈ opsOf plan ↔ ∃ ops, plan = .ok ops ∧ op ∈ ops := by
  cases plan with
  | error err | ok ops => simp [opsOf]

omit [Formatting] in
theorem mem_orphans {α : Type} [BEq α] [LawfulBEq α] {sorted got want : List α} {delete : α → Op}
    (h : ∀ k, k ∈ sorted ↔ k ∈ got.filter fun k => !want.contains k) :
    op ∈ sorted.map delete ↔ ∃ k ∈ got, k ∉ want ∧ op = delete k := by
  simp only [mem_map, h, mem_filter, Bool.not_eq_true', ← Bool.not_eq_true,
    contains_iff_mem, and_assoc, @eq_comm _ op]

namespace KeyedListWriter

variable {w : KeyedListWriter}

/-- `PruneDiff` can read the desired block: it is a list, and each entry has its
key. -/
def Accepts (w : KeyedListWriter) (desired : Value) : Prop :=
  ∃ list want, coerceBlock w.innerKey desired "desired" = .ok list ∧ w.desiredKeys list = .ok want

theorem desiredKeys_ok {want : List String} (h : w.desiredKeys list = .ok want) :
    w.keysIn list = want := by
  induction list generalizing want with
  | nil =>
    cases h
    rfl
  | cons e rest ih =>
    rw [desiredKeys] at h
    cases hkey : entryKey e w.keyField with
    | error err => rw [hkey] at h; cases h
    | ok k =>
      rw [hkey] at h
      obtain ⟨keys, hrest, hcons⟩ := bind_ok.mp h
      obtain rfl := Except.ok.inj hcons
      rw [keysIn, filterMap_cons, hkey, ← ih hrest]
      rfl

theorem mem_keysOf (h : coerceBlock w.innerKey v o = .ok list) :
    k ∈ w.keysOf v ↔ k ∈ w.keysIn list := by
  rw [keysOf, coerceBlock_ok h "keysOf"]
  exact mem_sortStrings

theorem mem_keysIn_stubs {ks : List String} :
    k ∈ w.keysIn (ks.map Engine.stubEntryFromKey) ↔ ∃ k₀ ∈ ks, stubKey w.keyField k₀ = some k := by
  rw [keysIn, mem_filterMap]
  constructor
  · rintro ⟨e, he, hk⟩
    obtain ⟨k₀, hk₀, rfl⟩ := mem_map.mp he
    rw [entryKey_stub] at hk
    exact ⟨k₀, hk₀, hk⟩
  · rintro ⟨k₀, hk₀, hk⟩
    exact ⟨_, mem_map.mpr ⟨k₀, hk₀, rfl⟩, (entryKey_stub w.keyField k₀).trans hk⟩

theorem pruneDiff_ok :
    w.pruneDiff desired observed = .ok ops ↔ ∃ list,
      coerceBlock w.innerKey desired "desired" = .ok list ∧ ∃ observedList,
      coerceList observed "observed" = .ok observedList ∧ ∃ want, w.desiredKeys list = .ok want ∧
      (sortStrings ((w.keysIn observedList).filter fun k => !want.contains k)).map w.deleteOp = ops := by
  simp only [pruneDiff, bind_ok, pure, Except.pure, Except.ok.injEq]

theorem mem_pruneDiff (hobserved : coerceList observed "observed" = .ok observedList) :
    op ∈ opsOf (w.pruneDiff desired observed) ↔
      w.Accepts desired ∧ ∃ k, k ∉ w.keysOf desired ∧ k ∈ w.keysIn observedList ∧ op = w.deleteOp k := by
  rw [mem_opsOf]
  constructor
  · rintro ⟨ops, hplan, hop⟩
    obtain ⟨list, hlist, observedList', hobserved', want, hwant, rfl⟩ := pruneDiff_ok.mp hplan
    obtain rfl := Except.ok.inj (hobserved.symm.trans hobserved')
    obtain ⟨k, hkeys, hnot, rfl⟩ := (mem_orphans fun _ => mem_sortStrings).mp hop
    refine ⟨⟨list, want, hlist, hwant⟩, k, ?_, hkeys, rfl⟩
    rw [mem_keysOf hlist, desiredKeys_ok hwant]
    exact hnot
  · rintro ⟨⟨list, want, hlist, hwant⟩, k, hk, hkeys, rfl⟩
    rw [mem_keysOf hlist, desiredKeys_ok hwant] at hk
    exact ⟨_, pruneDiff_ok.mpr ⟨list, hlist, observedList, hobserved, want, hwant, rfl⟩,
      (mem_orphans fun _ => mem_sortStrings).mpr ⟨k, hkeys, hk, rfl⟩⟩

theorem pruneDiff_unkeyed (h : w.keysOf observed = []) :
    opsOf (w.pruneDiff desired observed) = [] := by
  rw [eq_nil_iff_forall_not_mem]
  intro op hop
  obtain ⟨ops, hplan, -⟩ := mem_opsOf.mp hop
  obtain ⟨-, -, observedList, hobserved, -⟩ := pruneDiff_ok.mp hplan
  obtain ⟨-, k, -, hk, -⟩ := (mem_pruneDiff hobserved).mp hop
  rw [← mem_keysOf (coerceList_block hobserved w.innerKey "observed"), h] at hk
  cases hk

end KeyedListWriter

omit [Formatting] in
theorem stub_text (h : Fields.find (Engine.stubEntryFromKey k) name = some v) :
    ∃ s, v = .text s := by
  have hmem := mem_of_find h
  unfold Engine.stubEntryFromKey at hmem
  split at hmem
  · simp only [mem_cons, Prod.mk.injEq, not_mem_nil, or_false] at hmem
    rcases hmem with ⟨-, rfl⟩ | ⟨-, rfl⟩ <;> exact ⟨_, rfl⟩
  · simp only [mem_cons, Prod.mk.injEq, not_mem_nil, or_false] at hmem
    rcases hmem with ⟨-, rfl⟩ | ⟨-, rfl⟩ | ⟨-, rfl⟩ <;> exact ⟨_, rfl⟩

namespace NestedKeyedListWriter

variable {w : NestedKeyedListWriter}

omit [Formatting] in
/-- An entry without inner lists. -/
def Plain (e : Fields) : Prop := ∀ name spec, coerceInner (e.get name) spec = []

omit [Formatting] in
theorem plain_stub (k : String) : Plain (Engine.stubEntryFromKey k) := by
  intro name spec
  rw [Fields.get]
  cases h : Fields.find (Engine.stubEntryFromKey k) name with
  | none => rfl
  | some v =>
    obtain ⟨s, rfl⟩ := stub_text h
    rfl

theorem replaceInner_plain {key : String} {desired observed : Fields} (h : Plain observed) :
    w.replaceInner key desired observed = .ok none := by
  have hnone : w.specs.filter (fun spec =>
      innerHasOrphans (indexNested (desired.get spec.leaf) spec)
        (indexNested (observed.get spec.leaf) spec)) = [] := by
    rw [filter_eq_nil_iff]
    intro spec _
    rw [indexNested, indexNested, h, foldl_nil, innerHasOrphans]
    simp
  unfold replaceInner
  dsimp only
  rw [hnone]
  rfl

theorem innerOps_plain {want got : Map Fields} (h : ∀ k e, got.find k = some e → Plain e)
    (ks : List String) : w.innerOps want got ks = .ok [] := by
  induction ks with
  | nil => rfl
  | cons k rest ih =>
    rw [innerOps]
    cases want.find k with
    | none => exact ih
    | some desired =>
      have hplain : Plain (got.get [] k) := by
        rw [Map.get]
        cases hgot : got.find k with
        | none => exact fun _ _ => rfl
        | some e => exact h k e hgot
      dsimp only
      rw [replaceInner_plain hplain, ih]
      rfl

theorem entriesByKey_find (h : (w.entriesByKey list).find k = some e) :
    e ∈ list ∧ entryKey e w.base.keyField = .ok k := by
  rw [entriesByKey] at h
  -- the list from the end, so that the entry set last comes first
  induction list using List.reverseRecOn with
  | nil =>
    rw [foldl_nil, Map.find_empty] at h
    cases h
  | append_singleton rest e₀ ih =>
    rw [foldl_append, foldl_cons, foldl_nil] at h
    have hold : ∀ {e}, e ∈ rest ∧ entryKey e w.base.keyField = .ok k →
        e ∈ rest ++ [e₀] ∧ entryKey e w.base.keyField = .ok k :=
      fun ⟨hmem, hkey⟩ => ⟨mem_append_left _ hmem, hkey⟩
    cases hkey : entryKey e₀ w.base.keyField with
    | error err =>
      rw [hkey] at h
      exact hold (ih h)
    | ok k₀ =>
      rw [hkey] at h
      rcases Map.find_set_iff.mp h with ⟨rfl, rfl⟩ | ⟨-, hfind⟩
      · exact ⟨mem_append_right _ (mem_singleton_self _), hkey⟩
      · exact hold (ih hfind)

/-- On entries without inner lists the writer prunes as its base does. -/
theorem pruneDiff_plain (h : ∀ list, coerceList observed "observed" = .ok list →
      ∀ e ∈ list, ∀ k, entryKey e w.base.keyField = .ok k → Plain e) :
    w.pruneDiff desired observed = w.base.pruneDiff desired observed := by
  rw [pruneDiff]
  split
  · rfl
  cases hbase : w.base.pruneDiff desired observed with
  | error err => rfl
  | ok outer =>
    obtain ⟨list, hlist, observedList, hobserved, want, hwant, -⟩ :=
      KeyedListWriter.pruneDiff_ok.mp hbase
    have hinner : ∀ ks, w.innerOps (w.entriesByKey list) (w.entriesByKey observedList) ks
        = .ok [] := innerOps_plain fun k e hfind =>
      h observedList hobserved e (entriesByKey_find hfind).1 k (entriesByKey_find hfind).2
    refine bind_ok.mpr ⟨outer, rfl, bind_ok.mpr ⟨list, hlist, bind_ok.mpr ⟨observedList, hobserved,
      bind_ok.mpr ⟨want, hwant, bind_ok.mpr ⟨[], hinner _, ?_⟩⟩⟩⟩⟩
    rw [append_nil]
    rfl

end NestedKeyedListWriter

omit [Formatting] in
/-- A number has no equals sign to be split at. -/
theorem stub_decimal (n : Int) : Engine.stubEntryFromKey (decimal n) =
    [("name", .text (decimal n)), ("id", .text (decimal n)), ("sequence", .text (decimal n))] := by
  unfold Engine.stubEntryFromKey
  split
  · rename_i hspan
    have hmem : '=' ∈ (decimal n).toList := by
      rw [span_eq_takeWhile_dropWhile] at hspan
      have hdrop : (decimal n).toList.dropWhile (fun c => decide (c ≠ '=')) = '=' :: _ :=
        congrArg Prod.snd hspan
      have hhead : '=' ∈ (decimal n).toList.dropWhile (fun c => decide (c ≠ '=')) := by
        rw [hdrop]
        exact mem_cons_self ..
      exact (dropWhile_sublist _).subset hhead
    exact absurd hmem (decimal_no_equals n)
  · rfl

namespace VLANWriter

variable {w : VLANWriter}

/-- `PruneDiff` can read the desired block: it is a list of VLANs with ids. -/
def Accepts (desired : Value) : Prop :=
  ∃ list want, coerceVLANBlock desired "desired" = .ok list ∧ idsIn "desired" list = .ok want

theorem idsIn_ok (h : idsIn o list = .ok ids) :
    list.filterMap (fun e => (vlanID e).toOption) = ids := by
  induction list generalizing ids with
  | nil =>
    cases h
    rfl
  | cons e rest ih =>
    rw [idsIn] at h
    cases hid : vlanID e with
    | error err => rw [hid] at h; cases h
    | ok id =>
      rw [hid] at h
      obtain ⟨ids, hrest, hcons⟩ := bind_ok.mp h
      obtain rfl := Except.ok.inj hcons
      rw [filterMap_cons, hid, ← ih hrest]
      rfl

theorem mem_keysOf (h : coerceVLANBlock v o = .ok list) :
    k ∈ keysOf v ↔ ∃ id ∈ list.filterMap (fun e => (vlanID e).toOption), decimal id.toInt = k := by
  rw [keysOf, coerceVLANBlock, coerceBlock_ok h "keysOf"]
  dsimp only
  rw [mem_sortStrings, ← map_filterMap, mem_map]

theorem keysOf_decimal (h : k ∈ keysOf v) : ∃ id : Int64, decimal id.toInt = k := by
  cases hlist : coerceVLANBlock v "keysOf" with
  | error err =>
    rw [keysOf, hlist] at h
    cases h
  | ok list =>
    obtain ⟨id, -, hid⟩ := (mem_keysOf hlist).mp h
    exact ⟨id, hid⟩

theorem vlanID_stub (id : Int64) : vlanID (Engine.stubEntryFromKey (decimal id.toInt)) = .ok id := by
  have hfind : Fields.find (Engine.stubEntryFromKey (decimal id.toInt)) "id" =
      some (.text (decimal id.toInt)) := by
    rw [stub_decimal]
    rfl
  simp only [vlanID, hfind, scanInt_decimal]

theorem idsIn_stubs (o : String) (ids : List Int64) :
    idsIn o ((ids.map fun id => decimal id.toInt).map Engine.stubEntryFromKey) = .ok ids := by
  induction ids with
  | nil => rfl
  | cons id rest ih =>
    rw [map_cons, map_cons, idsIn, vlanID_stub]
    dsimp only
    rw [ih]
    rfl

theorem pruneDiff_ok :
    w.pruneDiff desired observed = .ok ops ↔ ∃ list,
      coerceVLANBlock desired "desired" = .ok list ∧ ∃ observedList,
      coerceList observed "observed" = .ok observedList ∧ ∃ want,
      idsIn "desired" list = .ok want ∧ ∃ got, idsIn "observed" observedList = .ok got ∧
      (sortInts (got.filter fun id => !want.contains id)).map
        (fun id => w.deleteOp (decimal id.toInt)) = ops := by
  simp only [pruneDiff, bind_ok, pure, Except.pure, Except.ok.injEq]

theorem mem_desired (hlist : coerceVLANBlock desired "desired" = .ok list)
    (hwant : idsIn "desired" list = .ok want) (id : Int64) :
    decimal id.toInt ∈ keysOf desired ↔ id ∈ want := by
  rw [mem_keysOf hlist, idsIn_ok hwant]
  exact ⟨fun ⟨other, hother, heq⟩ => decimal_injective heq ▸ hother, fun h => ⟨id, h, rfl⟩⟩

theorem mem_pruneDiff :
    op ∈ opsOf (w.pruneDiff desired
        (.maps ((ids.map fun id => decimal id.toInt).map Engine.stubEntryFromKey))) ↔
      Accepts desired ∧ ∃ id ∈ ids, decimal id.toInt ∉ keysOf desired ∧
        op = w.deleteOp (decimal id.toInt) := by
  rw [mem_opsOf]
  constructor
  · rintro ⟨ops, hplan, hop⟩
    obtain ⟨list, hlist, _, hobserved, want, hwant, got, hgot, rfl⟩ := pruneDiff_ok.mp hplan
    obtain rfl := Except.ok.inj hobserved
    obtain rfl := Except.ok.inj ((idsIn_stubs "observed" ids).symm.trans hgot)
    obtain ⟨id, hid, hnot, rfl⟩ := (mem_orphans fun _ => mem_sortInts).mp hop
    exact ⟨⟨list, want, hlist, hwant⟩, id, hid, (mem_desired hlist hwant id).not.mpr hnot, rfl⟩
  · rintro ⟨⟨list, want, hlist, hwant⟩, id, hid, hnot, rfl⟩
    exact ⟨_, pruneDiff_ok.mpr ⟨list, hlist, _, rfl, want, hwant, ids, idsIn_stubs _ ids, rfl⟩,
      (mem_orphans fun _ => mem_sortInts).mpr
        ⟨id, hid, (mem_desired hlist hwant id).not.mp hnot, rfl⟩⟩

theorem pruneDiff_unkeyed (h : keysOf observed = []) :
    opsOf (w.pruneDiff desired observed) = [] := by
  rw [eq_nil_iff_forall_not_mem]
  intro op hop
  obtain ⟨ops, hplan, hop⟩ := mem_opsOf.mp hop
  obtain ⟨list, -, observedList, hobserved, want, -, got, hgot, rfl⟩ := pruneDiff_ok.mp hplan
  obtain ⟨id, hid, -⟩ := (mem_orphans fun _ => mem_sortInts).mp hop
  have hkey : decimal id.toInt ∈ keysOf observed :=
    (mem_keysOf (coerceList_block hobserved "vlans" "observed")).mpr
      ⟨id, by rw [idsIn_ok hgot]; exact hid, rfl⟩
  rw [h] at hkey
  cases hkey

end VLANWriter

namespace DHCPWriter

variable {w : DHCPWriter}

/-- `PruneDiff` can read the desired block: it is a list. -/
def Accepts (desired : Value) : Prop := ∃ list, coerceDHCPBlock desired "desired" = .ok list

theorem mem_keysOf (h : coerceDHCPBlock v o = .ok list) :
    k ∈ keysOf v ↔ k ∈ namesIn list := by
  rw [keysOf, coerceDHCPBlock, coerceBlock_ok h "keysOf"]
  exact mem_sortStrings

/-- The name of a pool rebuilt from a key; an empty one is none. -/
def reads (k : String) : Option String := (stubKey "name" k).filter fun name => name ≠ ""

omit [Formatting] in
theorem stub_name (k : String) : ∃ name,
    Fields.find (Engine.stubEntryFromKey k) "name" = some (.text name) ∧
      stubKey "name" k = some name := by
  rcases stub_cases k with ⟨type, name, hentry, hkey⟩ | ⟨hentry, hkey⟩
  · rw [hentry, hkey]
    exact ⟨name, rfl, rfl⟩
  · rw [hentry, hkey]
    exact ⟨k, rfl, rfl⟩

theorem namesIn_stubs (ks : List String) :
    namesIn (ks.map Engine.stubEntryFromKey) = ks.filterMap reads := by
  rw [namesIn, filterMap_map]
  refine filterMap_congr fun k _ => ?_
  obtain ⟨name, hfind, hstub⟩ := stub_name k
  rw [Function.comp_apply, hfind, reads, hstub]
  by_cases hname : name = ""
  · subst hname
    rfl
  · simp [sprintPoolName, hname, Option.filter]

theorem pruneDiff_ok :
    w.pruneDiff desired observed = .ok ops ↔ ∃ list,
      coerceDHCPBlock desired "desired" = .ok list ∧ ∃ observedList,
      coerceList observed "observed" = .ok observedList ∧
      (sortStrings ((namesIn observedList).filter fun k => !(namesIn list).contains k)).map
        w.deleteOp = ops := by
  simp only [pruneDiff, bind_ok, pure, Except.pure, Except.ok.injEq]

theorem mem_pruneDiff (hobserved : coerceList observed "observed" = .ok observedList) :
    op ∈ opsOf (w.pruneDiff desired observed) ↔
      Accepts desired ∧ ∃ k, k ∉ keysOf desired ∧ k ∈ namesIn observedList ∧ op = w.deleteOp k := by
  rw [mem_opsOf]
  constructor
  · rintro ⟨ops, hplan, hop⟩
    obtain ⟨list, hlist, observedList', hobserved', rfl⟩ := pruneDiff_ok.mp hplan
    obtain rfl := Except.ok.inj (hobserved.symm.trans hobserved')
    obtain ⟨k, hmem, hnot, rfl⟩ := (mem_orphans fun _ => mem_sortStrings).mp hop
    exact ⟨⟨list, hlist⟩, k, (mem_keysOf hlist).not.mpr hnot, hmem, rfl⟩
  · rintro ⟨⟨list, hlist⟩, k, hnot, hmem, rfl⟩
    exact ⟨_, pruneDiff_ok.mpr ⟨list, hlist, observedList, hobserved, rfl⟩,
      (mem_orphans fun _ => mem_sortStrings).mpr ⟨k, hmem, (mem_keysOf hlist).not.mp hnot, rfl⟩⟩

theorem pruneDiff_unkeyed (h : keysOf observed = []) :
    opsOf (w.pruneDiff desired observed) = [] := by
  rw [eq_nil_iff_forall_not_mem]
  intro op hop
  obtain ⟨ops, hplan, -⟩ := mem_opsOf.mp hop
  obtain ⟨-, -, observedList, hobserved, -⟩ := pruneDiff_ok.mp hplan
  obtain ⟨-, k, -, hk, -⟩ := (mem_pruneDiff hobserved).mp hop
  rw [← mem_keysOf (coerceList_block hobserved "pools" "observed"), h] at hk
  cases hk

end DHCPWriter

namespace NXOS

theorem coerceItems_ok (h : coerceItems o i items = .ok list) (o' : String) (j : Nat) :
    coerceItems o' j items = .ok list := by
  induction items generalizing i j list with
  | nil => exact h
  | cons item rest ih =>
    cases item with
    | map m =>
      rw [coerceItems] at h ⊢
      obtain ⟨out, hrest, hout⟩ := bind_ok.mp h
      exact bind_ok.mpr ⟨out, ih hrest (j + 1), hout⟩
    | _ => cases h

theorem coerceList_ok (v : Value) (h : coerceList innerKey v o = .ok list)
    (o' : String) : coerceList innerKey v o' = .ok list := by
  induction hsize : sizeOf v using Nat.strong_induction_on generalizing v o o' with
  | _ n ih =>
    subst hsize
    cases v with
    | list items =>
      rw [coerceList] at h ⊢
      exact coerceItems_ok h o' 0
    | map m =>
      rw [coerceList] at h ⊢
      split at h
      · rename_i inner hinner
        have hsmaller := find_sizeOf hinner
        refine ih _ ?_ inner h _ rfl
        simp
        omega
      · cases h
    | nil | maps items =>
      rw [coerceList] at h ⊢
      exact h
    | _ => simp [coerceList] at h

/-- `PruneDiff` can read the desired block, and need not delete VLAN 1 among
the observed. -/
def Accepts (desired : Value) (observed : List String) : Prop :=
  ∃ list want, coerceList "vlans" desired "vlan.prune.desired" = .ok list ∧
    desiredIDs list = .ok want ∧ ("1" ∈ observed → "1" ∈ keysOf desired)

def idsIn (list : List Fields) : List Int64 := list.filterMap fun item => intLeaf (item.get "id")

theorem desiredIDs_ok (h : desiredIDs list = .ok want) : idsIn list = want := by
  induction list generalizing want with
  | nil =>
    cases h
    rfl
  | cons item rest ih =>
    rw [desiredIDs] at h
    cases hid : intLeaf (item.get "id") with
    | none => rw [hid] at h; cases h
    | some id =>
      rw [hid] at h
      dsimp only at h
      split at h
      · cases h
      · obtain ⟨ids, hrest, hcons⟩ := bind_ok.mp h
        obtain rfl := Except.ok.inj hcons
        rw [idsIn, filterMap_cons, hid, ← ih hrest]
        rfl

theorem mem_keysOf (h : coerceList "vlans" v o = .ok list) :
    k ∈ keysOf v ↔ ∃ id ∈ idsIn list, decimal id.toInt = k := by
  rw [keysOf, coerceList_ok v h "vlan.keys"]
  dsimp only
  rw [← map_filterMap, mem_map, idsIn]

theorem keysOf_decimal (h : k ∈ keysOf v) : ∃ id : Int64, decimal id.toInt = k := by
  cases hlist : coerceList "vlans" v "vlan.keys" with
  | error err =>
    rw [keysOf, hlist] at h
    cases h
  | ok list =>
    obtain ⟨id, -, hid⟩ := (mem_keysOf hlist).mp h
    exact ⟨id, hid⟩

theorem idsIn_stubs (ids : List Int64) :
    idsIn ((ids.map fun id => decimal id.toInt).map Engine.stubEntryFromKey) = ids := by
  induction ids with
  | nil => rfl
  | cons id rest ih =>
    have hid : intLeaf (Fields.get (Engine.stubEntryFromKey (decimal id.toInt)) "id") = some id := by
      rw [stub_decimal]
      show atoi (trimSpace (decimal id.toInt)) = some id
      rw [trimSpace_decimal, atoi_decimal]
    rw [map_cons, map_cons, idsIn, filterMap_cons, hid]
    show id :: idsIn _ = id :: rest
    rw [ih]

section

omit [Formatting]

theorem pruneLoop_ok (h : ∀ id ∈ ids, id ∉ want → id.toInt ≠ 1) :
    pruneLoop want ids =
      .ok ((ids.filter fun id => !want.contains id).map fun id => deleteOp (decimal id.toInt)) := by
  induction ids with
  | nil => rfl
  | cons id rest ih =>
    have hrest := ih fun id' hid' => h id' (mem_cons_of_mem _ hid')
    rw [pruneLoop]
    by_cases hwant : want.contains id = true
    · rw [if_pos hwant, hrest, filter_cons_of_neg (by simpa using hwant)]
    · rw [if_neg hwant, if_neg (h id (mem_cons_self ..) (by simpa using hwant)), hrest,
        filter_cons_of_pos (by simpa using hwant)]
      rfl

theorem pruneLoop_error (hid : id ∈ ids) (hwant : id ∉ want) (hone : id.toInt = 1) :
    ∃ err, pruneLoop want ids = .error err := by
  induction ids with
  | nil => cases hid
  | cons id' rest ih =>
    rw [pruneLoop]
    split
    · rename_i hkept
      rcases mem_cons.mp hid with rfl | hid
      · exact absurd (by simpa using hkept) hwant
      · exact ih hid
    split
    · exact ⟨_, rfl⟩
    rename_i hother
    rcases mem_cons.mp hid with rfl | hid
    · exact absurd hone hother
    · obtain ⟨err, herr⟩ := ih hid
      rw [herr]
      exact ⟨err, rfl⟩

theorem decimal_one : decimal id.toInt = "1" ↔ id.toInt = 1 := by
  constructor
  · intro h
    have hone : decimal (1 : Int64).toInt = "1" := by decide
    rw [decimal_injective (h.trans hone.symm)]
    decide
  · intro h
    rw [h]
    decide

end

theorem pruneDiff_ok :
    pruneDiff desired observed = .ok ops ↔ ∃ list,
      coerceList "vlans" desired "vlan.prune.desired" = .ok list ∧ ∃ observedList,
      coerceList "vlans" observed "vlan.prune.observed" = .ok observedList ∧ ∃ want,
      desiredIDs list = .ok want ∧ pruneLoop want (sortInts (idsIn observedList).eraseDups) = .ok ops := by
  simp only [pruneDiff, bind_ok, idsIn]

omit [Formatting] in
/-- The loop gets past the observed ids if VLAN 1 is not among those to go, and
deletes these. -/
theorem pruneLoop_ok_iff (hsorted : ∀ id, id ∈ sorted ↔ id ∈ ids) :
    pruneLoop want sorted = .ok ops ↔
      (∀ id ∈ ids, id ∉ want → id.toInt ≠ 1) ∧
        ops = (sorted.filter fun id => !want.contains id).map fun id => deleteOp (decimal id.toInt) := by
  constructor
  · intro h
    have hall : ∀ id ∈ ids, id ∉ want → id.toInt ≠ 1 := by
      intro id hid hnot hone
      obtain ⟨err, herr⟩ := pruneLoop_error ((hsorted id).mpr hid) hnot hone
      rw [herr] at h
      cases h
    rw [pruneLoop_ok fun id hid => hall id ((hsorted id).mp hid)] at h
    exact ⟨hall, (Except.ok.inj h).symm⟩
  · rintro ⟨hall, rfl⟩
    exact pruneLoop_ok fun id hid => hall id ((hsorted id).mp hid)

theorem mem_desired (hlist : coerceList "vlans" desired "vlan.prune.desired" = .ok list)
    (hwant : desiredIDs list = .ok want) (id : Int64) :
    decimal id.toInt ∈ keysOf desired ↔ id ∈ want := by
  rw [mem_keysOf hlist, desiredIDs_ok hwant]
  exact ⟨fun ⟨other, hother, heq⟩ => decimal_injective heq ▸ hother, fun h => ⟨id, h, rfl⟩⟩

/-- VLAN 1 is not among those to go, in ids and in keys. -/
theorem spared_iff (hlist : coerceList "vlans" desired "vlan.prune.desired" = .ok list)
    (hwant : desiredIDs list = .ok want) : (∀ id ∈ ids, id ∉ want → id.toInt ≠ 1) ↔
      ("1" ∈ ids.map (fun id => decimal id.toInt) → "1" ∈ keysOf desired) := by
  constructor
  · intro hall hone
    obtain ⟨id, hid, hdec⟩ := mem_map.mp hone
    by_contra hnot
    rw [← hdec, mem_desired hlist hwant] at hnot
    exact hall id hid hnot (decimal_one.mp hdec)
  · intro hkept id hid hnot hone
    have hkeys := hkept (mem_map.mpr ⟨id, hid, decimal_one.mpr hone⟩)
    rw [← decimal_one.mpr hone, mem_desired hlist hwant] at hkeys
    exact hnot hkeys

theorem mem_pruneDiff :
    op ∈ opsOf (pruneDiff desired
        (.maps ((ids.map fun id => decimal id.toInt).map Engine.stubEntryFromKey))) ↔
      Accepts desired (ids.map fun id => decimal id.toInt) ∧
        ∃ id ∈ ids, decimal id.toInt ∉ keysOf desired ∧ op = deleteOp (decimal id.toInt) := by
  have hmem : ∀ id, id ∈ sortInts ids.eraseDups ↔ id ∈ ids := by
    intro id
    rw [mem_sortInts, mem_eraseDups]
  have hfilter : ∀ {want : List Int64} id,
      id ∈ (sortInts ids.eraseDups).filter (fun id => !want.contains id) ↔
        id ∈ ids.filter fun id => !want.contains id := by
    intro want id
    rw [mem_filter, mem_filter, hmem]
  rw [mem_opsOf]
  constructor
  · rintro ⟨ops, hplan, hop⟩
    obtain ⟨list, hlist, observedList, hobserved, want, hwant, hloop⟩ := pruneDiff_ok.mp hplan
    rw [coerceList] at hobserved
    obtain rfl := Except.ok.inj hobserved
    rw [idsIn_stubs] at hloop
    obtain ⟨hall, rfl⟩ := (pruneLoop_ok_iff hmem).mp hloop
    obtain ⟨id, hid, hnot, rfl⟩ := (mem_orphans hfilter).mp hop
    exact ⟨⟨list, want, hlist, hwant, (spared_iff hlist hwant).mp hall⟩, id, hid,
      (mem_desired hlist hwant id).not.mpr hnot, rfl⟩
  · rintro ⟨⟨list, want, hlist, hwant, hkept⟩, id, hid, hnot, rfl⟩
    have hloop := (pruneLoop_ok_iff hmem).mpr ⟨(spared_iff hlist hwant).mpr hkept, rfl⟩
    refine ⟨?ops, pruneDiff_ok.mpr ⟨list, hlist, _, by rw [coerceList], want, hwant, ?_⟩, ?_⟩
    rotate_left
    · rw [idsIn_stubs]
      exact hloop
    · exact (mem_orphans hfilter).mpr ⟨id, hid, (mem_desired hlist hwant id).not.mp hnot, rfl⟩

theorem pruneDiff_unkeyed (h : keysOf observed = []) :
    opsOf (pruneDiff desired observed) = [] := by
  rw [eq_nil_iff_forall_not_mem]
  intro op hop
  obtain ⟨ops, hplan, hop⟩ := mem_opsOf.mp hop
  obtain ⟨list, -, observedList, hobserved, want, -, hloop⟩ := pruneDiff_ok.mp hplan
  have hnone : idsIn observedList = [] := by
    rw [eq_nil_iff_forall_not_mem]
    intro id hid
    have hkey := (mem_keysOf hobserved).mpr ⟨id, hid, rfl⟩
    rw [h] at hkey
    cases hkey
  rw [hnone] at hloop
  obtain rfl := Except.ok.inj hloop
  cases hop

end NXOS

end VirtualKubelet.Config
