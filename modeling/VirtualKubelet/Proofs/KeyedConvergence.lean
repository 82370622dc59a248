import VirtualKubelet.Config.KeyedDiff
import VirtualKubelet.Proofs.ScopeMerge

/-!
# Keyed lists converge

What `Diff` finds missing it merges, and when the device has merged it `Diff`
finds nothing. Between the two stands JSON: integers are written as integers
and come back as floats, so that a leaf never equals what was written of it.
It prints the same, and that is how the writer compares.
-/

namespace VirtualKubelet.Config

open Go
open List hiding after diff keys next

section

variable [Encoding]

/-! ## Plain values through JSON -/

omit [Encoding] in
/-- A text, a boolean or an integer below a million. -/
def Plain : Value → Prop
  | .text _ | .bool _ => True
  | .int n => n.toInt.natAbs < 1000000
  | _ => False

omit [Encoding] in
/-- What comes back. -/
def decoded : Value → Value
  | .int n => .float (floatOfInt n.toInt)
  | v => v

def leafJson (v : Value) : Json := (toJson v).getD .null

theorem printFloat_floatOfInt {n : Int} (h : n.natAbs < 1000000) :
    printFloat (floatOfInt n) = decimal n := by
  rw [printFloat, floatInteger_floatOfInt (by omega)]
  exact if_pos h

theorem literalFloat_integerLiteral {n : Int64} (h : n.toInt.natAbs < 1000000) :
    literalFloat (integerLiteral n.toInt) = floatOfInt n.toInt := by
  have htext : String.ofList (integerLiteral n.toInt).text = decimal n.toInt :=
    String.ofList_toList
  rw [literalFloat, htext, atoi_decimal]
  exact if_pos ⟨h, rfl⟩

theorem toJson_plain (h : Plain v) : toJson v = some (leafJson v) := by
  cases v with
  | text s | bool b | int n => rfl
  | _ => cases h

theorem fromJson_leafJson (h : Plain v) : fromJson (leafJson v) = decoded v := by
  cases v with
  | text s =>
    rw [leafJson, toJson, Option.getD_some, fromJson, String.ofList_toList]
    rfl
  | bool b => rfl
  | int n =>
    rw [leafJson, toJson, Option.getD_some, fromJson, literalFloat_integerLiteral h]
    rfl
  | _ => cases h

theorem printValue_decoded (h : Plain v) : printValue (decoded v) = printValue v := by
  cases v with
  | text s | bool b => rfl
  | int n =>
    rw [decoded, printValue, printValue]
    exact printFloat_floatOfInt h
  | _ => cases h

theorem entryKey_decoded {e e' : Fields} (hv : Plain v) (he : e.find field = some v)
    (he' : e'.find field = some (decoded v)) (hk : entryKey e field = .ok k) :
    entryKey e' field = .ok k := by
  rw [entryKey, he] at hk
  rw [entryKey, he']
  cases v with
  | text s | bool b => exact hk
  | int n =>
    rw [← hk]
    exact congrArg Except.ok (printFloat_floatOfInt hv)
  | _ => cases hv

theorem sameScalar_print (ha : Plain a) (h : sameScalar a b = true) :
    printValue a = printValue b := by
  cases a with
  | text s =>
    cases b with
    | text t => rw [eq_of_beq h]
    | _ => cases h
  | bool s =>
    cases b with
    | bool t => rw [eq_of_beq h]
    | _ => cases h
  | int s =>
    cases b with
    | int t => rw [eq_of_beq h]
    | _ => cases h
  | _ => cases ha

theorem scalarEqual_plain (ha : Plain a) :
    scalarEqual a b = true ↔ printValue a = printValue b := by
  have hdeep : deepEqual a b = sameScalar a b ∧
      scalarEqual a b = if isComparable a && isComparable b then
        sameScalar a b || printValue a == printValue b
      else deepEqual a b || printValue a == printValue b := by
    cases a with
    | text s | bool s | int s => simp [deepEqual, scalarEqual]
    | _ => cases ha
  rw [hdeep.2, hdeep.1, ite_self, Bool.or_eq_true, beq_iff_eq]
  constructor
  · rintro (h | h)
    · exact sameScalar_print ha h
    · exact h
  · exact .inr

/-! ## Entries through JSON -/

section

variable {e : Fields}

theorem fieldsToJson_plain (h : ∀ f ∈ e, Plain f.2) :
    fieldsToJson e = some (e.map fun f => (f.1, leafJson f.2)) := by
  induction e with
  | nil => rw [fieldsToJson]; rfl
  | cons f rest ih =>
    obtain ⟨k, v⟩ := f
    rw [fieldsToJson, toJson_plain (h (k, v) mem_cons_self),
      ih fun f hf => h f (mem_cons_of_mem _ hf)]
    rfl

omit [Encoding] in
theorem put_new {m : Fields} (h : k ∉ m.map Prod.fst) : m.put k v = m ++ [(k, v)] := by
  induction m with
  | nil => rfl
  | cons f rest ih =>
    obtain ⟨k', old⟩ := f
    rw [map_cons, mem_cons, not_or] at h
    rw [Fields.put, if_neg (Ne.symm h.1), ih h.2]
    rfl

theorem fieldsFromJson_map {out : Fields} {l : List (String × Json)}
    (h : (out.map Prod.fst ++ l.map Prod.fst).Nodup) :
    fieldsFromJson out (l.map fun f => (f.1.toList, f.2)) =
      out ++ l.map fun f => (f.1, fromJson f.2) := by
  induction l generalizing out with
  | nil => rw [map_nil, fieldsFromJson, map_nil, append_nil]
  | cons f rest ih =>
    obtain ⟨k, j⟩ := f
    have hnew : k ∉ out.map Prod.fst := by
      intro hmem
      exact (nodup_append.mp h).2.2 k hmem k mem_cons_self rfl
    rw [map_cons, fieldsFromJson, String.ofList_toList, put_new hnew, ih]
    · simp
    · simpa using h

omit [Encoding] in
theorem find_perm {m m' : Fields} (hperm : m.Perm m') (hnames : (m.map Prod.fst).Nodup)
    (k : String) : m.find k = m'.find k := by
  have hnames' : (m'.map Prod.fst).Nodup := (hperm.map Prod.fst).nodup_iff.mp hnames
  cases h : m'.find k with
  | some v => exact find_of_mem hnames (hperm.mem_iff.mpr (mem_of_find h))
  | none =>
    cases hm : m.find k with
    | none => rfl
    | some v =>
      have hfind := find_of_mem hnames' (hperm.mem_iff.mp (mem_of_find hm))
      rw [h] at hfind
      cases hfind

omit [Encoding] in
theorem find_map {m : Fields} (g : Value → Value) (k : String) :
    Fields.find (m.map fun f => (f.1, g f.2)) k = (m.find k).map g := by
  induction m with
  | nil => rfl
  | cons f rest ih =>
    obtain ⟨k', v⟩ := f
    rw [map_cons, find_cons, find_cons]
    by_cases h : k = k'
    · rw [if_pos h, if_pos h]
      rfl
    · rw [if_neg h, if_neg h]
      exact ih

/-- An entry with plain leaves, each name once. -/
structure PlainEntry (e : Fields) : Prop where
  names : (e.map Prod.fst).Nodup
  plain : ∀ f ∈ e, Plain f.2

omit [Encoding] in
theorem PlainEntry.find (h : PlainEntry e) (hv : e.find k = some v) : Plain v :=
  h.plain (k, v) (mem_of_find hv)

theorem unmarshal_entry (h : PlainEntry e) (envelopeKey : String) :
    ∃ raw e', wrapYANGPayload envelopeKey (.list [.map e]) = .ok raw ∧
      unmarshalJson raw = some (.map [(envelopeKey, .list [.map e'])]) ∧
      (e'.map Prod.fst).Nodup ∧ ∀ k, Fields.find e' k = (e.find k).map decoded := by
  obtain ⟨sorted, hsorted⟩ : ∃ sorted, sorted = sortFields (e.map fun f => (f.1, leafJson f.2)) :=
    ⟨_, rfl⟩
  have hperm : sorted.Perm (e.map fun f => (f.1, leafJson f.2)) := by
    rw [hsorted]
    exact perm_insertionSort _ _
  have hnames : (sorted.map Prod.fst).Nodup := by
    rw [(hperm.map Prod.fst).nodup_iff, map_map]
    exact h.names
  have hdocument : toJson (.map [(envelopeKey, .list [.map e])]) =
      some (.object [(envelopeKey.toList,
        .list [.object (sorted.map fun f => (f.1.toList, f.2))])]) := by
    rw [toJson, fieldsToJson, toJson, itemsToJson, toJson, fieldsToJson_plain h.plain, hsorted]
    rfl
  have hdecode : (sorted.map fun f => (f.1, fromJson f.2)).Perm
      (e.map fun f => (f.1, decoded f.2)) := by
    have hleaves : (e.map fun f => (f.1, leafJson f.2)).map (fun f => (f.1, fromJson f.2)) =
        e.map fun f => (f.1, decoded f.2) := by
      rw [map_map]
      apply map_congr_left
      intro f hf
      exact congrArg (Prod.mk f.1) (fromJson_leafJson (h.plain f hf))
    rw [← hleaves]
    exact hperm.map _
  have hnames' : ((sorted.map fun f => (f.1, fromJson f.2)).map Prod.fst).Nodup := by
    rw [map_map]
    exact hnames
  simp only [wrapYANGPayload, marshalJson, hdocument]
  refine ⟨_, sorted.map fun f => (f.1, fromJson f.2), rfl, ?_, hnames', fun k => ?_⟩
  · rw [unmarshalJson, String.toList_ofList, Json.parse_render, Option.map_some, fromJson,
      fieldsFromJson, fromJson, itemsFromJson, fromJson, fieldsFromJson_map (by simpa using hnames),
      itemsFromJson, fieldsFromJson, String.ofList_toList]
    rfl
  · rw [find_perm hdecode hnames', find_map]

end

/-! ## Entries by their keys -/

namespace KeyedListWriter

variable {w : KeyedListWriter} {l device : List Fields} {e entry : Fields} {k : String}

def keyOf (w : KeyedListWriter) (e : Fields) : Option String := (entryKey e w.keyField).toOption

theorem keyOf_eq : w.keyOf e = some k ↔ entryKey e w.keyField = .ok k := by
  rw [keyOf]
  cases entryKey e w.keyField with
  | error err => exact ⟨nofun, nofun⟩
  | ok k' => exact ⟨fun h => congrArg Except.ok (Option.some.inj h), by intro h; cases h; rfl⟩

theorem find_of_keyOf (h : w.keyOf e = some k) : ∃ v, e.find w.keyField = some v := by
  cases hfind : e.find w.keyField with
  | some v => exact ⟨v, rfl⟩
  | none =>
    rw [keyOf, entryKey, hfind] at h
    cases h

theorem keyOf_congr {e' : Fields} (h : e'.find w.keyField = e.find w.keyField) :
    w.keyOf e' = w.keyOf e := by
  rw [keyOf, keyOf, entryKey, entryKey, h]

theorem got_append :
    w.got (l ++ [e]) =
      match w.keyOf e with
      | some k => (w.got l).set k e
      | none => w.got l := by
  rw [got, foldl_append, keyOf]
  cases hkey : entryKey e w.keyField with
  | error err | ok k =>
    rw [foldl_cons, foldl_nil, hkey]
    rfl

/-- No two entries have the same key. -/
def DistinctKeys (w : KeyedListWriter) (l : List Fields) : Prop := (l.filterMap w.keyOf).Nodup

/-- The entry that counts for its key: the last one. -/
def Last (w : KeyedListWriter) (l : List Fields) (k : String) (e : Fields) : Prop :=
  ∃ before after, l = before ++ e :: after ∧ w.keyOf e = some k ∧ ∀ x ∈ after, w.keyOf x ≠ some k

theorem got_find_last : (w.got l).find k = some e ↔ w.Last l k e := by
  induction l using List.reverseRecOn with
  | nil =>
    refine ⟨nofun, ?_⟩
    rintro ⟨before, after, heq, -⟩
    exact absurd heq (by simp)
  | append_singleton l x ih =>
    have hsplit : w.Last (l ++ [x]) k e ↔
        (e = x ∧ w.keyOf x = some k) ∨ (w.keyOf x ≠ some k ∧ w.Last l k e) := by
      constructor
      · rintro ⟨before, after, heq, hkey, hlast⟩
        cases after using List.reverseRecOn with
        | nil =>
          obtain ⟨-, heq⟩ := append_inj' heq rfl
          cases heq
          exact .inl ⟨rfl, hkey⟩
        | append_singleton after y =>
          rw [← cons_append, ← append_assoc] at heq
          obtain ⟨hl, heq⟩ := append_inj' heq rfl
          cases heq
          refine .inr ⟨hlast x (mem_append_right _ (mem_singleton_self x)),
            before, after, hl, hkey, fun z hz => hlast z (mem_append_left _ hz)⟩
      · rintro (⟨rfl, hkey⟩ | ⟨hne, before, after, rfl, hkey, hlast⟩)
        · exact ⟨l, [], rfl, hkey, nofun⟩
        refine ⟨before, after ++ [x], by simp, hkey, fun z hz => ?_⟩
        rcases mem_append.mp hz with hz | hz
        · exact hlast z hz
        · rw [mem_singleton.mp hz]
          exact hne
    rw [got_append, hsplit, ← ih]
    cases hkey : w.keyOf x with
    | none => simp
    | some k' =>
      dsimp only
      rw [Map.find_set_iff]
      by_cases hk : k = k'
      · subst hk
        simp [eq_comm]
      · simp [hk, Ne.symm hk]

theorem got_find_iff (h : w.DistinctKeys l) :
    (w.got l).find k = some e ↔ e ∈ l ∧ w.keyOf e = some k := by
  rw [got_find_last]
  constructor
  · rintro ⟨before, after, rfl, hkey, -⟩
    exact ⟨mem_append_right _ mem_cons_self, hkey⟩
  · rintro ⟨hmem, hkey⟩
    obtain ⟨before, after, rfl⟩ := append_of_mem hmem
    refine ⟨before, after, rfl, hkey, fun x hx hxk => ?_⟩
    rw [DistinctKeys, filterMap_append, filterMap_cons_some hkey] at h
    exact (nodup_cons.mp (nodup_append.mp h).2.1).1 (mem_filterMap.mpr ⟨x, hx, hxk⟩)

theorem got_perm {l' : List Fields} (h : w.DistinctKeys l) (hperm : l'.Perm l) :
    w.got l' = w.got l := by
  have h' : w.DistinctKeys l' := (hperm.filterMap w.keyOf).nodup_iff.mpr h
  apply Map.ext_find
  intro k
  apply Option.ext
  intro e
  rw [got_find_iff h', got_find_iff h, hperm.mem_iff]

theorem want_eq_got (h : ∀ e ∈ l, ∃ k, w.keyOf e = some k) : w.want ∅ l = .ok (w.got l) := by
  rw [got]
  generalize (∅ : Map Fields) = out
  induction l generalizing out with
  | nil => rfl
  | cons e rest ih =>
    obtain ⟨k, hk⟩ := h e mem_cons_self
    rw [want, foldl_cons, keyOf_eq.mp hk]
    exact ih (fun e he => h e (mem_cons_of_mem _ he)) _

/-! ## The device -/

omit [Encoding] in
/-- The leaves of one entry over those of another. -/
def overlay (old new : Fields) : Fields := new.foldl (fun out f => out.put f.1 f.2) old

omit [Encoding] in
theorem find_overlay {old new : Fields} (hnames : (new.map Prod.fst).Nodup) :
    (overlay old new).find k = (new.find k).or (old.find k) := by
  induction new generalizing old with
  | nil => rfl
  | cons f rest ih =>
    obtain ⟨k', v⟩ := f
    rw [map_cons, nodup_cons] at hnames
    rw [overlay, foldl_cons, ← overlay, ih hnames.2, find_put, find_cons]
    by_cases h : k = k'
    · rw [if_pos h, if_pos h, h, find_eq_none hnames.1]
      rfl
    · rw [if_neg h, if_neg h]

/-- The device merges an entry: into the one with its key, or as a new one. -/
def mergeEntry (w : KeyedListWriter) (device : List Fields) (entry : Fields) : List Fields :=
  if device.any fun e => w.keyOf e = w.keyOf entry then
    device.map fun e => if w.keyOf e = w.keyOf entry then overlay e entry else e
  else device ++ [entry]

def opEntry (op : Op) : Option Fields :=
  match unmarshalJson op.body with
  | some (.map [(_, .list [.map e])]) => some e
  | _ => none

/-- What the device does with a merge operation; it does nothing else here. -/
def applyOp (w : KeyedListWriter) (device : List Fields) (op : Op) : Option (List Fields) :=
  if op.verb = .merge then (opEntry op).map (w.mergeEntry device) else none

def applyOps (w : KeyedListWriter) : List Fields → List Op → Option (List Fields)
  | device, [] => some device
  | device, op :: rest => (w.applyOp device op).bind fun device => w.applyOps device rest

theorem mergeEntry_spec (hdevice : w.DistinctKeys device) (hnames : (entry.map Prod.fst).Nodup)
    (hkey : w.keyOf entry = some k) :
    w.DistinctKeys (w.mergeEntry device entry) ∧
      (∀ k' ≠ k, (w.got (w.mergeEntry device entry)).find k' = (w.got device).find k') ∧
      ∃ o, (w.got (w.mergeEntry device entry)).find k = some o ∧
        ∀ x v, entry.find x = some v → o.find x = some v := by
  obtain ⟨v, hv⟩ := find_of_keyOf hkey
  have hover : ∀ e, w.keyOf (overlay e entry) = some k := by
    intro e
    rw [← hkey]
    apply keyOf_congr
    rw [find_overlay hnames, hv]
    rfl
  rw [mergeEntry, hkey]
  split
  · rename_i hany
    have hkeys : ∀ e, w.keyOf (if w.keyOf e = some k then overlay e entry else e) = w.keyOf e := by
      intro e
      split
      · next he => rw [hover, he]
      · rfl
    have hdistinct : w.DistinctKeys
        (device.map fun e => if w.keyOf e = some k then overlay e entry else e) := by
      rw [DistinctKeys, filterMap_map]
      have hcomp : (w.keyOf ∘ fun e => if w.keyOf e = some k then overlay e entry else e) =
          w.keyOf := funext hkeys
      rw [hcomp]
      exact hdevice
    refine ⟨hdistinct, ?_, ?_⟩
    · intro k' hne
      apply Option.ext
      intro o
      rw [got_find_iff hdistinct, got_find_iff hdevice, mem_map]
      constructor
      · rintro ⟨⟨e, he, rfl⟩, ho⟩
        rw [hkeys] at ho
        rw [if_neg (by rw [ho]; exact fun h => hne (Option.some.inj h))]
        exact ⟨he, ho⟩
      · rintro ⟨ho, hk⟩
        refine ⟨⟨o, ho, if_neg ?_⟩, hk⟩
        rw [hk]
        exact fun h => hne (Option.some.inj h)
    · obtain ⟨e, he, hek⟩ := any_eq_true.mp hany
      have hek := of_decide_eq_true hek
      refine ⟨overlay e entry, ?_, ?_⟩
      · rw [got_find_iff hdistinct, mem_map]
        exact ⟨⟨e, he, if_pos hek⟩, hover e⟩
      · intro x v hx
        rw [find_overlay hnames, hx]
        rfl
  · rename_i hany
    have hnone : ∀ e ∈ device, w.keyOf e ≠ some k := by
      intro e he hek
      exact hany (any_eq_true.mpr ⟨e, he, decide_eq_true hek⟩)
    have hdistinct : w.DistinctKeys (device ++ [entry]) := by
      rw [DistinctKeys, filterMap_append, filterMap_cons_some hkey, filterMap_nil,
        nodup_append]
      refine ⟨hdevice, nodup_singleton k, ?_⟩
      intro a ha b hb heq
      obtain ⟨e, he, hea⟩ := mem_filterMap.mp ha
      rw [heq, mem_singleton.mp hb] at hea
      exact hnone e he hea
    refine ⟨hdistinct, ?_, entry, ?_, fun x v hx => hx⟩
    · intro k' hne
      rw [got_append, hkey]
      exact Map.find_set_ne hne
    · rw [got_append, hkey]
      exact Map.find_set_self

/-! ## The operations -/

variable {want got : Map Fields} {keys : List String} {ops : List Op}

omit [Encoding] in
theorem projectManagedLeaves_eq (managed : List String) : projectManagedLeaves e managed = e := by
  rw [projectManagedLeaves]
  induction managed with
  | nil => rfl
  | cons leaf rest ih =>
    rw [foldl_cons]
    cases hfind : e.find leaf with
    | none => exact ih
    | some v =>
      dsimp only
      rw [put_self hfind]
      exact ih

/-- The operation merges an entry with a key and, decoded, its leaves. -/
def Merges (w : KeyedListWriter) (k : String) (entry : Fields) (op : Op) : Prop :=
  op.verb = .merge ∧ ∃ e, opEntry op = some e ∧ w.keyOf e = some k ∧ (e.map Prod.fst).Nodup ∧
    ∀ x, e.find x = (entry.find x).map decoded

theorem mergeOp_spec (hplain : PlainEntry entry) (hkey : w.keyOf entry = some k) (inDevice : Bool) :
    ∃ op, w.mergeOp k entry inDevice = .ok op ∧ w.Merges k entry op := by
  obtain ⟨raw, e, hraw, hdecode, hnames, hfind⟩ := unmarshal_entry hplain w.envelopeKey
  obtain ⟨kv, hfield⟩ := find_of_keyOf hkey
  have hkey' : w.keyOf e = some k := by
    have hv := hfind w.keyField
    rw [hfield] at hv
    rw [keyOf_eq] at hkey ⊢
    exact entryKey_decoded (hplain.find hfield) hfield hv hkey
  have hentry : ∀ op : Op, op.body = raw → opEntry op = some e := by
    intro op hop
    rw [opEntry, hop, hdecode]
  rw [mergeOp, projectManagedLeaves_eq, hfield]
  dsimp only
  rw [put_self hfield, hraw]
  cases inDevice with
  | true | false => exact ⟨_, rfl, rfl, e, hentry _ rfl, hkey', hnames, hfind⟩

def settled (w : KeyedListWriter) (want got : Map Fields) (k : String) : Bool :=
  (got.find k).any fun o => leavesEqual (want.get [] k) o w.managedLeaves

def Wanted (w : KeyedListWriter) (want : Map Fields) : Prop :=
  ∀ k e, want.find k = some e → PlainEntry e ∧ w.keyOf e = some k

theorem diffKeys_spec (hwant : w.Wanted want) (hkeys : ∀ k ∈ keys, ∃ e, want.find k = some e) :
    ∃ ops, w.diffKeys want got keys = .ok ops ∧
      List.Forall₂ (fun k op => w.Merges k (want.get [] k) op)
        (keys.filter fun k => !w.settled want got k) ops := by
  induction keys with
  | nil => exact ⟨[], rfl, .nil⟩
  | cons k rest ih =>
    obtain ⟨ops, hops, hall⟩ := ih fun k hk => hkeys k (mem_cons_of_mem _ hk)
    obtain ⟨e, he⟩ := hkeys k mem_cons_self
    have hget : want.get [] k = e := by rw [Map.get, he, Option.getD_some]
    rw [diffKeys]
    by_cases hsettled : w.settled want got k = true
    · rw [filter_cons_of_neg (by rw [hsettled]; decide)]
      rw [settled] at hsettled
      rw [if_pos hsettled]
      exact ⟨ops, hops, hall⟩
    obtain ⟨op, hop, hmerges⟩ :=
      mergeOp_spec (hwant k e he).1 (hwant k e he).2 (got.find k).isSome
    rw [filter_cons_of_pos (by simpa using hsettled)]
    rw [settled] at hsettled
    rw [if_neg hsettled, hget, hop, hops]
    exact ⟨op :: ops, rfl, .cons (by rw [hget]; exact hmerges) hall⟩

theorem diffKeys_settled (h : ∀ k ∈ keys, w.settled want got k = true) :
    w.diffKeys want got keys = .ok [] := by
  induction keys with
  | nil => rfl
  | cons k rest ih =>
    have hk := h k mem_cons_self
    rw [settled] at hk
    rw [diffKeys, if_pos hk]
    exact ih fun k hk => h k (mem_cons_of_mem _ hk)

theorem applyOps_spec (hdevice : w.DistinctKeys device) (hkeys : keys.Nodup)
    (hops : List.Forall₂ (fun k op => w.Merges k (want.get [] k) op) keys ops) :
    ∃ device', w.applyOps device ops = some device' ∧ w.DistinctKeys device' ∧
      (∀ k ∉ keys, (w.got device').find k = (w.got device).find k) ∧
      ∀ k ∈ keys, ∃ o, (w.got device').find k = some o ∧
        ∀ x v, (want.get [] k).find x = some v → o.find x = some (decoded v) := by
  induction hops generalizing device with
  | nil => exact ⟨device, rfl, hdevice, fun _ _ => rfl, nofun⟩
  | @cons k op keys ops hmerges _ ih =>
    obtain ⟨hverb, e, hentry, hkey, hnames, hfind⟩ := hmerges
    rw [nodup_cons] at hkeys
    obtain ⟨hdistinct, hothers, o, ho, hleaves⟩ := mergeEntry_spec hdevice hnames hkey
    obtain ⟨device', happly, hdistinct', hkept, hmerged⟩ := ih hdistinct hkeys.2
    refine ⟨device', ?_, hdistinct', ?_, ?_⟩
    · rw [applyOps, applyOp, if_pos hverb, hentry, Option.map_some, Option.bind_some]
      exact happly
    · intro k' hk'
      rw [mem_cons, not_or] at hk'
      rw [hkept k' hk'.2, hothers k' hk'.1]
    intro k' hk'
    rcases mem_cons.mp hk' with rfl | hk'
    · refine ⟨o, ?_, ?_⟩
      · rw [hkept k' hkeys.1, ho]
      · intro x v hv
        apply hleaves
        rw [hfind, hv]
        rfl
    · exact hmerged k' hk'

theorem leavesEqual_decoded {o : Fields} (hplain : PlainEntry e) (managed : List String)
    (h : ∀ x v, e.find x = some v → o.find x = some (decoded v)) :
    leavesEqual e o managed = true := by
  rw [leavesEqual, all_eq_true]
  intro leaf _
  rw [leafEqual]
  cases hfind : e.find leaf with
  | none => rfl
  | some v =>
    have hv := hplain.find hfind
    rw [h leaf v hfind]
    dsimp only
    rw [scalarEqual_plain hv, printValue_decoded hv]

/-! ## Whole differences -/

/-- The leaf on the device is what is wanted: it prints the same, or it is not
there and an explicit false is wanted. -/
def Matches (v : Value) : Option Value → Prop
  | some ov => printValue v = printValue ov
  | none => isExplicitFalse v = true

theorem leavesEqual_iff (hplain : PlainEntry e) (managed : List String) :
    leavesEqual e o managed = true ↔
      ∀ leaf ∈ managed, ∀ v, e.find leaf = some v → Matches v (o.find leaf) := by
  rw [leavesEqual, all_eq_true]
  refine forall₂_congr fun leaf _ => ?_
  rw [leafEqual]
  cases hfind : e.find leaf with
  | none => exact iff_of_true rfl nofun
  | some v =>
    have hone : (∀ u, some v = some u → Matches u (o.find leaf)) ↔ Matches v (o.find leaf) :=
      ⟨fun h => h v rfl, fun h u hu => Option.some.inj hu ▸ h⟩
    rw [hone]
    cases o.find leaf with
    | none => exact Iff.rfl
    | some ov => exact scalarEqual_plain (hplain.find hfind)

/-- What the operations are and what they do. -/
structure Converges (w : KeyedListWriter) (desired observed : Value) (entries device : List Fields)
    (ops : List Op) : Prop where
  merges : ∃ keys : List String, keys.Nodup ∧ (∀ k ∈ keys, ∃ e ∈ entries, w.keyOf e = some k) ∧
    List.Forall₂ (fun k op => op.verb = .merge ∧ (opEntry op).bind w.keyOf = some k) keys ops
  settled : ops = [] ↔ ∀ k e, w.Last entries k e → ∃ o ∈ device, w.keyOf o = some k ∧
    ∀ leaf ∈ w.managedLeaves, ∀ v, e.find leaf = some v → Matches v (o.find leaf)
  converges : ∃ device', w.applyOps device ops = some device' ∧
    w.diff desired (.maps device') = .ok []
  desiredOrder : w.DistinctKeys entries → ∀ desired' entries',
    coerceBlock w.innerKey desired' "desired" = .ok entries' → entries'.Perm entries →
      w.diff desired' observed = .ok ops
  observedOrder : ∀ observed' device', coerceList observed' "observed" = .ok device' →
    device'.Perm device → w.diff desired observed' = .ok ops

variable {desired observed : Value} {entries : List Fields}

theorem diff_eq (hdesired : coerceBlock w.innerKey desired "desired" = .ok entries)
    (hkeys : ∀ e ∈ entries, ∃ k, w.keyOf e = some k)
    (hobserved : coerceList observed "observed" = .ok device) :
    w.diff desired observed =
      w.diffKeys (w.got entries) (w.got device) ((w.got entries).keys.sort (· ≤ ·)) := by
  rw [diff, hdesired, hobserved]
  show (w.want ∅ entries >>= _) = _
  rw [want_eq_got hkeys]
  rfl

omit [Encoding] in
theorem mem_sorted_keys {m : Map Fields} :
    k ∈ m.keys.sort (· ≤ ·) ↔ ∃ e, m.find k = some e := by
  rw [Finset.mem_sort, Finmap.mem_keys, Finmap.mem_iff]
  rfl

theorem settled_iff (hdevice : w.DistinctKeys device) (hplain : PlainEntry e)
    (he : want.find k = some e) :
    w.settled want (w.got device) k = true ↔ ∃ o ∈ device, w.keyOf o = some k ∧
      ∀ leaf ∈ w.managedLeaves, ∀ v, e.find leaf = some v → Matches v (o.find leaf) := by
  have hget : want.get [] k = e := by rw [Map.get, he, Option.getD_some]
  rw [settled, hget, Option.any_eq_true]
  constructor
  · rintro ⟨o, ho, hleaves⟩
    obtain ⟨hmem, hkey⟩ := (got_find_iff hdevice).mp ho
    exact ⟨o, hmem, hkey, (leavesEqual_iff hplain _).mp hleaves⟩
  · rintro ⟨o, hmem, hkey, hleaves⟩
    exact ⟨o, (got_find_iff hdevice).mpr ⟨hmem, hkey⟩, (leavesEqual_iff hplain _).mpr hleaves⟩

/-- For every writer, every desired block of plain entries and every observed
list with distinct keys, the difference is computed and converges. -/
theorem keyed_list_converges (w : KeyedListWriter) (desired observed : Value)
    (entries device : List Fields)
    (hdesired : coerceBlock w.innerKey desired "desired" = .ok entries)
    (hplain : ∀ e ∈ entries, PlainEntry e ∧ ∃ k, w.keyOf e = some k)
    (hobserved : coerceList observed "observed" = .ok device) (hdevice : w.DistinctKeys device) :
    ∃ ops, w.diff desired observed = .ok ops ∧
      w.Converges desired observed entries device ops := by
  have hkeys : ∀ e ∈ entries, ∃ k, w.keyOf e = some k := fun e he => (hplain e he).2
  have hlast : ∀ k e, (w.got entries).find k = some e →
      e ∈ entries ∧ w.keyOf e = some k := by
    intro k e he
    obtain ⟨before, after, rfl, hkey, -⟩ := got_find_last.mp he
    exact ⟨mem_append_right _ mem_cons_self, hkey⟩
  have hwant : w.Wanted (w.got entries) := fun k e he =>
    ⟨(hplain e (hlast k e he).1).1, (hlast k e he).2⟩
  obtain ⟨ops, hops, hall⟩ := @diffKeys_spec _ w _ (w.got device) _ hwant
    fun k hk => mem_sorted_keys.mp hk
  have hdiff := diff_eq hdesired hkeys hobserved
  rw [hops] at hdiff
  have hnodup : ((((w.got entries).keys.sort (· ≤ ·))).filter
      fun k => !w.settled (w.got entries) (w.got device) k).Nodup :=
    (Finset.sort_nodup _ _).filter _
  refine ⟨ops, hdiff, ?_, ?_, ?_, ?_, ?_⟩
  · refine ⟨_, hnodup, ?_, hall.imp ?_⟩
    · intro k hk
      obtain ⟨e, he⟩ := mem_sorted_keys.mp (mem_filter.mp hk).1
      exact ⟨e, hlast k e he⟩
    · rintro k op ⟨hverb, e, hentry, hkey, -⟩
      rw [hentry]
      exact ⟨hverb, hkey⟩
  · have hempty : ops = [] ↔ ∀ k ∈ (w.got entries).keys.sort (· ≤ ·),
        w.settled (w.got entries) (w.got device) k = true := by
      rw [← length_eq_zero_iff, ← hall.length_eq, length_eq_zero_iff,
        filter_eq_nil_iff]
      simp
    rw [hempty]
    constructor
    · intro h k e he
      have hfind := got_find_last.mpr he
      exact (settled_iff hdevice (hwant k e hfind).1 hfind).mp
        (h k (mem_sorted_keys.mpr ⟨e, hfind⟩))
    · intro h k hk
      obtain ⟨e, hfind⟩ := mem_sorted_keys.mp hk
      exact (settled_iff hdevice (hwant k e hfind).1 hfind).mpr (h k e (got_find_last.mp hfind))
  · obtain ⟨device', happly, -, hkept, hmerged⟩ := applyOps_spec hdevice hnodup hall
    refine ⟨device', happly, ?_⟩
    have hagain : coerceList (.maps device') "observed" = .ok device' := rfl
    rw [diff_eq hdesired hkeys hagain]
    apply diffKeys_settled
    intro k hk
    obtain ⟨e, he⟩ := mem_sorted_keys.mp hk
    have hget : (w.got entries).get [] k = e := by rw [Map.get, he, Option.getD_some]
    by_cases hsettled : w.settled (w.got entries) (w.got device) k = true
    · rw [settled, hkept k ?_]
      · exact hsettled
      · intro hmem
        rw [mem_filter, hsettled] at hmem
        cases hmem.2
    · obtain ⟨o, ho, hleaves⟩ := hmerged k (mem_filter.mpr ⟨hk, by simpa using hsettled⟩)
      rw [hget] at hleaves
      rw [settled, ho, hget]
      exact leavesEqual_decoded (hwant k e he).1 w.managedLeaves hleaves
  · intro hdistinct desired' entries' hdesired' hperm
    have hkeys' : ∀ e ∈ entries', ∃ k, w.keyOf e = some k :=
      fun e he => hkeys e (hperm.mem_iff.mp he)
    rw [diff_eq hdesired' hkeys' hobserved, got_perm hdistinct hperm]
    exact hops
  · intro observed' device' hobserved' hperm
    rw [diff_eq hdesired hkeys hobserved', got_perm hdevice hperm]
    exact hops

/-! ## A loopback interface -/

end KeyedListWriter

end

namespace KeyedListWriter.Loopback

@[reducible]
def encoding : Encoding where
  nameType _ := ""
  formatOther _ := ""
  toInt _ := 0
  isIntegral _ := false
  isInt _ := false
  floatLiteral _ := none
  parseOther _ := 0

attribute [local instance] encoding

def writer : KeyedListWriter where
  family := "interface_loopback"
  yangPath := "/Cisco-IOS-XE-native:native/interface/Loopback"
  envelopeKey := "Cisco-IOS-XE-native:Loopback"
  innerKey := "interfaces"
  keyField := "name"
  managedLeaves := ["description", "shutdown"]

def loopback : Fields :=
  [("name", .int 100), ("description", .text "router id"), ("shutdown", .bool false)]

theorem loopback_created :
    ∃ ops device, writer.diff (.map [("interfaces", .list [.map loopback])]) .nil = .ok ops ∧
      ops ≠ [] ∧ writer.applyOps [] ops = some device ∧
      writer.diff (.map [("interfaces", .list [.map loopback])]) (.maps device) = .ok [] := by
  have hplain : ∀ e ∈ [loopback], PlainEntry e ∧ ∃ k, writer.keyOf e = some k := by
    intro e he
    rw [mem_singleton.mp he]
    refine ⟨⟨by decide, ?_⟩, "100", rfl⟩
    intro f hf
    simp only [loopback, mem_cons, not_mem_nil, or_false] at hf
    rcases hf with rfl | rfl | rfl
    · exact (by decide : (100 : Int64).toInt.natAbs < 1000000)
    · trivial
    · trivial
  obtain ⟨ops, hops, hconv⟩ := keyed_list_converges writer
    (.map [("interfaces", .list [.map loopback])]) .nil [loopback] [] rfl hplain rfl
    nodup_nil
  obtain ⟨device, happly, hdone⟩ := hconv.converges
  refine ⟨ops, device, hops, ?_, happly, hdone⟩
  intro hnil
  obtain ⟨o, ho, -⟩ := hconv.settled.mp hnil "100" loopback ⟨[], [], rfl, rfl, nofun⟩
  cases ho

end KeyedListWriter.Loopback

end VirtualKubelet.Config
