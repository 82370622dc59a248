import VirtualKubelet.Config.Hash
import VirtualKubelet.Proofs.ScopeMerge

/-!
# What a hash says about an intent

Two values that are written the same are the same, up to the order of maps and
the way numbers are represented; so two intents with one hash agree in every
field that was hashed, unless their texts collide.
-/

namespace VirtualKubelet.Config

open Go
open List hiding map

variable [Encoding]

/-! ## The text is that of the document -/

section

omit [Encoding]

theorem joinCommas_render (items : List Json) :
    joinCommas (items.map Json.render) = Json.renderItems items := by
  induction items with
  | nil => rw [map_nil, joinCommas, Json.renderItems]
  | cons v rest ih =>
    cases rest with
    | nil => rw [map_cons, map_nil, joinCommas, Json.renderItems]
    | cons w rest =>
      rw [map_cons] at ih
      rw [map_cons, map_cons, joinCommas, ih, Json.renderItems_cons]
      simp

theorem joinCommas_fields (fields : List (String × Json)) :
    joinCommas (fields.map fun f => Json.renderText f.1.toList ++ ':' :: f.2.render) =
      Json.renderFields (fields.map fun f => (f.1.toList, f.2)) := by
  induction fields with
  | nil => rw [map_nil, map_nil, joinCommas, Json.renderFields]
  | cons field rest ih =>
    obtain ⟨k, v⟩ := field
    cases rest with
    | nil =>
      rw [map_cons, map_nil, joinCommas, map_cons, map_nil, Json.renderFields]
    | cons f rest =>
      rw [map_cons, map_cons] at ih
      rw [map_cons, map_cons, joinCommas, ih, map_cons, map_cons,
        Json.renderFields_cons]
      simp

theorem sortFields_map {α β : Type} (g : α → β) (l : List (String × α)) :
    sortFields (l.map fun f => (f.1, g f.2)) = (sortFields l).map fun f => (f.1, g f.2) := by
  symm
  apply map_insertionSort
  exact fun a _ b _ => Iff.rfl

end

mutual

theorem canonicalJSON_eq (v : Value) : canonicalJSON v = (toJson v).map Json.render := by
  match v with
  | .nil | .bool _ | .int _ | .float _ | .text _ | .maps _ => rw [canonicalJSON] <;> nofun
  | .list items =>
    rw [canonicalJSON, canonicalItems_eq items, toJson, Option.map_map, Option.map_map]
    congr 1
    funext items
    show '[' :: joinCommas (items.map Json.render) ++ [']'] = Json.render (.list items)
    rw [joinCommas_render, Json.render]
  | .map fields =>
    rw [canonicalJSON, canonicalFields_eq fields, toJson, Option.map_map, Option.map_map]
    congr 1
    funext fields
    show '{' :: joinCommas ((sortFields (fields.map fun f => (f.1, f.2.render))).map
        fun f => Json.renderText f.1.toList ++ ':' :: f.2) ++ ['}'] =
      Json.render (.object ((sortFields fields).map fun f => (f.1.toList, f.2)))
    rw [sortFields_map, map_map, Json.render, ← joinCommas_fields]
    rfl

theorem canonicalItems_eq (items : List Value) :
    canonicalItems items = (itemsToJson items).map fun items => items.map Json.render := by
  match items with
  | [] =>
    rw [canonicalItems, itemsToJson]
    rfl
  | v :: rest =>
    rw [canonicalItems, itemsToJson, canonicalJSON_eq v, canonicalItems_eq rest]
    cases toJson v with
    | none => rfl
    | some j => cases itemsToJson rest <;> rfl

theorem canonicalFields_eq (fields : List (String × Value)) :
    canonicalFields fields =
      (fieldsToJson fields).map fun fields => fields.map fun f => (f.1, f.2.render) := by
  match fields with
  | [] =>
    rw [canonicalFields, fieldsToJson]
    rfl
  | (k, v) :: rest =>
    rw [canonicalFields, fieldsToJson, canonicalJSON_eq v, canonicalFields_eq rest]
    cases toJson v with
    | none => rfl
    | some j => cases fieldsToJson rest <;> rfl

end

theorem toJson_of_canonicalJSON (h : canonicalJSON v = some text)
    (h' : canonicalJSON v' = some text) :
    ∃ document, toJson v = some document ∧ toJson v' = some document := by
  rw [canonicalJSON_eq, Option.map_eq_some_iff] at h h'
  obtain ⟨document, hv, rfl⟩ := h
  obtain ⟨document', hv', htext⟩ := h'
  rw [Json.render_injective htext] at hv'
  exact ⟨document, hv, hv'⟩

/-! ## Values with one document -/

def numberLiteral : Value → Option Literal
  | .int n => some (integerLiteral n.toInt)
  | .float bits => Encoding.floatLiteral bits
  | _ => none

omit [Encoding] in
/-- The elements of a slice, of either type. -/
def sliceItems : Value → Option (List Value)
  | .list items => some items
  | .maps items => some (items.map .map)
  | _ => none

/-- Equal up to the order of maps and the representation of numbers. -/
inductive SameValue : Value → Value → Prop
  | nil : SameValue .nil .nil
  | bool (b : Bool) : SameValue (.bool b) (.bool b)
  | text (s : String) : SameValue (.text s) (.text s)
  | number {v v' : Value} (literal : Literal) (h : numberLiteral v = some literal)
      (h' : numberLiteral v' = some literal) : SameValue v v'
  | slice {v v' : Value} {items items' : List Value} (h : sliceItems v = some items)
      (h' : sliceItems v' = some items') (same : List.Forall₂ SameValue items items') : SameValue v v'
  | map {m m' : Fields} (names : ∀ k, m.find k = none ↔ m'.find k = none)
      (same : ∀ k v v', m.find k = some v → m'.find k = some v' → SameValue v v') :
      SameValue (.map m) (.map m')

section

omit [Encoding]

theorem lookup_cons_if {α β : Type} [BEq α] [LawfulBEq α] [DecidableEq α] (f : α × β) (l : List (α × β)) (k : α) :
    (f :: l).lookup k = if k = f.1 then some f.2 else l.lookup k := by
  rw [lookup_cons]
  by_cases h : k = f.1
  · rw [if_pos h, beq_iff_eq.mpr h]
  · rw [if_neg h, beq_eq_false_iff_ne.mpr h]

theorem lookup_orderedInsert {α : Type} (f : String × α) (l : List (String × α)) (k : String) :
    (l.orderedInsert (fun a b => a.1 ≤ b.1) f).lookup k =
      if k = f.1 then some f.2 else l.lookup k := by
  induction l with
  | nil => rw [List.orderedInsert, lookup_cons_if]
  | cons g rest ih =>
    rw [List.orderedInsert]
    split
    · rw [lookup_cons_if]
    rename_i hle
    rw [lookup_cons_if, ih, lookup_cons_if]
    by_cases hk : k = f.1
    · have hne : k ≠ g.1 := by
        rintro rfl
        exact hle (le_of_eq hk.symm)
      rw [if_neg hne, if_pos hk, if_pos hk]
    · rw [if_neg hk, if_neg hk]

theorem lookup_sortFields {α : Type} (l : List (String × α)) (k : String) :
    (sortFields l).lookup k = l.lookup k := by
  rw [sortFields]
  induction l with
  | nil => rfl
  | cons f rest ih =>
    rw [insertionSort_cons, lookup_orderedInsert, ih, lookup_cons_if]

theorem lookup_toList {α : Type} (l : List (String × α)) (k : String) :
    (l.map fun f => (f.1.toList, f.2)).lookup k.toList = l.lookup k := by
  induction l with
  | nil => rfl
  | cons f rest ih =>
    rw [map_cons, lookup_cons_if, lookup_cons_if, ih]
    by_cases h : k = f.1
    · rw [if_pos h, if_pos (congrArg String.toList h)]
    · rw [if_neg h, if_neg fun heq => h (String.toList_injective heq)]

end

theorem lookup_fieldsToJson {m : Fields} {fields : List (String × Json)}
    (h : fieldsToJson m = some fields) (k : String) :
    (m.find k = none ∧ fields.lookup k = none) ∨
      ∃ v j, m.find k = some v ∧ fields.lookup k = some j ∧ toJson v = some j := by
  induction m generalizing fields with
  | nil =>
    rw [fieldsToJson] at h
    cases h
    exact .inl ⟨rfl, rfl⟩
  | cons f rest ih =>
    obtain ⟨k', v⟩ := f
    rw [fieldsToJson] at h
    obtain ⟨j, hj, h⟩ := Option.bind_eq_some_iff.mp h
    obtain ⟨fields, hfields, h⟩ := Option.bind_eq_some_iff.mp h
    cases h
    rw [find_cons, lookup_cons_if]
    by_cases hk : k = k'
    · rw [if_pos hk, if_pos hk]
      exact .inr ⟨v, j, rfl, rfl, hj⟩
    · rw [if_neg hk, if_neg hk]
      exact ih hfields

theorem lookup_toJson {m : Fields} {fields : List (List Char × Json)}
    (h : toJson (.map m) = some (.object fields)) (k : String) :
    (m.find k = none ∧ fields.lookup k.toList = none) ∨
      ∃ v j, m.find k = some v ∧ fields.lookup k.toList = some j ∧ toJson v = some j := by
  rw [toJson, Option.map_eq_some_iff] at h
  obtain ⟨fields', hfields, heq⟩ := h
  cases heq
  rw [lookup_toList, lookup_sortFields]
  exact lookup_fieldsToJson hfields k

theorem eq_nil_of_toJson (h : toJson v = some .null) : v = .nil := by
  cases v with
  | nil => rfl
  | _ => simp [toJson] at h

theorem eq_bool_of_toJson (h : toJson v = some (.bool b)) : v = .bool b := by
  cases v with
  | bool b' =>
    rw [toJson] at h
    cases h
    rfl
  | _ => simp [toJson] at h

theorem eq_text_of_toJson (h : toJson v = some (.text s)) : v = .text (String.ofList s) := by
  cases v with
  | text t =>
    rw [toJson] at h
    cases h
    rw [String.ofList_toList]
  | _ => simp [toJson] at h

theorem numberLiteral_of_toJson (h : toJson v = some (.number literal)) :
    numberLiteral v = some literal := by
  cases v with
  | int n =>
    rw [toJson] at h
    cases h
    rfl
  | float bits => simpa [toJson, numberLiteral] using h
  | _ => simp [toJson] at h

theorem itemsToJson_forall₂ (h : itemsToJson items = some js) :
    List.Forall₂ (fun v j => toJson v = some j) items js := by
  induction items generalizing js with
  | nil =>
    rw [itemsToJson] at h
    cases h
    exact .nil
  | cons v rest ih =>
    rw [itemsToJson] at h
    obtain ⟨j, hj, h⟩ := Option.bind_eq_some_iff.mp h
    obtain ⟨js, hjs, h⟩ := Option.bind_eq_some_iff.mp h
    cases h
    exact .cons hj (ih hjs)

theorem mapsToJson_forall₂ (h : mapsToJson items = some js) :
    List.Forall₂ (fun v j => toJson v = some j) (items.map .map) js := by
  induction items generalizing js with
  | nil =>
    rw [mapsToJson] at h
    cases h
    exact .nil
  | cons m rest ih =>
    rw [mapsToJson] at h
    obtain ⟨fields, hfields, h⟩ := Option.bind_eq_some_iff.mp h
    obtain ⟨js, hjs, h⟩ := Option.bind_eq_some_iff.mp h
    cases h
    refine .cons ?_ (ih hjs)
    rw [toJson, hfields]
    rfl

theorem slice_of_toJson (h : toJson v = some (.list js)) :
    ∃ items, sliceItems v = some items ∧ List.Forall₂ (fun v j => toJson v = some j) items js := by
  cases v with
  | list items =>
    rw [toJson, Option.map_eq_some_iff] at h
    obtain ⟨js, hjs, heq⟩ := h
    cases heq
    exact ⟨items, rfl, itemsToJson_forall₂ hjs⟩
  | maps items =>
    rw [toJson, Option.map_eq_some_iff] at h
    obtain ⟨js, hjs, heq⟩ := h
    cases heq
    exact ⟨_, rfl, mapsToJson_forall₂ hjs⟩
  | _ => simp [toJson] at h

theorem eq_map_of_toJson {v : Value} {fields : List (List Char × Json)}
    (h : toJson v = some (.object fields)) : ∃ m : Fields, v = .map m := by
  cases v with
  | map m => exact ⟨m, rfl⟩
  | _ => simp [toJson] at h

mutual

theorem sameValue_of_toJson (document : Json) {v v' : Value} (h : toJson v = some document)
    (h' : toJson v' = some document) : SameValue v v' := by
  match document with
  | .null =>
    rw [eq_nil_of_toJson h, eq_nil_of_toJson h']
    exact .nil
  | .bool b =>
    rw [eq_bool_of_toJson h, eq_bool_of_toJson h']
    exact .bool b
  | .number literal =>
    exact .number literal (numberLiteral_of_toJson h) (numberLiteral_of_toJson h')
  | .text s =>
    rw [eq_text_of_toJson h, eq_text_of_toJson h']
    exact .text _
  | .list js =>
    obtain ⟨items, hitems, hall⟩ := slice_of_toJson h
    obtain ⟨items', hitems', hall'⟩ := slice_of_toJson h'
    exact .slice hitems hitems' (sameItems_of_toJson js hall hall')
  | .object fields =>
    obtain ⟨m, rfl⟩ := eq_map_of_toJson h
    obtain ⟨m', rfl⟩ := eq_map_of_toJson h'
    have hfields := sameFields_of_toJson fields
    refine .map (fun k => ?_) fun k v v' hv hv' => ?_
    · rcases lookup_toJson h k with ⟨hm, hnone⟩ | ⟨v, j, hm, hsome, -⟩ <;>
        rcases lookup_toJson h' k with ⟨hm', hnone'⟩ | ⟨v', j', hm', hsome', -⟩
      · exact iff_of_true hm hm'
      · rw [hnone] at hsome'
        cases hsome'
      · rw [hnone'] at hsome
        cases hsome
      · rw [hm, hm']
        exact ⟨nofun, nofun⟩
    · rcases lookup_toJson h k with ⟨hm, -⟩ | ⟨u, j, hm, hsome, hj⟩ <;>
        rcases lookup_toJson h' k with ⟨hm', -⟩ | ⟨u', j', hm', hsome', hj'⟩
      · rw [hm] at hv
        cases hv
      · rw [hm] at hv
        cases hv
      · rw [hm'] at hv'
        cases hv'
      rw [hm] at hv
      rw [hm'] at hv'
      rw [hsome] at hsome'
      cases hv
      cases hv'
      cases hsome'
      exact hfields k.toList j hsome hj hj'

theorem sameItems_of_toJson (js : List Json)
    (h : List.Forall₂ (fun v j => toJson v = some j) items js)
    (h' : List.Forall₂ (fun v j => toJson v = some j) items' js) :
    List.Forall₂ SameValue items items' := by
  match js with
  | [] =>
    cases h
    cases h'
    exact .nil
  | j :: js =>
    cases h with
    | cons hv hrest =>
      cases h' with
      | cons hv' hrest' =>
        exact .cons (sameValue_of_toJson j hv hv') (sameItems_of_toJson js hrest hrest')

theorem sameFields_of_toJson (fields : List (List Char × Json)) (k : List Char) (j : Json)
    (hlookup : fields.lookup k = some j) {v v' : Value} (h : toJson v = some j)
    (h' : toJson v' = some j) : SameValue v v' := by
  match fields with
  | (k', j') :: rest =>
    rw [lookup_cons_if] at hlookup
    split at hlookup
    · have hj : j' = j := Option.some.inj hlookup
      rw [← hj] at h h'
      exact sameValue_of_toJson j' h h'
    · exact sameFields_of_toJson rest k j hlookup h h'

end

/-! ## Intents with one hash -/

/-- The fields of an intent that the hash covers agree. -/
structure SameHashed (i i' : DeviceIntent) : Prop where
  deviceName : i.deviceName = i'.deviceName
  managedFamilies : i.resolved.managedFamilies = i'.resolved.managedFamilies
  modelVersion : i.resolved.modelVersion = i'.resolved.modelVersion
  targetYangVersion : i.resolved.targetYangVersion = i'.resolved.targetYangVersion
  transactional : i.resolved.transactional = i'.resolved.transactional
  writeStartup : i.resolved.writeStartup = i'.resolved.writeStartup
  driftPolicy : i.resolved.driftPolicy = i'.resolved.driftPolicy
  cliBlocks : i.resolved.cliBlocks = i'.resolved.cliBlocks
  names : ∀ family, i.resolved.configuration.find family = none ↔
    i'.resolved.configuration.find family = none
  configuration : ∀ family v v', i.resolved.configuration.find family = some v →
    i'.resolved.configuration.find family = some v' → SameValue v v'

theorem SameValue.text_inj (h : SameValue (.text s) (.text s')) : s = s' := by
  cases h with
  | text => rfl
  | number literal h | slice h => cases h

theorem SameValue.bool_inj (h : SameValue (.bool b) (.bool b')) : b = b' := by
  cases h with
  | bool => rfl
  | number literal h | slice h => cases h

theorem SameValue.slices (h : SameValue v v') (hv : sliceItems v = some items)
    (hv' : sliceItems v' = some items') : List.Forall₂ SameValue items items' := by
  cases h with
  | slice h h' same =>
    rw [hv] at h
    rw [hv'] at h'
    cases h
    cases h'
    exact same
  | number literal h =>
    cases v with
    | list | maps => cases h
    | _ => cases hv
  | _ => cases hv

theorem SameValue.fields {m m' : Fields} (h : SameValue (.map m) (.map m')) :
    (∀ k, m.find k = none ↔ m'.find k = none) ∧
      ∀ k v v', m.find k = some v → m'.find k = some v' → SameValue v v' := by
  cases h with
  | map names same => exact ⟨names, same⟩
  | number literal h | slice h => cases h

theorem texts_inj {l l' : List String}
    (h : List.Forall₂ SameValue (l.map .text) (l'.map .text)) : l = l' := by
  rw [List.forall₂_map_left_iff, List.forall₂_map_right_iff] at h
  rw [← List.forall₂_eq_eq_eq]
  exact h.imp fun _ _ => SameValue.text_inj

theorem SameValue.nil_iff (h : SameValue v v') : v = .nil ↔ v' = .nil := by
  cases h with
  | nil => exact Iff.rfl
  | bool | text | map => exact ⟨nofun, nofun⟩
  | number literal h h' | slice h h' =>
    refine ⟨?_, ?_⟩
    · rintro rfl
      cases h
    · rintro rfl
      cases h'

theorem families_inj (h : SameValue (if l = [] then .nil else .list (l.map .text))
      (if l' = [] then .nil else .list (l'.map .text))) : l = l' := by
  by_cases hl : l = []
  · have hnil := h.nil_iff.mp (if_pos hl)
    by_cases hl' : l' = []
    · rw [hl, hl']
    · rw [if_neg hl'] at hnil
      cases hnil
  · by_cases hl' : l' = []
    · have hnil := h.nil_iff.mpr (if_pos hl')
      rw [if_neg hl] at hnil
      cases hnil
    · rw [if_neg hl, if_neg hl'] at h
      exact texts_inj (h.slices rfl rfl)

theorem cliBlocks_inj {l l' : List CLIBlock}
    (h : SameValue
      (.maps (l.map fun b => [("name", .text b.templateName), ("cli", .text b.cli)]))
      (.maps (l'.map fun b => [("name", .text b.templateName), ("cli", .text b.cli)]))) :
    l = l' := by
  have hall := h.slices rfl rfl
  rw [map_map, map_map, List.forall₂_map_left_iff, List.forall₂_map_right_iff] at hall
  rw [← List.forall₂_eq_eq_eq]
  refine hall.imp fun b b' hb => ?_
  have hname := hb.fields.2 "name" _ _ rfl rfl
  have hcli := hb.fields.2 "cli" _ _ rfl rfl
  obtain ⟨name, cli⟩ := b
  obtain ⟨name', cli'⟩ := b'
  rw [CLIBlock.mk.injEq]
  exact ⟨hname.text_inj, hcli.text_inj⟩

section

omit [Encoding]

theorem DriftPolicy.text_injective : Function.Injective DriftPolicy.text := by
  intro a b h
  cases a <;> cases b <;> first | rfl | exact absurd h (by decide)

theorem find_map_keys (l : List String) (g : String → Value) (k : String) :
    Fields.find (l.map fun k => (k, g k)) k = if k ∈ l then some (g k) else none := by
  induction l with
  | nil => rfl
  | cons k' rest ih =>
    rw [map_cons, find_cons, ih]
    by_cases h : k = k'
    · rw [if_pos h, if_pos (h ▸ mem_cons_self), h]
    · rw [if_neg h]
      simp [h]

theorem find_sorted (m : Map Value) (k : String) :
    Fields.find ((m.keys.sort (· ≤ ·)).map fun k => (k, m.get .nil k)) k = m.find k := by
  have hmem : k ∈ m.keys.sort (· ≤ ·) ↔ k ∈ m := by rw [Finset.mem_sort, Finmap.mem_keys]
  rw [find_map_keys]
  cases hfind : m.find k with
  | none => rw [if_neg fun h => Finmap.lookup_eq_none.mp hfind (hmem.mp h)]
  | some v =>
    rw [if_pos (hmem.mpr (Finmap.mem_iff.mpr ⟨v, hfind⟩)), Map.get, hfind]
    rfl

end

theorem sameHashed_of_canonicalHash {digest : List Char → String}
    (hdigest : Function.Injective digest) {i i' : DeviceIntent} {hash : String}
    (h : canonicalHash digest i = some hash) (h' : canonicalHash digest i' = some hash) :
    SameHashed i i' := by
  rw [canonicalHash, Option.map_eq_some_iff] at h h'
  obtain ⟨text, htext, rfl⟩ := h
  obtain ⟨text', htext', heq⟩ := h'
  have hsame : text' = text := by
    apply hdigest
    have hlist := congrArg String.toList heq
    rw [String.toList_append, String.toList_append] at hlist
    exact String.toList_injective (append_cancel_left hlist)
  rw [hsame] at htext'
  obtain ⟨document, hdocument, hdocument'⟩ := toJson_of_canonicalJSON htext htext'
  have hpayload := sameValue_of_toJson document hdocument hdocument'
  obtain ⟨-, hfield⟩ := hpayload.fields
  have hconfiguration := (hfield "configuration" _ _ rfl rfl).fields
  refine
    { deviceName := (hfield "deviceName" _ _ rfl rfl).text_inj
      managedFamilies := ?_
      modelVersion := (hfield "modelVersion" _ _ rfl rfl).text_inj
      targetYangVersion := (hfield "targetYangVersion" _ _ rfl rfl).text_inj
      transactional := (hfield "transactional" _ _ rfl rfl).bool_inj
      writeStartup := (hfield "writeStartup" _ _ rfl rfl).bool_inj
      driftPolicy := DriftPolicy.text_injective (hfield "driftPolicy" _ _ rfl rfl).text_inj
      cliBlocks := cliBlocks_inj (hfield "cliBlocks" _ _ rfl rfl)
      names := fun family => ?_
      configuration := fun family v v' hv hv' => ?_ }
  · exact families_inj (hfield "managedFamilies" _ _ rfl rfl)
  · have hnames := hconfiguration.1 family
    rw [find_sorted, find_sorted] at hnames
    exact hnames
  · rw [← find_sorted] at hv hv'
    exact hconfiguration.2 family v v' hv hv'

end VirtualKubelet.Config
