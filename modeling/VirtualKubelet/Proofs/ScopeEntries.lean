import VirtualKubelet.Config.Families
import VirtualKubelet.Proofs.ScopeMerge

/-!
# Which entries survive a merge

The merger decides for itself which entries of two scopes are the same one: by
a rule, by the first field of a fixed list that they all have, or not at all,
and then the later list replaces the earlier. The writer of the family has its
own notion. What follows is exact about where the two come apart.

The loop over the later list is followed with the groups of entries that have
become one: the merged list is the groups, each merged into one entry, and a
group is made of the entries that print the same key.
-/

namespace VirtualKubelet.Config

open Go
open List hiding le_refl map next

section

variable [Formatting] {path : List String} {rules : KeyRules} {k t : String}
  {dst src done : List Value} {index : Go.Map Nat} {groups : List (List Value)} {el : Value}

/-! ## The entries that become one -/

/-- The loop of `mergeKeyedLists` with the entries themselves in place of their
merge. -/
def joinEntries (k : String) (index : Go.Map Nat) (groups : List (List Value)) :
    List Value → List (List Value)
  | [] => groups
  | el :: rest =>
    match index.find (keyText k el) with
    | some pos => joinEntries k index (groups.set pos (groups.getD pos [] ++ [el])) rest
    | none => joinEntries k (index.set (keyText k el) groups.length) (groups ++ [[el]]) rest

def combine (path : List String) (rules : KeyRules) : List Value → Value
  | [] => .nil
  | el :: rest => rest.foldl (mergeAt path rules) el

theorem combine_append (hg : g ≠ []) :
    combine path rules (g ++ [el]) = mergeAt path rules (combine path rules g) el := by
  cases g with
  | nil => exact absurd rfl hg
  | cons x rest => rw [cons_append, combine, combine, foldl_append]; rfl

theorem getD_map_combine :
    (groups.map (combine path rules)).getD pos .nil = combine path rules (groups.getD pos []) := by
  rw [getD_eq_getElem?_getD, getD_eq_getElem?_getD, List.getElem?_map]
  cases groups[pos]? <;> rfl

theorem mergeKeyedLists_eq_groups (hne : ∀ g ∈ groups, g ≠ [])
    (hpos : ∀ t pos, index.find t = some pos → pos < groups.length) :
    mergeKeyedLists path rules k index (groups.map (combine path rules)) src =
      (joinEntries k index groups src).map (combine path rules) := by
  induction src generalizing index groups with
  | nil => rw [mergeKeyedLists, joinEntries]
  | cons el rest ih =>
    rw [mergeKeyedLists, joinEntries]
    cases hfind : index.find (keyText k el) with
    | some pos =>
      have hlt := hpos _ _ hfind
      have hgroup : groups.getD pos [] ≠ [] := by
        rw [getD_eq_getElem _ _ hlt]
        exact hne _ (getElem_mem hlt)
      dsimp only
      rw [getD_map_combine, ← combine_append hgroup, ← map_set]
      apply ih
      · intro g hg
        rcases mem_or_eq_of_mem_set hg with hg | rfl
        · exact hne g hg
        · simp
      · intro t pos' h
        rw [length_set]
        exact hpos t pos' h
    | none =>
      have happend : groups.map (combine path rules) ++ [el] =
          (groups ++ [[el]]).map (combine path rules) := by
        rw [map_append]
        rfl
      dsimp only
      rw [happend, length_map]
      apply ih
      · exact forall_mem_append.mpr ⟨hne, by simp⟩
      · intro t pos' h
        rw [length_append, length_singleton]
        rcases Map.find_set_iff.mp h with ⟨-, rfl⟩ | ⟨-, h⟩
        · omega
        · have := hpos t pos' h
          omega

/-- The entries merged under one key: the last of the earlier scope that prints
it and all of the later. -/
def keyGroup (k : String) (dst src : List Value) (t : String) : List Value :=
  (dst.reverse.find? fun x => keyText k x = t).toList ++ src.filter fun y => keyText k y = t

theorem keyText_of_mem_keyGroup (h : x ∈ keyGroup k dst src t) : keyText k x = t := by
  rcases mem_append.mp h with h | h
  · have hfound := List.find?_some (Option.mem_toList.mp h)
    exact of_decide_eq_true hfound
  · exact of_decide_eq_true (mem_filter.mp h).2

theorem mem_keyGroup_src (h : y ∈ src) : y ∈ keyGroup k dst src (keyText k y) :=
  mem_append.mpr (.inr (mem_filter.mpr ⟨h, decide_eq_true rfl⟩))

theorem mem_of_mem_keyGroup (h : x ∈ keyGroup k dst src t) : x ∈ dst ++ src := by
  rcases mem_append.mp h with h | h
  · have hmem := mem_of_find?_eq_some (Option.mem_toList.mp h)
    exact mem_append_left _ (mem_reverse.mp hmem)
  · exact mem_append_right _ (mem_filter.mp h).1

theorem keyGroup_append :
    keyGroup k dst (done ++ [el]) t =
      keyGroup k dst done t ++ if keyText k el = t then [el] else [] := by
  rw [keyGroup, keyGroup, filter_append, append_assoc, filter_singleton]
  by_cases h : keyText k el = t <;> simp [h]

theorem keyGroup_dst_append :
    keyGroup k (dst ++ [x]) [] t = if keyText k x = t then [x] else keyGroup k dst [] t := by
  rw [keyGroup, reverse_append, reverse_singleton, singleton_append, List.find?_cons]
  by_cases h : keyText k x = t <;> simp [h, keyGroup]

/-- The loop after the entries `done` of the later scope. -/
structure Joined (k : String) (dst done : List Value) (index : Go.Map Nat)
    (groups : List (List Value)) : Prop where
  found : ∀ t pos, index.find t = some pos → groups[pos]? = some (keyGroup k dst done t)
  unknown : ∀ t, index.find t = none ↔ keyGroup k dst done t = []
  cover : ∀ pos g, groups[pos]? = some g → (∃ x ∈ dst, g = [x]) ∨ ∃ t, index.find t = some pos
  kept : ∀ x ∈ dst, ∃ g ∈ groups, x ∈ g

theorem Joined.inj (h : Joined k dst done index groups) (ht : index.find t = some pos)
    (ht' : index.find t' = some pos) : t = t' := by
  have hsame := (h.found t pos ht).symm.trans (h.found t' pos ht')
  have hne : keyGroup k dst done t ≠ [] := by
    intro hnil
    rw [(h.unknown t).mpr hnil] at ht
    cases ht
  obtain ⟨x, hx⟩ := exists_mem_of_ne_nil _ hne
  rw [← keyText_of_mem_keyGroup hx]
  rw [Option.some.inj hsame] at hx
  exact keyText_of_mem_keyGroup hx

omit [Formatting] in
/-- A key that is set to the place of a new group finds it, and the others find
what they found. -/
theorem found_append {group : String → List Value} {key : String} {g : List Value}
    (h : ∀ t pos, index.find t = some pos → groups[pos]? = some (group t)) (t : String) (pos : Nat)
    (ht : (index.set key groups.length).find t = some pos) :
    (groups ++ [g])[pos]? = some (if key = t then g else group t) := by
  rcases Map.find_set_iff.mp ht with ⟨rfl, rfl⟩ | ⟨hne, ht⟩
  · rw [if_pos rfl, List.getElem?_append_right (le_refl _), Nat.sub_self]
    rfl
  · have hfound := h t pos ht
    rw [if_neg (Ne.symm hne), List.getElem?_append_left (List.getElem?_eq_some_iff.mp hfound).1]
    exact hfound

theorem found_indexEntries (dst : List Value) (t : String) :
    (∀ pos, (indexEntries k dst).find t = some pos →
      (dst.map fun x => [x])[pos]? = some (keyGroup k dst [] t)) ∧
    ((indexEntries k dst).find t = none ↔ keyGroup k dst [] t = []) := by
  induction dst using List.reverseRecOn generalizing t with
  | nil =>
    refine ⟨?_, iff_of_true rfl rfl⟩
    intro pos h
    cases h
  | append_singleton l x ih =>
    rw [indexEntries_append, map_append, map_singleton, keyGroup_dst_append]
    constructor
    · rw [← length_map]
      exact found_append (fun t => (ih t).1) t
    · by_cases ht : t = keyText k x
      · rw [ht, Map.find_set_self, if_pos rfl]
        simp
      · rw [Map.find_set_ne ht, if_neg (Ne.symm ht), (ih t).2]

theorem joined_start (dst : List Value) :
    Joined k dst [] (indexEntries k dst) (dst.map fun x => [x]) := by
  refine ⟨fun t => (found_indexEntries dst t).1, fun t => (found_indexEntries dst t).2, ?_, ?_⟩
  · intro pos g h
    obtain ⟨x, hx, rfl⟩ := mem_map.mp (mem_of_getElem? h)
    exact .inl ⟨x, hx, rfl⟩
  · intro x hx
    exact ⟨[x], mem_map_of_mem hx, mem_singleton_self x⟩

theorem Joined.met (h : Joined k dst done index groups)
    (hfind : index.find (keyText k el) = some pos) :
    Joined k dst (done ++ [el]) index (groups.set pos (groups.getD pos [] ++ [el])) := by
  have hgroup := h.found _ _ hfind
  have hlt := (List.getElem?_eq_some_iff.mp hgroup).1
  have hget : groups.getD pos [] = keyGroup k dst done (keyText k el) := by
    rw [getD_eq_getElem?_getD, hgroup, Option.getD_some]
  rw [hget]
  refine ⟨?_, ?_, ?_, ?_⟩
  · intro t pos' ht
    rw [keyGroup_append, List.getElem?_set]
    by_cases hpos : pos = pos'
    · subst hpos
      obtain rfl := h.inj ht hfind
      rw [if_pos rfl, if_pos hlt, if_pos rfl]
    have hne : keyText k el ≠ t := by
      intro heq
      rw [heq, ht] at hfind
      exact hpos (Option.some.inj hfind).symm
    rw [if_neg hpos, if_neg hne, append_nil]
    exact h.found t pos' ht
  · intro t
    rw [keyGroup_append, h.unknown, append_eq_nil_iff]
    constructor
    · intro hnil
      refine ⟨hnil, if_neg ?_⟩
      intro heq
      rw [heq, (h.unknown t).mpr hnil] at hfind
      cases hfind
    · exact And.left
  · intro pos' g hg
    rw [List.getElem?_set] at hg
    by_cases hpos : pos = pos'
    · exact .inr ⟨_, hpos ▸ hfind⟩
    · rw [if_neg hpos] at hg
      exact h.cover pos' g hg
  · intro x hx
    obtain ⟨g, hg, hmem⟩ := h.kept x hx
    obtain ⟨i, hi⟩ := List.getElem?_of_mem hg
    by_cases hpos : pos = i
    · subst hpos
      rw [hgroup] at hi
      cases hi
      exact ⟨_, mem_set hlt _, mem_append_left _ hmem⟩
    · refine ⟨g, mem_of_getElem? (i := i) ?_, hmem⟩
      rw [List.getElem?_set, if_neg hpos]
      exact hi

theorem Joined.new (h : Joined k dst done index groups)
    (hfind : index.find (keyText k el) = none) :
    Joined k dst (done ++ [el]) (index.set (keyText k el) groups.length) (groups ++ [[el]]) := by
  have hnil := (h.unknown _).mp hfind
  refine ⟨?_, ?_, ?_, ?_⟩
  · intro t pos ht
    rw [found_append h.found t pos ht, keyGroup_append]
    split
    · next heq => rw [← heq, hnil, nil_append]
    · rw [append_nil]
  · intro t
    rw [keyGroup_append]
    by_cases ht : t = keyText k el
    · rw [ht, Map.find_set_self, if_pos rfl]
      simp
    · rw [Map.find_set_ne ht, if_neg (Ne.symm ht), append_nil]
      exact h.unknown t
  · intro pos g hg
    by_cases hlt : pos < groups.length
    · rw [List.getElem?_append_left hlt] at hg
      rcases h.cover pos g hg with hone | ⟨t, ht⟩
      · exact .inl hone
      refine .inr ⟨t, ?_⟩
      rw [Map.find_set_ne, ht]
      intro heq
      rw [heq, hfind] at ht
      cases ht
    · have hpos := (List.getElem?_eq_some_iff.mp hg).1
      rw [length_append, length_singleton] at hpos
      refine .inr ⟨keyText k el, ?_⟩
      rw [Map.find_set_self]
      congr 1
      omega
  · intro x hx
    obtain ⟨g, hg, hmem⟩ := h.kept x hx
    exact ⟨g, mem_append_left _ hg, hmem⟩

theorem joined_joinEntries (src : List Value) (h : Joined k dst done index groups) :
    ∃ index', Joined k dst (done ++ src) index' (joinEntries k index groups src) := by
  induction src generalizing done index groups with
  | nil =>
    rw [append_nil, joinEntries]
    exact ⟨index, h⟩
  | cons el rest ih =>
    rw [joinEntries]
    have happend : done ++ el :: rest = (done ++ [el]) ++ rest := by simp
    rw [happend]
    cases hfind : index.find (keyText k el) with
    | some pos => exact ih (h.met hfind)
    | none => exact ih (h.new hfind)

/-- The groups of two lists merged by the field `k`. -/
def entryGroups (k : String) (dst src : List Value) : List (List Value) :=
  joinEntries k (indexEntries k dst) (dst.map fun x => [x]) src

theorem mergeKeyedLists_indexEntries :
    mergeKeyedLists path rules k (indexEntries k dst) dst src =
      (entryGroups k dst src).map (combine path rules) := by
  have hmap : dst = (dst.map fun x => [x]).map (combine path rules) := by
    rw [map_map]
    exact (map_id dst).symm
  have hstart := joined_start (k := k) dst
  rw [entryGroups, ← mergeKeyedLists_eq_groups, ← hmap]
  · intro g hg
    obtain ⟨x, -, rfl⟩ := mem_map.mp hg
    simp
  · intro t pos h
    exact (List.getElem?_eq_some_iff.mp (hstart.found t pos h)).1

theorem mem_entryGroups (hg : g ∈ entryGroups k dst src) :
    (∃ x ∈ dst, g = [x]) ∨ ∃ t, g = keyGroup k dst src t := by
  obtain ⟨index', h⟩ := joined_joinEntries src (joined_start (k := k) dst)
  rw [nil_append] at h
  obtain ⟨pos, hpos⟩ := List.getElem?_of_mem hg
  rcases h.cover pos g hpos with hone | ⟨t, ht⟩
  · exact .inl hone
  · have hfound := h.found t pos ht
    have hsame := hpos.symm.trans hfound
    exact .inr ⟨t, Option.some.inj hsame⟩

theorem keyGroup_mem_entryGroups (hy : y ∈ src) :
    keyGroup k dst src (keyText k y) ∈ entryGroups k dst src := by
  obtain ⟨index', h⟩ := joined_joinEntries src (joined_start (k := k) dst)
  rw [nil_append] at h
  cases hfind : index'.find (keyText k y) with
  | none =>
    have hmem : y ∈ keyGroup k dst src (keyText k y) := mem_keyGroup_src hy
    rw [(h.unknown _).mp hfind] at hmem
    cases hmem
  | some pos => exact mem_of_getElem? (h.found _ _ hfind)

theorem exists_group (hx : x ∈ dst ++ src) : ∃ g ∈ entryGroups k dst src, x ∈ g := by
  rcases mem_append.mp hx with hx | hx
  · obtain ⟨index', h⟩ := joined_joinEntries src (joined_start (k := k) dst)
    exact h.kept x hx
  · exact ⟨_, keyGroup_mem_entryGroups hx, mem_keyGroup_src hx⟩

end

/-! ## Identities -/

section

variable [Formatting] {i : Identity} {e : Fields}

theorem Identity.of_congr (h : ∀ field ∈ i.fields, e.find field = e'.find field) :
    i.of e = i.of e' := by
  cases i with
  | field keyField => rw [Identity.of, Identity.of, entryKey, entryKey, h keyField (by simp [fields])]
  | vlanID =>
    rw [Identity.of, Identity.of, VLANWriter.vlanID, VLANWriter.vlanID, h "id" (by simp [fields])]
  | poolName => rw [Identity.of, Identity.of, h "name" (by simp [fields])]
  | port =>
    rw [Identity.of, Identity.of, h "type" (by simp [fields]), h "name" (by simp [fields])]

/-- An entry the writer takes: each name stands once, and what tells it apart is
there and is no list or map. -/
def ValidEntry (i : Identity) (el : Value) : Prop :=
  ∃ e : Fields, el = .map e ∧ (e.map Prod.fst).Nodup ∧ (i.of e).isSome ∧
    ∀ field ∈ i.fields, ∃ v, e.find field = some v ∧ isLeaf v = true ∧ v ≠ .nil

/-- The writer takes them for one entry. -/
def SameEntry (i : Identity) (x y : Value) : Prop := i.of (entryFields x) = i.of (entryFields y)

instance (x y : Value) : Decidable (SameEntry i x y) :=
  inferInstanceAs (Decidable (i.of (entryFields x) = i.of (entryFields y)))

theorem sameEntry_merge (hy : ValidEntry i y) : SameEntry i (mergeAt path rules x y) y := by
  obtain ⟨e, rfl, hnames, -, hfields⟩ := hy
  cases x with
  | map d =>
    rw [mergeAt]
    apply Identity.of_congr
    intro field hfield
    obtain ⟨v, hv, hleaf, hne⟩ := hfields field hfield
    rw [entryFields, entryFields, find_mergeMaps hnames, hv]
    cases Fields.find d field with
    | none => rfl
    | some old => rw [both, mergeAt_leaf hleaf hne]
  | _ => rfl

theorem sameEntry_combine (hg : ∀ y ∈ g, ValidEntry i y) (hsame : ∀ x ∈ g, ∀ y ∈ g, SameEntry i x y)
    (hx : x ∈ g) : SameEntry i (combine path rules g) x := by
  induction g using List.reverseRecOn with
  | nil => cases hx
  | append_singleton g y _ =>
    have hy : y ∈ g ++ [y] := mem_append_right _ (mem_singleton_self y)
    by_cases hnil : g = []
    · subst hnil
      obtain rfl := mem_singleton.mp hx
      rfl
    · rw [combine_append hnil]
      exact (sameEntry_merge (hg y hy)).trans (hsame y hy x hx)

end

/-! ## Blocks -/

/-- A scope has the list of a family, under its name in the family's block or as
the block itself. -/
inductive Declares (f : ListFamily) (scope : Fields) : List String → List Value → Prop
  | inner {block : Fields} {l : List Value} (hblock : scope.find f.family = some (.map block))
      (hnames : (block.map Prod.fst).Nodup) (hlist : block.find f.innerKey = some (.list l)) :
      Declares f scope [f.family, f.innerKey] l
  | bare {l : List Value} (hblock : scope.find f.family = some (.list l)) :
      Declares f scope [f.family] l

section

variable [Formatting] {f : ListFamily} {rules : KeyRules} {p q : List String}
  {dl sl : List Value}

/-- The field by which the lists at two paths are merged, if they are. -/
def mergeField (rules : KeyRules) (p q : List String) (dl sl : List Value) : Option String :=
  if p = q then mergeKey p rules dl sl else none

/-- The entries that become one when they are. -/
def mergeGroups (rules : KeyRules) (p q : List String) (dl sl : List Value) : List (List Value) :=
  match mergeField rules p q dl sl with
  | some k => entryGroups k dl sl
  | none => sl.map fun y => [y]

theorem mergeAt_list_eq_groups :
    mergeAt p rules (.list dl) (.list sl) =
      .list ((mergeGroups rules p p dl sl).map (combine p rules)) := by
  rw [mergeAt, mergeGroups, mergeField, if_pos rfl]
  cases mergeKey p rules dl sl with
  | some k =>
    dsimp only
    rw [mergeKeyedLists_indexEntries]
  | none =>
    dsimp only
    rw [map_map]
    exact congrArg Value.list (map_id sl).symm

theorem mergeGroups_apart (h : p ≠ q) :
    (mergeGroups rules p q dl sl).map (combine q rules) = sl := by
  rw [mergeGroups, mergeField, if_neg h, map_map]
  exact map_id sl

omit [Formatting] in
theorem names_put {m : Fields} :
    (m.put k v).map Prod.fst =
      if k ∈ m.map Prod.fst then m.map Prod.fst else m.map Prod.fst ++ [k] := by
  induction m with
  | nil => rfl
  | cons e rest ih =>
    obtain ⟨k', old⟩ := e
    rw [Fields.put]
    by_cases h : k' = k
    · simp [h]
    have hne : k ≠ k' := Ne.symm h
    rw [if_neg h, map_cons, ih, map_cons]
    by_cases hmem : k ∈ rest.map Prod.fst
    · rw [if_pos hmem, if_pos (mem_cons_of_mem _ hmem)]
    · rw [if_neg hmem, if_neg (by simpa [hne] using hmem)]
      rfl

theorem nodup_mergeMaps {out src : Fields} (h : (out.map Prod.fst).Nodup) :
    ((mergeMaps path rules out src).map Prod.fst).Nodup := by
  have hput : ∀ {m : Fields} {k : String} {v : Value}, (m.map Prod.fst).Nodup →
      ((m.put k v).map Prod.fst).Nodup := by
    intro m k v hm
    rw [names_put]
    split
    · exact hm
    · next hk => exact nodup_append.mpr ⟨hm, nodup_singleton k, by
        intro a ha b hb heq
        rw [heq, mem_singleton.mp hb] at ha
        exact hk ha⟩
  induction src generalizing out with
  | nil =>
    rw [mergeMaps]
    exact h
  | cons e rest ih =>
    obtain ⟨k, v⟩ := e
    rw [mergeMaps]
    cases out.find k with
    | some existing | none => exact ih (hput h)

theorem declares_merge {dst src : Fields} (hsrc : (src.map Prod.fst).Nodup)
    (hd : Declares f dst p dl) (hs : Declares f src q sl) :
    Declares f (mergeMaps [] rules dst src) q
      ((mergeGroups rules p q dl sl).map (combine q rules)) := by
  have hfind : ∀ {d s : Value}, dst.find f.family = some d → src.find f.family = some s →
      (mergeMaps [] rules dst src).find f.family = some (mergeAt [f.family] rules d s) := by
    intro d s hd hs
    rw [find_mergeMaps hsrc, hd, hs]
    rfl
  cases hd with
  | @inner dblock dl hdblock hdnames hdlist =>
    cases hs with
    | @inner sblock sl hsblock hsnames hslist =>
      have hblock := hfind hdblock hsblock
      rw [mergeAt] at hblock
      have hlist : (mergeMaps [f.family] rules dblock sblock).find f.innerKey =
          some (mergeAt [f.family, f.innerKey] rules (.list dl) (.list sl)) := by
        rw [find_mergeMaps hsnames, hdlist, hslist]
        rfl
      rw [mergeAt_list_eq_groups] at hlist
      exact .inner hblock (nodup_mergeMaps hdnames) hlist
    | bare hsblock =>
      have hblock := hfind hdblock hsblock
      rw [mergeAt_apart (by simp) (by simp [SameKind])] at hblock
      rw [mergeGroups_apart (by simp)]
      exact .bare hblock
  | @bare dl hdblock =>
    cases hs with
    | @inner sblock sl hsblock hsnames hslist =>
      have hblock := hfind hdblock hsblock
      rw [mergeAt_apart (by simp) (by simp [SameKind])] at hblock
      rw [mergeGroups_apart (by simp)]
      exact .inner hblock hsnames hslist
    | bare hsblock =>
      have hblock := hfind hdblock hsblock
      rw [mergeAt_list_eq_groups] at hblock
      exact .bare hblock

/-- Of the entries the merger matches, the writer takes those for one; where it
matches none, the later scope has every entry of the earlier. -/
def Agrees (rules : KeyRules) (i : Identity) (p q : List String) (dl sl : List Value) : Prop :=
  match mergeField rules p q dl sl with
  | some k => ∀ y ∈ sl, ∀ x ∈ keyGroup k dl sl (keyText k y), SameEntry i x y
  | none => ∀ x ∈ dl, ∃ y ∈ sl, SameEntry i y x

/-- No entry is lost and no two that the writer tells apart have become one. -/
def Survive (i : Identity) (groups : List (List Value)) (dl sl rl : List Value) : Prop :=
  (∀ x ∈ dl ++ sl, ∃ el ∈ rl, SameEntry i el x) ∧
    ∀ g ∈ groups, ∀ x ∈ g, ∀ y ∈ g, SameEntry i x y

/-- The entries of one key are one entry, be it that only the earlier scope has
the key. -/
theorem sameEntry_keyGroup (h : ∀ y ∈ sl, ∀ x ∈ keyGroup k dl sl (keyText k y), SameEntry i x y) :
    ∀ x ∈ keyGroup k dl sl t, ∀ y ∈ keyGroup k dl sl t, SameEntry i x y := by
  intro x hx y hy
  by_cases hsrc : ∃ s ∈ sl, keyText k s = t
  · obtain ⟨s, hs, rfl⟩ := hsrc
    exact (h s hs x hx).trans (h s hs y hy).symm
  have hnone : sl.filter (fun y => keyText k y = t) = [] := by
    rw [filter_eq_nil_iff]
    intro s hs
    rw [decide_eq_true_eq]
    exact fun heq => hsrc ⟨s, hs, heq⟩
  rw [keyGroup, hnone, append_nil, Option.mem_toList] at hx hy
  rw [Option.mem_unique hx hy]
  rfl

theorem survive_iff (hdl : ∀ x ∈ dl, ValidEntry i x) (hsl : ∀ y ∈ sl, ValidEntry i y) :
    Survive i (mergeGroups rules p q dl sl) dl sl
        ((mergeGroups rules p q dl sl).map (combine q rules)) ↔ Agrees rules i p q dl sl := by
  have hvalid : ∀ x ∈ dl ++ sl, ValidEntry i x := by
    exact forall_mem_append.mpr ⟨hdl, hsl⟩
  rw [Survive, mergeGroups, Agrees]
  cases mergeField rules p q dl sl with
  | none =>
    dsimp only
    rw [map_map]
    have hid : sl.map (combine q rules ∘ fun y => [y]) = sl := map_id sl
    rw [hid]
    constructor
    · intro h x hx
      exact h.1 x (mem_append_left _ hx)
    intro h
    constructor
    · intro x hx
      rcases mem_append.mp hx with hx | hx
      · exact h x hx
      · exact ⟨x, hx, rfl⟩
    · intro g hg x hx y hy
      obtain ⟨z, -, rfl⟩ := mem_map.mp hg
      rw [mem_singleton.mp hx, mem_singleton.mp hy]
      rfl
  | some k =>
    dsimp only
    constructor
    · intro h y hy x hx
      exact h.2 _ (keyGroup_mem_entryGroups hy) x hx y (mem_keyGroup_src hy)
    intro h
    have hgroups : ∀ g ∈ entryGroups k dl sl, (∀ x ∈ g, ValidEntry i x) ∧
        ∀ x ∈ g, ∀ y ∈ g, SameEntry i x y := by
      intro g hg
      rcases mem_entryGroups hg with ⟨z, hz, rfl⟩ | ⟨t, rfl⟩
      · refine ⟨fun x hx => ?_, fun x hx y hy => ?_⟩
        · rw [mem_singleton.mp hx]
          exact hdl z hz
        · rw [mem_singleton.mp hx, mem_singleton.mp hy]
          rfl
      · exact ⟨fun x hx => hvalid x (mem_of_mem_keyGroup hx), sameEntry_keyGroup h⟩
    refine ⟨?_, fun g hg => (hgroups g hg).2⟩
    intro x hx
    obtain ⟨g, hg, hmem⟩ := exists_group (k := k) hx
    obtain ⟨hvalid, hsame⟩ := hgroups g hg
    exact ⟨_, mem_map_of_mem hg, sameEntry_combine hvalid hsame hmem⟩

/-- For every family with a list of entries and every two scopes that declare
one: the merged scope has the merges of the groups for its list, and no entry
is lost or mixed with another exactly if the merger and the writer agree. -/
theorem scope_entries_survive_iff (f : ListFamily) (_hf : f ∈ listFamilies) (dst src : Fields)
    (hsrc : (src.map Prod.fst).Nodup) (p q : List String) (dl sl : List Value)
    (hd : Declares f dst p dl) (hs : Declares f src q sl)
    (hdl : ∀ x ∈ dl, ValidEntry f.identity x) (hsl : ∀ y ∈ sl, ValidEntry f.identity y) :
    ∃ merged rl, mergeWithRules (.map dst) (.map src) keyRulesForXE = .map merged ∧
      Declares f merged q rl ∧
      rl = (mergeGroups keyRulesForXE p q dl sl).map (combine q keyRulesForXE) ∧
      (Survive f.identity (mergeGroups keyRulesForXE p q dl sl) dl sl rl ↔
        Agrees keyRulesForXE f.identity p q dl sl) := by
  refine ⟨_, _, ?_, declares_merge hsrc hd hs, rfl, survive_iff hdl hsl⟩
  rw [mergeWithRules, mergeAt]

end

/-! ## Ports, routes and lines of two scopes -/

namespace Scopes

attribute [local instance] formatting

def port (type name description : String) : Value :=
  .map [("type", .text type), ("name", .text name), ("description", .text description)]

def route (destination mask : String) : Value :=
  .map [("prefix", .text destination), ("mask", .text mask)]

def vty (first last : Int64) : Value := .map [("first", .int first), ("last", .int last)]

def scope (family innerKey : String) (entries : List Value) : Value :=
  .map [(family, .map [(innerKey, .list entries)])]

theorem valid_port (type name description : String)
    (h : (Identity.port.of [("type", .text type), ("name", .text name),
      ("description", .text description)]).isSome) :
    ValidEntry .port (port type name description) := by
  refine ⟨_, rfl, by simp, h, fun field hfield => ?_⟩
  rcases mem_cons.mp hfield with rfl | hfield
  · exact ⟨.text type, rfl, rfl, nofun⟩
  · rw [mem_singleton.mp hfield]
    exact ⟨.text name, rfl, rfl, nofun⟩

theorem valid_route (destination mask : String) :
    ValidEntry (.field "prefix") (route destination mask) := by
  refine ⟨_, rfl, by simp, rfl, fun field hfield => ?_⟩
  rw [mem_singleton.mp hfield]
  exact ⟨.text destination, rfl, rfl, nofun⟩

theorem valid_vrf (name rd : String) : ValidEntry (.field "name") (vrf name rd) := by
  refine ⟨_, rfl, by simp, rfl, fun field hfield => ?_⟩
  rw [mem_singleton.mp hfield]
  exact ⟨.text name, rfl, rfl, nofun⟩

/-- Two ports of different types with one name become one port, and the routes
of the earlier scope are gone, and so are its lines. -/
theorem ports_combined_routes_lost :
    (ValidEntry .port (port "GigabitEthernet" "1/0/1" "uplink") ∧
      ValidEntry .port (port "TenGigabitEthernet" "1/0/1" "core") ∧
      ¬ SameEntry .port (port "GigabitEthernet" "1/0/1" "uplink")
        (port "TenGigabitEthernet" "1/0/1" "core") ∧
      mergeWithRules
          (scope "interface_ethernet" "interfaces" [port "GigabitEthernet" "1/0/1" "uplink"])
          (scope "interface_ethernet" "interfaces" [port "TenGigabitEthernet" "1/0/1" "core"])
          keyRulesForXE =
        scope "interface_ethernet" "interfaces" [port "TenGigabitEthernet" "1/0/1" "core"]) ∧
    (ValidEntry (.field "prefix") (route "10.0.0.0" "255.0.0.0") ∧
      ValidEntry (.field "prefix") (route "0.0.0.0" "0.0.0.0") ∧
      mergeWithRules (scope "static_route" "routes" [route "10.0.0.0" "255.0.0.0"])
          (scope "static_route" "routes" [route "0.0.0.0" "0.0.0.0"]) keyRulesForXE =
        scope "static_route" "routes" [route "0.0.0.0" "0.0.0.0"]) ∧
    mergeWithRules (scope "line" "vty" [vty 0 4]) (scope "line" "vty" [vty 5 15]) keyRulesForXE =
      scope "line" "vty" [vty 5 15] :=
  ⟨⟨valid_port _ _ _ (by decide), valid_port _ _ _ (by decide), by decide, rfl⟩,
    ⟨valid_route _ _, valid_route _ _, rfl⟩, rfl⟩

theorem vrf_entries_survive :
    ∃ merged rl, mergeWithRules (scope "vrf" "vrfs" [vrf "red" "1:1"])
        (scope "vrf" "vrfs" [vrf "red" "2:2", vrf "blue" "3:3"]) keyRulesForXE = .map merged ∧
      Declares { family := "vrf", innerKey := "vrfs", identity := .field "name" } merged
        ["vrf", "vrfs"] rl ∧
      ∀ x ∈ [vrf "red" "1:1", vrf "red" "2:2", vrf "blue" "3:3"],
        ∃ el ∈ rl, SameEntry (.field "name") el x := by
  have hdl : ∀ x ∈ [vrf "red" "1:1"], ValidEntry (.field "name") x := by
    intro x hx
    rw [mem_singleton.mp hx]
    exact valid_vrf _ _
  have hsl : ∀ y ∈ [vrf "red" "2:2", vrf "blue" "3:3"], ValidEntry (.field "name") y := by
    intro y hy
    rcases mem_cons.mp hy with rfl | hy
    · exact valid_vrf _ _
    · rw [mem_singleton.mp hy]
      exact valid_vrf _ _
  obtain ⟨merged, rl, hmerged, hdeclares, -, hiff⟩ := scope_entries_survive_iff
    { family := "vrf", innerKey := "vrfs", identity := .field "name" } (by decide)
    [("vrf", .map [("vrfs", .list [vrf "red" "1:1"])])]
    [("vrf", .map [("vrfs", .list [vrf "red" "2:2", vrf "blue" "3:3"])])]
    (nodup_singleton _) _ _ _ _ (.inner rfl (nodup_singleton _) rfl)
    (.inner rfl (nodup_singleton _) rfl) hdl hsl
  have hagrees : ∀ y ∈ [vrf "red" "2:2", vrf "blue" "3:3"],
      ∀ x ∈ keyGroup "name" [vrf "red" "1:1"] [vrf "red" "2:2", vrf "blue" "3:3"]
        (keyText "name" y), SameEntry (.field "name") x y := by
    decide
  exact ⟨merged, rl, hmerged, hdeclares, (hiff.mpr hagrees).1⟩

end Scopes

end VirtualKubelet.Config
