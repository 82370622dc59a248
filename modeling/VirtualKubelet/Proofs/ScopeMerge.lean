import VirtualKubelet.Config.Merge

/-!
# What a merge of two scopes holds

A place in a tree is addressed by the names of the maps and the keys of the
list entries on the way to it. At an address that both scopes have, the merge
holds the merge of the two values; at an address that one of them has, it holds
what is there, unless the later scope has put a value of another kind above it.
-/

namespace VirtualKubelet.Config

open Go
open List hiding map merge next set

/-! ## Fields -/

section

variable {m out src : Fields} {k k' : String} {v v' : Value}

theorem find_cons : Fields.find ((k', v) :: m) k = if k = k' then some v else m.find k := by
  rw [Fields.find, lookup_cons]
  by_cases h : k = k'
  · rw [if_pos h, beq_iff_eq.mpr h]
  · rw [if_neg h, beq_eq_false_iff_ne.mpr h]
    rfl

theorem mem_of_find (h : m.find k = some v) : (k, v) ∈ m := by
  induction m with
  | nil => cases h
  | cons e rest ih =>
    obtain ⟨k', v'⟩ := e
    rw [find_cons] at h
    split at h
    · rename_i heq
      cases h
      rw [heq]
      exact mem_cons_self
    · exact mem_cons_of_mem _ (ih h)

theorem find_of_mem (hnames : (m.map Prod.fst).Nodup) (h : (k, v) ∈ m) : m.find k = some v := by
  induction m with
  | nil => cases h
  | cons e rest ih =>
    obtain ⟨k', v'⟩ := e
    rw [map_cons, nodup_cons] at hnames
    rw [find_cons]
    rcases mem_cons.mp h with heq | hmem
    · cases heq
      rw [if_pos rfl]
    have hne : k ≠ k' := by
      intro heq
      exact hnames.1 (mem_map.mpr ⟨(k, v), hmem, heq⟩)
    rw [if_neg hne]
    exact ih hnames.2 hmem

theorem find_eq_none (h : k ∉ m.map Prod.fst) : m.find k = none := by
  cases hfind : m.find k with
  | none => rfl
  | some v => exact absurd (mem_map_of_mem (f := Prod.fst) (mem_of_find hfind)) h

theorem find_put : (m.put k' v).find k = if k = k' then some v else m.find k := by
  induction m with
  | nil => rw [Fields.put, find_cons]
  | cons e rest ih =>
    obtain ⟨k₁, v₁⟩ := e
    rw [Fields.put]
    by_cases hk : k₁ = k'
    · rw [if_pos hk, find_cons, find_cons, hk]
      split <;> rfl
    · rw [if_neg hk, find_cons, find_cons, ih]
      by_cases h₁ : k = k₁
      · rw [if_pos h₁, if_pos h₁, if_neg (h₁ ▸ hk)]
      · rw [if_neg h₁, if_neg h₁]

theorem put_self (h : m.find k = some v) : m.put k v = m := by
  induction m with
  | nil => cases h
  | cons e rest ih =>
    obtain ⟨k₁, v₁⟩ := e
    rw [find_cons] at h
    rw [Fields.put]
    by_cases hk : k = k₁
    · rw [if_pos hk] at h
      cases h
      rw [if_pos hk.symm]
    · rw [if_neg hk] at h
      rw [if_neg (Ne.symm hk), ih h]

end

/-! ## Maps -/

/-- What is left of two values of which either may be missing. -/
def both {α : Type} (f : α → α → α) : Option α → Option α → Option α
  | some d, some s => some (f d s)
  | some d, none => some d
  | none, s => s

section

variable [Formatting] {path : List String} {rules : KeyRules} {k : String}

theorem find_mergeMaps {out src : Fields} (hsrc : (src.map Prod.fst).Nodup) :
    (mergeMaps path rules out src).find k =
      both (mergeAt (path ++ [k]) rules) (out.find k) (src.find k) := by
  induction src generalizing out with
  | nil =>
    rw [mergeMaps]
    cases out.find k <;> rfl
  | cons e rest ih =>
    obtain ⟨k', v⟩ := e
    rw [map_cons, nodup_cons] at hsrc
    have hrest : k = k' → Fields.find rest k = none := fun h => find_eq_none (h ▸ hsrc.1)
    rw [mergeMaps]
    cases hout : out.find k'
    all_goals
      dsimp only
      rw [ih hsrc.2, find_put, find_cons]
      by_cases hk : k = k'
      · rw [if_pos hk, if_pos hk, hrest hk, hk, hout]
        rfl
      · rw [if_neg hk, if_neg hk]

theorem mergeMaps_same {out src : Fields} (hfind : ∀ k v, (k, v) ∈ src → out.find k = some v)
    (hsame : ∀ k v, (k, v) ∈ src → mergeAt (path ++ [k]) rules v v = v) :
    mergeMaps path rules out src = out := by
  induction src with
  | nil => rw [mergeMaps]
  | cons e rest ih =>
    obtain ⟨k, v⟩ := e
    have hput : out.put k (mergeAt (path ++ [k]) rules v v) = out := by
      rw [hsame k v mem_cons_self]
      exact put_self (hfind k v mem_cons_self)
    rw [mergeMaps, hfind k v mem_cons_self]
    dsimp only
    rw [hput]
    exact ih (fun k v h => hfind k v (mem_cons_of_mem _ h))
      fun k v h => hsame k v (mem_cons_of_mem _ h)

end

/-! ## Lists -/

theorem set_same {α : Type} {l : List α} {a : α} (h : l[pos]? = some a) : l.set pos a = l := by
  obtain ⟨hlt, rfl⟩ := List.getElem?_eq_some_iff.mp h
  exact set_getElem_self hlt

section

variable [Formatting] {f t : String} {l out src : List Value} {index : Go.Map Nat} {el : Value}

/-- The index knows where the entries of the list stand. -/
def Indexes (f : String) (index : Go.Map Nat) (out : List Value) : Prop :=
  ∀ t pos, index.find t = some pos ↔ (out.map (keyText f))[pos]? = some t

theorem indexes_append (hindex : Indexes f index out) (hnew : index.find (keyText f el) = none) :
    Indexes f (index.set (keyText f el) out.length) (out ++ [el]) := by
  intro t pos
  rw [Map.find_set_iff, map_append, List.getElem?_append, length_map]
  by_cases hpos : pos < out.length
  · rw [if_pos hpos, ← hindex]
    refine ⟨?_, fun hfind => .inr ⟨?_, hfind⟩⟩
    · rintro (⟨-, rfl⟩ | ⟨-, hfind⟩)
      · omega
      · exact hfind
    · rintro rfl
      rw [hnew] at hfind
      cases hfind
  · have hnone : index.find t ≠ some pos := by
      rw [Ne, hindex, List.getElem?_eq_none (by rw [length_map]; omega)]
      intro h
      cases h
    rw [if_neg hpos, map_singleton, List.getElem?_singleton]
    simp only [hnone, and_false, or_false]
    split
    · rw [Option.some.injEq]
      exact ⟨fun h => h.1.symm, fun h => ⟨h.symm, by omega⟩⟩
    · simp only [reduceCtorEq, iff_false]
      omega

theorem Indexes.mem_iff (hindex : Indexes f index out) :
    index.find t = none ↔ t ∉ out.map (keyText f) := by
  rw [← not_iff_not, not_not, ← Ne, Option.ne_none_iff_exists', mem_iff_getElem?]
  exact exists_congr fun pos => hindex t pos

theorem indexEntries_append :
    indexEntries f (l ++ [el]) = (indexEntries f l).set (keyText f el) l.length := by
  rw [indexEntries, indexEntries, zipIdx_append, foldl_append, Nat.zero_add]
  rfl

theorem indexes_indexEntries (hkeys : (l.map (keyText f)).Nodup) :
    Indexes f (indexEntries f l) l := by
  induction l using List.reverseRecOn with
  | nil =>
    intro t pos
    simp [indexEntries]
  | append_singleton l el ih =>
    rw [map_append, nodup_append] at hkeys
    have hindex := ih hkeys.1
    have hnew : keyText f el ∉ l.map (keyText f) := fun h => hkeys.2.2 _ h _ (by simp) rfl
    rw [indexEntries_append]
    exact indexes_append hindex (hindex.mem_iff.mpr hnew)

theorem map_key_set (hpos : out[pos]? = some o) (hkey : keyText f o' = keyText f o) :
    (out.set pos o').map (keyText f) = out.map (keyText f) := by
  rw [map_set, hkey]
  exact set_same (by rw [List.getElem?_map, hpos]; rfl)

theorem find_entry (hkeys : (l.map (keyText f)).Nodup) :
    (l.find? fun el => keyText f el = t) = some el ↔ el ∈ l ∧ keyText f el = t := by
  constructor
  · intro h
    exact ⟨mem_of_find?_eq_some h, by simpa using List.find?_some h⟩
  rintro ⟨hmem, ht⟩
  cases hfind : l.find? fun el => keyText f el = t with
  | none => exact absurd ht (by simpa using List.find?_eq_none.mp hfind el hmem)
  | some el' =>
    have ht' : keyText f el' = t := by simpa using List.find?_some hfind
    rw [inj_on_of_nodup_map hkeys (mem_of_find?_eq_some hfind) hmem (ht'.trans ht.symm)]

theorem find_entry_none (h : t ∉ l.map (keyText f)) :
    (l.find? fun el => keyText f el = t) = none := by
  simpa using h

theorem find_set_entry (hkeys : (out.map (keyText f)).Nodup) (hpos : out[pos]? = some o)
    (hkey : keyText f o' = keyText f o) :
    ((out.set pos o').find? fun el => keyText f el = t) =
      if keyText f o = t then some o' else out.find? fun el => keyText f el = t := by
  induction out generalizing pos with
  | nil => cases hpos
  | cons e rest ih =>
    rw [map_cons, nodup_cons] at hkeys
    cases pos with
    | zero =>
      cases hpos
      by_cases ht : keyText f o = t <;> simp [hkey, ht]
    | succ pos =>
      have hne : keyText f e ≠ keyText f o := by
        intro heq
        exact hkeys.1 (heq ▸ mem_map_of_mem (mem_of_getElem? hpos))
      rw [set_cons_succ, List.find?_cons, List.find?_cons, ih hkeys.2 hpos]
      by_cases ht : keyText f e = t
      · simp [ht, if_neg (ht ▸ hne.symm)]
      · simp [ht]

structure MergedEntries (f : String) (merge : Value → Value → Value) (dst src out : List Value) :
    Prop where
  order : out.map (keyText f) =
    dst.map (keyText f) ++ (src.map (keyText f)).filter fun t => t ∉ dst.map (keyText f)
  find : ∀ t, (out.find? fun el => keyText f el = t) =
    both merge (dst.find? fun el => keyText f el = t) (src.find? fun el => keyText f el = t)

variable {merge : Value → Value → Value}

theorem MergedEntries.nodup (h : MergedEntries f merge out src merged)
    (hout : (out.map (keyText f)).Nodup) (hsrc : (src.map (keyText f)).Nodup) :
    (merged.map (keyText f)).Nodup := by
  rw [h.order, nodup_append]
  refine ⟨hout, hsrc.filter _, fun t ht t' ht' heq => ?_⟩
  have hnot := (mem_filter.mp ht').2
  rw [decide_eq_true_eq] at hnot
  exact hnot (heq ▸ ht)

theorem MergedEntries.met (hout : (out.map (keyText f)).Nodup) (ho : out[pos]? = some o)
    (hkey : keyText f o = keyText f s) (hmerged : keyText f (merge o s) = keyText f o)
    (hs : keyText f s ∉ rest.map (keyText f))
    (h : MergedEntries f merge (out.set pos (merge o s)) rest merged) :
    MergedEntries f merge out (s :: rest) merged := by
  have homem : o ∈ out := mem_of_getElem? ho
  constructor
  · rw [h.order, map_key_set ho hmerged, map_cons, filter_cons, if_neg]
    simpa using ⟨o, homem, hkey⟩
  intro t
  rw [h.find, find_set_entry hout ho hmerged, hkey, List.find?_cons]
  by_cases ht : keyText f s = t
  · rw [(find_entry hout).mpr ⟨homem, hkey.trans ht⟩, find_entry_none (ht ▸ hs)]
    simp [ht, both]
  · simp [ht]

theorem MergedEntries.new (hnew : keyText f s ∉ out.map (keyText f))
    (hs : keyText f s ∉ rest.map (keyText f)) (h : MergedEntries f merge (out ++ [s]) rest merged) :
    MergedEntries f merge out (s :: rest) merged := by
  constructor
  · rw [h.order, map_append, map_singleton, map_cons, filter_cons,
      if_pos (decide_eq_true hnew), append_assoc]
    refine congrArg _ (congrArg _ (filter_congr fun t ht => ?_))
    have hother : t ≠ keyText f s := fun heq => hs (heq ▸ ht)
    simp [hother]
  · intro t
    rw [h.find, List.find?_append]
    by_cases ht : keyText f s = t
    · rw [find_entry_none (ht ▸ hnew), @find_entry_none _ f t rest (ht ▸ hs)]
      simp [ht, both]
    · simp [ht]

/-- The loop over `src`: an entry of `dst` is met at most once, since the keys of
`src` are distinct, and keeps its key. -/
theorem mergeKeyedLists_spec (hindex : Indexes f index out) (hout : (out.map (keyText f)).Nodup)
    (hsrc : (src.map (keyText f)).Nodup)
    (hkeep : ∀ d ∈ out, ∀ s ∈ src, keyText f d = keyText f s →
      keyText f (mergeAt path rules d s) = keyText f d) :
    MergedEntries f (mergeAt path rules) out src
      (mergeKeyedLists path rules f index out src) := by
  induction src generalizing index out with
  | nil =>
    rw [mergeKeyedLists]
    refine ⟨by simp, fun t => ?_⟩
    cases out.find? fun el => keyText f el = t <;> rfl
  | cons s rest ih =>
    rw [map_cons, nodup_cons] at hsrc
    have hother : ∀ s' ∈ rest, keyText f s ≠ keyText f s' := by
      intro s' hs' heq
      exact hsrc.1 (heq ▸ mem_map_of_mem hs')
    rw [mergeKeyedLists]
    cases hfind : index.find (keyText f s) with
    | some pos =>
      have hpos := (hindex _ pos).mp hfind
      rw [List.getElem?_map] at hpos
      obtain ⟨o, ho, hkey⟩ := Option.map_eq_some_iff.mp hpos
      have hget : out.getD pos .nil = o := by rw [getD_eq_getElem?_getD, ho]; rfl
      have hmerged : keyText f (mergeAt path rules o s) = keyText f o :=
        hkeep o (mem_of_getElem? ho) s mem_cons_self hkey
      have hmap := map_key_set ho hmerged
      dsimp only
      rw [hget]
      refine .met hout ho hkey hmerged hsrc.1 (ih ?_ (hmap ▸ hout) hsrc.2 ?_)
      · rw [Indexes, hmap]
        exact hindex
      intro d hd s' hs' hsame
      rcases mem_or_eq_of_mem_set hd with hd | rfl
      · exact hkeep d hd s' (mem_cons_of_mem _ hs') hsame
      · rw [hmerged, hkey] at hsame
        exact absurd hsame (hother s' hs')
    | none =>
      have hnew := hindex.mem_iff.mp hfind
      dsimp only
      refine .new hnew hsrc.1 (ih (indexes_append hindex hfind) ?_ hsrc.2 ?_)
      · rw [map_append, nodup_append]
        refine ⟨hout, nodup_singleton _, fun a ha b hb heq => hnew ?_⟩
        rw [← mem_singleton.mp hb, ← heq]
        exact ha
      intro d hd s' hs' hsame
      rcases mem_append.mp hd with hd | hd
      · exact hkeep d hd s' (mem_cons_of_mem _ hs') hsame
      · rw [mem_singleton.mp hd] at hsame
        exact absurd hsame (hother s' hs')

theorem mergeKeyedLists_same
    (hfind : ∀ el ∈ src, ∃ pos, index.find (keyText f el) = some pos ∧ out[pos]? = some el)
    (hsame : ∀ el ∈ src, mergeAt path rules el el = el) :
    mergeKeyedLists path rules f index out src = out := by
  induction src with
  | nil => rw [mergeKeyedLists]
  | cons el rest ih =>
    obtain ⟨pos, hpos, hel⟩ := hfind el mem_cons_self
    have hget : out.getD pos .nil = el := by rw [getD_eq_getElem?_getD, hel]; rfl
    rw [mergeKeyedLists, hpos]
    dsimp only
    rw [hget, hsame el mem_cons_self, set_same hel]
    exact ih (fun el h => hfind el (mem_cons_of_mem _ h))
      fun el h => hsame el (mem_cons_of_mem _ h)

end

/-! ## Addresses -/

inductive Step
  | name (k : String)
  | key (t : String)
  deriving DecidableEq

/-- Neither a map nor a list. -/
def isLeaf : Value → Bool
  | .map _ => false
  | .list _ => false
  | _ => true

/-- The path of the value below a step: entries are at the path of their list. -/
def next (path : List String) : Step → List String
  | .name k => path ++ [k]
  | .key _ => path

section

variable [Formatting] (κ : List String → String)

/-- The value below a step, where the entries of a list at some path have their
key in the field that `κ` gives for it. -/
def child (path : List String) : Value → Step → Option Value
  | .map m, .name k => Fields.find m k
  | .list l, .key t => l.find? fun el => keyText (κ path) el = t
  | _, _ => none

def valueAt (path : List String) (v : Value) : List Step → Option Value
  | [] => some v
  | st :: a => (child κ path v st).bind fun v => valueAt (next path st) v a

/-- The path of the place with that address. -/
def pathOf (path : List String) (a : List Step) : List String := a.foldl next path

def HasKey (f : String) (el : Value) : Prop :=
  ∃ m x, el = .map m ∧ Fields.find m f = some x ∧ isLeaf x = true

/-- The lists of the tree are keyed by the fields that `κ` gives for their paths,
with distinct keys. -/
inductive Keyed : List String → Value → Prop
  | leaf {path : List String} {v : Value} (h : isLeaf v = true) : Keyed path v
  | map {path : List String} {m : Fields} (hnames : (m.map Prod.fst).Nodup)
      (h : ∀ k v, (k, v) ∈ m → Keyed (path ++ [k]) v) : Keyed path (.map m)
  | list {path : List String} {l : List Value} (hentries : ∀ el ∈ l, HasKey (κ path) el)
      (hkeys : (l.map (keyText (κ path))).Nodup) (h : ∀ el ∈ l, Keyed path el) :
      Keyed path (.list l)

/-- Both maps, or both lists. -/
def SameKind (d s : Value) : Prop :=
  (∃ dm sm, d = .map dm ∧ s = .map sm) ∨ ∃ dl sl, d = .list dl ∧ s = .list sl

/-- Two trees in which the lists are keyed by the same fields, and those at the
same place are merged by them. An empty list of the earlier scope has nothing
to merge. -/
inductive Aligned (rules : KeyRules) : List String → Value → Value → Prop
  | apart {path : List String} {d s : Value} (h : ¬ SameKind d s) (hd : Keyed κ path d)
      (hs : Keyed κ path s) : Aligned rules path d s
  | map {path : List String} {dm sm : Fields} (hd : Keyed κ path (.map dm))
      (hs : Keyed κ path (.map sm))
      (h : ∀ k d s, (k, d) ∈ dm → (k, s) ∈ sm → Aligned rules (path ++ [k]) d s) :
      Aligned rules path (.map dm) (.map sm)
  | list {path : List String} {dl sl : List Value} (hd : Keyed κ path (.list dl))
      (hs : Keyed κ path (.list sl))
      (hkey : mergeKey path rules dl sl = some (κ path) ∨
        dl = [] ∧ mergeKey path rules dl sl = none)
      (h : ∀ d ∈ dl, ∀ s ∈ sl, keyText (κ path) d = keyText (κ path) s → Aligned rules path d s) :
      Aligned rules path (.list dl) (.list sl)

/-- Above the place, the later scope has a value of another kind. -/
def Overridden (path : List String) (d s : Value) (a : List Step) : Prop :=
  ∃ a₁ a₂ x y, a₂ ≠ [] ∧ a = a₁ ++ a₂ ∧ valueAt κ path d a₁ = some x ∧
    valueAt κ path s a₁ = some y ∧ y ≠ .nil ∧ ¬ SameKind x y

structure Merged (path : List String) (d s r : Value) : Prop where
  present : ∀ a, (valueAt κ path r a).isSome ↔ (valueAt κ path s a).isSome ∨
    (valueAt κ path d a).isSome ∧ ¬ Overridden κ path d s a
  set : ∀ a v, valueAt κ path s a = some v → isLeaf v = true → v ≠ .nil →
    valueAt κ path r a = some v
  kept : ∀ a v, valueAt κ path r a = some v → isLeaf v = true →
    (∀ u, valueAt κ path s a = some u → u = .nil) →
      valueAt κ path d a = some v ∨ valueAt κ path d a = none ∧ v = .nil
  order : ∀ a dl sl, valueAt κ path d a = some (.list dl) →
    valueAt κ path s a = some (.list sl) → ∃ rl, valueAt κ path r a = some (.list rl) ∧
      (rl.map (keyText (κ (pathOf path a)))).Nodup ∧
      rl.map (keyText (κ (pathOf path a))) = dl.map (keyText (κ (pathOf path a))) ++
        (sl.map (keyText (κ (pathOf path a)))).filter fun t =>
          t ∉ dl.map (keyText (κ (pathOf path a)))

end

section

variable [Formatting] {κ : List String → String} {rules : KeyRules} {path : List String}
  {d s x y : Value} {st : Step}

/-! ## One level -/

theorem mergeAt_nil_right : mergeAt path rules d .nil = d := by rw [mergeAt]

theorem mergeAt_nil_left : mergeAt path rules .nil s = s := by
  cases s <;> rfl

theorem mergeAt_apart (hs : s ≠ .nil) (h : ¬ SameKind d s) : mergeAt path rules d s = s := by
  cases s with
  | nil => exact absurd rfl hs
  | map sm =>
    cases d with
    | map dm => exact absurd (.inl ⟨dm, sm, rfl, rfl⟩) h
    | _ => rfl
  | list sl =>
    cases d with
    | list dl => exact absurd (.inr ⟨dl, sl, rfl, rfl⟩) h
    | _ => rfl
  | _ => rfl

theorem mergeAt_leaf (hs : isLeaf s = true) (hne : s ≠ .nil) : mergeAt path rules d s = s := by
  refine mergeAt_apart hne ?_
  rintro (⟨dm, sm, -, rfl⟩ | ⟨dl, sl, -, rfl⟩)
  · cases hs
  · cases hs

theorem keyText_merge (hd : HasKey f d) (hs : HasKey f s)
    (hnames : ∀ sm, s = .map sm → (sm.map Prod.fst).Nodup) (h : keyText f d = keyText f s) :
    keyText f (mergeAt path rules d s) = keyText f d := by
  obtain ⟨dm, x, rfl, hx, hxleaf⟩ := hd
  obtain ⟨sm, y, rfl, hy, hyleaf⟩ := hs
  have hfind : (mergeMaps path rules dm sm).find f = _ := find_mergeMaps (hnames sm rfl)
  rw [hx, hy] at hfind
  simp only [keyText, entryFields, Fields.get, hx, hy, Option.getD_some] at h
  rw [mergeAt]
  simp only [keyText, entryFields, Fields.get, hfind, hx, both, Option.getD_some]
  by_cases hnil : y = .nil
  · rw [hnil, mergeAt_nil_right]
  · rw [mergeAt_leaf hyleaf hnil]
    exact h.symm

theorem Keyed.names (h : Keyed κ path (.map m)) : (m.map Prod.fst).Nodup := by
  cases h with
  | leaf h => cases h
  | map hnames _ => exact hnames

theorem Keyed.entries (h : Keyed κ path (.list l)) :
    (∀ el ∈ l, HasKey (κ path) el) ∧ (l.map (keyText (κ path))).Nodup ∧
      ∀ el ∈ l, Keyed κ path el := by
  cases h with
  | leaf h => cases h
  | list hentries hkeys h => exact ⟨hentries, hkeys, h⟩

theorem Aligned.keyed (h : Aligned κ rules path d s) : Keyed κ path d ∧ Keyed κ path s := by
  cases h with
  | apart _ hd hs | map hd hs _ | list hd hs _ _ => exact ⟨hd, hs⟩

theorem mergeAt_lists (hd : Keyed κ path (.list dl)) (hs : Keyed κ path (.list sl))
    (hkey : mergeKey path rules dl sl = some (κ path) ∨ dl = [] ∧ mergeKey path rules dl sl = none) :
    ∃ rl, mergeAt path rules (.list dl) (.list sl) = .list rl ∧
      MergedEntries (κ path) (mergeAt path rules) dl sl rl := by
  obtain ⟨hdentries, hdkeys, -⟩ := hd.entries
  obtain ⟨hsentries, hskeys, hskeyed⟩ := hs.entries
  rcases hkey with hkey | ⟨rfl, hkey⟩
  · refine ⟨_, by rw [mergeAt, hkey], mergeKeyedLists_spec (indexes_indexEntries hdkeys) hdkeys hskeys
      fun d hd s hs h => keyText_merge (hdentries d hd) (hsentries s hs) ?_ h⟩
    rintro sm rfl
    exact (hskeyed _ hs).names
  · exact ⟨sl, by rw [mergeAt, hkey], by simp, fun t => rfl⟩

/-- Below a step, the merge of two values of one kind holds the merge of what
they hold. -/
theorem child_merge (h : Aligned κ rules path d s) (hkind : SameKind d s) (st : Step) :
    child κ path (mergeAt path rules d s) st =
      both (mergeAt (next path st) rules) (child κ path d st) (child κ path s st) := by
  cases h with
  | apart h _ _ => exact absurd hkind h
  | map hd hs _ =>
    rw [mergeAt]
    cases st with
    | name k => exact find_mergeMaps hs.names
    | key t => rfl
  | list hd hs hkey _ =>
    obtain ⟨rl, hrl, hmerged⟩ := mergeAt_lists hd hs hkey
    rw [hrl]
    cases st with
    | name k => rfl
    | key t => exact hmerged.find t

theorem Aligned.child (h : Aligned κ rules path d s) (hx : child κ path d st = some x)
    (hy : Config.child κ path s st = some y) :
    SameKind d s ∧ Aligned κ rules (next path st) x y := by
  have hkind : SameKind d s := by
    cases st with
    | name k =>
      cases d with
      | map dm =>
        cases s with
        | map sm => exact .inl ⟨dm, sm, rfl, rfl⟩
        | _ => cases hy
      | _ => cases hx
    | key t =>
      cases d with
      | list dl =>
        cases s with
        | list sl => exact .inr ⟨dl, sl, rfl, rfl⟩
        | _ => cases hy
      | _ => cases hx
  refine ⟨hkind, ?_⟩
  cases h with
  | apart h _ _ => exact absurd hkind h
  | map hd hs h =>
    cases st with
    | name k => exact h k x y (mem_of_find hx) (mem_of_find hy)
    | key t => cases hx
  | list hd hs hkey h =>
    cases st with
    | name k => cases hx
    | key t =>
      obtain ⟨hxmem, hxt⟩ := (find_entry hd.entries.2.1).mp hx
      obtain ⟨hymem, hyt⟩ := (find_entry hs.entries.2.1).mp hy
      exact h x hxmem y hymem (hxt.trans hyt.symm)

/-! ## Whole addresses -/

/-- Where both scopes have a value, the merge has the merge of the two. -/
theorem valueAt_both (h : Aligned κ rules path d s) (hx : valueAt κ path d a = some x)
    (hy : valueAt κ path s a = some y) : Aligned κ rules (pathOf path a) x y ∧
      valueAt κ path (mergeAt path rules d s) a = some (mergeAt (pathOf path a) rules x y) := by
  induction a generalizing path d s with
  | nil =>
    cases hx
    cases hy
    exact ⟨h, rfl⟩
  | cons st a ih =>
    obtain ⟨d', hd, hx⟩ := Option.bind_eq_some_iff.mp hx
    obtain ⟨s', hs, hy⟩ := Option.bind_eq_some_iff.mp hy
    obtain ⟨hkind, hchild⟩ := h.child hd hs
    rw [valueAt, child_merge h hkind, hd, hs]
    exact ih hchild hx hy

theorem overridden_cons : Overridden κ path d s (st :: a) ↔ (s ≠ .nil ∧ ¬ SameKind d s) ∨
    ∃ x y, child κ path d st = some x ∧ child κ path s st = some y ∧
      Overridden κ (next path st) x y a := by
  constructor
  · rintro ⟨a₁, a₂, x, y, hne, heq, hx, hy, hnil, hkind⟩
    cases a₁ with
    | nil =>
      cases hx
      cases hy
      exact .inl ⟨hnil, hkind⟩
    | cons st' a₁ =>
      obtain ⟨rfl, hrest⟩ := List.cons.inj heq
      obtain ⟨d', hd, hx⟩ := Option.bind_eq_some_iff.mp hx
      obtain ⟨s', hs, hy⟩ := Option.bind_eq_some_iff.mp hy
      exact .inr ⟨d', s', hd, hs, a₁, a₂, x, y, hne, hrest, hx, hy, hnil, hkind⟩
  · rintro (⟨hnil, hkind⟩ | ⟨d', s', hd, hs, a₁, a₂, x, y, hne, rfl, hx, hy, hnil, hkind⟩)
    · exact ⟨[], st :: a, d, s, nofun, rfl, rfl, rfl, hnil, hkind⟩
    refine ⟨st :: a₁, a₂, x, y, hne, rfl, ?_, ?_, hnil, hkind⟩
    · rw [valueAt, hd]
      exact hx
    · rw [valueAt, hs]
      exact hy

/-- Where the earlier scope has nothing, the merge has what the later one has. -/
theorem valueAt_src (h : Aligned κ rules path d s) (hd : valueAt κ path d a = none) :
    valueAt κ path (mergeAt path rules d s) a = valueAt κ path s a := by
  induction a generalizing path d s with
  | nil => cases hd
  | cons st a ih =>
    by_cases hkind : SameKind d s
    · rw [valueAt, child_merge h hkind, valueAt]
      cases hx : child κ path d st with
      | none => rfl
      | some d' =>
        rw [valueAt, hx, Option.bind_some] at hd
        cases hy : child κ path s st with
        | none => exact hd
        | some s' => exact ih (h.child hx hy).2 hd
    · by_cases hnil : s = .nil
      · rw [hnil, mergeAt_nil_right, hd]
        rfl
      · rw [mergeAt_apart hnil hkind]

/-- Where the later scope has nothing, the merge has what the earlier one has,
unless that has been overridden. -/
theorem valueAt_dst (h : Aligned κ rules path d s) (hs : valueAt κ path s a = none) :
    (Overridden κ path d s a → valueAt κ path (mergeAt path rules d s) a = none) ∧
      (¬ Overridden κ path d s a →
        valueAt κ path (mergeAt path rules d s) a = valueAt κ path d a) := by
  induction a generalizing path d s with
  | nil => cases hs
  | cons st a ih =>
    rw [overridden_cons]
    by_cases hkind : SameKind d s
    · rw [valueAt, child_merge h hkind, valueAt]
      cases hx : child κ path d st with
      | none =>
        rw [valueAt] at hs
        refine ⟨fun _ => ?_, fun _ => ?_⟩
        · exact hs
        · exact hs
      | some d' =>
        cases hy : child κ path s st with
        | none =>
          refine ⟨?_, fun _ => rfl⟩
          rintro (⟨-, hnot⟩ | ⟨x, y, -, hnone, -⟩)
          · exact absurd hkind hnot
          · cases hnone
        | some s' =>
          rw [valueAt, hy, Option.bind_some] at hs
          obtain ⟨hover, hkeep⟩ := ih (h.child hx hy).2 hs
          constructor
          · rintro (⟨-, hnot⟩ | ⟨x, y, hx', hy', hxy⟩)
            · exact absurd hkind hnot
            · cases hx'
              cases hy'
              exact hover hxy
          · intro hnot
            exact hkeep fun hxy => hnot (.inr ⟨d', s', rfl, rfl, hxy⟩)
    · by_cases hnil : s = .nil
      · subst hnil
        rw [mergeAt_nil_right]
        refine ⟨?_, fun _ => rfl⟩
        rintro (⟨hne, -⟩ | ⟨x, y, -, hnone, -⟩)
        · exact absurd rfl hne
        · cases hnone
      · rw [mergeAt_apart hnil hkind]
        exact ⟨fun _ => hs, fun hnot => absurd (.inl ⟨hnil, hkind⟩) hnot⟩

theorem merged_mergeAt (h : Aligned κ rules path d s) :
    Merged κ path d s (mergeAt path rules d s) where
  present := by
    intro a
    cases hs : valueAt κ path s a with
    | none =>
      obtain ⟨hover, hkeep⟩ := valueAt_dst h hs
      by_cases ho : Overridden κ path d s a
      · rw [hover ho]
        simp [ho]
      · rw [hkeep ho]
        simp [ho]
    | some y =>
      cases hd : valueAt κ path d a with
      | none =>
        rw [valueAt_src h hd, hs]
        simp
      | some x =>
        rw [(valueAt_both h hd hs).2]
        simp
  set := by
    intro a v hs hleaf hne
    cases hd : valueAt κ path d a with
    | none => rw [valueAt_src h hd, hs]
    | some x => rw [(valueAt_both h hd hs).2, mergeAt_leaf hleaf hne]
  kept := by
    intro a v hr hleaf hdefer
    cases hs : valueAt κ path s a with
    | none =>
      obtain ⟨hover, hkeep⟩ := valueAt_dst h hs
      by_cases ho : Overridden κ path d s a
      · rw [hover ho] at hr
        cases hr
      · rw [hkeep ho] at hr
        exact .inl hr
    | some y =>
      have hnil := hdefer y hs
      subst hnil
      cases hd : valueAt κ path d a with
      | none =>
        rw [valueAt_src h hd, hs] at hr
        exact .inr ⟨rfl, (Option.some.inj hr).symm⟩
      | some x =>
        rw [(valueAt_both h hd hs).2, mergeAt_nil_right] at hr
        exact .inl hr
  order := by
    intro a dl sl hd hs
    obtain ⟨haligned, hr⟩ := valueAt_both h hd hs
    cases haligned with
    | apart hkind _ _ => exact absurd (.inr ⟨dl, sl, rfl, rfl⟩) hkind
    | list hdk hsk hkey _ =>
      obtain ⟨rl, hrl, hmerged⟩ := mergeAt_lists hdk hsk hkey
      rw [hrl] at hr
      exact ⟨rl, hr, hmerged.nodup hdk.entries.2.1 hsk.entries.2.1, hmerged.order⟩

theorem mergeAt_self (h : Aligned κ rules path d s) (hsame : d = s) :
    mergeAt path rules d s = d := by
  induction h with
  | @apart path d s hkind _ _ =>
    by_cases hnil : s = .nil
    · rw [hnil, mergeAt_nil_right]
    · rw [mergeAt_apart hnil hkind, hsame]
  | map hd hs _ ih =>
    cases hsame
    rw [mergeAt, mergeMaps_same (fun k v h => find_of_mem hd.names h) fun k v h => ih k v v h h rfl]
  | @list path dl sl hd hs hkey _ ih =>
    cases hsame
    rcases hkey with hkey | ⟨-, hkey⟩
    · rw [mergeAt, hkey]
      dsimp only
      rw [mergeKeyedLists_same ?_ fun el hel => ih el hel el hel rfl rfl]
      intro el hel
      obtain ⟨pos, hpos⟩ := List.getElem?_of_mem hel
      refine ⟨pos, (indexes_indexEntries hd.entries.2.1 _ pos).mpr ?_, hpos⟩
      rw [List.getElem?_map, hpos]
      rfl
    · rw [mergeAt, hkey]

/-- For every assignment of key fields: two scopes whose lists are keyed by them
are merged place by place, and neither a scope itself nor an empty one adds
anything to a scope. -/
theorem scopes_merged (κ : List String → String) (rules : KeyRules) :
    (∀ dst src, Aligned κ rules [] dst src → Merged κ [] dst src (mergeWithRules dst src rules)) ∧
    (∀ tree, Aligned κ rules [] tree tree → mergeWithRules tree tree rules = tree) ∧
    ∀ tree, mergeWithRules tree .nil rules = tree ∧ mergeWithRules .nil tree rules = tree :=
  ⟨fun _ _ h => merged_mergeAt h, fun _ h => mergeAt_self h rfl,
    fun _ => ⟨mergeAt_nil_right, mergeAt_nil_left⟩⟩

end

/-! ## Two scopes -/

namespace Scopes

/-- Text and integers as the verb `%v` prints them. -/
@[reducible]
def formatting : Formatting where
  typeName _ := ""
  sprint
    | .text s => s
    | .int n => decimal n.toInt
    | _ => ""
  formatFloat _ := ""
  truncate _ := 0
  integral _ := false
  fitsInt _ := false
  marshal _ := .ok ""

attribute [local instance] formatting

def byName (_ : List String) : String := "name"

def vrf (name rd : String) : Value := .map [("name", .text name), ("rd", .text rd)]

def vrfs (entries : List Value) : Value := .map [("vrfs", .list entries)]

theorem keyed_vrf (path : List String) (name rd : String) : Keyed byName path (vrf name rd) := by
  refine .map (by simp) fun k v h => ?_
  rcases mem_cons.mp h with heq | h
  · cases heq
    exact .leaf rfl
  · cases mem_singleton.mp h
    exact .leaf rfl

theorem keyed_vrfs {entries : List (String × String)} (h : (entries.map Prod.fst).Nodup) :
    Keyed byName path (.list (entries.map fun e => vrf e.1 e.2)) := by
  refine .list (fun el hel => ?_) ?_ fun el hel => ?_
  · obtain ⟨e, -, rfl⟩ := mem_map.mp hel
    exact ⟨_, .text e.1, rfl, rfl, rfl⟩
  · rw [map_map]
    exact h
  · obtain ⟨e, -, rfl⟩ := mem_map.mp hel
    exact keyed_vrf path e.1 e.2

theorem keyed_field (h : Keyed byName (path ++ [name]) v) :
    Keyed byName path (.map [(name, v)]) := by
  refine .map (nodup_singleton _) fun k v' hmem => ?_
  cases mem_singleton.mp hmem
  exact h

theorem aligned_field (h : Aligned byName rules (path ++ [name]) d s) :
    Aligned byName rules path (.map [(name, d)]) (.map [(name, s)]) := by
  refine .map (keyed_field h.keyed.1) (keyed_field h.keyed.2) fun k d' s' hd hs => ?_
  cases mem_singleton.mp hd
  cases mem_singleton.mp hs
  exact h

theorem aligned_leaf (hd : Keyed byName path d) (hs : isLeaf s = true) :
    Aligned byName rules path d s := by
  refine .apart ?_ hd (.leaf hs)
  rintro (⟨dm, sm, -, rfl⟩ | ⟨dl, sl, -, rfl⟩)
  · cases hs
  · cases hs

theorem aligned_vrf (name rd name' rd' : String) :
    Aligned byName rules path (vrf name rd) (vrf name' rd') := by
  refine .map (keyed_vrf path name rd) (keyed_vrf path name' rd') fun k d s hd hs => ?_
  have hleaf : ∀ {v : Value} {name rd : String},
      (k, v) ∈ [("name", Value.text name), ("rd", .text rd)] → isLeaf v = true := by
    intro v name rd h
    rcases mem_cons.mp h with heq | h
    · cases heq
      rfl
    · cases mem_singleton.mp h
      rfl
  exact aligned_leaf (.leaf (hleaf hd)) (hleaf hs)

/-- A scalar over a map takes away what is below it; keys are the same if they
print the same; and an empty list is keyed by nothing, so that it replaces. -/
theorem scopes_replaced :
    (Aligned byName ∅ [] (.map [("vrf", vrf "red" "1:1")]) (.map [("vrf", .text "none")]) ∧
      (valueAt byName [] (.map [("vrf", vrf "red" "1:1")]) [.name "vrf", .name "rd"]).isSome ∧
      valueAt byName [] (mergeWithRules (.map [("vrf", vrf "red" "1:1")])
        (.map [("vrf", .text "none")]) ∅) [.name "vrf", .name "rd"] = none) ∧
    (mergeWithRules (.map [("vlans", .list [.map [("id", .int 10)]])])
      (.map [("vlans", .list [.map [("id", .int 10)], .map [("id", .text "10")]])]) ∅ =
        .map [("vlans", .list [.map [("id", .text "10")]])]) ∧
    mergeWithRules (vrfs [vrf "red" "1:1"]) (vrfs []) ∅ = vrfs [] :=
  ⟨⟨aligned_field (aligned_leaf (keyed_vrf _ _ _) rfl), rfl, rfl⟩, rfl, rfl⟩

theorem vrfs_merged :
    Merged byName [] (vrfs [vrf "red" "1:1"]) (vrfs [vrf "red" "2:2", vrf "blue" "3:3"])
      (mergeWithRules (vrfs [vrf "red" "1:1"]) (vrfs [vrf "red" "2:2", vrf "blue" "3:3"]) ∅) ∧
    mergeWithRules (vrfs [vrf "red" "1:1"]) (vrfs [vrf "red" "1:1"]) ∅ =
      vrfs [vrf "red" "1:1"] := by
  have hlists : ∀ entries : List (String × String), (entries.map Prod.fst).Nodup →
      mergeKey ["vrfs"] ∅ [vrf "red" "1:1"] (entries.map fun e => vrf e.1 e.2) = some "name" →
      Aligned byName ∅ [] (vrfs [vrf "red" "1:1"]) (vrfs (entries.map fun e => vrf e.1 e.2)) := by
    intro entries hnodup hkey
    have hred : ([("red", "1:1")].map Prod.fst).Nodup := by decide
    refine aligned_field (.list (keyed_vrfs hred)
      (keyed_vrfs hnodup) (.inl hkey) fun d hd s hs _ => ?_)
    obtain ⟨e, -, rfl⟩ := mem_map.mp hs
    rw [mem_singleton.mp hd]
    exact aligned_vrf _ _ _ _
  obtain ⟨hmerged, hsame, -⟩ := scopes_merged byName ∅
  exact ⟨hmerged _ _ (hlists [("red", "2:2"), ("blue", "3:3")] (by decide) rfl),
    hsame _ (hlists [("red", "1:1")] (by decide) rfl)⟩

end Scopes

end VirtualKubelet.Config
