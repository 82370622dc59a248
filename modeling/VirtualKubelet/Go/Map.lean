import Mathlib.Data.Finmap
import Mathlib.Data.Multiset.Count
import Mathlib.Data.Finset.Card

/-!
# Maps with string keys, and counting their values

A Go map is a finite map whose iteration order means nothing. `Finmap` is
that map in Mathlib: a multiset of entries with distinct keys. What a `range`
loop can observe of it without depending on the order is a count of the
values that satisfy a test, or the set of one field of theirs, and those two
are the subject of this file.

Everything rests on one decomposition: a map that holds `v` under `k` is the
map without `k` plus that one entry. Counting through an insertion, an
overwrite or a deletion is then counting one multiset cons.
-/

namespace VirtualKubelet.Go

/-- A Go `map[string]α`. -/
abbrev Map (α : Type) := Finmap (fun _ : String => α)

namespace Map

variable {α β : Type} {m m' : Map α} {k k' : String} {v v' : α} {p : α → Prop} {f : α → β}
  {R : α → α → Prop} {l : List α}

def find (m : Map α) (k : String) : Option α := Finmap.lookup k m

def set (m : Map α) (k : String) (v : α) : Map α := Finmap.insert k v m

def delete (m : Map α) (k : String) : Map α := Finmap.erase k m

/-- `m[k]`, which is the zero value when the key is absent. -/
def get (m : Map α) (zero : α) (k : String) : α := (m.find k).getD zero

def len (m : Map α) : Nat := Multiset.card m.entries

def count (p : α → Prop) [DecidablePred p] (m : Map α) : Nat :=
  m.entries.countP (fun e => p e.2)

/-- The set a `range` loop would collect: `f` of every value passing `p`. -/
def collect [DecidableEq β] (p : α → Prop) [DecidablePred p] (f : α → β)
    (m : Map α) : Finset β :=
  ((m.entries.filter (fun e => p e.2)).map (fun e => f e.2)).toFinset

def keysWhere (p : α → Prop) [DecidablePred p] (m : Map α) : Finset String :=
  ((m.entries.filter (fun e => p e.2)).map (fun e => e.1)).toFinset

/-- Every entry passes the test. -/
def Every (p : String → α → Prop) (m : Map α) : Prop :=
  ∀ e ∈ m.entries, p e.1 e.2

instance {p : String → α → Prop} [∀ k v, Decidable (p k v)] {m : Map α} :
    Decidable (m.Every p) :=
  inferInstanceAs (Decidable (∀ e ∈ m.entries, p e.1 e.2))

@[simp] theorem find_set_self :
    (m.set k v).find k = some v := Finmap.lookup_insert m

theorem find_set_ne (h : k' ≠ k) :
    (m.set k v).find k' = m.find k' := Finmap.lookup_insert_of_ne m h

@[simp] theorem find_delete_self : (m.delete k).find k = none :=
  Finmap.lookup_erase k m

theorem find_delete_ne (h : k' ≠ k) :
    (m.delete k).find k' = m.find k' := Finmap.lookup_erase_ne h

@[simp] theorem find_empty : find (∅ : Map α) k = none := rfl

theorem ext_find (h : ∀ k, m.find k = m'.find k) : m = m' :=
  Finmap.ext_lookup h

theorem mem_entries :
    m.find k = some v ↔ ⟨k, v⟩ ∈ m.entries := Finmap.lookup_eq_some_iff

theorem every_iff {p : String → α → Prop} :
    m.Every p ↔ ∀ k v, m.find k = some v → p k v := by
  constructor
  · intro h k v hk
    exact h ⟨k, v⟩ (mem_entries.mp hk)
  · intro h e he
    exact h e.1 e.2 (mem_entries.mpr he)

theorem mem_collect [DecidableEq β] [DecidablePred p] :
    b ∈ m.collect p f ↔ ∃ k v, m.find k = some v ∧ p v ∧ f v = b := by
  simp only [collect, Multiset.mem_toFinset, Multiset.mem_map, Multiset.mem_filter]
  constructor
  · rintro ⟨⟨k, v⟩, ⟨hmem, hp⟩, hf⟩
    exact ⟨k, v, mem_entries.mpr hmem, hp, hf⟩
  · rintro ⟨k, v, hk, hp, hf⟩
    exact ⟨⟨k, v⟩, ⟨mem_entries.mp hk, hp⟩, hf⟩

theorem mem_keysWhere [DecidablePred p] : k ∈ m.keysWhere p ↔ ∃ v, m.find k = some v ∧ p v := by
  simp only [keysWhere, Multiset.mem_toFinset, Multiset.mem_map, Multiset.mem_filter]
  constructor
  · rintro ⟨⟨k', v⟩, ⟨hmem, hp⟩, rfl⟩
    exact ⟨v, mem_entries.mpr hmem, hp⟩
  · rintro ⟨v, hk, hp⟩
    exact ⟨⟨k, v⟩, ⟨mem_entries.mp hk, hp⟩, rfl⟩

theorem find_set_iff :
    (m.set k v).find k' = some v' ↔
      (k' = k ∧ v = v') ∨ (k' ≠ k ∧ m.find k' = some v') := by
  by_cases hk : k' = k
  · subst hk; simp [find_set_self]
  · simp [find_set_ne hk, hk]

theorem find_delete_iff :
    (m.delete k).find k' = some v ↔ k' ≠ k ∧ m.find k' = some v := by
  by_cases hk : k' = k
  · subst hk; simp [find_delete_self]
  · simp [find_delete_ne hk, hk]

/-! ## One entry at a time -/

theorem delete_set (v : α) (hk : m.find k = none) : (m.set k v).delete k = m := by
  apply ext_find
  intro x
  by_cases hx : x = k
  · subst hx; rw [find_delete_self, hk]
  · rw [find_delete_ne hx, find_set_ne hx]

theorem set_self (hk : m.find k = some v) : m.set k v = m := by
  apply ext_find
  intro x
  by_cases hx : x = k
  · subst hx; rw [find_set_self, hk]
  · rw [find_set_ne hx]

theorem set_delete_eq (m : Map α) (k : String) (v : α) :
    (m.delete k).set k v = m.set k v := by
  apply ext_find
  intro x
  by_cases hx : x = k
  · subst hx; rw [find_set_self, find_set_self]
  · rw [find_set_ne hx, find_set_ne hx, find_delete_ne hx]

theorem delete_absent (hk : m.find k = none) : m.delete k = m := by
  apply ext_find
  intro x
  by_cases hx : x = k
  · subst hx; rw [find_delete_self, hk]
  · rw [find_delete_ne hx]

theorem entries_set (v : α) (hk : m.find k = none) : (m.set k v).entries = ⟨k, v⟩ ::ₘ m.entries :=
  Finmap.entries_insert_of_notMem (Finmap.lookup_eq_none.mp hk)

/-- The decomposition the rest of the file counts with. -/
theorem entries_split (hk : m.find k = some v) : m.entries = ⟨k, v⟩ ::ₘ (m.delete k).entries := by
  rw [← entries_set v (find_delete_self), set_delete_eq, set_self hk]

/-! ## Counting -/

section Count

variable (p : α → Prop) [DecidablePred p]

theorem count_empty : count p (∅ : Map α) = 0 := rfl

theorem len_eq_count (m : Map α) : m.len = m.count (fun _ => True) := by
  unfold len count
  simp

theorem count_set_new (v : α) (hk : m.find k = none) :
    (m.set k v).count p = m.count p + if p v then 1 else 0 := by
  unfold count
  rw [entries_set v hk, Multiset.countP_cons]

theorem count_split (hk : m.find k = some v) :
    m.count p = (m.delete k).count p + if p v then 1 else 0 := by
  unfold count
  conv_lhs => rw [entries_split hk]
  rw [Multiset.countP_cons]

/-- Overwriting an entry by one the test does not tell apart from it changes
no count. -/
theorem count_set_same (hk : m.find k = some v) (hp : p v' ↔ p v) :
    (m.set k v').count p = m.count p := by
  rw [← set_delete_eq, count_set_new p v' (find_delete_self), count_split p hk]
  simp only [hp]

theorem count_delete_le (m : Map α) (k : String) :
    (m.delete k).count p ≤ m.count p := by
  cases hk : m.find k with
  | none => rw [delete_absent hk]
  | some v => rw [count_split p hk]; omega

theorem count_mono [DecidablePred q] (h : m.Every fun _ v => p v → q v) :
    m.count p ≤ m.count q := by
  unfold count
  rw [Multiset.countP_eq_card_filter, Multiset.countP_eq_card_filter]
  apply Multiset.card_le_card
  rw [Multiset.le_filter]
  refine ⟨Multiset.filter_le _ _, fun e he => ?_⟩
  obtain ⟨hmem, hp⟩ := Multiset.mem_filter.mp he
  exact h e hmem hp

end Count

/-! ## Submaps

Dropping entries: the smaller map has fewer of everything. -/

/-- Every entry of `m'` is an entry of `m`. -/
def Sub (m' m : Map α) : Prop := ∀ k v, m'.find k = some v → m.find k = some v

theorem sub_delete (m : Map α) (k : String) : Sub (m.delete k) m :=
  fun _ _ h => (find_delete_iff.mp h).2

theorem every_of_sub {p : String → α → Prop} (h : m'.Sub m) (hm : m.Every p) : m'.Every p := by
  rw [every_iff] at hm ⊢
  exact fun k v hk => hm k v (h k v hk)

theorem sub_entries_le (h : m'.Sub m) : m'.entries ≤ m.entries := by
  rw [Multiset.le_iff_subset m'.nodup_entries]
  intro e he
  exact mem_entries.mp (h e.1 e.2 (mem_entries.mpr he))

theorem sub_len_le (h : m'.Sub m) : m'.len ≤ m.len :=
  Multiset.card_le_card (sub_entries_le h)

theorem sub_count_le (p : α → Prop) [DecidablePred p] (h : m'.Sub m) : m'.count p ≤ m.count p :=
  Multiset.countP_le_of_le _ (sub_entries_le h)

theorem sub_find_none (h : m'.Sub m) (hk : m.find k = none) : m'.find k = none := by
  cases hk' : m'.find k with
  | none => rfl
  | some v => rw [h k v hk'] at hk; cases hk

theorem sub_set (h : m'.Sub m) (k : String) (v : α) : Map.Sub (m'.set k v) (m.set k v) := by
  intro k' v' hk'
  rcases find_set_iff.mp hk' with ⟨rfl, rfl⟩ | ⟨hne, hl⟩
  · exact find_set_self
  · rw [find_set_ne hne]; exact h _ _ hl

/-! ## Two maps with the same keys -/

/-- The same keys, and the values under each of them related. -/
def Related (R : α → α → Prop) (m m' : Map α) : Prop :=
  ∀ k, Option.Rel R (m.find k) (m'.find k)

theorem related_refl (hR : ∀ v, R v v) (m : Map α) : Related R m m := by
  intro k
  cases m.find k with
  | none => exact .none
  | some v => exact .some (hR v)

theorem related_right (h : Related R m m') (hk : m'.find k = some v') :
    ∃ v, m.find k = some v ∧ R v v' := by
  have hrel := h k
  rw [hk] at hrel
  cases hm : m.find k with
  | none => rw [hm] at hrel; cases hrel
  | some v =>
    rw [hm] at hrel
    cases hrel with
    | some hv => exact ⟨v, rfl, hv⟩

theorem related_left (h : Related R m m') (hk : m.find k = some v) :
    ∃ v', m'.find k = some v' ∧ R v v' := by
  have hrel := h k
  rw [hk] at hrel
  cases hm : m'.find k with
  | none => rw [hm] at hrel; cases hrel
  | some v' =>
    rw [hm] at hrel
    cases hrel with
    | some hv => exact ⟨v', rfl, hv⟩

theorem related_trans (hR : ∀ {a b c}, R a b → R b c → R a c) (h : Related R m₁ m₂)
    (h' : Related R m₂ m₃) : Related R m₁ m₃ := by
  intro k
  cases hk : m₁.find k with
  | some v =>
    obtain ⟨v', hv', hr⟩ := related_left h hk
    obtain ⟨v'', hv'', hr'⟩ := related_left h' hv'
    rw [hv'']
    exact .some (hR hr hr')
  | none =>
    cases hk'' : m₃.find k with
    | none => exact .none
    | some v'' =>
      obtain ⟨v', hv', _⟩ := related_right h' hk''
      obtain ⟨v, hv, _⟩ := related_right h hv'
      rw [hv] at hk
      cases hk

theorem related_every {p : String → α → Prop} (h : Related R m m')
    (hp : ∀ k v v', R v v' → p k v → p k v') (hm : m.Every p) : m'.Every p := by
  rw [every_iff] at hm ⊢
  intro k v' hk
  obtain ⟨v, hv, hrel⟩ := related_right h hk
  exact hp k v v' hrel (hm k v hv)

theorem len_eq_card_keys (m : Map α) : m.len = m.keys.card := by
  unfold len
  simp [Finmap.keys, Finset.card, Multiset.keys]

theorem related_len (h : Related R m m') : m'.len = m.len := by
  rw [len_eq_card_keys, len_eq_card_keys]
  congr 1
  ext k
  rw [Finmap.mem_keys, Finmap.mem_keys, Finmap.mem_iff, Finmap.mem_iff]
  constructor
  · rintro ⟨v', hk⟩
    obtain ⟨v, hv, _⟩ := related_right h hk
    exact ⟨v, hv⟩
  · rintro ⟨v, hk⟩
    obtain ⟨v', hv, _⟩ := related_left h hk
    exact ⟨v', hv⟩

theorem related_empty : Related R (∅ : Map α) ∅ := by
  intro k
  rw [find_empty]
  exact .none

theorem related_set (h : Related R m m') (hv : R v v') : Related R (m.set k v) (m'.set k v') := by
  intro k'
  by_cases hk : k' = k
  · subst hk
    rw [find_set_self, find_set_self]
    exact .some hv
  · rw [find_set_ne hk, find_set_ne hk]
    exact h k'

theorem find_none_of_len (hlen : m'.len = m.len)
    (hsub : ∀ k v, m.find k = some v → ∃ v', m'.find k = some v') (hk : m.find k = none) :
    m'.find k = none := by
  have hkeys : m.keys = m'.keys := by
    refine Finset.eq_of_subset_of_card_le (fun k hk => ?_) ?_
    · rw [Finmap.mem_keys, Finmap.mem_iff] at hk ⊢
      obtain ⟨v, hv⟩ := hk
      exact hsub k v hv
    · rw [← len_eq_card_keys, ← len_eq_card_keys, hlen]
  have hnot : k ∉ m'.keys := by
    rw [← hkeys, Finmap.mem_keys, ← Finmap.lookup_eq_none]
    exact hk
  rw [Finmap.mem_keys, ← Finmap.lookup_eq_none] at hnot
  exact hnot

/-! ## A list indexed by a key

Of several elements with one key the last is kept. -/

def indexBy (key : α → String) (l : List α) : Map α :=
  l.foldl (fun out a => out.set (key a) a) ∅

theorem indexBy_snoc : indexBy key (l ++ [a]) = (indexBy key l).set (key a) a := by
  simp [indexBy]

theorem indexBy_find (h : (indexBy key l).find k = some a) : a ∈ l ∧ key a = k := by
  induction l using List.reverseRecOn with
  | nil => rw [indexBy, List.foldl_nil, find_empty] at h; cases h
  | append_singleton l b ih =>
    rw [indexBy_snoc, find_set_iff] at h
    rcases h with ⟨rfl, rfl⟩ | ⟨_, hl⟩
    · exact ⟨by simp, rfl⟩
    · obtain ⟨hmem, hkey⟩ := ih hl
      exact ⟨List.mem_append_left _ hmem, hkey⟩

theorem indexBy_related (h : List.Forall₂ (fun a b => key b = key a ∧ R a b) l l') :
    Related R (indexBy key l) (indexBy key l') := by
  suffices hfold : ∀ m m' : Map α, Related R m m' →
      Related R (l.foldl (fun out a => out.set (key a) a) m)
        (l'.foldl (fun out a => out.set (key a) a) m') from hfold _ _ related_empty
  induction h with
  | nil => exact fun _ _ hm => hm
  | @cons a b _ _ hab _ ih =>
    intro m m' hm
    refine ih _ _ ?_
    show Related R (m.set (key a) a) (m'.set (key b) b)
    rw [hab.1]
    exact related_set hm hab.2

/-! ## A field that names its entry

When a field tells the entries of a map apart, collecting it loses nothing:
the set is as large as the count. -/

/-- No two entries that pass the test share the field `f`. -/
def Distinct (p : α → Prop) (f : α → β) (m : Map α) : Prop :=
  m.Every fun k v => m.Every fun k' v' => p v → f v = f v' → k = k'

instance [DecidableEq β] {p : α → Prop} [DecidablePred p] {f : α → β}
    {m : Map α} : Decidable (m.Distinct p f) :=
  inferInstanceAs (Decidable (m.Every fun k v =>
    m.Every fun k' v' => p v → f v = f v' → k = k'))

theorem distinct_iff :
    m.Distinct p f ↔ ∀ k v k' v', m.find k = some v → m.find k' = some v' →
      p v → f v = f v' → k = k' := by
  simp only [Distinct, every_iff]
  constructor
  · intro h k v k' v' hk hk'
    exact h k v hk k' v' hk'
  · intro h k v hk k' v' hk'
    exact h k v k' v' hk hk'

theorem distinct_of_sub (h : m'.Sub m) (hd : m.Distinct p f) : m'.Distinct p f := by
  rw [distinct_iff] at hd ⊢
  intro k v k' v' hk hk'
  exact hd k v k' v' (h k v hk) (h k' v' hk')

theorem distinct_set (hd : m.Distinct p f)
    (hnew : ∀ k' v', k' ≠ k → m.find k' = some v' → f v' = f v → ¬ p v ∧ ¬ p v') :
    Map.Distinct p f (m.set k v) := by
  rw [distinct_iff] at hd ⊢
  intro k₁ v₁ k₂ v₂ h₁ h₂ hp hf
  rcases find_set_iff.mp h₁ with ⟨e₁, rfl⟩ | ⟨n₁, l₁⟩ <;>
    rcases find_set_iff.mp h₂ with ⟨e₂, rfl⟩ | ⟨n₂, l₂⟩
  · rw [e₁, e₂]
  · exact absurd hp (hnew k₂ v₂ n₂ l₂ hf.symm).1
  · exact absurd hp (hnew k₁ v₁ n₁ l₁ hf).2
  · exact hd k₁ v₁ k₂ v₂ l₁ l₂ hp hf

theorem card_collect [DecidableEq β] [DecidablePred p] (hd : m.Distinct p f) :
    (m.collect p f).card = m.count p := by
  rw [distinct_iff] at hd
  unfold collect count
  rw [Multiset.countP_eq_card_filter, Multiset.card_toFinset,
    Multiset.dedup_eq_self.mpr, Multiset.card_map]
  refine Multiset.Nodup.map_on ?_ (Multiset.Nodup.filter _ m.nodup_entries)
  rintro ⟨k, v⟩ he ⟨k', v'⟩ he' hf
  obtain ⟨hmem, hp⟩ := Multiset.mem_filter.mp he
  have hk := mem_entries.mpr hmem
  have hk' := mem_entries.mpr (Multiset.mem_filter.mp he').1
  have hkk : k = k' := hd k v k' v' hk hk' hp hf
  subst hkk
  rw [hk] at hk'
  cases hk'
  rfl

end Map

end VirtualKubelet.Go
