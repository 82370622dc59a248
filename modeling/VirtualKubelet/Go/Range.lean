import VirtualKubelet.Go.Map

/-!
# Loops over maps

A `range` loop visits every entry of a map once, in an order of its own. What
it puts into another map under the same keys does not depend on that order.
-/

namespace VirtualKubelet.Go

/-- An order in which a `range` loop can visit a map. -/
structure Enumeration {α : Type} (m : Map α) where
  entries : List (Sigma fun _ : String => α)
  complete : (entries : Multiset (Sigma fun _ : String => α)) = m.entries

namespace Enumeration

variable {α : Type} {m : Map α}

theorem mem_iff (range : Enumeration m) : ⟨k, v⟩ ∈ range.entries ↔ m.find k = some v := by
  rw [← Multiset.mem_coe, range.complete]
  exact Map.mem_entries.symm

theorem mem_of_mem (range : Enumeration m) (h : e ∈ range.entries) : m.find e.1 = some e.2 :=
  range.mem_iff.mp h

theorem nodup_keys (range : Enumeration m) : (range.entries.map Sigma.fst).Nodup := by
  have hkeys := m.nodupKeys
  rw [← range.complete] at hkeys
  exact Multiset.coe_nodupKeys.mp hkeys

end Enumeration

namespace Map

variable {α β : Type}

theorem sublist_filterMap_keys (f : String → α → Option β) (l : List (Sigma fun _ : String => α)) :
    List.Sublist ((l.filterMap fun e => (f e.1 e.2).map (Sigma.mk (β := fun _ => β) e.1)).map
      Sigma.fst) (l.map Sigma.fst) := by
  induction l with
  | nil => exact .slnil
  | cons e l ih =>
    cases hf : f e.1 e.2 with
    | none =>
      rw [List.filterMap_cons_none (by rw [hf]; rfl)]
      exact ih.cons e.1
    | some b =>
      rw [List.filterMap_cons_some (by rw [hf]; rfl)]
      exact ih.cons_cons e.1

/-- The entries that `f` keeps, with their new values. -/
def filterMap (f : String → α → Option β) (m : Map α) : Map β where
  entries := m.entries.filterMap fun e => (f e.1 e.2).map (Sigma.mk (β := fun _ => β) e.1)
  nodupKeys := by
    have hkeys := m.nodupKeys
    revert hkeys
    refine Quot.inductionOn m.entries fun l hl => ?_
    have hnodup : (l.map Sigma.fst).Nodup := Multiset.coe_nodupKeys.mp hl
    exact Multiset.coe_nodupKeys.mpr (hnodup.sublist (sublist_filterMap_keys f l))

theorem find_filterMap {m : Map α} : (m.filterMap f).find k = (m.find k).bind (f k) := by
  ext b
  rw [mem_entries]
  show _ ∈ Multiset.filterMap _ _ ↔ _
  rw [Multiset.mem_filterMap]
  constructor
  · rintro ⟨⟨k', a⟩, ha, hb⟩
    obtain ⟨b', hf, heq⟩ := Option.map_eq_some_iff.mp hb
    cases heq
    rw [mem_entries.mpr ha]
    exact hf
  · intro h
    obtain ⟨a, ha, hf⟩ := Option.bind_eq_some_iff.mp h
    exact ⟨⟨k, a⟩, mem_entries.mp ha, Option.map_eq_some_iff.mpr ⟨b, hf, rfl⟩⟩

/-- `for k, v := range b { a[k] = v }`. -/
def merge (a b : Map α) : Map α := b ∪ a

theorem find_merge {a b : Map α} : (a.merge b).find k = (b.find k).or (a.find k) := by
  by_cases h : k ∈ b
  · have hb : Finmap.lookup k (b ∪ a) = Finmap.lookup k b := Finmap.lookup_union_left h
    obtain ⟨v, hv⟩ := Finmap.mem_iff.mp h
    show Finmap.lookup k (b ∪ a) = (Finmap.lookup k b).or _
    rw [hb, hv]
    rfl
  · have hb : Finmap.lookup k (b ∪ a) = Finmap.lookup k a := Finmap.lookup_union_right h
    show Finmap.lookup k (b ∪ a) = (Finmap.lookup k b).or _
    rw [hb, Finmap.lookup_eq_none.mpr h]
    rfl

end Map

end VirtualKubelet.Go
