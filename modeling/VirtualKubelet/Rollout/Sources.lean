import VirtualKubelet.Go.Map
import VirtualKubelet.Go.Value

/-!
# Which source a device gets its image from

A source is scoped by a selector, or is the catch-all. The loop over the sources
keeps the catch-all, the best scoped source so far and the priorities it has
met, and stops at the first conflict. Which conflict that is depends on the
order of the list. Whether there is one, and what is selected if not, does not.
-/

namespace VirtualKubelet.Rollout

open Go
open List hiding le_antisymm le_of_lt le_refl le_trans next

/-- A compiled source: its selector is the test on the labels of a device. -/
structure RolloutSourceCandidate where
  name : String
  priority : Int
  selector : Map String → Bool
  catchAll : Bool

/-- The variables of the loop, with the sources in place of their indices. -/
structure SourceLoop where
  fallback : Option RolloutSourceCandidate := none
  selected : Option RolloutSourceCandidate := none
  priorities : List (Int × String) := []

def SourceLoop.visit (deviceLabels : Map String) (st : SourceLoop)
    (source : RolloutSourceCandidate) : Except String SourceLoop :=
  if source.catchAll then
    if st.fallback.isSome then .error "multiple catch-all sources are configured"
    else .ok { st with fallback := some source }
  else if !source.selector deviceLabels then .ok st
  else
    match st.priorities.lookup source.priority with
    | some prior =>
      .error s!"matching sources {quote prior} and {quote source.name} have equal priority {source.priority}"
    | none =>
      .ok { st with
        priorities := (source.priority, source.name) :: st.priorities
        selected :=
          if st.selected.all fun best => source.priority < best.priority then some source
          else st.selected }

def selectRolloutSourceIndex (sources : List RolloutSourceCandidate)
    (deviceLabels : Map String) : Except String RolloutSourceCandidate := do
  let st ← sources.foldlM (SourceLoop.visit deviceLabels) {}
  match st.selected, st.fallback with
  | some best, _ => .ok best
  | none, none => .error "no matching source and no catch-all source"
  | none, some fallback => .ok fallback

/-! ## What is selected -/

section

variable (deviceLabels : Map String)

def matching (l : List RolloutSourceCandidate) : List RolloutSourceCandidate :=
  l.filter fun s => !s.catchAll && s.selector deviceLabels

def catchAlls (l : List RolloutSourceCandidate) : List RolloutSourceCandidate :=
  l.filter (·.catchAll)

/-- Several catch-alls, or two matching scoped sources of one priority. -/
def Conflict (l : List RolloutSourceCandidate) : Prop :=
  2 ≤ (catchAlls l).length ∨ ¬ ((matching deviceLabels l).map (·.priority)).Nodup

def Fails (l : List RolloutSourceCandidate) : Prop :=
  Conflict deviceLabels l ∨ matching deviceLabels l = [] ∧ catchAlls l = []

/-- The matching scoped source of lowest priority number, else the only
catch-all. -/
def Selected (l : List RolloutSourceCandidate) (s : RolloutSourceCandidate) : Prop :=
  (s ∈ matching deviceLabels l ∧ ∀ t ∈ matching deviceLabels l, s.priority ≤ t.priority) ∨
    matching deviceLabels l = [] ∧ catchAlls l = [s]

end

/-- The loop after sources of which these are the catch-alls and these the
matching scoped ones. -/
structure SourceLoop.Tracks (alls ms : List RolloutSourceCandidate) (st : SourceLoop) : Prop where
  fallback : st.fallback.toList = alls
  priorities : st.priorities.map Prod.fst = (ms.map (·.priority)).reverse
  distinct : (ms.map (·.priority)).Nodup
  unset : st.selected = none → ms = []
  best : ∀ best ∈ st.selected, best ∈ ms ∧ ∀ t ∈ ms, best.priority ≤ t.priority

section

variable {deviceLabels : Map String} {done rest l l' : List RolloutSourceCandidate}
  {st : SourceLoop} {source s : RolloutSourceCandidate}

theorem SourceLoop.Tracks.lookup (h : st.Tracks alls ms) :
    st.priorities.lookup k = none ↔ k ∉ ms.map (·.priority) := by
  rw [lookup_eq_none_iff, ← mem_reverse, ← h.priorities, mem_map]
  simp only [bne_iff_ne, not_exists, not_and]
  exact forall₂_congr fun e he => ne_comm

theorem SourceLoop.Tracks.add (h : st.Tracks alls ms)
    (hnew : source.priority ∉ ms.map (·.priority)) :
    SourceLoop.Tracks alls (ms ++ [source])
      { st with
        priorities := (source.priority, source.name) :: st.priorities
        selected :=
          if st.selected.all fun best => source.priority < best.priority then some source
          else st.selected } := by
  refine ⟨h.fallback, ?_, ?_, ?_, ?_⟩
  · rw [map_append, reverse_append, map_cons, h.priorities]
    rfl
  · rw [map_append, map_singleton, ← concat_eq_append]
    exact List.Nodup.concat hnew h.distinct
  · intro hnone
    dsimp only at hnone
    split at hnone
    · cases hnone
    · next hbest =>
      rw [hnone] at hbest
      exact absurd rfl hbest
  · intro best hbest
    simp only [mem_append, mem_singleton, or_imp, forall_and, forall_eq]
    dsimp only at hbest
    split at hbest
    · next hless =>
      cases hbest
      refine ⟨.inr rfl, fun t ht => ?_, le_refl _⟩
      cases hsel : st.selected with
      | none =>
        rw [h.unset hsel] at ht
        cases ht
      | some old =>
        rw [hsel] at hless
        have hlt : source.priority < old.priority := by simpa using hless
        exact le_of_lt (lt_of_lt_of_le hlt ((h.best old hsel).2 t ht))
    · next hless =>
      obtain ⟨hmem, hleast⟩ := h.best best hbest
      rw [Option.mem_def.mp hbest] at hless
      exact ⟨.inl hmem, hleast, by simpa using hless⟩

/-- One round: the loop follows the list, or there is a conflict. -/
theorem SourceLoop.Tracks.visit (h : st.Tracks (catchAlls done) (matching deviceLabels done)) :
    (∃ st', st.visit deviceLabels source = .ok st' ∧
      st'.Tracks (catchAlls (done ++ [source])) (matching deviceLabels (done ++ [source]))) ∨
    (∃ e, st.visit deviceLabels source = .error e) ∧ Conflict deviceLabels (done ++ [source]) := by
  unfold SourceLoop.visit Conflict
  rw [catchAlls, matching, filter_append, filter_append, ← catchAlls, ← matching]
  by_cases hcatch : source.catchAll = true
  · simp only [filter_singleton, hcatch, Bool.not_true, Bool.false_and, Bool.cond_true,
      Bool.cond_false, append_nil, if_true]
    have hfallback := h.fallback
    cases hf : st.fallback with
    | some f =>
      rw [hf] at hfallback
      rw [← hfallback]
      exact .inr ⟨⟨_, rfl⟩, .inl (le_refl 2)⟩
    | none =>
      rw [hf] at hfallback
      rw [← hfallback]
      exact .inl ⟨_, rfl, rfl, h.priorities, h.distinct, h.unset, h.best⟩
  by_cases hmatch : source.selector deviceLabels = true
  · simp only [filter_singleton, hcatch, hmatch, Bool.not_false, Bool.not_true, Bool.and_self,
      Bool.cond_true, Bool.cond_false, append_nil, Bool.false_eq_true, if_false]
    cases hlookup : st.priorities.lookup source.priority with
    | some prior =>
      refine .inr ⟨⟨_, rfl⟩, .inr fun hnodup => ?_⟩
      rw [map_append, nodup_append] at hnodup
      have hnew := h.lookup.mpr fun hmem => hnodup.2.2 source.priority hmem _ (by simp) rfl
      rw [hlookup] at hnew
      cases hnew
    | none => exact .inl ⟨_, rfl, h.add (h.lookup.mp hlookup)⟩
  · simp only [filter_singleton, hcatch, hmatch, Bool.and_false, Bool.not_false,
      Bool.cond_false, append_nil, Bool.false_eq_true, if_false, if_true]
    exact .inl ⟨st, rfl, h⟩

theorem Conflict.append (h : Conflict deviceLabels done) : Conflict deviceLabels (done ++ rest) := by
  unfold Conflict catchAlls matching at h ⊢
  rw [filter_append, filter_append, length_append, map_append]
  exact h.imp (fun h => le_trans h (Nat.le_add_right _ _)) fun h hnodup =>
    h (nodup_append.mp hnodup).1

/-- The whole loop: it gets to the end exactly if there is no conflict. -/
theorem SourceLoop.Tracks.run (h : st.Tracks (catchAlls done) (matching deviceLabels done)) :
    (∃ st', rest.foldlM (SourceLoop.visit deviceLabels) st = .ok st' ∧
      st'.Tracks (catchAlls (done ++ rest)) (matching deviceLabels (done ++ rest))) ∨
    (∃ e, rest.foldlM (SourceLoop.visit deviceLabels) st = .error e) ∧
      Conflict deviceLabels (done ++ rest) := by
  induction rest generalizing done st with
  | nil =>
    rw [append_nil]
    exact .inl ⟨st, rfl, h⟩
  | cons source rest ih =>
    rw [append_cons, foldlM_cons]
    rcases @visit _ done st source h with ⟨st', hvisit, h'⟩ | ⟨⟨e, hvisit⟩, hconflict⟩
    · rw [hvisit]
      exact ih h'
    · rw [hvisit]
      exact .inr ⟨⟨e, rfl⟩, hconflict.append⟩

theorem selectRolloutSourceIndex_cases (deviceLabels : Map String)
    (l : List RolloutSourceCandidate) :
    (∃ s, selectRolloutSourceIndex l deviceLabels = .ok s ∧ Selected deviceLabels l s ∧
      ¬ Fails deviceLabels l) ∨
    (∃ e, selectRolloutSourceIndex l deviceLabels = .error e) ∧ Fails deviceLabels l := by
  have hstart : SourceLoop.Tracks (catchAlls []) (matching deviceLabels []) {} := by
    refine ⟨rfl, rfl, nodup_nil, fun _ => rfl, ?_⟩
    intro best hbest
    cases hbest
  unfold selectRolloutSourceIndex
  rcases @SourceLoop.Tracks.run _ [] l _ hstart with ⟨st, hrun, h⟩ | ⟨⟨e, hrun⟩, hconflict⟩
  · rw [nil_append] at h
    have hno : ¬ Conflict deviceLabels l := by
      rintro (hseveral | hshared)
      · rw [← h.fallback] at hseveral
        cases hf : st.fallback <;> rw [hf] at hseveral <;> simp at hseveral
      · exact hshared h.distinct
    simp only [hrun, bind, Except.bind]
    cases hsel : st.selected with
    | some best =>
      obtain ⟨hmem, hleast⟩ := h.best best hsel
      refine .inl ⟨best, rfl, .inl ⟨hmem, hleast⟩, ?_⟩
      rintro (hconflict | ⟨hnil, -⟩)
      · exact hno hconflict
      · rw [hnil] at hmem
        cases hmem
    | none =>
      have hall := h.fallback
      cases hf : st.fallback with
      | none =>
        rw [hf] at hall
        exact .inr ⟨⟨_, rfl⟩, .inr ⟨h.unset hsel, hall.symm⟩⟩
      | some f =>
        rw [hf] at hall
        refine .inl ⟨f, rfl, .inr ⟨h.unset hsel, hall.symm⟩, ?_⟩
        rintro (hconflict | ⟨-, hnil⟩)
        · exact hno hconflict
        · rw [hnil] at hall
          cases hall
  · simp only [hrun, bind, Except.bind]
    exact .inr ⟨⟨e, rfl⟩, .inl hconflict⟩

/-! ## The order of the list -/

theorem fails_perm (h : l.Perm l') : Fails deviceLabels l ↔ Fails deviceLabels l' := by
  have hmatching : (matching deviceLabels l).Perm (matching deviceLabels l') := h.filter _
  have hall : (catchAlls l).Perm (catchAlls l') := h.filter _
  unfold Fails Conflict
  rw [hall.length_eq, (hmatching.map _).nodup_iff, ← length_eq_zero_iff, hmatching.length_eq,
    ← length_eq_zero_iff, hall.length_eq, length_eq_zero_iff, length_eq_zero_iff]

theorem selected_unique (h : l.Perm l') (hno : ¬ Fails deviceLabels l)
    (hs : Selected deviceLabels l s) (hs' : Selected deviceLabels l' s') : s = s' := by
  have hmatching : (matching deviceLabels l).Perm (matching deviceLabels l') := h.filter _
  have hall : (catchAlls l).Perm (catchAlls l') := h.filter _
  have hdistinct : ((matching deviceLabels l).map (·.priority)).Nodup :=
    not_not.mp fun hnot => hno (.inl (.inr hnot))
  rcases hs with ⟨hmem, hleast⟩ | ⟨hnone, hone⟩
  · rcases hs' with ⟨hmem', hleast'⟩ | ⟨hnone', -⟩
    · have hin := hmatching.mem_iff.mpr hmem'
      exact inj_on_of_nodup_map hdistinct hmem hin
        (le_antisymm (hleast s' hin) (hleast' s (hmatching.mem_iff.mp hmem)))
    · rw [hnone', perm_nil] at hmatching
      rw [hmatching] at hmem
      cases hmem
  · rw [hnone, nil_perm] at hmatching
    rcases hs' with ⟨hmem', -⟩ | ⟨-, hone'⟩
    · rw [hmatching] at hmem'
      cases hmem'
    · rw [hone, hone'] at hall
      exact singleton_perm_singleton.mp hall

/-- For every list of sources and every device: the selection fails exactly if
there are several catch-alls, two matching scoped sources share a priority or no
source applies, the source it finds is the matching scoped one of lowest
priority number or else the catch-all, and the name it finds does not depend on
the order of the list. -/
theorem rollout_source_selected (deviceLabels : Map String) (l : List RolloutSourceCandidate) :
    ((∃ e, selectRolloutSourceIndex l deviceLabels = .error e) ↔ Fails deviceLabels l) ∧
    (∀ s, selectRolloutSourceIndex l deviceLabels = .ok s → Selected deviceLabels l s) ∧
    ∀ l', l.Perm l' →
      (selectRolloutSourceIndex l' deviceLabels).toOption.map (·.name) =
        (selectRolloutSourceIndex l deviceLabels).toOption.map (·.name) := by
  have hcases := selectRolloutSourceIndex_cases deviceLabels
  rcases hcases l with ⟨s, hok, hs, hno⟩ | ⟨⟨e, he⟩, hfails⟩
  · rw [hok]
    refine ⟨iff_of_false ?_ hno, ?_, ?_⟩
    · rintro ⟨e, he⟩
      cases he
    · intro s' hs'
      cases hs'
      exact hs
    · intro l' hperm
      rcases hcases l' with ⟨s', hok', hs', -⟩ | ⟨-, hfails'⟩
      · rw [hok', selected_unique hperm hno hs hs']
      · exact absurd ((fails_perm hperm).mpr hfails') hno
  · rw [he]
    refine ⟨iff_of_true ⟨e, rfl⟩ hfails, ?_, ?_⟩
    · intro s' hs'
      cases hs'
    · intro l' hperm
      rcases hcases l' with ⟨s', -, -, hno'⟩ | ⟨⟨e', he'⟩, -⟩
      · exact absurd ((fails_perm hperm).mp hfails) hno'
      · rw [he']
        rfl

end

def siteSources : List RolloutSourceCandidate :=
  [⟨"east", 5, fun labels => labels.find "site" == some "east", false⟩,
    ⟨"any", 0, fun _ => true, true⟩, ⟨"metro", 3, fun labels => labels.find "site" != none, false⟩]

theorem metro_selected :
    Selected (Map.set ∅ "site" "east") siteSources
      ⟨"metro", 3, fun labels => labels.find "site" != none, false⟩ :=
  (rollout_source_selected _ siteSources).2.1 _ rfl

end VirtualKubelet.Rollout
