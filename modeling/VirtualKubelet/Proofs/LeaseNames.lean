import VirtualKubelet.ControllerAdapter.NexusDashboard
import VirtualKubelet.Coordination.FamilyLease
import VirtualKubelet.Go.Search

/-!
# The names of the Leases

Whatever the device and the family are called, the API server accepts the name
of their Lease, and its last eight characters tell them apart.
-/

namespace VirtualKubelet.Coordination

open Go ControllerAdapter.NexusDashboard List

/-- The characters of a DNS label. -/
def nameChar (c : Char) : Bool := isLowerAlnum c || c = '-'

variable {l : List Char}

theorem sanitiseChar_ok (c : Char) : nameChar (sanitiseChar c) := by
  grind [nameChar, isLowerAlnum, sanitiseChar, Char.toLower, Char.le_def]

theorem collapseDashes_subset : collapseDashes l ⊆ l := by
  fun_induction collapseDashes l with
  | case1 rest ih => exact fun c hc => mem_cons_of_mem _ (ih hc)
  | case2 c rest hne ih => exact cons_subset_cons c ih
  | case3 => exact fun c hc => hc

theorem trimmed_sublist (p : Char → Bool) : (l.reverse.dropWhile p).reverse.Sublist l := by
  rw [← reverse_sublist, reverse_reverse]
  exact dropWhile_sublist p

theorem sanitiseLeaseSegment_ok (s : String) : (sanitiseLeaseSegment s).toList.all nameChar := by
  unfold sanitiseLeaseSegment
  dsimp only
  split
  · decide
  · rw [String.toList_ofList, all_eq_true]
    intro c hc
    have hc := collapseDashes_subset ((dropWhile_sublist _).mem ((trimmed_sublist _).mem hc))
    obtain ⟨c', -, rfl⟩ := mem_map.mp hc
    exact sanitiseChar_ok c'

theorem hash_digits (s : String) :
    (sha256Hex 1 s).toList.length = 8 ∧ (sha256Hex 1 s).toList.all isLowerAlnum := by
  have hdigit : ∀ n < 16, isLowerAlnum (Sha256.hexDigit n) := by decide
  obtain ⟨w, hw⟩ : ∃ w, (sha256Hex 1 s).toList = Sha256.hexWord w :=
    ⟨_, String.toList_ofList.trans (append_nil _)⟩
  rw [hw, all_eq_true]
  refine ⟨by simp [Sha256.hexWord], fun c hc => ?_⟩
  obtain ⟨i, -, rfl⟩ := mem_map.mp hc
  exact hdigit _ (Nat.mod_lt _ (by decide))

theorem all_nameChar (h : l.all isLowerAlnum) : l.all nameChar := by
  grind [nameChar]

theorem utf8ByteSize_names (h : l.all nameChar) : (String.ofList l).utf8ByteSize = l.length := by
  induction l with
  | nil => rfl
  | cons c l ih =>
    rw [all_cons, Bool.and_eq_true] at h
    have hc : c.utf8Size = 1 := by
      by_cases hdash : c = '-'
      · rw [hdash]
        rfl
      · grind [nameChar, isLowerAlnum, isDigit, Char.le_def, Char.utf8Size_eq_one_iff]
    rw [String.ofList_cons, String.utf8ByteSize_append, ih h.2, String.utf8ByteSize_singleton, hc,
      length_cons, Nat.add_comm]

/-- The name ends in the hash, whatever is cut off before it. -/
theorem leaseName_parts (device family : String) : (leaseName device family).utf8ByteSize ≤ 253 ∧
    ∃ m, m.all nameChar ∧ (leaseName device family).toList =
      'c' :: m ++ (sha256Hex 1 (device ++ "/" ++ family)).toList := by
  have hboth : (sanitiseLeaseSegment device ++ "-" ++ sanitiseLeaseSegment family).toList.all
      nameChar := by
    simp [sanitiseLeaseSegment_ok, nameChar, -all_eq_true]
  have hsize : ("-" ++ sha256Hex 1 (device ++ "/" ++ family)).utf8ByteSize = 9 := by
    obtain ⟨hlen, hdigits⟩ := hash_digits (device ++ "/" ++ family)
    have hbytes := utf8ByteSize_names (all_nameChar hdigits)
    rw [String.ofList_toList, hlen] at hbytes
    rw [String.utf8ByteSize_append, hbytes]
    rfl
  have hends : ∀ m : List Char, m.all nameChar → ("vk-".toList ++ m ++ ['-']).all nameChar := by
    intro m hm
    rw [all_append, all_append, hm]
    decide
  unfold leaseName
  dsimp only
  split
  · rw [trimRight, String.toList_ofList, hsize, String.utf8ByteSize_append,
      String.utf8ByteSize_append, hsize]
    generalize (sanitiseLeaseSegment device ++ "-" ++ sanitiseLeaseSegment family).toList = l at *
    have hkept := trimmed_sublist (l := l.take (maxNameLen - 4 - 9)) (['-'].contains ·)
    have hok := all_eq_true.mpr fun c hc => all_eq_true.mp hboth c (mem_of_mem_take (hkept.mem hc))
    have hroom := hkept.length_le.trans (length_take_le _ _)
    rw [utf8ByteSize_names hok]
    exact ⟨Nat.add_le_add_right (Nat.add_le_add_left hroom 4) 9, _, hends _ hok, by simp⟩
  · rename_i hshort
    exact ⟨Nat.le_of_not_lt hshort, _, hends _ hboth, by simp⟩

/-- Lease names are valid, and two pairs with one name have one hash. -/
theorem leaseName_valid_separating (device family : String) :
    isDNS1123Subdomain (leaseName device family) = true ∧
    ∀ device' family', '/' ∉ device.toList → '/' ∉ device'.toList →
      device ≠ device' ∨ family ≠ family' →
        device ++ "/" ++ family ≠ device' ++ "/" ++ family' ∧
        (leaseName device family = leaseName device' family' →
          sha256Hex 1 (device ++ "/" ++ family) = sha256Hex 1 (device' ++ "/" ++ family')) := by
  obtain ⟨hsize, m, hm, hname⟩ := leaseName_parts device family
  obtain ⟨hlen, hdigits⟩ := hash_digits (device ++ "/" ++ family)
  generalize leaseName device family = name at *
  generalize sha256Hex 1 (device ++ "/" ++ family) = hash at *
  refine ⟨?_, fun device' family' hdev hdev' hne => ⟨fun heq => ?_, fun heq => ?_⟩⟩
  · have hall : name.toList.all nameChar := by
      rw [hname, cons_append, all_cons, all_append, hm, all_nameChar hdigits]
      rfl
    have hsplit : name.toList.splitOn '.' = [name.toList] :=
      splitOn_eq_singleton fun hdot => absurd (all_eq_true.mp hall _ hdot) (by decide)
    have hlast : ∀ h, isLowerAlnum (getLast ('c' :: (m ++ hash.toList)) h) := by
      intro h
      have hne : hash.toList ≠ [] := by grind
      simp only [← cons_append, getLast_append_of_ne_nil _ hne]
      exact all_eq_true.mp hdigits _ (getLast_mem hne)
    rw [isDNS1123Subdomain, hsplit, decide_eq_true hsize]
    rw [hname, cons_append] at hall ⊢
    show (isLowerAlnum 'c' && all _ nameChar && isLowerAlnum (getLast _ _) && true) = true
    rw [hall, hlast]
    rfl
  · have hlist : device.toList ++ '/' :: family.toList = device'.toList ++ '/' :: family'.toList := by
      simpa using congrArg String.toList heq
    obtain ⟨hword, -⟩ := word_of_prefix hdev hdev' ⟨[], (append_nil _).trans hlist⟩
    rw [hword] at hlist
    have hrest := cons.inj (append_cancel_left hlist)
    exact hne.elim (· (String.toList_inj.mp hword)) (· (String.toList_inj.mp hrest.2))
  · obtain ⟨-, m', -, hname'⟩ := leaseName_parts device' family'
    rw [heq, hname'] at hname
    have hlast := append_inj_right' hname (by rw [hlen, (hash_digits _).1])
    exact String.toList_inj.mp hlast.symm

theorem leaseName_separates_families : leaseName "r1" "vlan" ≠ leaseName "r1" "vrf" := by
  intro heq
  have hhash := ((leaseName_valid_separating "r1" "vlan").2 "r1" "vrf" (by decide) (by decide)
    (.inr (by decide))).2 heq
  exact absurd hhash (by decide +kernel)

end VirtualKubelet.Coordination
