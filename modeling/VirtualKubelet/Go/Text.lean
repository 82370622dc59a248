import Mathlib

/-!
# Strings as Go reads them

The pieces of `strings`, `encoding/hex`, `sort` and `encoding/json` that the
rollout code calls on strings. A Go string is a byte sequence; the model
keeps Lean's `String`, so `len` is `utf8ByteSize` and the byte-wise order is
the code-point order.

`sort.SearchStrings` is the one function here with an algorithm in it: it
bisects, and what it finds in a list that is not sorted is whatever the
bisection runs into. On a strictly sorted list it decides membership, which
is the only fact the rest of the development uses.
-/

namespace VirtualKubelet.Go

/-! The order `sort.Strings` sorts by. -/

instance string_le_trans : IsTrans String (· ≤ ·) := inferInstance

instance string_le_antisymm : Std.Antisymm (fun s t : String => s ≤ t) := inferInstance

instance string_le_total : Std.Total (fun s t : String => s ≤ t) := inferInstance

def isSpace (c : Char) : Bool :=
  (9 ≤ c.val && c.val ≤ 13) || c.val == 32 || c.val == 0x85 || c.val == 0xA0 ||
  c.val == 0x1680 || (0x2000 ≤ c.val && c.val ≤ 0x200A) || c.val == 0x2028 ||
  c.val == 0x2029 || c.val == 0x202F || c.val == 0x205F || c.val == 0x3000

def trimSpace (s : String) : String :=
  String.ofList ((s.toList.dropWhile isSpace).reverse.dropWhile isSpace).reverse

/-- `strings.TrimRight` with the characters of a cutset. -/
def trimRight (cutset : List Char) (s : String) : String :=
  String.ofList (s.toList.reverse.dropWhile (cutset.contains ·)).reverse

/-- `strings.TrimSpace(s) == ""`, the blankness test. -/
def blank (s : String) : Bool := trimSpace s == ""

theorem blank_empty : blank "" = true := by decide

def isDigit (c : Char) : Bool := '0' ≤ c && c ≤ '9'

def isHexDigit (c : Char) : Bool :=
  isDigit c || ('a' ≤ c && c ≤ 'f') || ('A' ≤ c && c ≤ 'F')

/-- `hex.DecodeString(s)` returns no error: an even number of hexadecimal
digits. -/
def hexDecodes (s : String) : Bool :=
  s.toList.length % 2 == 0 && s.toList.all isHexDigit

/-- `s == strings.ToLower(s)`, for the strings the callers go on to read as
hexadecimal: only `A` to `Z` could still be lowered there. -/
def isLower (s : String) : Bool := s.toList.all fun c => !('A' ≤ c && c ≤ 'Z')

/-! ## Bisection -/

/-- The loop of `sort.Search`. The fuel is the initial width of the interval,
which every round at least halves. -/
def searchLoop (f : Nat → Bool) : Nat → Nat → Nat → Nat
  | 0, i, _ => i
  | fuel + 1, i, j =>
    if i < j then
      let h := (i + j) / 2
      if f h then searchLoop f fuel i h else searchLoop f fuel (h + 1) j
    else i

/-- `sort.SearchStrings(values, value)`. -/
def searchStrings (values : List String) (value : String) : Nat :=
  searchLoop (fun h => decide (value ≤ values.getD h "")) values.length 0
    values.length

/-- The index the loop ends on separates the interval: everything below it
fails the test and the index itself, when it lies in range, passes. The test
must be monotone, which is what a sorted list makes of it. -/
theorem searchLoop_spec (hmono : ∀ a b, a ≤ b → b < n → f a = true → f b = true) :
    ∀ fuel i j, j - i ≤ fuel → i ≤ j → j ≤ n →
      (∀ k < i, f k = false) → (j < n → f j = true) →
      (∀ k < searchLoop f fuel i j, f k = false) ∧
        (searchLoop f fuel i j < n → f (searchLoop f fuel i j) = true) := by
  intro fuel
  induction fuel with
  | zero =>
    intro i j hfuel hij _ hlow hhigh
    have hj : i = j := by omega
    subst hj
    exact ⟨hlow, hhigh⟩
  | succ fuel ih =>
    intro i j hfuel hij hjn hlow hhigh
    rw [searchLoop]
    split
    · rename_i hlt
      simp only []
      split
      · rename_i hf
        exact ih i _ (by omega) (by omega) (by omega) hlow fun _ => hf
      rename_i hf
      refine ih _ j (by omega) (by omega) hjn (fun k hk => ?_) hhigh
      -- A pass below the probe would carry up to the probe itself.
      cases hfk : f k with
      | false => rfl
      | true =>
        exact absurd (hmono k _ (by omega) (by omega) hfk) hf
    · rename_i hlt
      have hj : i = j := by omega
      subst hj
      exact ⟨hlow, hhigh⟩

theorem searchStrings_spec {values : List String}
    (hget : ∀ a b, a < b → b < values.length → values.getD a "" < values.getD b "") :
    (∀ k < searchStrings values v, values.getD k "" < v) ∧
      (searchStrings values v < values.length →
        v ≤ values.getD (searchStrings values v) "") := by
  have hmono : ∀ a b, a ≤ b → b < values.length →
      decide (v ≤ values.getD a "") = true →
      decide (v ≤ values.getD b "") = true := by
    intro a b hab hb hfa
    rcases Nat.lt_or_eq_of_le hab with hlt | rfl
    · rw [decide_eq_true_eq] at hfa ⊢
      exact le_of_lt (lt_of_le_of_lt hfa (hget a b hlt hb))
    · exact hfa
  obtain ⟨hlow, hhigh⟩ := searchLoop_spec hmono values.length 0 values.length
    (by omega) (by omega) (le_refl _) (by intro k hk; omega)
    (by intro h; omega)
  refine ⟨fun k hk => ?_, fun h => of_decide_eq_true (hhigh h)⟩
  exact lt_of_not_ge (of_decide_eq_false (hlow k hk))

/-- The membership test built on the bisection. -/
def containsSorted (values : List String) (value : String) : Bool :=
  let index := searchStrings values value
  decide (index < values.length) && values.getD index "" == value

theorem mem_of_containsSorted (h : containsSorted values value = true) : value ∈ values := by
  simp only [containsSorted, Bool.and_eq_true, decide_eq_true_eq, beq_iff_eq] at h
  rw [← h.2, List.getD_eq_getElem _ _ h.1]
  exact List.getElem_mem h.1

theorem containsSorted_iff {values : List String} (hs : values.Pairwise (· < ·)) :
    containsSorted values value = true ↔ value ∈ values := by
  have hget : ∀ a b, a < b → b < values.length →
      values.getD a "" < values.getD b "" := by
    intro a b hab hb
    rw [List.getD_eq_getElem _ _ (by omega), List.getD_eq_getElem _ _ hb]
    exact List.pairwise_iff_getElem.mp hs a b (by omega) hb hab
  obtain ⟨hlow, hhigh⟩ := searchStrings_spec (v := value) hget
  refine ⟨mem_of_containsSorted, fun hmem => ?_⟩
  · simp only [containsSorted, Bool.and_eq_true, decide_eq_true_eq, beq_iff_eq]
    obtain ⟨m, hm, hval⟩ := List.getElem_of_mem hmem
    have hvm : values.getD m "" = value := by
      rw [List.getD_eq_getElem _ _ hm]; exact hval
    have hle : searchStrings values value ≤ m := by
      by_contra hgt
      have hsmall := hlow m (by omega)
      rw [hvm] at hsmall
      exact absurd hsmall (lt_irrefl _)
    have hlt : searchStrings values value < values.length := by omega
    refine ⟨hlt, ?_⟩
    rcases Nat.lt_or_eq_of_le hle with hsm | hsm
    · -- The found index lies strictly below: its element is too small.
      have hbelow := hget _ m hsm hm
      rw [hvm] at hbelow
      exact absurd (hhigh hlt) (not_le_of_gt hbelow)
    · rw [hsm]; exact hvm

/-! ## The size of a JSON text

`json.Marshal` output is compared only by length, so the model computes the
length. A struct or a map is an object; the order of a map's keys, which
`Marshal` sorts, does not show in it. -/

/-- The bytes one character of a JSON string takes, escapes included:
`Marshal` escapes the quote, the backslash, the control characters, the three
HTML characters and the two line separators. -/
def jsonCharSize (c : Char) : Nat :=
  if c == '"' || c == '\\' then 2
  else if c.val == 8 || c.val == 9 || c.val == 10 || c.val == 12 || c.val == 13 then 2
  else if c.val < 32 then 6
  else if c == '<' || c == '>' || c == '&' then 6
  else if c.val == 0x2028 || c.val == 0x2029 then 6
  else c.utf8Size

def jsonStringSize (s : String) : Nat := 2 + (s.toList.map jsonCharSize).sum

/-- A decimal integer. -/
def jsonIntSize (n : Int) : Nat := (toString n).length

/-- One `"name":value` member. -/
def jsonMemberSize (name : String) (valueSize : Nat) : Nat :=
  jsonStringSize name + 1 + valueSize

/-- A bracketed, comma-separated sequence of items of the given sizes. -/
def jsonSeqSize (items : Multiset Nat) : Nat :=
  2 + items.sum + (Multiset.card items - 1)

theorem jsonSeqSize_mono (h : a ≤ b) : jsonSeqSize a ≤ jsonSeqSize b := by
  obtain ⟨c, rfl⟩ := Multiset.le_iff_exists_add.mp h
  simp only [jsonSeqSize, Multiset.sum_add, Multiset.card_add]
  omega

end VirtualKubelet.Go
