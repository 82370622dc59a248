import VirtualKubelet.Go.Text
import Mathlib.Data.List.Infix

/-!
# Searching in text

`strings.Index` with the slice behind the match, and what can be said of the
place it finds: in a text of words with a blank between them, a pattern that
spans two words is found only where one word ends with its first part and the
next begins with its second.
-/

namespace VirtualKubelet.Go

open List hiding contains contains_iff next removeAll

/-- What follows the first occurrence of `sub`. -/
def cutAfter (sub : List Char) : List Char → Option (List Char)
  | [] => if sub.isEmpty then some [] else none
  | c :: rest =>
    if sub.isPrefixOf (c :: rest) then some ((c :: rest).drop sub.length)
    else cutAfter sub rest

def contains (s sub : String) : Bool := (cutAfter sub.toList s.toList).isSome

/-- `strings.ReplaceAll(s, c, "")` for a character. -/
def removeAll (c : Char) (s : String) : String := String.ofList (s.toList.filter (· ≠ c))

/-- `strings.Fields`: the words between white space. -/
def fields (s : String) : List String :=
  ((s.toList.splitOnP isSpace).filter (· ≠ [])).map String.ofList

/-- What is left of the text after `skip` characters, with every further
occurrence of `old` replaced. -/
def replaceFrom (old new : List Char) : Nat → List Char → List Char
  | _, [] => []
  | skip + 1, _ :: s => replaceFrom old new skip s
  | 0, c :: s =>
    if old.isPrefixOf (c :: s) then new ++ replaceFrom old new (old.length - 1) s
    else c :: replaceFrom old new 0 s

/-- `strings.ReplaceAll` of a text that is not empty. -/
def replaceAll (old new s : String) : String :=
  String.ofList (replaceFrom old.toList new.toList 0 s.toList)

theorem cutAfter_isSome : (cutAfter sub text).isSome ↔ sub <:+: text := by
  induction text with
  | nil =>
    rw [cutAfter, infix_nil]
    cases sub with
    | nil => exact ⟨fun _ => rfl, fun _ => rfl⟩
    | cons c sub => simp
  | cons c rest ih =>
    rw [cutAfter, infix_cons_iff, ← List.isPrefixOf_iff_prefix]
    split
    · next h => exact ⟨fun _ => .inl h, fun _ => rfl⟩
    · rename_i h
      rw [ih]
      exact ⟨.inr, fun hor => hor.resolve_left h⟩

theorem contains_iff : contains s sub = true ↔ sub.toList <:+: s.toList :=
  cutAfter_isSome

theorem cutAfter_prefix (h : sub ≠ [] ∨ text ≠ []) : cutAfter sub (sub ++ text) = some text := by
  cases hall : sub ++ text with
  | nil =>
    obtain ⟨rfl, rfl⟩ := append_eq_nil_iff.mp hall
    exact absurd rfl (h.elim id id)
  | cons c rest =>
    rw [cutAfter, ← hall, if_pos (List.isPrefixOf_iff_prefix.mpr (prefix_append _ _)),
      drop_left]

/-- Two texts that begin alike have the same first word, up to the separator. -/
theorem word_of_prefix (hp : sep ∉ p) (hw : sep ∉ w) (h : p ++ sep :: q <+: w ++ sep :: b) :
    p = w ∧ q <+: b := by
  induction p generalizing w with
  | nil =>
    cases w with
    | nil =>
      rw [nil_append, nil_append, cons_prefix_cons] at h
      exact ⟨rfl, h.2⟩
    | cons c w =>
      rw [nil_append, cons_append, cons_prefix_cons] at h
      exact absurd (h.1 ▸ mem_cons_self) hw
  | cons c p ih =>
    cases w with
    | nil =>
      rw [cons_append, nil_append, cons_prefix_cons] at h
      exact absurd (h.1 ▸ mem_cons_self) hp
    | cons d w =>
      rw [cons_append, cons_append, cons_prefix_cons] at h
      obtain ⟨rfl, h⟩ := h
      obtain ⟨rfl, hq⟩ := ih (fun hm => hp (mem_cons_of_mem _ hm))
        (fun hm => hw (mem_cons_of_mem _ hm)) h
      exact ⟨rfl, hq⟩

/-- The search passes over a word, unless the pattern spans it and the next. -/
theorem cutAfter_word (hp : ' ' ∉ p) (hne : p ≠ []) (hw : ' ' ∉ w) (h : ¬ (p <:+ w ∧ q <+: b)) :
    cutAfter (p ++ ' ' :: q) (w ++ ' ' :: b) = cutAfter (p ++ ' ' :: q) b := by
  induction w with
  | nil =>
    rw [nil_append, cutAfter, if_neg]
    intro hprefix
    have hword := word_of_prefix (w := []) hp not_mem_nil (List.isPrefixOf_iff_prefix.mp hprefix)
    exact hne hword.1
  | cons c w ih =>
    rw [cons_append, cutAfter, if_neg]
    · refine ih (fun hm => hw (mem_cons_of_mem _ hm)) fun hboth => h ?_
      exact ⟨hboth.1.trans (suffix_cons c w), hboth.2⟩
    · intro hprefix
      obtain ⟨rfl, hq⟩ := word_of_prefix hp hw (List.isPrefixOf_iff_prefix.mp hprefix)
      exact h ⟨suffix_rfl, hq⟩

/-- A pattern without the separator that a text begins with lies before it. -/
theorem prefix_of_sep (hp : sep ∉ p) (h : p <+: a ++ sep :: b) : p <+: a := by
  induction p generalizing a with
  | nil => exact nil_prefix
  | cons c p ih =>
    cases a with
    | nil =>
      rw [nil_append, cons_prefix_cons] at h
      exact absurd (h.1 ▸ mem_cons_self) hp
    | cons d a =>
      rw [cons_append, cons_prefix_cons] at h
      rw [cons_prefix_cons]
      exact ⟨h.1, ih (fun hm => hp (mem_cons_of_mem _ hm)) h.2⟩

/-- A pattern without the separator is found on one side of it. -/
theorem infix_of_sep (hp : sep ∉ p) (h : p <:+: a ++ sep :: b) : p <:+: a ∨ p <:+: b := by
  induction a with
  | nil =>
    rcases infix_cons_iff.mp h with h | h
    · exact .inl (prefix_of_sep hp (a := []) h).isInfix
    · exact .inr h
  | cons c a ih =>
    rcases infix_cons_iff.mp h with h | h
    · exact .inl (prefix_of_sep hp (a := c :: a) h).isInfix
    · rcases ih h with h | h
      · exact .inl (h.trans (suffix_cons c a).isInfix)
      · exact .inr h

theorem suffix_of_sep (ha : sep ∉ a) (hb : sep ∉ b) (h : x ++ [sep] <:+: a ++ sep :: b) :
    x <:+ a := by
  obtain ⟨s, t, h⟩ := h
  have hsplit : a ++ sep :: b = (s ++ x) ++ sep :: t := by
    rw [← h]
    simp
  have heq := (append_cons_inj_of_notMem ha hb).mp hsplit
  exact ⟨s, heq.1.symm⟩

end VirtualKubelet.Go
