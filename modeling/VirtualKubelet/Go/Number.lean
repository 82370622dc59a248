import VirtualKubelet.Go.Text
import Mathlib.Data.List.TakeWhile
import Mathlib.Data.Nat.Digits.Defs

/-!
# Integers written in text

The verb `%d` and the two ways of reading an `int` back: `strconv.Atoi`, which
wants the whole text to be a number, and `fmt.Sscanf` with `%d`, which skips
blanks and stops at the first character that is not a digit. Both give the
number back that `%d` wrote.
-/

namespace VirtualKubelet.Go

/-- The verb `%d`. -/
def decimal (n : Int) : String :=
  String.ofList (if n < 0 then '-' :: Nat.toDigits 10 n.natAbs else Nat.toDigits 10 n.natAbs)

/-- An `int`, when the number fits. -/
def fitInt (n : Int) : Option Int64 :=
  if -2 ^ 63 ≤ n ∧ n < 2 ^ 63 then some (Int64.ofInt n) else none

def splitSign : List Char → Bool × List Char
  | '-' :: rest => (true, rest)
  | '+' :: rest => (false, rest)
  | rest => (false, rest)

def signed (negative : Bool) (digits : List Char) : Option Int64 :=
  let n : Int := Nat.ofDigitChars 10 digits 0
  fitInt (if negative then -n else n)

def atoi (s : String) : Option Int64 :=
  let (negative, digits) := splitSign s.toList
  if digits.isEmpty || !digits.all isDigit then none else signed negative digits

/-- The blanks `Sscanf` skips; it stops with an error at a new line. -/
def skipSpace : List Char → Option (List Char)
  | [] => some []
  | c :: rest => if c = '\n' then none else if isSpace c then skipSpace rest else some (c :: rest)

/-- `fmt.Sscanf(s, "%d", &n)`. -/
def scanInt (s : String) : Option Int64 :=
  match skipSpace s.toList with
  | none => none
  | some text =>
    let (negative, rest) := splitSign text
    let digits := rest.takeWhile isDigit
    if digits.isEmpty then none else signed negative digits

theorem fitInt_toInt (n : Int64) : fitInt n.toInt = some n := by
  have hlow := Int64.le_toInt n
  have hhigh := Int64.toInt_lt n
  rw [fitInt, if_pos ⟨hlow, hhigh⟩, Int64.ofInt_toInt]

theorem toDigits_digits (n : Nat) : ∀ c ∈ Nat.toDigits 10 n, isDigit c = true := by
  intro c hc
  have hdigit := Nat.isDigit_of_mem_toDigits (by omega) (by omega) hc
  simpa [isDigit, Char.isDigit, Char.le_def] using hdigit

theorem signed_toDigits (n : Int64) (h : n.toInt < 0 ∨ 0 ≤ n.toInt) :
    signed (decide (n.toInt < 0)) (Nat.toDigits 10 n.toInt.natAbs) = some n := by
  have hvalue : Nat.ofDigitChars 10 (Nat.toDigits 10 n.toInt.natAbs) 0 = n.toInt.natAbs :=
    Nat.ofDigitChars_toDigits (by omega) (by omega)
  rw [signed, hvalue]
  rcases h with h | h
  · have hneg : (if decide (n.toInt < 0) = true then -(n.toInt.natAbs : Int) else n.toInt.natAbs)
        = n.toInt := by
      rw [if_pos (decide_eq_true h)]
      omega
    rw [hneg, fitInt_toInt]
  · have hpos : (if decide (n.toInt < 0) = true then -(n.toInt.natAbs : Int) else n.toInt.natAbs)
        = n.toInt := by
      rw [if_neg (by simpa using h)]
      omega
    rw [hpos, fitInt_toInt]

theorem digit_plain (h : isDigit c = true) :
    c ≠ '-' ∧ c ≠ '+' ∧ c ≠ '\n' ∧ c ≠ '=' ∧ isSpace c = false := by
  have hrange : 48 ≤ c.val.toNat ∧ c.val.toNat ≤ 57 := by
    simpa [isDigit, Char.le_def, UInt32.le_iff_toNat_le] using h
  have hne : ∀ d : Char, (d.val.toNat < 48 ∨ 57 < d.val.toNat) → c ≠ d := by
    rintro d hd rfl
    omega
  refine ⟨hne _ (by decide), hne _ (by decide), hne _ (by decide), hne _ (by decide), ?_⟩
  have hvalue : ∀ n : UInt32, (n.toNat < 48 ∨ 57 < n.toNat) → (c.val == n) = false := by
    intro n hn
    rw [beq_eq_false_iff_ne]
    rintro rfl
    omega
  have hlow : decide (c.val ≤ 13) = false := by
    rw [decide_eq_false_iff_not, UInt32.le_iff_toNat_le]
    show ¬ c.val.toNat ≤ 13
    omega
  have hhigh : decide ((0x2000 : UInt32) ≤ c.val) = false := by
    rw [decide_eq_false_iff_not, UInt32.le_iff_toNat_le]
    show ¬ 0x2000 ≤ c.val.toNat
    omega
  unfold isSpace
  rw [hlow, hhigh, hvalue 32 (by decide), hvalue 0x85 (by decide), hvalue 0xA0 (by decide),
    hvalue 0x1680 (by decide), hvalue 0x2028 (by decide), hvalue 0x2029 (by decide),
    hvalue 0x202F (by decide), hvalue 0x205F (by decide), hvalue 0x3000 (by decide)]
  simp

theorem decimal_chars (n : Int64) :
    ∃ c rest, (decimal n.toInt).toList = c :: rest ∧ isSpace c = false ∧ c ≠ '\n' ∧
      splitSign (c :: rest) = (decide (n.toInt < 0), Nat.toDigits 10 n.toInt.natAbs) := by
  obtain ⟨d, ds, hdigits⟩ := List.exists_cons_of_ne_nil (Nat.toDigits_ne_nil (b := 10) (n := n.toInt.natAbs))
  by_cases h : n.toInt < 0
  · refine ⟨'-', d :: ds, ?_, by decide, by decide, ?_⟩
    · rw [decimal, if_pos h, String.toList_ofList, hdigits]
    · rw [hdigits, splitSign, decide_eq_true h]
  have hd : isDigit d = true := toDigits_digits _ d (by rw [hdigits]; exact List.mem_cons_self ..)
  obtain ⟨hminus, hplus, hline, -, hspace⟩ := digit_plain hd
  refine ⟨d, ds, ?_, hspace, hline, ?_⟩
  · rw [decimal, if_neg h, String.toList_ofList, hdigits]
  rw [hdigits, decide_eq_false h]
  unfold splitSign
  split
  · rename_i heq
    exact absurd (List.cons.inj heq).1 hminus
  · rename_i heq
    exact absurd (List.cons.inj heq).1 hplus
  · rfl

theorem scanInt_decimal (n : Int64) : scanInt (decimal n.toInt) = some n := by
  obtain ⟨c, rest, hchars, hspace, hline, hsign⟩ := decimal_chars n
  have htake : (Nat.toDigits 10 n.toInt.natAbs).takeWhile isDigit = Nat.toDigits 10 n.toInt.natAbs :=
    List.takeWhile_eq_self_iff.mpr (toDigits_digits _)
  unfold scanInt
  rw [hchars, skipSpace, if_neg hline, hspace]
  dsimp only
  rw [if_neg (by simp)]
  dsimp only
  rw [hsign, htake, if_neg (by simp [Nat.toDigits_ne_nil])]
  exact signed_toDigits n (lt_or_ge _ _)

theorem atoi_decimal (n : Int64) : atoi (decimal n.toInt) = some n := by
  obtain ⟨c, rest, hchars, -, -, hsign⟩ := decimal_chars n
  have hall : (Nat.toDigits 10 n.toInt.natAbs).all isDigit = true :=
    List.all_eq_true.mpr (toDigits_digits _)
  unfold atoi
  rw [hchars, hsign]
  dsimp only
  rw [hall, if_neg (by simp [Nat.toDigits_ne_nil])]
  exact signed_toDigits n (lt_or_ge _ _)

theorem decimal_mem (h : c ∈ (decimal n).toList) : c = '-' ∨ isDigit c = true := by
  rw [decimal, String.toList_ofList] at h
  split at h
  · rcases List.mem_cons.mp h with h | h
    · exact .inl h
    · exact .inr (toDigits_digits _ _ h)
  · exact .inr (toDigits_digits _ _ h)

theorem decimal_no_space (n : Int) : ∀ c ∈ (decimal n).toList, isSpace c = false := by
  intro c hc
  rcases decimal_mem hc with rfl | h
  · decide
  · exact (digit_plain h).2.2.2.2

theorem dropWhile_none {l : List Char} (h : ∀ c ∈ l, p c = false) : l.dropWhile p = l := by
  cases l with
  | nil => rfl
  | cons c l => rw [List.dropWhile_cons_of_neg (by simp [h c (List.mem_cons_self ..)])]

theorem trimSpace_decimal (n : Int) : trimSpace (decimal n) = decimal n := by
  have hall := decimal_no_space n
  rw [trimSpace, dropWhile_none hall, dropWhile_none (by simpa using hall), List.reverse_reverse,
    String.ofList_toList]

theorem decimal_no_equals (n : Int) : '=' ∉ (decimal n).toList := by
  intro hmem
  rcases decimal_mem hmem with h | h
  · cases h
  · exact (digit_plain h).2.2.2.1 rfl

theorem decimal_injective {m n : Int64} (h : decimal m.toInt = decimal n.toInt) : m = n := by
  have hscan := scanInt_decimal m
  rw [h, scanInt_decimal] at hscan
  exact (Option.some.inj hscan).symm

end VirtualKubelet.Go
