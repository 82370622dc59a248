import Mathlib.Data.List.DropRight
import Mathlib.Data.Nat.Log
import Mathlib.Tactic.Ring
import VirtualKubelet.Go.Text

/-!
# Instants and their RFC 3339 text

`time.Time` compared with `Before` and written in UTC is an instant, so the
model is the number of nanoseconds since the zero time, January 1 of year 1.
The calendar is the proleptic Gregorian one `time` uses.

`Format(time.RFC3339Nano)` writes every year, with a sign or a fifth digit
when it has to; `Parse` reads four digits. So a text read back is the instant
it was written from exactly for the years 0 to 9999, and outside of them
reading back fails. That is the whole content of this file, and it is what a
program relies on that stores an instant as text and reads it again.
-/

namespace VirtualKubelet.Go

open List hiding le_trans lt_of_le_of_lt min

/-- An instant: nanoseconds since the zero `time.Time`. -/
abbrev Time := Int

def Time.isZero (t : Time) : Bool := t == 0

/-! ## The calendar -/

def isLeap (year : Int) : Bool :=
  year % 4 == 0 && (year % 100 != 0 || year % 400 == 0)

def monthLengths (leap : Bool) : List Nat :=
  [31, if leap then 29 else 28, 31, 30, 31, 30, 31, 31, 30, 31, 30, 31]

/-- Days from January 1 of year 1 to January 1 of the given year. -/
def daysBeforeYear (year : Int) : Int :=
  365 * (year - 1) + (year - 1) / 4 - (year - 1) / 100 + (year - 1) / 400

/-- A calendar date; months and days count from 1. -/
structure Date where
  year : Int
  month : Nat
  day : Nat
  deriving DecidableEq

/-- Walk the months of a year until the day number falls into one. -/
def splitMonth : List Nat → Nat → Nat → Nat × Nat
  | [], month, rest => (month, rest + 1)
  | len :: lens, month, rest =>
    if rest < len then (month, rest + 1) else splitMonth lens (month + 1) (rest - len)

/-- The year of a day number and the day's place in it: whole 400-year cycles
first, then centuries, four-year groups and years. The last century of a cycle
and the last year of a group are the long ones, hence the two minima. -/
def yearDay (d : Int) : Int × Int :=
  let r := d % 146097
  let n100 := min (r / 36524) 3
  let r := r - 36524 * n100
  let n4 := r / 1461
  let r := r % 1461
  let n1 := min (r / 365) 3
  (400 * (d / 146097) + 100 * n100 + 4 * n4 + n1 + 1, r - 365 * n1)

def dateOfDay (d : Int) : Date :=
  let (year, yday) := yearDay d
  let (month, day) := splitMonth (monthLengths (isLeap year)) 1 yday.toNat
  ⟨year, month, day⟩

def daysIn (month : Nat) (year : Int) : Nat :=
  (monthLengths (isLeap year)).getD (month - 1) 0

def dayOfDate (date : Date) : Int :=
  daysBeforeYear date.year +
    ((monthLengths (isLeap date.year)).take (date.month - 1)).sum + (date.day - 1)

def nanosPerSecond : Int := 1000000000

def nanosPerDay : Int := 86400 * nanosPerSecond

def dateOf (t : Int) : Date := dateOfDay (t / nanosPerDay)

/-- `t.UTC().Year()`. -/
def yearOf (t : Int) : Int := (dateOf t).year

/-- Seconds since midnight. -/
def secondOfDay (t : Int) : Nat := ((t % nanosPerDay) / nanosPerSecond).toNat

def nanosecond (t : Int) : Nat := (t % nanosPerSecond).toNat

/-- `time.Date` in UTC, for fields already in range. -/
def instant (date : Date) (second nanos : Nat) : Int :=
  dayOfDate date * nanosPerDay + second * nanosPerSecond + nanos

theorem daysBeforeYear_cycle (hb : 0 ≤ b ∧ b ≤ 3) (hc : 0 ≤ c ∧ c ≤ 24) (he : 0 ≤ e ∧ e ≤ 3) :
    daysBeforeYear (400 * a + 100 * b + 4 * c + e + 1) =
      146097 * a + 36524 * b + 1461 * c + 365 * e := by
  have h4 : (400 * a + 100 * b + 4 * c + e) / 4 = 100 * a + 25 * b + c := by omega
  have h100 : (400 * a + 100 * b + 4 * c + e) / 100 = 4 * a + b := by omega
  have h400 : (400 * a + 100 * b + 4 * c + e) / 400 = a := by omega
  simp only [daysBeforeYear, Int.add_sub_cancel, h4, h100, h400]
  omega

/-- A leap year is the last of its group, and where the group is the last of
its century the century closes the cycle. -/
theorem isLeap_cycle (hc : 0 ≤ c ∧ c ≤ 24) (hlast : e = 3) (hcentury : c = 24 → b = 3) :
    isLeap (400 * a + 100 * b + 4 * c + e + 1) = true := by
  simp only [isLeap, Bool.and_eq_true, Bool.or_eq_true, beq_iff_eq, bne_iff_ne]
  refine ⟨by omega, ?_⟩
  by_cases hc24 : c = 24
  · have hb3 := hcentury hc24
    exact Or.inr (by omega)
  · exact Or.inl (by omega)

theorem yearDay_spec (d : Int) :
    daysBeforeYear (yearDay d).1 + (yearDay d).2 = d ∧ 0 ≤ (yearDay d).2 ∧
      (yearDay d).2 < (if isLeap (yearDay d).1 then 366 else 365) := by
  obtain ⟨r, hr⟩ : ∃ r, r = d % 146097 := ⟨_, rfl⟩
  obtain ⟨b, hb⟩ : ∃ b, b = min (r / 36524) 3 := ⟨_, rfl⟩
  obtain ⟨c, hc⟩ : ∃ c, c = (r - 36524 * b) / 1461 := ⟨_, rfl⟩
  obtain ⟨r', hr'⟩ : ∃ r', r' = (r - 36524 * b) % 1461 := ⟨_, rfl⟩
  obtain ⟨e, he⟩ : ∃ e, e = min (r' / 365) 3 := ⟨_, rfl⟩
  have hyd : yearDay d =
      (400 * (d / 146097) + 100 * b + 4 * c + e + 1, r' - 365 * e) := by
    simp only [yearDay, ← hr, ← hb, ← hc, ← hr', ← he]
  have hrb : 0 ≤ r ∧ r < 146097 := by omega
  have hbb : 0 ≤ b ∧ b ≤ 3 := by omega
  have hrest : 0 ≤ r - 36524 * b ∧ r - 36524 * b ≤ 36524 ∧
      (r - 36524 * b = 36524 → b = 3) := by omega
  have hcb : 0 ≤ c ∧ c ≤ 24 := by omega
  have hrb' : 0 ≤ r' ∧ r' < 1461 ∧ r - 36524 * b = 1461 * c + r' := by omega
  have heb : 0 ≤ e ∧ e ≤ 3 := by omega
  have hday : 0 ≤ r' - 365 * e ∧ r' - 365 * e ≤ 365 ∧
      (r' - 365 * e = 365 → e = 3) := by omega
  rw [hyd]
  simp only [daysBeforeYear_cycle hbb hcb heb]
  refine ⟨by omega, hday.1, ?_⟩
  split
  · omega
  rename_i hleap
  -- The 366th day would make the year the last of its group.
  by_contra hge
  have he3 : e = 3 := hday.2.2 (by omega)
  have hcentury : c = 24 → b = 3 := by
    intro hc24
    exact hrest.2.2 (by omega)
  exact hleap (isLeap_cycle hcb he3 hcentury)

theorem splitMonth_spec {lens : List Nat} :
    ∀ (month rest : Nat), rest < lens.sum →
      ∃ i, ∃ h : i < lens.length,
        (splitMonth lens month rest).1 = month + i ∧
        1 ≤ (splitMonth lens month rest).2 ∧
        (splitMonth lens month rest).2 ≤ lens[i] ∧
        (lens.take i).sum + ((splitMonth lens month rest).2 - 1) = rest := by
  induction lens with
  | nil => intro month rest h; simp at h
  | cons len lens ih =>
    intro month rest h
    rw [sum_cons] at h
    rw [splitMonth]
    split
    · rename_i hlt
      refine ⟨0, by simp, by simp, by simp, ?_, by simp⟩
      simp only [getElem_cons_zero]
      omega
    rename_i hge
    obtain ⟨i, hi, hmonth, hpos, hle, hsum⟩ :=
      ih (month + 1) (rest - len) (by omega)
    refine ⟨i + 1, by simpa using hi, by omega, hpos, by simpa using hle, ?_⟩
    rw [take_succ_cons, sum_cons]
    omega

theorem monthLengths_sum (leap : Bool) :
    (monthLengths leap).sum = if leap then 366 else 365 := by
  cases leap <;> decide

/-- Reading a day number as a date gives a date of the calendar, and the date
leads back to the day. -/
theorem dateOfDay_spec (d : Int) :
    dayOfDate (dateOfDay d) = d ∧ 1 ≤ (dateOfDay d).month ∧
      (dateOfDay d).month ≤ 12 ∧ 1 ≤ (dateOfDay d).day ∧
      (dateOfDay d).day ≤ daysIn (dateOfDay d).month (dateOfDay d).year := by
  obtain ⟨hday, hnonneg, hlt⟩ := yearDay_spec d
  have hsum : (yearDay d).2.toNat < (monthLengths (isLeap (yearDay d).1)).sum := by
    rw [monthLengths_sum]
    cases hl : isLeap (yearDay d).1 <;> rw [hl] at hlt <;>
      simp only [Bool.false_eq_true, if_true, if_false] at hlt ⊢ <;> omega
  obtain ⟨i, hi, hmonth, hpos, hle, hrest⟩ := splitMonth_spec 1 _ hsum
  have hlen : (monthLengths (isLeap (yearDay d).1)).length = 12 := rfl
  have heq : dateOfDay d = ⟨(yearDay d).1,
      (splitMonth (monthLengths (isLeap (yearDay d).1)) 1 (yearDay d).2.toNat).1,
      (splitMonth (monthLengths (isLeap (yearDay d).1)) 1 (yearDay d).2.toNat).2⟩ := rfl
  rw [heq]
  simp only [dayOfDate, daysIn, hmonth]
  refine ⟨?_, Nat.le_add_right 1 i, by omega, hpos, ?_⟩
  · rw [Nat.add_sub_cancel_left]
    omega
  · rw [Nat.add_sub_cancel_left, getD_eq_getElem _ _ hi]
    exact hle

theorem daysIn_le (month : Nat) (year : Int) : daysIn month year ≤ 31 := by
  have hall : ∀ leap, ∀ n ∈ monthLengths leap, n ≤ 31 := by decide
  simp only [daysIn]
  rw [getD_eq_getElem?_getD]
  cases h : (monthLengths (isLeap year))[month - 1]? with
  | none => exact Nat.zero_le _
  | some n => exact hall _ n (mem_of_getElem? h)

theorem instant_parts (t : Int) :
    instant (dateOf t) (secondOfDay t) (nanosecond t) = t := by
  simp only [instant, dateOf, (dateOfDay_spec _).1, secondOfDay, nanosecond,
    nanosPerDay, nanosPerSecond]
  omega

theorem secondOfDay_lt (t : Int) : secondOfDay t < 86400 := by
  simp only [secondOfDay, nanosPerDay, nanosPerSecond]
  omega

theorem nanosecond_lt (t : Int) : nanosecond t < 10 ^ 9 := by
  simp only [nanosecond, nanosPerSecond]
  omega

/-! ## Decimal text -/

/-- The last `width` decimal digits of `n`. -/
def fixedDigits : Nat → Nat → List Char
  | 0, _ => []
  | width + 1, n => fixedDigits width (n / 10) ++ [Char.ofNat (48 + n % 10)]

def digitsValue (l : List Char) : Nat :=
  l.foldl (fun acc c => 10 * acc + (c.toNat - 48)) 0

/-- `appendInt(b, x, width)`: a sign, then at least `width` digits. -/
def appendInt (x : Int) (width : Nat) : List Char :=
  (if x < 0 then ['-'] else []) ++
    (if x.natAbs < 10 ^ width then fixedDigits width x.natAbs
      else fixedDigits (Nat.log 10 x.natAbs + 1) x.natAbs)

/-- `appendNano` for the `.999999999` verb: no trailing zeros, and nothing at
all when no digit is left. -/
def appendNano (nanos : Nat) : List Char :=
  match (fixedDigits 9 nanos).rdropWhile (· == '0') with
  | [] => []
  | digits => '.' :: digits

/-- `parseUint` of the RFC 3339 reader: digits only, and a range. -/
def parseUint (l : List Char) (lo hi : Nat) : Option Nat :=
  if l.all isDigit && lo ≤ digitsValue l && digitsValue l ≤ hi then
    some (digitsValue l)
  else none

theorem digit_facts :
    ∀ k < 10, isDigit (Char.ofNat (48 + k)) = true ∧
      (Char.ofNat (48 + k)).toNat - 48 = k := by decide

theorem fixedDigits_length (width n : Nat) :
    (fixedDigits width n).length = width := by
  induction width generalizing n with
  | zero => rfl
  | succ width ih => simp [fixedDigits, ih]

theorem fixedDigits_all (width n : Nat) :
    (fixedDigits width n).all isDigit = true := by
  induction width generalizing n with
  | zero => rfl
  | succ width ih =>
    simp [fixedDigits, ih, (digit_facts (n % 10) (by omega)).1]

theorem digitsValue_snoc (l : List Char) (c : Char) :
    digitsValue (l ++ [c]) = 10 * digitsValue l + (c.toNat - 48) := by
  simp [digitsValue]

theorem digitsValue_fixedDigits (width n : Nat) :
    digitsValue (fixedDigits width n) = n % 10 ^ width := by
  induction width generalizing n with
  | zero => simp [fixedDigits, digitsValue, Nat.mod_one]
  | succ width ih =>
    rw [fixedDigits, digitsValue_snoc, ih, (digit_facts (n % 10) (by omega)).2,
      Nat.pow_succ, Nat.mul_comm (10 ^ width) 10, Nat.mod_mul]
    omega

theorem digitsValue_zeros (l : List Char) (k : Nat) :
    digitsValue (l ++ List.replicate k '0') = digitsValue l * 10 ^ k := by
  induction k with
  | zero => simp
  | succ k ih =>
    rw [replicate_succ', ← append_assoc, digitsValue_snoc, ih, Nat.pow_succ]
    have hzero : ('0' : Char).toNat - 48 = 0 := rfl
    rw [hzero]
    ring

theorem parseUint_fixedDigits (width : Nat) (hn : n < 10 ^ width) (hlo : lo ≤ n) (hhi : n ≤ hi) :
    parseUint (fixedDigits width n) lo hi = some n := by
  have hval : digitsValue (fixedDigits width n) = n := by
    rw [digitsValue_fixedDigits, Nat.mod_eq_of_lt hn]
  simp [parseUint, fixedDigits_all, hval, hlo, hhi]

/-! ## RFC 3339 -/

/-- `t.UTC().Format(time.RFC3339Nano)`. -/
def formatRFC3339Nano (t : Int) : String :=
  let date := dateOf t
  let second := secondOfDay t
  String.ofList (appendInt date.year 4 ++ '-' :: appendInt date.month 2 ++
    '-' :: appendInt date.day 2 ++ 'T' :: appendInt (second / 3600 : Nat) 2 ++
    ':' :: appendInt (second / 60 % 60 : Nat) 2 ++
    ':' :: appendInt (second % 60 : Nat) 2 ++ appendNano (nanosecond t) ++ ['Z'])

/-- `t.UTC().Format(time.RFC3339)`: the whole seconds. -/
def formatRFC3339 (t : Int) : String := formatRFC3339Nano (t - nanosecond t)

/-- The fraction: its nanoseconds, digits past the ninth dropped, and what
follows it. Without a point and a digit there is no fraction. -/
def parseFraction (l : List Char) : Nat × List Char :=
  match l with
  | '.' :: rest =>
    let digits := rest.takeWhile isDigit
    if digits.isEmpty then (0, l)
    else
      (digitsValue (digits.take 9) * 10 ^ (9 - (digits.take 9).length), rest.dropWhile isDigit)
  | _ => (0, l)

/-- The zone's offset in seconds east of UTC. -/
def parseZone (l : List Char) : Option Int :=
  match l with
  | ['Z'] => some 0
  | [sign, h₁, h₂, ':', m₁, m₂] => do
    let hour ← parseUint [h₁, h₂] 0 23
    let minute ← parseUint [m₁, m₂] 0 59
    match sign with
    | '+' => some (hour * 3600 + minute * 60)
    | '-' => some (-(hour * 3600 + minute * 60))
    | _ => none
  | _ => none

/-- `time.Parse(time.RFC3339Nano, s)`: the reader Go tries first for this
layout. The layout-driven reader it falls back on takes more texts (a comma
for the point, a one-digit hour), none of which a formatted instant is. -/
def parseRFC3339Nano (s : String) : Option Int :=
  match s.toList with
  | y₁ :: y₂ :: y₃ :: y₄ :: '-' :: m₁ :: m₂ :: '-' :: d₁ :: d₂ :: 'T' ::
      h₁ :: h₂ :: ':' :: n₁ :: n₂ :: ':' :: s₁ :: s₂ :: rest => do
    let year ← parseUint [y₁, y₂, y₃, y₄] 0 9999
    let month ← parseUint [m₁, m₂] 1 12
    let day ← parseUint [d₁, d₂] 1 (daysIn month year)
    let hour ← parseUint [h₁, h₂] 0 23
    let minute ← parseUint [n₁, n₂] 0 59
    let second ← parseUint [s₁, s₂] 0 59
    let (nanos, zone) := parseFraction rest
    let offset ← parseZone zone
    some (instant ⟨year, month, day⟩ (hour * 3600 + minute * 60 + second) nanos
      - offset * nanosPerSecond)
  | _ => none

theorem appendInt_fixed {n width : Nat} (h : n < 10 ^ width) :
    appendInt (n : Int) width = fixedDigits width n := by
  have hneg : ¬ (n : Int) < 0 := by omega
  simp only [appendInt, if_neg hneg, Int.natAbs_natCast, if_pos h, nil_append]

theorem fixedDigits_two (n : Nat) : ∃ a b, fixedDigits 2 n = [a, b] := ⟨_, _, rfl⟩

theorem fixedDigits_four (n : Nat) :
    ∃ a b c d, fixedDigits 4 n = [a, b, c, d] := ⟨_, _, _, _, rfl⟩

theorem takeWhile_digits (rest : List Char) {l : List Char} (hl : l.all isDigit = true)
    (hc : isDigit c = false) :
    (l ++ c :: rest).takeWhile isDigit = l ∧
      (l ++ c :: rest).dropWhile isDigit = c :: rest := by
  induction l with
  | nil => simp [hc]
  | cons d l ih =>
    simp only [all_cons, Bool.and_eq_true] at hl
    obtain ⟨htake, hdrop⟩ := ih hl.2
    simp [hl.1, htake, hdrop]

/-- Trailing zeros are read back as the scale of what is left. -/
theorem parseFraction_appendNano (hn : n < 10 ^ 9) :
    parseFraction (appendNano n ++ ['Z']) = (n, ['Z']) := by
  obtain ⟨ds, hds⟩ : ∃ ds, ds = (fixedDigits 9 n).rdropWhile (· == '0') := ⟨_, rfl⟩
  obtain ⟨zs, hzs⟩ : ∃ zs, zs = (fixedDigits 9 n).rtakeWhile (· == '0') := ⟨_, rfl⟩
  have hsplit : fixedDigits 9 n = ds ++ zs := by
    rw [hds, hzs, rdropWhile_append_rtakeWhile]
  have hzero : zs = List.replicate zs.length '0' := by
    refine eq_replicate_of_mem fun c hc => ?_
    rw [hzs] at hc
    have hc0 := mem_rtakeWhile_imp hc
    exact beq_iff_eq.mp hc0
  have hlen : ds.length + zs.length = 9 := by
    rw [← length_append, ← hsplit, fixedDigits_length]
  have hall : ds.all isDigit = true := by
    have h := fixedDigits_all 9 n
    rw [hsplit, all_append, Bool.and_eq_true] at h
    exact h.1
  have hval : digitsValue ds * 10 ^ (9 - ds.length) = n := by
    have hz : 9 - ds.length = zs.length := by omega
    rw [hz, ← digitsValue_zeros, ← hzero, ← hsplit, digitsValue_fixedDigits, Nat.mod_eq_of_lt hn]
  cases ds with
  | nil =>
    have hn0 : n = 0 := by rw [← hval]; exact Nat.zero_mul _
    rw [hn0]
    rfl
  | cons d ds =>
    have hz : isDigit 'Z' = false := by decide
    obtain ⟨htake, hdrop⟩ := takeWhile_digits [] hall hz
    have hnine : (d :: ds).take 9 = d :: ds := take_of_length_le (by omega)
    simp only [appendNano, ← hds, cons_append]
    simp only [cons_append] at htake hdrop
    simp only [parseFraction, htake, hdrop, isEmpty_cons,
      Bool.false_eq_true, if_false, hnine, hval]

/-- An instant of a four-digit year is read back from its text. -/
theorem parse_format {t : Int} (h₀ : 0 ≤ yearOf t) (h₁ : yearOf t ≤ 9999) :
    parseRFC3339Nano (formatRFC3339Nano t) = some t := by
  obtain ⟨-, hm1, hm12, hd1, hdn⟩ := dateOfDay_spec (t / nanosPerDay)
  change 1 ≤ (dateOf t).month at hm1
  change (dateOf t).month ≤ 12 at hm12
  change 1 ≤ (dateOf t).day at hd1
  change (dateOf t).day ≤ daysIn (dateOf t).month (dateOf t).year at hdn
  have hday : (dateOf t).day < 10 ^ 2 :=
    lt_of_le_of_lt (le_trans hdn (daysIn_le _ _)) (by decide)
  have hsec := secondOfDay_lt t
  have hparts := instant_parts t
  obtain ⟨y, hy⟩ : ∃ y : Nat, (dateOf t).year = y :=
    ⟨(dateOf t).year.toNat, (Int.toNat_of_nonneg h₀).symm⟩
  have hy4 : y ≤ 9999 := by simp only [yearOf, hy] at h₁; omega
  -- Name every field's digits, so that the text is a list of known length.
  obtain ⟨y₁, y₂, y₃, y₄, hY⟩ := fixedDigits_four y
  obtain ⟨m₁, m₂, hM⟩ := fixedDigits_two (dateOf t).month
  obtain ⟨d₁, d₂, hD⟩ := fixedDigits_two (dateOf t).day
  obtain ⟨h₁, h₂, hH⟩ := fixedDigits_two (secondOfDay t / 3600)
  obtain ⟨n₁, n₂, hN⟩ := fixedDigits_two (secondOfDay t / 60 % 60)
  obtain ⟨s₁, s₂, hS⟩ := fixedDigits_two (secondOfDay t % 60)
  have pY : parseUint [y₁, y₂, y₃, y₄] 0 9999 = some y := by
    rw [← hY]; exact parseUint_fixedDigits 4 (by omega) (by omega) hy4
  have pM : parseUint [m₁, m₂] 1 12 = some (dateOf t).month := by
    rw [← hM]; exact parseUint_fixedDigits 2 (by omega) hm1 hm12
  have pD : parseUint [d₁, d₂] 1 (daysIn (dateOf t).month y) =
      some (dateOf t).day := by
    rw [← hD, ← hy]; exact parseUint_fixedDigits 2 hday hd1 hdn
  have pH : parseUint [h₁, h₂] 0 23 = some (secondOfDay t / 3600) := by
    rw [← hH]; exact parseUint_fixedDigits 2 (by omega) (by omega) (by omega)
  have pN : parseUint [n₁, n₂] 0 59 = some (secondOfDay t / 60 % 60) := by
    rw [← hN]; exact parseUint_fixedDigits 2 (by omega) (by omega) (by omega)
  have pS : parseUint [s₁, s₂] 0 59 = some (secondOfDay t % 60) := by
    rw [← hS]; exact parseUint_fixedDigits 2 (by omega) (by omega) (by omega)
  have hclock : secondOfDay t / 3600 * 3600 + secondOfDay t / 60 % 60 * 60 +
      secondOfDay t % 60 = secondOfDay t := by omega
  have hzone : parseZone ['Z'] = some 0 := rfl
  simp only [formatRFC3339Nano, parseRFC3339Nano, String.toList_ofList, hy,
    appendInt_fixed (show y < 10 ^ 4 by omega),
    appendInt_fixed (show (dateOf t).month < 10 ^ 2 by omega),
    appendInt_fixed hday,
    appendInt_fixed (show secondOfDay t / 3600 < 10 ^ 2 by omega),
    appendInt_fixed (show secondOfDay t / 60 % 60 < 10 ^ 2 by omega),
    appendInt_fixed (show secondOfDay t % 60 < 10 ^ 2 by omega),
    hY, hM, hD, hH, hN, hS, cons_append, nil_append]
  simp only [pY, pM, pD, pH, pN, pS, Option.bind_eq_bind, Option.bind_some,
    parseFraction_appendNano (nanosecond_lt t), hzone, hclock]
  rw [← hy, hparts]
  simp

theorem parse_sign {s : String} (hs : s.toList = '-' :: l) : parseRFC3339Nano s = none := by
  have hyear : ∀ b c d, parseUint ['-', b, c, d] 0 9999 = none := fun _ _ _ => rfl
  simp only [parseRFC3339Nano, hs]
  split
  · rename_i heq
    injection heq with hhead _
    subst hhead
    rw [hyear]
    rfl
  · rfl

theorem parse_long_year {s : String} (hs : s.toList = ds ++ l) (hlen : 5 ≤ ds.length)
    (hall : ds.all isDigit = true) : parseRFC3339Nano s = none := by
  match ds, hlen, hall with
  | a :: b :: c :: d :: e :: ds, _, hall =>
    simp only [all_cons, Bool.and_eq_true] at hall
    simp only [parseRFC3339Nano, hs, cons_append]
    split
    · rename_i heq
      simp only [List.cons.injEq] at heq
      rw [heq.2.2.2.2.1] at hall
      exact absurd hall.2.2.2.2.1 (by decide)
    · rfl

/-- Outside the four-digit years the text does not read back at all. -/
theorem parse_format_none (h : yearOf t < 0 ∨ 9999 < yearOf t) :
    parseRFC3339Nano (formatRFC3339Nano t) = none := by
  simp only [yearOf] at h
  by_cases hneg : (dateOf t).year < 0
  · have hsign : ∃ l, (formatRFC3339Nano t).toList = '-' :: l := by
      simp only [formatRFC3339Nano, String.toList_ofList, appendInt, if_pos hneg, cons_append]
      exact ⟨_, rfl⟩
    obtain ⟨l, hl⟩ := hsign
    exact parse_sign hl
  · -- Five digits or more, so the fifth character cannot be the dash.
    have hbig : ¬ (dateOf t).year.natAbs < 10 ^ 4 := by omega
    have hlog : 4 ≤ Nat.log 10 (dateOf t).year.natAbs :=
      (Nat.le_log_iff_pow_le (by decide) (by omega)).mpr (by omega)
    obtain ⟨ds, hds⟩ : ∃ ds, ds = fixedDigits
      (Nat.log 10 (dateOf t).year.natAbs + 1) (dateOf t).year.natAbs := ⟨_, rfl⟩
    have hlen : 5 ≤ ds.length := by rw [hds, fixedDigits_length]; omega
    have hall : ds.all isDigit = true := by rw [hds, fixedDigits_all]
    have hform : ∃ l, (formatRFC3339Nano t).toList = ds ++ l := by
      simp only [formatRFC3339Nano, String.toList_ofList, appendInt, if_neg hneg,
        if_neg hbig, ← hds, nil_append, append_assoc]
      exact ⟨_, rfl⟩
    obtain ⟨l, hl⟩ := hform
    exact parse_long_year hl hlen hall

example : formatRFC3339Nano 63907833600500000000 = "2026-02-28T00:00:00.5Z" := by
  decide +kernel

end VirtualKubelet.Go
