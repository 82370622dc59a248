import VirtualKubelet.Config.KeyedDiff

/-!
# The texts of an integer

An integer reaches a writer as an integer, as a `float64` or as text. The key of
an entry, the comparison of leaves and the XML that is sent all go by the text
of the value, and a `float64` of a million or more is printed with an exponent.
-/

namespace VirtualKubelet.Config

open Go

/-! ## XML -/

def xmlEscapeText (s : String) : String :=
  String.ofList (s.toList.flatMap fun
    | '<' => "&lt;".toList
    | '>' => "&gt;".toList
    | '&' => "&amp;".toList
    | '"' => "&quot;".toList
    | '\'' => "&apos;".toList
    | r => [r])

/-- What follows the first colon, if there is one. -/
def localName (key : String) : String :=
  match key.toList.dropWhile (· ≠ ':') with
  | _ :: rest => String.ofList rest
  | [] => key

def yangKeyPriority : List (String × Nat) :=
  [("name", 1), ("id", 2), ("sequence", 3), ("no", 4), ("prefix", 5)]

/-- The order of two elements under one parent. -/
def keyBefore (a b : String) : Bool :=
  match yangKeyPriority.lookup (localName a), yangKeyPriority.lookup (localName b) with
  | some i, some j => i < j
  | some _, none => true
  | none, some _ => false
  | none, none => localName a < localName b

/-- The elements in the order of `orderedMapKeys`. Elements that differ only in
their modules stay as they stand, for which `sort.Slice` does not vouch. -/
def orderFields {α : Type} (fields : List (String × α)) : List (String × α) :=
  fields.insertionSort fun a b => keyBefore b.1 a.1 = false

def element (key inner : String) : String :=
  "<" ++ localName key ++ ">" ++ inner ++ "</" ++ localName key ++ ">"

section

variable [Encoding]

mutual

def emitXML : Value → String
  | .map fields => String.join ((orderFields (emitFields fields)).map Prod.snd)
  | .list items => String.join (emitItems items)
  | .nil => ""
  | .text s => xmlEscapeText s
  | .bool b => if b then "true" else "false"
  | v => printValue v

def emitItems : List Value → List String
  | [] => []
  | v :: rest => emitXML v :: emitItems rest

def emitFields : List (String × Value) → List (String × String)
  | [] => []
  | (k, .list items) :: rest => (k, String.join ((emitItems items).map (element k))) :: emitFields rest
  | (k, v) :: rest => (k, element k (emitXML v)) :: emitFields rest

end

end

/-! ## Floats -/

/-- `float64(n)`, for an integer between `-2 ^ 53` and `2 ^ 53`. -/
def float64 (n : Int) : UInt64 :=
  if n = 2 ^ 53 then 0x4340000000000000
  else if n = -2 ^ 53 then 0xC340000000000000
  else floatOfInt n

/-- The verb `%e`, with no more digits than needed. -/
def scientific (n : Int) : String :=
  let digits := Nat.toDigits 10 n.natAbs
  let mantissa := (digits.reverse.dropWhile (· = '0')).reverse
  let exponent := digits.length - 1
  (if n < 0 then "-" else "") ++ String.ofList (mantissa.take 1) ++
    (if mantissa.length ≤ 1 then "" else "." ++ String.ofList (mantissa.drop 1)) ++
    "e+" ++ (if exponent < 10 then "0" else "") ++ decimal exponent

/-- `%v` and `%g` are `%e` from a million on. -/
def LargeFloats [Encoding] : Prop :=
  ∀ n : Int, 10 ^ 6 ≤ n.natAbs → n.natAbs ≤ 2 ^ 53 →
    Encoding.formatOther (float64 n) = scientific n

theorem scientific_ne_decimal (m n : Int) : scientific m ≠ decimal n := by
  intro h
  have he : 'e' ∈ (decimal n).toList := by
    rw [← h]
    simp [scientific]
  rcases decimal_mem he with h | h <;> cases h

theorem floatInteger_float64 (h : n.natAbs ≤ 2 ^ 53) :
    floatInteger (float64 n) = if n.natAbs = 2 ^ 53 then none else some n := by
  by_cases hpos : n = 2 ^ 53
  · subst hpos
    rfl
  by_cases hneg : n = -2 ^ 53
  · subst hneg
    rfl
  rw [float64, if_neg hpos, if_neg hneg, if_neg (by omega), floatInteger_floatOfInt (by omega)]

theorem float64_zero (h : n.natAbs ≤ 2 ^ 53) (hzero : (float64 n).toNat % 2 ^ 63 = 0) :
    float64 n = 0 := by
  have hint := floatInteger_float64 h
  split at hint
  · rename_i hbig
    have : n = 2 ^ 53 ∨ n = -2 ^ 53 := by omega
    rcases this with rfl | rfl <;> revert hzero <;> decide
  · by_contra hne
    have hexp : (float64 n).toNat / 2 ^ 52 % 2 ^ 11 < 1023 := by omega
    rw [floatInteger, if_neg hne, if_pos (.inl hexp)] at hint
    cases hint

theorem float64_injective (hm : m.natAbs ≤ 2 ^ 53) (hn : n.natAbs ≤ 2 ^ 53)
    (h : float64 m = float64 n) : m = n := by
  have hints := floatInteger_float64 hm
  rw [h, floatInteger_float64 hn] at hints
  split at hints <;> split at hints
  · have : (m = 2 ^ 53 ∨ m = -2 ^ 53) ∧ (n = 2 ^ 53 ∨ n = -2 ^ 53) := by omega
    rcases this with ⟨rfl | rfl, rfl | rfl⟩ <;> first | rfl | (revert h; decide)
  · cases hints
  · cases hints
  · exact (Option.some.inj hints).symm

theorem floatEq_float64 (hm : m.natAbs ≤ 2 ^ 53) (hn : n.natAbs ≤ 2 ^ 53)
    (h : floatEq (float64 m) (float64 n) = true) : m = n := by
  simp only [floatEq, Bool.and_eq_true, Bool.or_eq_true, beq_iff_eq, decide_eq_true_eq] at h
  rcases h.2 with h | ⟨hm0, hn0⟩
  · exact float64_injective hm hn h
  · exact float64_injective hm hn ((float64_zero hm hm0).trans (float64_zero hn hn0).symm)

/-! ## Integers -/

/-- The values that an integer comes as. -/
def forms (n : Int) : List Value := [.int (Int64.ofInt n), .float (float64 n), .text (decimal n)]

theorem mem_forms : v ∈ forms n ↔
    v = .int (Int64.ofInt n) ∨ v = .float (float64 n) ∨ v = .text (decimal n) := by
  simp [forms]

theorem toInt_ofInt (h : n.natAbs ≤ 2 ^ 53) : (Int64.ofInt n).toInt = n :=
  Int64.toInt_ofInt_of_le (by omega) (by omega)

theorem decimal_inj_of_le (hm : m.natAbs ≤ 2 ^ 53) (hn : n.natAbs ≤ 2 ^ 53)
    (h : decimal m = decimal n) : m = n := by
  rw [← toInt_ofInt hm, ← toInt_ofInt hn] at h
  rw [← toInt_ofInt hm, ← toInt_ofInt hn, decimal_injective h]

theorem sameScalar_forms (hm : m.natAbs ≤ 2 ^ 53) (hn : n.natAbs ≤ 2 ^ 53) (hv : v ∈ forms m)
    (hw : w ∈ forms n) (h : sameScalar v w = true) : m = n := by
  rcases mem_forms.mp hv with rfl | rfl | rfl <;> rcases mem_forms.mp hw with rfl | rfl | rfl <;>
    simp only [sameScalar, Bool.false_eq_true, beq_iff_eq] at h
  · rw [← toInt_ofInt hm, ← toInt_ofInt hn, h]
  · exact floatEq_float64 hm hn h
  · exact decimal_inj_of_le hm hn h

theorem xmlEscapeText_decimal (n : Int) : xmlEscapeText (decimal n) = decimal n := by
  rw [xmlEscapeText, List.flatMap_congr (g := fun c => [c]), List.flatMap_singleton',
    String.ofList_toList]
  intro c hc
  rcases decimal_mem hc with rfl | h
  · rfl
  · split <;> first | rfl | cases h

section

variable [Encoding]

theorem printFloat_float64 (hfmt : LargeFloats) (h : n.natAbs ≤ 2 ^ 53) :
    printFloat (float64 n) = if n.natAbs < 10 ^ 6 then decimal n else scientific n := by
  rw [printFloat, floatInteger_float64 h]
  by_cases hsmall : n.natAbs < 10 ^ 6
  · rw [if_neg (by omega), if_pos hsmall]
    exact if_pos hsmall
  · rw [if_neg hsmall, ← hfmt n (by omega) h]
    split
    · rename_i hsome
      split at hsome
      · cases hsome
      · cases hsome
        exact if_neg hsmall
    · rfl

theorem printValue_form (hfmt : LargeFloats) (h : n.natAbs ≤ 2 ^ 53) (hv : v ∈ forms n) :
    printValue v = decimal n ∨ 10 ^ 6 ≤ n.natAbs ∧ printValue v = scientific n := by
  rcases mem_forms.mp hv with rfl | rfl | rfl
  · simp [printValue, toInt_ofInt h]
  · rw [printValue, printFloat_float64 hfmt h]
    split
    · exact .inl rfl
    · exact .inr ⟨by omega, rfl⟩
  · exact .inl rfl

/-- Every form of `n` has the decimal text, as a key, when compared and in the
XML. -/
def KeepsDecimal (n : Int) : Prop :=
  ∀ v ∈ forms n,
    (∀ (e : Fields) (field : String), e.find field = some v → entryKey e field = .ok (decimal n)) ∧
    (∀ w ∈ forms n, scalarEqual v w = true) ∧
    (∀ m : Int, m.natAbs ≤ 2 ^ 53 → m ≠ n → ∀ w ∈ forms m, scalarEqual v w = false) ∧
    emitXML v = decimal n

theorem scalarEqual_forms (hv : v ∈ forms m) (hw : w ∈ forms n) :
    scalarEqual v w = (sameScalar v w || printValue v == printValue w) := by
  rcases mem_forms.mp hv with rfl | rfl | rfl <;> rcases mem_forms.mp hw with rfl | rfl | rfl <;>
    simp [scalarEqual, isComparable]

/-- The texts agree exactly below a million. -/
theorem keepsDecimal_iff (hfmt : LargeFloats) (n : Int) (h : n.natAbs ≤ 2 ^ 53) :
    KeepsDecimal n ↔ n.natAbs < 10 ^ 6 := by
  constructor
  · intro hkeeps
    by_contra hbig
    obtain ⟨hkey, -⟩ := hkeeps (.float (float64 n)) (mem_forms.mpr (.inr (.inl rfl)))
    have hfloat := hkey [("id", .float (float64 n))] "id" rfl
    have : printFloat (float64 n) = decimal n := Except.ok.inj hfloat
    rw [printFloat_float64 hfmt h, if_neg hbig] at this
    exact scientific_ne_decimal n n this
  · intro hsmall v hv
    have htext : ∀ w ∈ forms n, printValue w = decimal n := by
      intro w hw
      rcases printValue_form hfmt h hw with hw | ⟨hbig, -⟩
      · exact hw
      · omega
    refine ⟨?_, ?_, ?_, ?_⟩
    · intro e field hfind
      rw [← htext v hv]
      rcases mem_forms.mp hv with rfl | rfl | rfl <;> simp only [entryKey, hfind] <;> rfl
    · intro w hw
      rw [scalarEqual_forms hv hw, htext v hv, htext w hw]
      simp
    · intro m hm hne w hw
      rw [scalarEqual_forms hv hw, Bool.or_eq_false_iff, htext v hv]
      refine ⟨?_, ?_⟩
      · rw [Bool.eq_false_iff]
        exact fun hsame => hne (sameScalar_forms h hm hv hw hsame).symm
      · rw [beq_eq_false_iff_ne]
        rcases printValue_form hfmt hm hw with hdec | ⟨-, hsci⟩
        · rw [hdec]
          exact fun heq => hne (decimal_inj_of_le h hm heq).symm
        · rw [hsci]
          exact (scientific_ne_decimal m n).symm
    · rw [← htext v hv]
      rcases mem_forms.mp hv with rfl | rfl | rfl
      · rfl
      · rfl
      · exact xmlEscapeText_decimal n

end

section

/-- Floats printed with the fewest digits. -/
@[reducible]
def shortest : Encoding where
  nameType _ := ""
  formatOther bits :=
    scientific ((floatInteger bits).getD (if bits = float64 (2 ^ 53) then 2 ^ 53 else -2 ^ 53))
  toInt _ := 0
  isIntegral _ := false
  isInt _ := false
  floatLiteral _ := none
  parseOther _ := 0

attribute [local instance] shortest

theorem largeFloats_shortest : LargeFloats := by
  intro n _ h
  show scientific ((floatInteger (float64 n)).getD _) = _
  rw [floatInteger_float64 h]
  by_cases hbig : n.natAbs = 2 ^ 53
  · have : n = 2 ^ 53 ∨ n = -2 ^ 53 := by omega
    rcases this with rfl | rfl <;> rfl
  · rw [if_neg hbig]
    rfl

theorem vlan_keepsDecimal : KeepsDecimal 4094 :=
  (keepsDecimal_iff largeFloats_shortest 4094 (by decide)).mpr (by decide)

/-- An autonomous system, read from YAML and from the device. -/
theorem system_number_in_two_texts :
    entryKey [("id", .int 1000000)] "id" = .ok "1000000" ∧
    entryKey [("id", .float (float64 1000000))] "id" = .ok "1e+06" ∧
    scalarEqual (.int 1000000) (.float (float64 1000000)) = false ∧
    emitXML (.map [("id", .float (float64 1000000))]) = "<id>1e+06</id>" := by
  refine ⟨?_, ?_, ?_, ?_⟩ <;> decide +kernel

end

end VirtualKubelet.Config
