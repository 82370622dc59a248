import VirtualKubelet.Config.Writers
import VirtualKubelet.Go.Float
import VirtualKubelet.Go.Json

/-!
# Printed and encoded values

The verb `%v` and the two directions of `encoding/json`, for the values the
writers handle. Integers become `float64` on the way through JSON, and an
integral `float64` below a million is printed as the integer; how other floats
are printed, written and read is left open.
-/

namespace VirtualKubelet.Config

open Go

/-- What the standard library does with floats, and the names of types. -/
class Encoding where
  /-- The verb `%T`. -/
  nameType : Value → String
  /-- The verbs `%v` and `%g`, for a float that is no integer below a million. -/
  formatOther : UInt64 → String
  /-- `int(f)`. -/
  toInt : UInt64 → Int64
  /-- `f == math.Trunc(f) && !math.IsInf(f, 0)`. -/
  isIntegral : UInt64 → Bool
  /-- `f == float64(int(f))`. -/
  isInt : UInt64 → Bool
  /-- `json.Marshal` of a float, which fails on infinities and NaN. -/
  floatLiteral : UInt64 → Option Literal
  /-- `strconv.ParseFloat`, for a literal that is no integer below a million. -/
  parseOther : Literal → UInt64

section

variable [Encoding]

/-! ## Printing -/

/-- The verbs `%v` and `%g` for a float. -/
def printFloat (bits : UInt64) : String :=
  match floatInteger bits with
  | some n => if n.natAbs < 1000000 then decimal n else Encoding.formatOther bits
  | none => Encoding.formatOther bits

def joinWords (words : List String) : String := String.ofList ([' '].intercalate (words.map String.toList))

/-- The order in which `fmt` prints and `encoding/json` writes the fields of a map. -/
def sortFields {α : Type} (fields : List (String × α)) : List (String × α) :=
  fields.insertionSort fun a b => a.1 ≤ b.1

mutual

/-- The verb `%v`. -/
def printValue : Value → String
  | .nil => "<nil>"
  | .bool b => if b then "true" else "false"
  | .int n => decimal n.toInt
  | .float bits => printFloat bits
  | .text s => s
  | .list items => "[" ++ joinWords (printItems items) ++ "]"
  | .maps items => "[" ++ joinWords (printMaps items) ++ "]"
  | .map fields =>
    "map[" ++ joinWords ((sortFields (printFields fields)).map fun f => f.1 ++ ":" ++ f.2) ++ "]"

def printItems : List Value → List String
  | [] => []
  | v :: rest => printValue v :: printItems rest

def printMaps : List (List (String × Value)) → List String
  | [] => []
  | fields :: rest =>
    ("map[" ++ joinWords ((sortFields (printFields fields)).map fun f => f.1 ++ ":" ++ f.2) ++ "]")
      :: printMaps rest

def printFields : List (String × Value) → List (String × String)
  | [] => []
  | (k, v) :: rest => (k, printValue v) :: printFields rest

end

/-! ## JSON -/

section

omit [Encoding]

theorem decimal_toList (n : Int) :
    (decimal n).toList =
      if n < 0 then '-' :: Nat.toDigits 10 n.natAbs else Nat.toDigits 10 n.natAbs := by
  rw [decimal, String.toList_ofList]

theorem decimal_nonempty (n : Int) : (decimal n).toList ≠ [] := by
  rw [decimal_toList]
  split
  · exact List.cons_ne_nil _ _
  · exact Nat.toDigits_ne_nil

theorem decimal_numeric (n : Int) : ∀ c ∈ (decimal n).toList, isNumeric c = true := by
  intro c hc
  rcases decimal_mem hc with rfl | h
  · rfl
  · rw [isNumeric, h]
    rfl

end

def integerLiteral (n : Int) : Literal := ⟨(decimal n).toList, decimal_nonempty n, decimal_numeric n⟩

mutual

/-- The document of a value, unless it holds a float that has none. -/
def toJson : Value → Option Json
  | .nil => some .null
  | .bool b => some (.bool b)
  | .int n => some (.number (integerLiteral n.toInt))
  | .float bits => (Encoding.floatLiteral bits).map .number
  | .text s => some (.text s.toList)
  | .list items => (itemsToJson items).map .list
  | .maps items => (mapsToJson items).map .list
  | .map fields => (fieldsToJson fields).map fun fields =>
    .object ((sortFields fields).map fun f => (f.1.toList, f.2))

def itemsToJson : List Value → Option (List Json)
  | [] => some []
  | v :: rest => do
      let v ← toJson v
      let rest ← itemsToJson rest
      pure (v :: rest)

def mapsToJson : List (List (String × Value)) → Option (List Json)
  | [] => some []
  | fields :: rest => do
      let fields ← fieldsToJson fields
      let rest ← mapsToJson rest
      pure (.object ((sortFields fields).map fun f => (f.1.toList, f.2)) :: rest)

def fieldsToJson : List (String × Value) → Option (List (String × Json))
  | [] => some []
  | (k, v) :: rest => do
      let v ← toJson v
      let rest ← fieldsToJson rest
      pure ((k, v) :: rest)

end

def literalFloat (literal : Literal) : UInt64 :=
  match atoi (String.ofList literal.text) with
  | some n =>
    if n.toInt.natAbs < 1000000 ∧ integerLiteral n.toInt = literal then floatOfInt n.toInt
    else Encoding.parseOther literal
  | none => Encoding.parseOther literal

mutual

/-- The value of a document, decoded into an `any`. -/
def fromJson : Json → Value
  | .null => .nil
  | .bool b => .bool b
  | .number literal => .float (literalFloat literal)
  | .text s => .text (String.ofList s)
  | .list items => .list (itemsFromJson items)
  | .object fields => .map (fieldsFromJson [] fields)

def itemsFromJson : List Json → List Value
  | [] => []
  | v :: rest => fromJson v :: itemsFromJson rest

/-- A name that comes again replaces what was there. -/
def fieldsFromJson (out : Fields) : List (List Char × Json) → Fields
  | [] => out
  | (k, v) :: rest => fieldsFromJson (out.put (String.ofList k) (fromJson v)) rest

end

def marshalJson (v : Value) : Except Failure Raw :=
  match toJson v with
  | some document => .ok (String.ofList document.render)
  | none => .error { message := "json: unsupported value" }

/-- `json.Unmarshal` into an `any`. -/
def unmarshalJson (raw : Raw) : Option Value := (Json.parse raw.toList).map fromJson

instance : Formatting where
  typeName := Encoding.nameType
  sprint := printValue
  formatFloat := printFloat
  truncate := Encoding.toInt
  integral := Encoding.isIntegral
  fitsInt := Encoding.isInt
  marshal := marshalJson

end

end VirtualKubelet.Config
