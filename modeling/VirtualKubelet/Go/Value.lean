import VirtualKubelet.Go.Text

/-!
# Dynamically typed values

What a Go `any` holds after JSON or YAML was decoded into it, with the one
extra shape the configuration writers build themselves, a slice of maps. A
map is kept as the list of its fields, each name standing once; nothing that
reads one depends on the order. A `float64` is kept as its bits.
-/

namespace VirtualKubelet.Go

inductive Value : Type
  | nil
  | bool (b : Bool)
  | int (n : Int64)
  | float (bits : UInt64)
  | text (s : String)
  | list (items : List Value)
  | maps (items : List (List (String × Value)))
  | map (fields : List (String × Value))

/-- A `map[string]any`. -/
abbrev Fields := List (String × Value)

def Fields.find (m : Fields) (name : String) : Option Value := List.lookup name m

def Fields.get (m : Fields) (name : String) : Value := (m.find name).getD .nil

def Fields.put : Fields → String → Value → Fields
  | [], name, v => [(name, v)]
  | (k, old) :: rest, name, v =>
    if k = name then (k, v) :: rest else (k, old) :: Fields.put rest name v

/-- The verb `%q`, for text made of printable characters. -/
def quote (s : String) : String :=
  let escaped := s.toList.flatMap fun c => if c == '"' || c == '\\' then ['\\', c] else [c]
  String.ofList ('"' :: escaped ++ ['"'])

end VirtualKubelet.Go
