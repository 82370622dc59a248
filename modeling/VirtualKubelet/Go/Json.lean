import VirtualKubelet.Go.Number

/-!
# JSON

The texts `json.Marshal` writes and their reading. The encoder writes no
blanks, escapes control characters, the characters of HTML and the two line
separators of Unicode, and leaves all others as they are; the reader here
takes exactly such texts. What is written is read back, so that a text
determines its document.

A number is kept as its literal: which `float64` or `int` it stands for is not
a matter of the format.
-/

namespace VirtualKubelet.Go

open List hiding after max tail

def isNumeric (c : Char) : Bool :=
  isDigit c || c == '-' || c == '+' || c == '.' || c == 'e' || c == 'E'

structure Literal where
  text : List Char
  nonempty : text ≠ []
  numeric : ∀ c ∈ text, isNumeric c = true
  deriving DecidableEq

inductive Json : Type
  | null
  | bool (b : Bool)
  | number (literal : Literal)
  | text (s : List Char)
  | list (items : List Json)
  | object (fields : List (List Char × Json))

namespace Json

/-! ## Writing -/

def hexDigit (d : Nat) : Char := Nat.digitChar d

/-- `\u` and four digits. -/
def escapeCode (n : Nat) : List Char :=
  ['\\', 'u', hexDigit (n / 4096 % 16), hexDigit (n / 256 % 16), hexDigit (n / 16 % 16),
    hexDigit (n % 16)]

/-- The characters with an escape of one letter. -/
def shortEscapes : List (Char × Char) :=
  [('"', '"'), ('\\', '\\'), ('\x08', 'b'), ('\x0c', 'f'), ('\n', 'n'), ('\r', 'r'), ('\t', 't')]

def escapeChar (c : Char) : List Char :=
  match shortEscapes.lookup c with
  | some letter => ['\\', letter]
  | none =>
    if c.toNat < 32 ∨ c = '<' ∨ c = '>' ∨ c = '&' ∨ c.toNat = 0x2028 ∨ c.toNat = 0x2029 then
      escapeCode c.toNat
    else [c]

def renderText (s : List Char) : List Char := '"' :: s.flatMap escapeChar ++ ['"']

mutual

def render : Json → List Char
  | null => ['n', 'u', 'l', 'l']
  | bool true => ['t', 'r', 'u', 'e']
  | bool false => ['f', 'a', 'l', 's', 'e']
  | number literal => literal.text
  | text s => renderText s
  | list items => '[' :: renderItems items ++ [']']
  | object fields => '{' :: renderFields fields ++ ['}']

def renderItems : List Json → List Char
  | [] => []
  | [v] => render v
  | v :: rest => render v ++ ',' :: renderItems rest

def renderFields : List (List Char × Json) → List Char
  | [] => []
  | [(k, v)] => renderText k ++ ':' :: render v
  | (k, v) :: rest => renderText k ++ ':' :: render v ++ ',' :: renderFields rest

end

/-! ## Reading -/

def hexValue (c : Char) : Option Nat := (List.range 16).find? fun d => hexDigit d == c

def unescapeLetter (letter : Char) : Option Char :=
  (shortEscapes.find? fun e => e.2 == letter).map Prod.fst

def unescapeCode (a b c d : Char) : Option Char := do
  let a ← hexValue a
  let b ← hexValue b
  let c ← hexValue c
  let d ← hexValue d
  pure (Char.ofNat (((a * 16 + b) * 16 + c) * 16 + d))

/-- The rest of a text, behind its opening quotation mark. -/
def parseText : List Char → Option (List Char × List Char)
  | [] => none
  | c :: rest =>
    if c = '"' then some ([], rest)
    else if c = '\\' then
      match rest with
      | [] => none
      | letter :: rest =>
        if letter = 'u' then
          match rest with
          | a :: b :: c :: d :: rest =>
            (unescapeCode a b c d).bind fun c =>
              (parseText rest).map fun p => (c :: p.1, p.2)
          | _ => none
        else
          (unescapeLetter letter).bind fun c => (parseText rest).map fun p => (c :: p.1, p.2)
    else (parseText rest).map fun p => (c :: p.1, p.2)

def parseNumber (cs : List Char) : Option (Json × List Char) :=
  let digits := cs.takeWhile isNumeric
  if h : digits ≠ [] then
    some (number ⟨digits, h, fun _ hc => List.mem_takeWhile_imp hc⟩, cs.dropWhile isNumeric)
  else none

def parseWord (word : List Char) (v : Json) (cs : List Char) : Option (Json × List Char) :=
  if word.isPrefixOf cs then some (v, cs.drop word.length) else none

mutual

/-- A document and what follows it. -/
def parseValue : Nat → List Char → Option (Json × List Char)
  | n + 1, c :: rest =>
    if c = '"' then (parseText rest).map fun p => (text p.1, p.2)
    else if c = '[' then if rest.head? = some ']' then some (list [], rest.tail)
      else (parseItems n rest).map fun p => (list p.1, p.2)
    else if c = '{' then if rest.head? = some '}' then some (object [], rest.tail)
      else (parseFields n rest).map fun p => (object p.1, p.2)
    else if c = 'n' then parseWord ['u', 'l', 'l'] null rest
    else if c = 't' then parseWord ['r', 'u', 'e'] (bool true) rest
    else if c = 'f' then parseWord ['a', 'l', 's', 'e'] (bool false) rest
    else parseNumber (c :: rest)
  | _, _ => none

/-- The items up to the closing bracket. -/
def parseItems : Nat → List Char → Option (List Json × List Char)
  | 0, _ => none
  | n + 1, cs =>
    (parseValue n cs).bind fun (v, rest) =>
      if rest.head? = some ']' then some ([v], rest.tail)
      else if rest.head? = some ',' then
        (parseItems n rest.tail).map fun p => (v :: p.1, p.2)
      else none

/-- The members up to the closing brace. -/
def parseFields : Nat → List Char → Option (List (List Char × Json) × List Char)
  | 0, _ => none
  | n + 1, cs =>
    if cs.head? = some '"' then
      (parseText cs.tail).bind fun (k, rest) =>
        if rest.head? = some ':' then
          (parseValue n rest.tail).bind fun (v, rest) =>
            if rest.head? = some '}' then some ([(k, v)], rest.tail)
            else if rest.head? = some ',' then
              (parseFields n rest.tail).map fun p => ((k, v) :: p.1, p.2)
            else none
        else none
    else none

end

/-- `json.Unmarshal`, of a text without blanks. -/
def parse (cs : List Char) : Option Json :=
  match parseValue cs.length cs with
  | some (v, []) => some v
  | _ => none

/-! ## Texts -/

theorem hexValue_hexDigit (h : d < 16) : hexValue (hexDigit d) = some d := by
  have hall : ∀ d < 16, hexValue (hexDigit d) = some d := by decide
  exact hall d h

theorem parseText_cons (c : Char) (rest : List Char) :
    parseText (c :: rest) =
      if c = '"' then some ([], rest)
      else if c = '\\' then
        match rest with
        | [] => none
        | letter :: rest =>
          if letter = 'u' then
            match rest with
            | a :: b :: c :: d :: rest =>
              (unescapeCode a b c d).bind fun c =>
                (parseText rest).map fun p => (c :: p.1, p.2)
            | _ => none
          else
            (unescapeLetter letter).bind fun c => (parseText rest).map fun p => (c :: p.1, p.2)
      else (parseText rest).map fun p => (c :: p.1, p.2) := by
  rw [parseText.eq_def]

theorem parseText_escapeCode (h : n < 65536) (rest : List Char) :
    parseText (escapeCode n ++ rest) =
      (parseText rest).map fun p => (Char.ofNat n :: p.1, p.2) := by
  have hdigits : ((n / 4096 % 16 * 16 + n / 256 % 16) * 16 + n / 16 % 16) * 16 + n % 16 = n := by
    omega
  have hcode : unescapeCode (hexDigit (n / 4096 % 16)) (hexDigit (n / 256 % 16))
      (hexDigit (n / 16 % 16)) (hexDigit (n % 16)) = some (Char.ofNat n) := by
    rw [unescapeCode, hexValue_hexDigit (by omega), hexValue_hexDigit (by omega),
      hexValue_hexDigit (by omega), hexValue_hexDigit (by omega)]
    simp only [Option.bind_eq_bind, Option.bind_some, hdigits]
    rfl
  rw [escapeCode]
  simp only [cons_append, nil_append]
  rw [parseText_cons, if_neg (by decide), if_pos rfl]
  dsimp only
  rw [if_pos rfl, hcode, Option.bind_some]

theorem unescapeLetter_lookup (h : shortEscapes.lookup c = some letter) :
    letter ≠ 'u' ∧ unescapeLetter letter = some c := by
  have hall : ∀ e ∈ shortEscapes, e.2 ≠ 'u' ∧ unescapeLetter e.2 = some e.1 := by decide
  obtain ⟨before, after, heq, -⟩ := lookup_eq_some_iff.mp h
  apply hall (c, letter)
  rw [heq]
  exact mem_append_right _ mem_cons_self

theorem parseText_escapeChar (c : Char) (rest : List Char) :
    parseText (escapeChar c ++ rest) = (parseText rest).map fun p => (c :: p.1, p.2) := by
  rw [escapeChar]
  cases hlookup : shortEscapes.lookup c with
  | some letter =>
    obtain ⟨hne, hletter⟩ := unescapeLetter_lookup hlookup
    simp only [cons_append, nil_append]
    rw [parseText_cons, if_neg (by decide), if_pos rfl]
    dsimp only
    rw [if_neg hne, hletter, Option.bind_some]
  | none =>
    dsimp only
    split
    · rename_i hcode
      have hlt : c.toNat < 65536 := by
        rcases hcode with h | rfl | rfl | rfl | h | h
        · omega
        · decide
        · decide
        · decide
        · omega
        · omega
      rw [parseText_escapeCode hlt, Char.ofNat_toNat]
    · have hquote : c ≠ '"' := by
        rintro rfl
        cases hlookup
      have hslash : c ≠ '\\' := by
        rintro rfl
        cases hlookup
      rw [singleton_append, parseText_cons, if_neg hquote, if_neg hslash]

theorem parseText_flatMap (s rest : List Char) :
    parseText (s.flatMap escapeChar ++ '"' :: rest) = some (s, rest) := by
  induction s with
  | nil => rw [flatMap_nil, nil_append, parseText_cons, if_pos rfl]
  | cons c s ih => rw [flatMap_cons, append_assoc, parseText_escapeChar, ih]; rfl

/-! ## Numbers -/

/-- What may follow a document: the end, or no character of a number. -/
def Ends (rest : List Char) : Prop := ∀ c ∈ rest.head?, isNumeric c = false

theorem parseNumber_text (literal : Literal) (hrest : Ends rest) :
    parseNumber (literal.text ++ rest) = some (number literal, rest) := by
  have htake : (literal.text ++ rest).takeWhile isNumeric = literal.text := by
    rw [takeWhile_append_of_pos literal.numeric]
    cases rest with
    | nil => rw [takeWhile_nil, append_nil]
    | cons c rest =>
      rw [takeWhile_cons_of_neg (by simp [hrest c rfl]), append_nil]
  have hdrop : (literal.text ++ rest).dropWhile isNumeric = rest := by
    rw [dropWhile_append_of_pos literal.numeric]
    cases rest with
    | nil => rfl
    | cons c rest => rw [dropWhile_cons_of_neg (by simp [hrest c rfl])]
  rw [parseNumber, dif_pos (by rw [htake]; exact literal.nonempty)]
  simp only [htake, hdrop]

/-! ## Documents -/

mutual

/-- The depth of the calls that read a document. -/
def fuel : Json → Nat
  | null | bool _ | number _ | text _ => 1
  | list items => itemsFuel items + 1
  | object fields => fieldsFuel fields + 1

def itemsFuel : List Json → Nat
  | [] => 0
  | v :: rest => max (fuel v) (itemsFuel rest) + 1

def fieldsFuel : List (List Char × Json) → Nat
  | [] => 0
  | (_, v) :: rest => max (fuel v) (fieldsFuel rest) + 1

end

theorem renderItems_cons (v w : Json) (rest : List Json) :
    renderItems (v :: w :: rest) = render v ++ ',' :: renderItems (w :: rest) := by
  rw [renderItems]
  simp

theorem renderFields_cons (k : List Char) (v : Json) (f : List Char × Json)
    (rest : List (List Char × Json)) :
    renderFields ((k, v) :: f :: rest) =
      renderText k ++ ':' :: render v ++ ',' :: renderFields (f :: rest) := by
  rw [renderFields]
  simp

theorem ends_cons (hc : isNumeric c = false) : Ends (c :: rest) := by
  intro d hd
  rw [Option.mem_some.mp hd] at hc
  exact hc

theorem render_head (v : Json) : ∃ c rest, render v = c :: rest ∧ c ≠ ']' := by
  match v with
  | null | bool true | bool false => exact ⟨_, _, by rw [render], by decide⟩
  | number literal =>
    obtain ⟨c, rest, htext⟩ := exists_cons_of_ne_nil literal.nonempty
    have hc := literal.numeric c (by rw [htext]; exact mem_cons_self)
    refine ⟨c, rest, by rw [render, htext], ?_⟩
    rintro rfl
    exact absurd hc (by decide)
  | text s => exact ⟨_, _, by rw [render, renderText]; rfl, by decide⟩
  | list items | object fields => exact ⟨_, _, by rw [render]; rfl, by decide⟩

theorem parseValue_number (literal : Literal) (n : Nat) (hrest : Ends rest) :
    parseValue (n + 1) (literal.text ++ rest) = some (number literal, rest) := by
  obtain ⟨c, digits, htext⟩ := exists_cons_of_ne_nil literal.nonempty
  have hc := literal.numeric c (by rw [htext]; exact mem_cons_self)
  have hne : ∀ d : Char, isNumeric d = false → c ≠ d := by
    rintro d hd rfl
    rw [hc] at hd
    cases hd
  rw [← parseNumber_text literal hrest, htext, cons_append, parseValue,
    if_neg (hne _ (by decide)), if_neg (hne _ (by decide)), if_neg (hne _ (by decide)),
    if_neg (hne _ (by decide)), if_neg (hne _ (by decide)), if_neg (hne _ (by decide))]

theorem renderItems_head (v : Json) (items : List Json) (rest : List Char) :
    (renderItems (v :: items) ++ rest).head? ≠ some ']' := by
  obtain ⟨c, tail, hrender, hc⟩ := render_head v
  have hcons : ∃ tail, renderItems (v :: items) = c :: tail := by
    cases items with
    | nil => exact ⟨tail, by rw [renderItems, hrender]⟩
    | cons w items => exact ⟨_, by rw [renderItems_cons, hrender, cons_append]⟩
  obtain ⟨tail, hcons⟩ := hcons
  rw [hcons, cons_append, List.head?_cons]
  exact fun h => hc (Option.some.inj h)

theorem renderFields_head (f : List Char × Json) (fields : List (List Char × Json))
    (rest : List Char) : (renderFields (f :: fields) ++ rest).head? ≠ some '}' := by
  obtain ⟨k, v⟩ := f
  have hcons : ∃ tail, renderFields ((k, v) :: fields) = '"' :: tail := by
    cases fields with
    | nil => exact ⟨_, by rw [renderFields, renderText]; rfl⟩
    | cons f fields => exact ⟨_, by rw [renderFields_cons, renderText]; rfl⟩
  obtain ⟨tail, hcons⟩ := hcons
  rw [hcons, cons_append, List.head?_cons]
  decide

theorem parseFields_member (k : List Char) (hvalue : parseValue n cs = some (v, rest)) :
    parseFields (n + 1) (renderText k ++ ':' :: cs) =
      if rest.head? = some '}' then some ([(k, v)], rest.tail)
      else if rest.head? = some ',' then
        (parseFields n rest.tail).map fun p => ((k, v) :: p.1, p.2)
      else none := by
  rw [parseFields, renderText, cons_append, cons_append, List.head?_cons, if_pos rfl,
    tail_cons, append_assoc, singleton_append, parseText_flatMap, Option.bind_some]
  dsimp only
  rw [List.head?_cons, if_pos rfl, tail_cons, hvalue, Option.bind_some]

mutual

theorem parseValue_render (v : Json) (hn : fuel v ≤ n) (hrest : Ends rest) :
    parseValue n (render v ++ rest) = some (v, rest) := by
  match v, n with
  | null, n + 1 =>
    rw [render, cons_append, parseValue]
    rfl
  | bool true, n + 1 =>
    rw [render, cons_append, parseValue]
    rfl
  | bool false, n + 1 =>
    rw [render, cons_append, parseValue]
    rfl
  | number literal, n + 1 =>
    rw [render]
    exact parseValue_number literal n hrest
  | text s, n + 1 =>
    rw [render, renderText, cons_append, cons_append, parseValue, if_pos rfl,
      append_assoc, singleton_append, parseText_flatMap]
    rfl
  | list [], n + 1 =>
    rw [render, renderItems, singleton_append, cons_append, singleton_append, parseValue]
    rfl
  | list (v :: items), n + 1 =>
    rw [fuel] at hn
    have hitems := parseItems_render v items (n := n) (by omega) rest
    have hhead := renderItems_head v items (']' :: rest)
    rw [render, cons_append, cons_append, append_assoc, singleton_append,
      parseValue, if_neg (by decide), if_pos rfl, if_neg hhead, hitems]
    rfl
  | object [], n + 1 =>
    rw [render, renderFields, singleton_append, cons_append, singleton_append, parseValue]
    rfl
  | object (f :: fields), n + 1 =>
    rw [fuel] at hn
    have hfields := parseFields_render f fields (n := n) (by omega) rest
    have hhead := renderFields_head f fields ('}' :: rest)
    rw [render, cons_append, cons_append, append_assoc, singleton_append,
      parseValue, if_neg (by decide), if_neg (by decide), if_pos rfl, if_neg hhead, hfields]
    rfl

theorem parseItems_render (v : Json) (items : List Json) (hn : itemsFuel (v :: items) ≤ n)
    (rest : List Char) :
    parseItems n (renderItems (v :: items) ++ ']' :: rest) = some (v :: items, rest) := by
  match n, items with
  | n + 1, [] =>
    rw [itemsFuel] at hn
    rw [renderItems, parseItems, parseValue_render v (by omega) (ends_cons (by decide))]
    rfl
  | n + 1, w :: items =>
    rw [itemsFuel] at hn
    rw [renderItems_cons, parseItems, append_assoc, cons_append,
      parseValue_render v (by omega) (ends_cons (by decide))]
    have hitems := parseItems_render w items (n := n) (by omega) rest
    simp only [Option.bind_some, List.head?_cons, tail_cons, hitems]
    rfl

theorem parseFields_render (f : List Char × Json) (fields : List (List Char × Json))
    (hn : fieldsFuel (f :: fields) ≤ n) (rest : List Char) :
    parseFields n (renderFields (f :: fields) ++ '}' :: rest) = some (f :: fields, rest) := by
  match n, f, fields with
  | n + 1, (k, v), [] =>
    rw [fieldsFuel] at hn
    have hends : Ends ('}' :: rest) := ends_cons (by decide)
    rw [renderFields, append_assoc, cons_append,
      parseFields_member k (parseValue_render v (by omega) hends)]
    rfl
  | n + 1, (k, v), f :: fields =>
    rw [fieldsFuel] at hn
    have hends : Ends (',' :: renderFields (f :: fields) ++ '}' :: rest) :=
      ends_cons (by decide)
    have hfields := parseFields_render f fields (n := n) (by omega) rest
    rw [renderFields_cons, append_assoc, append_assoc, cons_append,
      parseFields_member k (parseValue_render v (by omega) hends), cons_append, List.head?_cons,
      if_neg (by decide), if_pos rfl, tail_cons, hfields]
    rfl

end

mutual

theorem fuel_le_length (v : Json) : fuel v ≤ (render v).length := by
  match v with
  | null | bool true | bool false => rw [fuel, render]; decide
  | number literal =>
    rw [fuel, render]
    exact length_pos_of_ne_nil literal.nonempty
  | text s =>
    rw [fuel, render, renderText, length_append, length_singleton]
    omega
  | list items =>
    have := itemsFuel_le_length items
    rw [fuel, render, length_append, length_cons, length_singleton]
    omega
  | object fields =>
    have := fieldsFuel_le_length fields
    rw [fuel, render, length_append, length_cons, length_singleton]
    omega

theorem itemsFuel_le_length (items : List Json) :
    itemsFuel items ≤ (renderItems items).length + 1 := by
  match items with
  | [] =>
    rw [itemsFuel]
    omega
  | [v] =>
    have := fuel_le_length v
    rw [itemsFuel, itemsFuel, renderItems]
    omega
  | v :: w :: items =>
    have := fuel_le_length v
    have := itemsFuel_le_length (w :: items)
    rw [itemsFuel, renderItems_cons, length_append, length_cons]
    omega

theorem fieldsFuel_le_length (fields : List (List Char × Json)) :
    fieldsFuel fields ≤ (renderFields fields).length + 1 := by
  match fields with
  | [] =>
    rw [fieldsFuel]
    omega
  | [(k, v)] =>
    have := fuel_le_length v
    rw [fieldsFuel, fieldsFuel, renderFields, length_append, length_cons]
    omega
  | (k, v) :: f :: fields =>
    have := fuel_le_length v
    have := fieldsFuel_le_length (f :: fields)
    rw [fieldsFuel, renderFields_cons, length_append, length_append, length_cons,
      length_cons]
    omega

end

/-- What is written is read back. -/
theorem parse_render (v : Json) : parse (render v) = some v := by
  have hvalue : parseValue (render v).length (render v ++ []) = some (v, []) :=
    parseValue_render v (fuel_le_length v) (by simp [Ends])
  rw [append_nil] at hvalue
  rw [parse, hvalue]

/-- A text determines its document. -/
theorem render_injective : Function.Injective render := by
  intro v w h
  have hparse := parse_render v
  rw [h, parse_render] at hparse
  exact (Option.some.inj hparse).symm

end Json

end VirtualKubelet.Go
