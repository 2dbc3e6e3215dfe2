import CoopKernel.Json.Datum

/-! # Reading JSON

A reader takes a value off the front of a text and answers with the value and the rest. Blanks are
space, tab, line feed and carriage return. Numbers have no superfluous zero in front; arrays and
objects have no comma at the end; `Datum.read?` also wants nothing but blanks behind the value.
-/

namespace CoopKernel.Datum

def isBlank (c : Char) : Bool := c == ' ' || c == '\t' || c == '\n' || c == '\r'

/-- A text without the blanks in front. -/
def skip (text : List Char) : List Char := text.dropWhile isBlank

/-- The unit that four digits of base sixteen give. -/
def unit? (a b c d : Char) : Option Nat := Numeral.ofDigits? 16 [a, b, c, d]

/-- The character that a one-letter escape stands for. -/
def unescape? : Char → Option Char
  | '"' => some '"'
  | '\\' => some '\\'
  | '/' => some '/'
  | 'b' => some '\x08'
  | 'f' => some '\x0c'
  | 'n' => some '\n'
  | 'r' => some '\r'
  | 't' => some '\t'
  | _ => none

/-- The pieces of a text up to its closing quote. -/
def pieces? : List Char → Option (List TextPiece × List Char)
  | '"' :: rest => some ([], rest)
  | '\\' :: 'u' :: a :: b :: c :: d :: rest => do
      let value ← unit? a b c d
      let (pieces, rest) ← pieces? rest
      some (.unit value :: pieces, rest)
  | '\\' :: c :: rest => do
      let value ← unescape? c
      let (pieces, rest) ← pieces? rest
      some (.plain value :: pieces, rest)
  | c :: rest =>
      if c.toNat < 32 ∨ c = '\\' then none
      else do
        let (pieces, rest) ← pieces? rest
        some (.plain c :: pieces, rest)
  | [] => none

/-- Whether a unit opens a pair. -/
def isHigh (value : Nat) : Bool := 0xd800 ≤ value && value < 0xdc00

/-- Whether a unit closes a pair. -/
def isLow (value : Nat) : Bool := 0xdc00 ≤ value && value < 0xe000

/-- The characters that pieces stand for. Units of a pair must come together. -/
def join? : List TextPiece → Option (List Char)
  | [] => some []
  | .plain c :: rest => (join? rest).map (c :: ·)
  | .unit high :: .unit low :: rest =>
      if isHigh high then
        if isLow low then
          (join? rest).map (Char.ofNat (0x10000 + (high - 0xd800) * 0x400 + (low - 0xdc00)) :: ·)
        else none
      else if isLow high then none
      else (join? (.unit low :: rest)).map (Char.ofNat high :: ·)
  | .unit value :: rest =>
      if isHigh value || isLow value then none else (join? rest).map (Char.ofNat value :: ·)

/-- The text behind an opening quote. -/
def readText? (text : List Char) : Option (Datum × List Char) :=
  (pieces? text).map fun (pieces, rest) =>
    (match join? pieces with
      | some content => .text (String.ofList content)
      | none => .broken pieces, rest)

/-- Digits in front of a text, at least one. -/
def readDigits? (text : List Char) : Option (List Char × List Char) :=
  let found := text.span Char.isDigit
  if found.1.isEmpty then none else some found

/-- The fraction in front of a text, which may be missing. -/
def readFraction? : List Char → Option (List Char × List Char)
  | '.' :: rest => (readDigits? rest).map fun (digits, rest) => ('.' :: digits, rest)
  | rest => some ([], rest)

/-- The sign in front of a text, which may be missing. -/
def readSign : List Char → List Char × List Char
  | '+' :: rest => (['+'], rest)
  | '-' :: rest => (['-'], rest)
  | rest => ([], rest)

/-- The exponent in front of a text, which may be missing. -/
def readExponent? : List Char → Option (List Char × List Char)
  | c :: rest =>
      if c = 'e' ∨ c = 'E' then
        let (sign, rest) := readSign rest
        (readDigits? rest).map fun (digits, rest) => (c :: sign ++ digits, rest)
      else some ([], c :: rest)
  | [] => some ([], [])

/-- The number in front of a text, after its sign. -/
def readUnsigned? (negative : Bool) (text : List Char) : Option (Datum × List Char) := do
  let (digits, rest) ← readDigits? text
  if digits.head? = some '0' ∧ 1 < digits.length then none
  else do
    let (fraction, rest) ← readFraction? rest
    let (exponent, rest) ← readExponent? rest
    let value ← Numeral.ofDigits? 10 digits
    if fraction.isEmpty ∧ exponent.isEmpty ∧ ¬(negative ∧ value = 0) then
      some (.integer (if negative then -(value : Int) else value), rest)
    else
      some (.real ((if negative then ['-'] else []) ++ digits ++ fraction ++ exponent), rest)

def readNumber? : List Char → Option (Datum × List Char)
  | '-' :: rest => readUnsigned? true rest
  | rest => readUnsigned? false rest

/-- A word in front of a text, as a value. -/
def readWord? (word : String) (value : Datum) (text : List Char) : Option (Datum × List Char) :=
  (word.toList.isPrefixOf? text).map (value, ·)

mutual

/-- The value in front of a text. The count bounds the nesting and the length of lists. -/
def readValue? : Nat → List Char → Option (Datum × List Char)
  | 0, _ => none
  | _ + 1, [] => none
  | bound + 1, c :: rest =>
      if c = '"' then readText? rest
      else if c = '[' then
        match skip rest with
        | ']' :: rest => some (.array [], rest)
        | rest => (readItems? bound rest).map fun (items, rest) => (.array items, rest)
      else if c = '{' then
        match skip rest with
        | '}' :: rest => some (.object [], rest)
        | rest => (readMembers? bound rest).map fun (members, rest) => (.object members, rest)
      else if c = 'n' then readWord? "null" .null (c :: rest)
      else if c = 't' then readWord? "true" (.boolean true) (c :: rest)
      else if c = 'f' then readWord? "false" (.boolean false) (c :: rest)
      else readNumber? (c :: rest)

/-- The items of an array, at least one, up to its closing bracket. -/
def readItems? : Nat → List Char → Option (List Datum × List Char)
  | 0, _ => none
  | bound + 1, rest => do
      let (item, rest) ← readValue? bound rest
      match skip rest with
      | ',' :: rest => do
          let (items, rest) ← readItems? bound (skip rest)
          some (item :: items, rest)
      | ']' :: rest => some ([item], rest)
      | _ => none

/-- The members of an object, at least one, up to its closing brace. -/
def readMembers? : Nat → List Char → Option (List (Option String × Datum) × List Char)
  | 0, _ => none
  | bound + 1, '"' :: rest => do
      let (pieces, rest) ← pieces? rest
      let name := (join? pieces).map String.ofList
      match skip rest with
      | ':' :: rest => do
          let (item, rest) ← readValue? bound (skip rest)
          match skip rest with
          | ',' :: rest => do
              let (members, rest) ← readMembers? bound (skip rest)
              some ((name, item) :: members, rest)
          | '}' :: rest => some ([(name, item)], rest)
          | _ => none
      | _ => none
  | _ + 1, _ => none

end

/-- The value that a text holds, with blanks around it. -/
def read? (text : List Char) : Option Datum := do
  let (value, rest) ← readValue? (2 * text.length + 2) (skip text)
  if (skip rest).isEmpty then some value else none

end CoopKernel.Datum
