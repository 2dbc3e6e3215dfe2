import CoopKernel.Toml.Quoted
import CoopKernel.Toml.Value

/-! # TOML values that are one bare word

Numbers, truth values, dates and times. A decimal number does not begin with a zero that means
nothing, and numbers of other bases have no sign. A word is held to be a number by its beginning and
by where its spacers stand; one that is none after all is a value still, as long as nobody wants a
number from it.
-/

namespace CoopKernel.Toml

/-- Whether signs are digits with spacers between them. -/
def areSpaced (isPlace : Char → Bool) : List Char → Bool
  | [] => false
  | [only] => isPlace only
  | first :: '_' :: rest => isPlace first && areSpaced isPlace rest
  | first :: rest => isPlace first && areSpaced isPlace rest

/-- Whether every spacer stands between two places. The flag tells whether one may come first, and it
is off at the beginning of a word. -/
def isSpaced (isPlace : Char → Bool) : Bool → List Char → Bool
  | _, [] => true
  | fits, '_' :: next :: rest => fits && isPlace next && isSpaced isPlace true (next :: rest)
  | _, c :: rest => c != '_' && isSpaced isPlace (isPlace c) rest

def isHexDigit (c : Char) : Bool := (Numeral.value? c).isSome

/-- A sign in front of a number, which may be missing, and whether it is negative. -/
def splitSign : List Char → Bool × List Char
  | '+' :: rest => (false, rest)
  | '-' :: rest => (true, rest)
  | rest => (false, rest)

/-- The digits in front of a word, with spacers among them, and what follows. There is at least one
digit. -/
def digits? (word : List Char) : Option (List Char × List Char) :=
  let (signs, rest) := word.span fun c => c.isDigit || c == '_'
  if signs.any Char.isDigit then some (signs, rest) else none

/-- What follows the whole part in front of a word, which begins with no zero but its only digit. -/
def dropWhole? (word : List Char) : Option (List Char) :=
  (digits? word).bind fun (signs, rest) =>
    if signs.head? = some '0' ∧ 1 < signs.countP Char.isDigit then none else some rest

/-- What follows the fraction in front of a word, which may be missing. -/
def dropFraction? : List Char → Option (List Char)
  | '.' :: rest => (digits? rest).map (·.2)
  | rest => some rest

/-- What follows the exponent in front of a word, which may be missing. -/
def dropExponent? : List Char → Option (List Char)
  | [] => some []
  | c :: rest =>
      if c = 'e' ∨ c = 'E' then (digits? (splitSign rest).2).map (·.2) else some (c :: rest)

/-- Whether a word is that of a number with a fraction or an exponent. -/
def isReal (word : List Char) : Bool :=
  isSpaced Char.isDigit false word &&
    ((dropWhole? (splitSign word).2).bind dropFraction? |>.bind dropExponent?) == some []

/-- Whether a word is that of no finite number. -/
def isUnbounded (word : List Char) : Bool :=
  let unsigned := (splitSign word).2
  unsigned == ['i', 'n', 'f'] || unsigned == ['n', 'a', 'n']

/-- The number of exactly so many decimal digits in front of a word, and what follows. -/
def fixed? (count : Nat) (word : List Char) : Option (Nat × List Char) :=
  let (signs, rest) := word.splitAt count
  if signs.length = count ∧ signs.all Char.isDigit then
    (Numeral.ofDigits? 10 signs).map (·, rest)
  else none

def daysIn (year month : Nat) : Nat :=
  if month = 2 then
    if year % 4 = 0 ∧ (year % 100 ≠ 0 ∨ year % 400 = 0) then 29 else 28
  else if month = 4 ∨ month = 6 ∨ month = 9 ∨ month = 11 then 30
  else 31

/-- What follows a mark. -/
def expect? (mark : Char) : List Char → Option (List Char)
  | c :: rest => if c = mark then some rest else none
  | [] => none

/-- What follows a date in front of a word. -/
def dropDate? (word : List Char) : Option (List Char) := do
  let (year, rest) ← fixed? 4 word
  let (month, rest) ← fixed? 2 (← expect? '-' rest)
  let (day, rest) ← fixed? 2 (← expect? '-' rest)
  if 1 ≤ month ∧ month ≤ 12 ∧ 1 ≤ day ∧ day ≤ daysIn year month then some rest else none

/-- What follows a time of day in front of a word. Seconds may be missing. -/
def dropTime? (word : List Char) : Option (List Char) := do
  let (hour, rest) ← fixed? 2 word
  let (minute, rest) ← fixed? 2 (← expect? ':' rest)
  if 24 ≤ hour ∨ 60 ≤ minute then none
  else
    match rest with
    | ':' :: rest => do
        let (second, rest) ← fixed? 2 rest
        if 60 < second then none
        else
          match rest with
          | '.' :: rest =>
              let (fraction, rest) := rest.span Char.isDigit
              if fraction.isEmpty then none else some rest
          | rest => some rest
    | rest => some rest

/-- Whether a word is the distance from the common clock. -/
def isOffset : List Char → Bool
  | [c] => c == 'Z' || c == 'z'
  | sign :: rest =>
      (sign == '+' || sign == '-') &&
        match fixed? 2 rest with
        | some (hour, ':' :: rest) =>
            match fixed? 2 rest with
            | some (minute, []) => hour < 24 && minute < 60
            | _ => false
        | _ => false
  | [] => false

/-- Whether a word is a date, a time of day, or both with a letter or a space between them. -/
def isMoment (word : List Char) : Bool :=
  match dropDate? word with
  | some [] => true
  | some (c :: rest) =>
      (c == 'T' || c == 't' || c == ' ') &&
        match dropTime? rest with
        | some rest => rest.isEmpty || isOffset rest
        | none => false
  | none => dropTime? word == some []

/-- The value of a word in a base, behind its mark: digits with spacers between them, or nothing. -/
def Value.inBase? (base : Nat) (word signs : List Char) : Option Value :=
  if signs.isEmpty then some (.numeral word)
  else if areSpaced (fun c => (Numeral.digit? base c).isSome) signs then
    (Numeral.ofDigits? base (signs.filter (· != '_'))).map fun number => .integer number
  else none

/-- The value of a decimal word: an integer if it has nothing but digits behind its sign. -/
def Value.decimal (word : List Char) : Value :=
  let (negative, unsigned) := splitSign word
  match Numeral.ofDigits? 10 (unsigned.filter (· != '_')) with
  | some number => .integer (if negative then -(number : Int) else number)
  | none => .numeral word

/-- The value of a word by what stands behind its sign and its first digits. -/
def Value.ofDigits? (word whole rest : List Char) : Option Value :=
  match rest with
  | [] =>
      if whole.isEmpty || whole.head? = some '0' && 1 < whole.length then none
      else some (Value.decimal word)
  | c :: _ =>
      if c = '-' ∨ c = ':' then if isMoment word then some (.moment word) else none
      else if rest.contains ' ' then none
      else if rest.any fun c => c == '.' || c == 'e' || c == 'E' then
        if isReal word then some (.numeral word) else none
      else if c = '_' ∧ whole.head? ≠ some '0' ∧ isSpaced isHexDigit false word then
        some (Value.decimal word)
      else none

/-- The value that a word denotes. -/
def Value.ofWord? (word : List Char) : Option Value :=
  if word = "true".toList then some (.boolean true)
  else if word = "false".toList then some (.boolean false)
  else if isUnbounded word then some (.numeral word)
  else
    match word with
    | '0' :: 'x' :: signs => Value.inBase? 16 word signs
    | '0' :: 'o' :: signs => Value.inBase? 8 word signs
    | '0' :: 'b' :: signs => Value.inBase? 2 word signs
    | word =>
        let (whole, rest) := (splitSign word).2.span Char.isDigit
        Value.ofDigits? word whole rest

/-- Whether a bare word may hold a character: neither a blank nor one that has a meaning between
values. -/
def extendsWord (c : Char) : Bool :=
  !(isBlank c || c == '\n' || c == '\r' || c == '#' || c == ',' || c == '=' || c == '[' || c == ']' ||
    c == '\x7b' || c == '\x7d')

/-- Whether a bare word may begin with a character. -/
def opensWord (c : Char) : Bool := extendsWord c && c != '"' && c != '\''

/-- The bare words in front of a text, with the blanks between them. The count bounds them. -/
def readWords : Nat → List Char → List Char × List Char
  | 0, text => ([], text)
  | count + 1, text =>
      let (word, rest) := text.span extendsWord
      let (blanks, next) := rest.span isBlank
      if !blanks.isEmpty && next.head?.any opensWord then
        let (words, rest) := readWords count next
        (word ++ blanks ++ words, rest)
      else (word, rest)

/-- The bare word in front of a text. What follows blanks within the line belongs to it, as the time
of day behind a date does. -/
def readWord (text : List Char) : List Char × List Char := readWords (text.length + 1) text

end CoopKernel.Toml
