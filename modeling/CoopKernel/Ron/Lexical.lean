import CoopKernel.Text.Numeral

/-! # The smallest parts of RON texts

Blanks and comments, names, numbers, and what stands between quotes. Each reader takes its part off
the front of a text and answers with what it denotes and the rest.
-/

namespace CoopKernel.Ron

def isBlank (c : Char) : Bool := c == ' ' || c == '\t' || c == '\n' || c == '\r'

/-- The text behind a block comment, of which `depth` levels are open besides the outermost. -/
def closeComment? : Nat → List Char → Option (List Char)
  | depth, '/' :: '*' :: rest => closeComment? (depth + 1) rest
  | 0, '*' :: '/' :: rest => some rest
  | depth + 1, '*' :: '/' :: rest => closeComment? depth rest
  | depth, _ :: rest => closeComment? depth rest
  | _, [] => none

/-- The text behind one blank or one comment in front. -/
def skipOne? : List Char → Option (List Char)
  | '/' :: '/' :: rest => some (rest.dropWhile (· != '\n'))
  | '/' :: '*' :: rest => closeComment? 0 rest
  | c :: rest => if isBlank c then some rest else none
  | [] => none

/-- A text without the first blanks and comments, as many as the count allows. -/
def skipUpTo : Nat → List Char → List Char
  | 0, text => text
  | count + 1, text =>
      match skipOne? text with
      | some rest => skipUpTo count rest
      | none => text

/-- A text without the blanks and comments in front. A comment that nothing closes stays. -/
def skip (text : List Char) : List Char := skipUpTo text.length text

/-- The text behind a comma with blanks around it, and whether there was one. -/
def skipComma (text : List Char) : Bool × List Char :=
  match skip text with
  | ',' :: rest => (true, skip rest)
  | rest => (false, rest)

def opensName (c : Char) : Bool := c.isAlpha || c == '_'

/-- Whether a name may go on with a character. -/
def extendsName (c : Char) : Bool := c.isAlphanum || c == '_'

def extendsRawName (c : Char) : Bool := extendsName c || c == '.' || c == '+' || c == '-'

/-- The name in front of a text. A raw name stands behind a mark and may hold points and signs, which
may not follow a plain name. -/
def readName? : List Char → Option (String × List Char)
  | 'r' :: '"' :: _ => none
  | 'r' :: '#' :: rest =>
      let (name, rest) := rest.span extendsRawName
      if name.isEmpty then none else some (String.ofList name, rest)
  | c :: rest =>
      if opensName c then
        let (name, rest) := rest.span extendsName
        if rest.head?.any extendsRawName then none else some (String.ofList (c :: name), rest)
      else none
  | [] => none

/-- What was taken off the front of a text, by the rest of it. -/
def spelling (text rest : List Char) : List Char := text.take (text.length - rest.length)

/-- The text behind a word in front, which no name character follows. -/
def readWord? (word : String) (text : List Char) : Option (List Char) :=
  (word.toList.isPrefixOf? text).filter fun rest => !rest.head?.any extendsName

/-- One of several words in front of a text, and the text behind it. -/
def readWordOf? (words : List String) (text : List Char) : Option (String × List Char) :=
  words.findSome? fun word => (readWord? word text).map (word, ·)

/-- Whether a whole number may hold a character: a digit of base sixteen, or a spacer. -/
def extendsNatural (c : Char) : Bool := (Numeral.value? c).isSome || c == '_'

/-- The whole number in front of a text, in a base. Spacers count for nothing, but it does not begin
with one. -/
def readInBase? (base : Nat) (text : List Char) : Option (Nat × List Char) :=
  let (signs, rest) := text.span extendsNatural
  if signs.isEmpty ∨ signs.head? = some '_' then none
  else (Numeral.ofDigits? base (signs.filter (· != '_'))).map (·, rest)

/-- The whole number in front of a text. A mark tells another base than ten. -/
def readNatural? : List Char → Option (Nat × List Char)
  | '0' :: 'x' :: rest => readInBase? 16 rest
  | '0' :: 'b' :: rest => readInBase? 2 rest
  | '0' :: 'o' :: rest => readInBase? 8 rest
  | rest => readInBase? 10 rest

/-- Whether a spelling is that of an exponent: nothing, or a mark, perhaps a sign, and digits. -/
def isExponent : List Char → Bool
  | [] => true
  | c :: '+' :: digits => (c == 'e' || c == 'E') && !digits.isEmpty && digits.all Char.isDigit
  | c :: '-' :: digits => (c == 'e' || c == 'E') && !digits.isEmpty && digits.all Char.isDigit
  | c :: digits => (c == 'e' || c == 'E') && !digits.isEmpty && digits.all Char.isDigit

/-- Whether a spelling is that of a number without sign: digits, perhaps a point among them or at an
end, and perhaps an exponent. -/
def isUnsigned (spelling : List Char) : Bool :=
  let (whole, rest) := spelling.span Char.isDigit
  match rest with
  | '.' :: rest =>
      let (fraction, rest) := rest.span Char.isDigit
      !(whole.isEmpty && fraction.isEmpty) && isExponent rest
  | rest => !whole.isEmpty && isExponent rest

/-- Whether a spelling is that of a number, perhaps with a sign. -/
def isNumber : List Char → Bool
  | '+' :: rest => isUnsigned rest
  | '-' :: rest => isUnsigned rest
  | rest => isUnsigned rest

/-- Whether the spelling of a number may hold a character. -/
def extendsNumber (c : Char) : Bool :=
  c.isDigit || c == 'e' || c == 'E' || c == '.' || c == '+' || c == '-' || c == '_'

/-- The number in front of a text that is taken by its spelling. -/
def readReal? (text : List Char) : Option (List Char × List Char) :=
  let (spelling, rest) := text.span extendsNumber
  if isNumber spelling then some (spelling, rest) else none

/-- The text behind the whole number in front of a text, if it is below a limit and no sign or point
follows it. -/
def readBelow? (limit : Nat) (text : List Char) : Option (Nat × List Char) :=
  (readNatural? text).filter fun (number, rest) =>
    number < limit && !rest.head?.any fun c => c == '.' || c == '+' || c == '-'

def unescape? : Char → Option Char
  | '\'' => some '\''
  | '"' => some '"'
  | '\\' => some '\\'
  | 'n' => some '\n'
  | 'r' => some '\r'
  | 't' => some '\t'
  | '0' => some '\x00'
  | _ => none

/-- The character with a number in base sixteen, of one to six digits. -/
def numbered? (digits : List Char) : Option Char := do
  let number ← Numeral.ofDigits? 16 digits
  if digits.isEmpty ∨ 6 < digits.length ∨ ¬number.isValidChar then none else some (Char.ofNat number)

mutual

/-- What stands in front of a closing quote, with its escapes resolved, and the text behind. -/
def readQuoted? : List Char → Option (List Char × List Char)
  | '"' :: rest => some ([], rest)
  | '\\' :: 'x' :: a :: b :: rest => do
      let c ← numbered? [a, b]
      let (content, rest) ← readQuoted? rest
      some (c :: content, rest)
  | '\\' :: 'u' :: '\x7b' :: rest => readNumbered? [] rest
  | '\\' :: letter :: rest => do
      let c ← unescape? letter
      let (content, rest) ← readQuoted? rest
      some (c :: content, rest)
  | c :: rest =>
      if c = '\\' then none
      else do
        let (content, rest) ← readQuoted? rest
        some (c :: content, rest)
  | [] => none

/-- The same, after the digits so far of a numbered character. -/
def readNumbered? (digits : List Char) : List Char → Option (List Char × List Char)
  | '\x7d' :: rest => do
      let c ← numbered? digits
      let (content, rest) ← readQuoted? rest
      some (c :: content, rest)
  | digit :: rest => readNumbered? (digits ++ [digit]) rest
  | [] => none

end

/-- What stands in front of a quote with so many hash signs behind it, and the text behind them. -/
def readRaw? (hashes : Nat) : List Char → Option (List Char × List Char)
  | [] => none
  | c :: rest =>
      if c = '"' ∧ (List.replicate hashes '#').isPrefixOf rest then some ([], rest.drop hashes)
      else (readRaw? hashes rest).map fun (content, rest) => (c :: content, rest)

/-- The raw text behind its opening letter: hash signs, a quote, and all up to a quote with as many
hash signs behind it. -/
def readRawQuoted? (text : List Char) : Option (List Char × List Char) :=
  let (hashes, rest) := text.span (· == '#')
  match rest with
  | '"' :: rest => readRaw? hashes.length rest
  | _ => none

/-- The character behind an opening apostrophe, and the text behind the closing one. -/
def readCharacter? : List Char → Option (Char × List Char)
  | '\\' :: 'x' :: a :: b :: '\'' :: rest => (numbered? [a, b]).map (·, rest)
  | '\\' :: 'u' :: '\x7b' :: rest =>
      let (digits, rest) := rest.span (· != '\x7d')
      match rest with
      | '\x7d' :: '\'' :: rest => (numbered? digits).map (·, rest)
      | _ => none
  | '\\' :: letter :: '\'' :: rest => (unescape? letter).map (·, rest)
  | c :: '\'' :: rest => if c = '\\' ∨ c = '\'' then none else some (c, rest)
  | _ => none

end CoopKernel.Ron
