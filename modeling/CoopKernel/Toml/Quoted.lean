import CoopKernel.Text.Numeral

/-! # TOML texts between quotes

Texts between double quotes know escapes, those between apostrophes do not. Either kind is long when
three quotes open it: then it may hold line ends and single quotes, and a line end right behind the
opening belongs to the quotes.
-/

namespace CoopKernel.Toml

/-- Whether a character may stand in a text or a comment: no control character but the tab. -/
def isContent (c : Char) : Bool := c == '\t' || 32 ≤ c.toNat && c.toNat != 127

/-- The text behind a line end in front. -/
def dropLineEnd? : List Char → Option (List Char)
  | '\n' :: rest => some rest
  | '\r' :: '\n' :: rest => some rest
  | _ => none

def isBlank (c : Char) : Bool := c == ' ' || c == '\t'

def unescape? : Char → Option Char
  | 'b' => some '\x08'
  | 't' => some '\t'
  | 'n' => some '\n'
  | 'f' => some '\x0c'
  | 'r' => some '\r'
  | 'e' => some '\x1b'
  | '"' => some '"'
  | '\\' => some '\\'
  | _ => none

/-- The character with a number in base sixteen. -/
def numbered? (digits : List Char) : Option Char := do
  let number ← Numeral.ofDigits? 16 digits
  if number.isValidChar then some (Char.ofNat number) else none

/-- What belongs to a long text of the quotes behind its first closing quote, and the text behind
them all. Up to two quotes may stand right before the three that close. -/
def close? (quote : Char) (rest : List Char) : Option (List Char × List Char) :=
  match ([quote, quote] : List Char).isPrefixOf? rest with
  | none => none
  | some rest =>
      let extra := (rest.take 2).takeWhile (· == quote)
      some (extra, rest.drop extra.length)

/-- Whether a long text has only blanks before its next line end. -/
def endsLine (text : List Char) : Bool := (dropLineEnd? (text.dropWhile isBlank)).isSome

mutual

/-- What stands in front of a closing double quote, or of three if the text is long, with its escapes
resolved, and the text behind. Blanks and line ends that a folded line begins with count for nothing. -/
def readBasic? (long : Bool) : (folded : Bool) → List Char → Option (List Char × List Char)
  | _, '"' :: rest =>
      if long then
        match close? '"' rest with
        | some found => some found
        | none => (readBasic? long false rest).map fun (content, rest) => ('"' :: content, rest)
      else some ([], rest)
  | _, '\\' :: rest => readEscape? long rest
  | folded, '\r' :: '\n' :: rest =>
      if folded then readBasic? long true rest
      else if long then
        (readBasic? long false rest).map fun (content, rest) => ('\r' :: '\n' :: content, rest)
      else none
  | folded, c :: rest =>
      if folded && (isBlank c || c == '\n') then readBasic? long true rest
      else if isContent c || long && c == '\n' then
        (readBasic? long false rest).map fun (content, rest) => (c :: content, rest)
      else none
  | _, [] => none

/-- The same behind a backslash. In a long text it may end a line, and folds the next one to it. -/
def readEscape? (long : Bool) : List Char → Option (List Char × List Char)
  | 'x' :: a :: b :: rest => do
      let c ← numbered? [a, b]
      (readBasic? long false rest).map fun (content, rest) => (c :: content, rest)
  | 'u' :: a :: b :: c :: d :: rest => do
      let c ← numbered? [a, b, c, d]
      (readBasic? long false rest).map fun (content, rest) => (c :: content, rest)
  | 'U' :: a :: b :: c :: d :: e :: f :: g :: h :: rest => do
      let c ← numbered? [a, b, c, d, e, f, g, h]
      (readBasic? long false rest).map fun (content, rest) => (c :: content, rest)
  | letter :: rest =>
      match unescape? letter with
      | some c => (readBasic? long false rest).map fun (content, rest) => (c :: content, rest)
      | none => if long && endsLine (letter :: rest) then readBasic? long true rest else none
  | [] => none

end

/-- What stands in front of a closing apostrophe, or of three if the text is long, and the text
behind. -/
def readLiteral? (long : Bool) : List Char → Option (List Char × List Char)
  | '\'' :: rest =>
      if long then
        match close? '\'' rest with
        | some found => some found
        | none => (readLiteral? long rest).map fun (content, rest) => ('\'' :: content, rest)
      else some ([], rest)
  | '\r' :: '\n' :: rest =>
      if long then (readLiteral? long rest).map fun (content, rest) => ('\r' :: '\n' :: content, rest)
      else none
  | c :: rest =>
      if isContent c || long && c == '\n' then
        (readLiteral? long rest).map fun (content, rest) => (c :: content, rest)
      else none
  | [] => none

/-- A text without a line end in front. -/
def dropFirstLineEnd (text : List Char) : List Char := (dropLineEnd? text).getD text

/-- The text value in front of a text, of any kind. -/
def readQuoted? : List Char → Option (List Char × List Char)
  | '"' :: '"' :: '"' :: rest => readBasic? true false (dropFirstLineEnd rest)
  | '"' :: rest => readBasic? false false rest
  | '\'' :: '\'' :: '\'' :: rest => readLiteral? true (dropFirstLineEnd rest)
  | '\'' :: rest => readLiteral? false rest
  | _ => none

end CoopKernel.Toml
