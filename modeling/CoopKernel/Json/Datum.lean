import CoopKernel.Text.Numeral

/-! # JSON values and their compact text

A value keeps what a reader of typed data needs. Numbers with a fraction or an exponent, and minus
zero, are no integers; only their spelling is kept. A text whose escapes name half a character is kept
by its pieces. `Datum.print` writes a value without blanks.
-/

namespace CoopKernel

/-- A piece of a JSON text: a character, or a sixteen bit unit given by an escape. -/
inductive TextPiece where
  | plain (c : Char)
  | unit (value : Nat)
deriving DecidableEq, Repr, Inhabited

/-- A JSON value. -/
inductive Datum where
  | null
  | boolean (value : Bool)
  | integer (value : Int)
  /-- A number that is no integer, by its spelling. -/
  | real (spelling : List Char)
  | text (content : String)
  /-- A text with a unit that is half of no character. -/
  | broken (pieces : List TextPiece)
  | array (items : List Datum)
  /-- The members in order, a name that is no text by its absence. -/
  | object (members : List (Option String × Datum))
deriving Repr, Inhabited

namespace Datum

def escapeUnit (value : Nat) : List Char :=
  ['\\', 'u', Numeral.sign (value / 4096 % 16), Numeral.sign (value / 256 % 16),
    Numeral.sign (value / 16 % 16), Numeral.sign (value % 16)]

/-- A character within a text. Quotes, backslashes and control characters are escaped. -/
def escape (c : Char) : List Char :=
  if c = '"' then ['\\', '"']
  else if c = '\\' then ['\\', '\\']
  else if c = '\n' then ['\\', 'n']
  else if c = '\r' then ['\\', 'r']
  else if c = '\t' then ['\\', 't']
  else if c = '\x08' then ['\\', 'b']
  else if c = '\x0c' then ['\\', 'f']
  else if c.toNat < 32 then escapeUnit c.toNat
  else [c]

def quote (content : List Char) : List Char := '"' :: (content.flatMap escape ++ ['"'])

def printPiece : TextPiece → List Char
  | .plain c => escape c
  | .unit value => escapeUnit value

def commas (texts : List (List Char)) : List Char := [','].intercalate texts

mutual

def print : Datum → List Char
  | null => "null".toList
  | boolean true => "true".toList
  | boolean false => "false".toList
  | integer value => (Numeral.signed value).toList
  | real spelling => spelling
  | text content => quote content.toList
  | broken pieces => '"' :: (pieces.flatMap printPiece ++ ['"'])
  | array items => '[' :: (commas (printItems items) ++ [']'])
  | object members => '{' :: (commas (printMembers members) ++ ['}'])

def printItems : List Datum → List (List Char)
  | [] => []
  | item :: rest => print item :: printItems rest

/-- The compact texts of members: name, colon, value. -/
def printMembers : List (Option String × Datum) → List (List Char)
  | [] => []
  | (name, item) :: rest => (quote (name.getD "").toList ++ ':' :: print item) :: printMembers rest

end

end Datum

end CoopKernel
