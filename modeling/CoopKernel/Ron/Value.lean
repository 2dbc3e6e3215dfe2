import CoopKernel.Text.Numeral
import CoopKernel.Text.Visible

/-! # RON values and their compact text

Values of the object notation in which a resolved configuration is handed on. A reader of typed data
only needs natural numbers by value; a signed number or one with a fraction keeps its spelling.
`Value.print` writes a value without blanks.
-/

namespace CoopKernel.Ron

inductive Value where
  | natural (number : Nat)
  /-- Any other number, by its spelling. -/
  | real (spelling : List Char)
  | character (c : Char)
  | text (content : String)
  /-- A name alone, such as a truth value, as it is spelled. -/
  | symbol (spelling : String)
  | absent
  | present (value : Value)
  | list (items : List Value)
  | map (entries : List (Value × Value))
  | tuple (name : Option String) (items : List Value)
  | record (name : Option String) (fields : List (String × Value))
deriving Repr, Inhabited

def escapeNumber (c : Char) : List Char :=
  ['\\', 'u', '\x7b'] ++ Numeral.digits 16 c.toNat ++ ['\x7d']

/-- A character within quotes. Quotes, backslashes and what has no sign of its own are escaped. -/
def escape (c : Char) : List Char :=
  if c = '\x00' then ['\\', '0']
  else if c = '\t' then ['\\', 't']
  else if c = '\r' then ['\\', 'r']
  else if c = '\n' then ['\\', 'n']
  else if c = '\'' ∨ c = '"' ∨ c = '\\' then ['\\', c]
  else if isVisible c then [c]
  else escapeNumber c

def quote (content : List Char) : List Char := '"' :: (content.flatMap escape ++ ['"'])

def commas (texts : List (List Char)) : List Char := [','].intercalate texts

/-- A name in front of brackets, which may be missing. -/
def printName (name : Option String) : List Char := (name.getD "").toList

namespace Value

mutual

def print : Value → List Char
  | natural number => Numeral.digits 10 number
  | real spelling => spelling
  | character c => '\'' :: (escape c ++ ['\''])
  | text content => quote content.toList
  | symbol spelling => spelling.toList
  | absent => "None".toList
  | present value => "Some(".toList ++ print value ++ [')']
  | list items => '[' :: (commas (printItems items) ++ [']'])
  | map entries => '\x7b' :: (commas (printEntries entries) ++ ['\x7d'])
  | tuple name items => printName name ++ '(' :: (commas (printItems items) ++ [')'])
  | record name fields => printName name ++ '(' :: (commas (printFields fields) ++ [')'])

def printItems : List Value → List (List Char)
  | [] => []
  | item :: rest => print item :: printItems rest

def printEntries : List (Value × Value) → List (List Char)
  | [] => []
  | (key, item) :: rest => (print key ++ ':' :: print item) :: printEntries rest

def printFields : List (String × Value) → List (List Char)
  | [] => []
  | (name, item) :: rest => (name.toList ++ ':' :: print item) :: printFields rest

end

end Value

end CoopKernel.Ron
