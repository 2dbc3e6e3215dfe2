import CoopKernel.Ron.Lexical
import CoopKernel.Ron.Value

/-! # Reading RON

A document may begin with attributes that enable extensions; the value follows, with nothing but
blanks and comments behind it. Lists, maps, tuples and records separate their parts with commas and
may end with one. Values nest to a fixed depth: a bracket and each part within it count one.
-/

namespace CoopKernel.Ron

/-- What attributes in front of a document change. -/
structure Extensions where
  /-- Whether a value may stand where an optional one is wanted. -/
  implicitSome : Bool := false
deriving DecidableEq, Repr, Inhabited

/-- How deep values may nest. -/
def maxDepth : Nat := 128

/-- Whether the text behind an opening bracket begins with a name and a colon. -/
def opensRecord (text : List Char) : Bool :=
  match readName? (skip text) with
  | some (_, rest) => (skip rest).head? = some ':'
  | none => false

/-- The number in front of a text, as a value. -/
def readNumber? : List Char → Option (Value × List Char)
  | sign :: text =>
      if sign = '+' ∨ sign = '-' then
        match readBelow? (UInt64.size / 2 + if sign = '-' then 1 else 0) text with
        | some (_, rest) => some (.real (sign :: spelling text rest), rest)
        | none => (readReal? (sign :: text)).map fun (spelling, rest) => (.real spelling, rest)
      else
        match readBelow? UInt64.size (sign :: text) with
        | some (number, rest) => some (.natural number, rest)
        | none => (readReal? (sign :: text)).map fun (spelling, rest) => (.real spelling, rest)
  | [] => none

/-- The word in front of a text that is a value by itself: a truth value or no finite number. No
brackets belong to such a word. -/
def readConstant? (text : List Char) : Option (Value × List Char) :=
  match readWordOf? ["true", "false"] text with
  | some (word, rest) => some (.symbol word, rest)
  | none =>
      (readWordOf? ["inf", "+inf", "-inf", "NaN", "+NaN", "-NaN"] text).map fun (word, rest) =>
        (.real word.toList, rest)

/-- The number that a name alone holds right behind the word of an optional value. -/
def Value.attached? : Value → Option Value
  | .symbol spelling => do
      match ← readNumber? (← "Some".toList.isPrefixOf? spelling.toList) with
      | (.natural number, []) => some (.natural number)
      | _ => none
  | _ => none

mutual

/-- The value in front of a text. The first count bounds the steps, the second the nesting. -/
def readValue? (extensions : Extensions) : Nat → Nat → List Char → Option (Value × List Char)
  | 0, _, _ => none
  | steps + 1, depth, text =>
      match readWord? "None" text, readWord? "Some" text, readConstant? text with
      | some rest, _, _ => some (.absent, rest)
      | none, some rest, _ => readOptional? extensions steps depth (skip rest)
      | none, none, some found => some found
      | none, none, none =>
          match readName? text, text with
          | some (name, behind), _ =>
              match skip behind with
              | '(' :: rest => readBrackets? extensions steps depth (some name) rest
              | rest => some (.symbol (String.ofList (spelling text behind)), rest)
          | none, '(' :: rest => readBrackets? extensions steps depth none rest
          | none, '[' :: rest =>
              (readItems? extensions steps (depth - 1) ']' rest).bind fun (items, rest) =>
                if depth = 0 then none else some (.list items, rest)
          | none, '\x7b' :: rest =>
              (readEntries? extensions steps (depth - 1) rest).bind fun (entries, rest) =>
                if depth = 0 then none else some (.map entries, rest)
          | none, '"' :: rest =>
              (readQuoted? rest).map fun (content, rest) => (.text (String.ofList content), rest)
          | none, 'r' :: rest =>
              (readRawQuoted? rest).map fun (content, rest) => (.text (String.ofList content), rest)
          | none, '\'' :: rest => (readCharacter? rest).map fun (c, rest) => (.character c, rest)
          | none, text => readNumber? text

/-- The value of an optional one that is there: in brackets, or bare if that is enabled. -/
def readOptional? (extensions : Extensions) : Nat → Nat → List Char → Option (Value × List Char)
  | 0, _, _ => none
  | _, 0, _ => none
  | steps + 1, depth + 1, '(' :: rest => do
      let (value, rest) ← readValue? extensions steps depth (skip rest)
      match (skipComma rest).2 with
      | ')' :: rest => some (.present value, rest)
      | _ => none
  | steps + 1, depth + 1, rest =>
      if extensions.implicitSome then
        (readValue? extensions steps depth rest).map fun (value, rest) => (.present value, rest)
      else none

/-- The tuple or record behind its name and its opening bracket. Brackets around nothing at all, not
even a blank, may stand at any depth if they have no name. -/
def readBrackets? (extensions : Extensions) :
    Nat → Nat → Option String → List Char → Option (Value × List Char)
  | 0, _, _, _ => none
  | _, _, none, ')' :: rest => some (.tuple none [], rest)
  | _, 0, _, _ => none
  | steps + 1, depth + 1, name, rest =>
      if opensRecord rest then
        (readFields? extensions steps depth rest).map fun (fields, rest) => (.record name fields, rest)
      else
        (readItems? extensions steps depth ')' rest).map fun (items, rest) => (.tuple name items, rest)

/-- Values up to a closing bracket. -/
def readItems? (extensions : Extensions) :
    Nat → Nat → Char → List Char → Option (List Value × List Char)
  | 0, _, _, _ => none
  | steps + 1, depth, close, text =>
      if (skip text).head? = some close then some ([], (skip text).tail)
      else if depth = 0 then none
      else do
        let (item, rest) ← readValue? extensions steps (depth - 1) (skip text)
        match skipComma rest with
        | (true, rest) => do
            let (items, rest) ← readItems? extensions steps depth close rest
            some (item :: items, rest)
        | (false, rest) => if rest.head? = some close then some ([item], rest.tail) else none

def readEntries? (extensions : Extensions) :
    Nat → Nat → List Char → Option (List (Value × Value) × List Char)
  | 0, _, _ => none
  | steps + 1, depth, text =>
      if (skip text).head? = some '\x7d' then some ([], (skip text).tail)
      else if depth = 0 then none
      else do
        let (key, rest) ← readValue? extensions steps (depth - 1) (skip text)
        match skip rest with
        | ':' :: rest => do
            let (item, rest) ← readValue? extensions steps (depth - 1) (skip rest)
            match skipComma rest with
            | (true, rest) => do
                let (entries, rest) ← readEntries? extensions steps depth rest
                some ((key, item) :: entries, rest)
            | (false, rest) =>
                if rest.head? = some '\x7d' then some ([(key, item)], rest.tail) else none
        | _ => none

def readFields? (extensions : Extensions) :
    Nat → Nat → List Char → Option (List (String × Value) × List Char)
  | 0, _, _ => none
  | steps + 1, depth, text =>
      if (skip text).head? = some ')' then some ([], (skip text).tail)
      else if depth = 0 then none
      else do
        let (name, rest) ← readName? (skip text)
        match skip rest with
        | ':' :: rest => do
            let (item, rest) ← readValue? extensions steps (depth - 1) (skip rest)
            match skipComma rest with
            | (true, rest) => do
                let (fields, rest) ← readFields? extensions steps depth rest
                some ((name, item) :: fields, rest)
            | (false, rest) =>
                if rest.head? = some ')' then some ([(name, item)], rest.tail) else none
        | _ => none

end

/-- The text behind a token in front and the blanks that follow it. -/
def readToken? (token : String) (text : List Char) : Option (List Char) :=
  (token.toList.isPrefixOf? text).map skip

def readTokens? (tokens : List String) (text : List Char) : Option (List Char) :=
  tokens.foldlM (fun rest token => readToken? token rest) text

/-- Takes note of an extension by its name. Those that only concern wrapped values change nothing. -/
def Extensions.enable? (extensions : Extensions) (name : String) : Option Extensions :=
  if name = "implicit_some" then some { extensions with implicitSome := true }
  else if name = "unwrap_newtypes" ∨ name = "unwrap_variant_newtypes" then some extensions
  else none

/-- The names in an attribute, at least one, and the text behind them. The count bounds the names. -/
def readEnabled? : Nat → Extensions → List Char → Option (Extensions × List Char)
  | 0, _, _ => none
  | count + 1, extensions, text => do
      let (name, rest) ← readName? text
      let extensions ← extensions.enable? name
      match skipComma rest with
      | (true, rest) =>
          if rest.head?.any extendsName then readEnabled? count extensions rest
          else some (extensions, rest)
      | (false, rest) => some (extensions, rest)

/-- The attributes in front of a text, and the text behind them. The count bounds the attributes. -/
def readAttributes? : Nat → Extensions → List Char → Option (Extensions × List Char)
  | 0, _, _ => none
  | count + 1, extensions, text =>
      if text.head? = some '#' then do
        let rest ← readTokens? ["#", "!", "[", "enable", "("] text
        let (extensions, rest) ← readEnabled? rest.length extensions rest
        let rest ← readTokens? [")", "]"] rest
        readAttributes? count extensions rest
      else some (extensions, text)

structure Document where
  extensions : Extensions
  value : Value
deriving Repr, Inhabited

def read? (text : List Char) : Option Document := do
  let (extensions, rest) ← readAttributes? (text.length + 1) {} (skip text)
  let (value, rest) ← readValue? extensions (3 * text.length + 3) maxDepth rest
  if (skip rest).isEmpty then some ⟨extensions, value⟩ else none

end CoopKernel.Ron
