import CoopKernel.Toml.Quoted
import CoopKernel.Toml.Scalar
import CoopKernel.Toml.Value

/-! # Reading TOML

Each reader takes its part off the front of a text and answers with what it denotes and the rest. A
statement ends with its line; arrays and tables in braces may go over several lines, with comments,
and may end with a comma. A key alone stays in one line. `maxDepth` bounds the parts of a key and,
apart from that, the brackets within each other.
-/

namespace CoopKernel.Toml

/-- How many parts a key may have, and how deep brackets may stand within each other. -/
def maxDepth : Nat := 80

def skipBlanks (text : List Char) : List Char := text.dropWhile isBlank

def skipComment : List Char → List Char
  | '#' :: rest => rest.dropWhile isContent
  | rest => rest

/-- A text without the first blanks, comments and line ends, as many as the count allows. -/
def skipUpTo : Nat → List Char → List Char
  | 0, text => text
  | count + 1, text =>
      let rest := skipComment (skipBlanks text)
      match dropLineEnd? rest with
      | some rest => skipUpTo count rest
      | none => rest

/-- A text without the blanks, comments and line ends in front. -/
def skip (text : List Char) : List Char := skipUpTo text.length text

/-- The text of the next line, when nothing but blanks and a comment stands before it. -/
def nextLine? (text : List Char) : Option (List Char) :=
  match skipComment (skipBlanks text) with
  | [] => some []
  | rest => dropLineEnd? rest

def extendsKey (c : Char) : Bool := c.isAlphanum || c == '_' || c == '-'

/-- One part of a key: bare, or between quotes in one line. -/
def readPart? : List Char → Option (String × List Char)
  | '"' :: rest => (readBasic? false false rest).map fun (content, rest) => (String.ofList content, rest)
  | '\'' :: rest => (readLiteral? false rest).map fun (content, rest) => (String.ofList content, rest)
  | rest =>
      let (name, rest) := rest.span extendsKey
      if name.isEmpty then none else some (String.ofList name, rest)

/-- A key: a path, which may be empty, and the last part. Points separate the parts, with blanks
around them. The count bounds the parts. -/
def readKey? : Nat → List Char → Option ((List String × String) × List Char)
  | 0, _ => none
  | count + 1, text => do
      let (part, rest) ← readPart? text
      match skipBlanks rest with
      | '.' :: rest => do
          let ((path, key), rest) ← readKey? count (skipBlanks rest)
          some ((part :: path, key), rest)
      | rest => some (([], part), rest)

/-- The table that assignments in braces make. -/
def Value.braced? (assignments : List ((List String × String) × Value)) : Option Value := do
  let table ← assignments.foldlM
    (fun table ((path, key), value) => Value.assign? table path key value) (Value.table .headed [])
  match table with
  | .table _ entries => some (.table .braced entries)
  | _ => none

mutual

/-- The value in front of a text. The first count bounds the steps, the second the nesting. -/
def readValue? : Nat → Nat → List Char → Option (Value × List Char)
  | 0, _, _ => none
  | steps + 1, depth + 1, '[' :: rest =>
      (readItems? steps depth (skip rest)).map fun (items, rest) => (.array items, rest)
  | steps + 1, depth + 1, '\x7b' :: rest => do
      let (assignments, rest) ← readAssignments? steps depth (skip rest)
      some (← Value.braced? assignments, rest)
  | _ + 1, _, '"' :: rest =>
      (readQuoted? ('"' :: rest)).map fun (content, rest) => (.text (String.ofList content), rest)
  | _ + 1, _, '\'' :: rest =>
      (readQuoted? ('\'' :: rest)).map fun (content, rest) => (.text (String.ofList content), rest)
  | _ + 1, _, text =>
      let (word, rest) := readWord text
      (Value.ofWord? word).map (·, rest)

/-- Values up to a closing bracket. -/
def readItems? : Nat → Nat → List Char → Option (List Value × List Char)
  | 0, _, _ => none
  | _ + 1, _, ']' :: rest => some ([], rest)
  | steps + 1, depth, text => do
      let (item, rest) ← readValue? steps depth text
      match skip rest with
      | ',' :: rest => do
          let (items, rest) ← readItems? steps depth (skip rest)
          some (item :: items, rest)
      | ']' :: rest => some ([item], rest)
      | _ => none

/-- Assignments up to a closing brace. -/
def readAssignments? :
    Nat → Nat → List Char → Option (List ((List String × String) × Value) × List Char)
  | 0, _, _ => none
  | _ + 1, _, '\x7d' :: rest => some ([], rest)
  | steps + 1, depth, text => do
      let (key, rest) ← readKey? maxDepth text
      match skip rest with
      | '=' :: rest => do
          let (value, rest) ← readValue? steps depth (skip rest)
          match skip rest with
          | ',' :: rest => do
              let (assignments, rest) ← readAssignments? steps depth (skip rest)
              some ((key, value) :: assignments, rest)
          | '\x7d' :: rest => some ([(key, value)], rest)
          | _ => none
      | _ => none

end

def readStatement? : List Char → Option (Statement × List Char)
  | '[' :: '[' :: rest => do
      let ((path, key), rest) ← readKey? maxDepth (skipBlanks rest)
      match rest with
      | ']' :: ']' :: rest => some (.elementHeader path key, rest)
      | _ => none
  | '[' :: rest => do
      let ((path, key), rest) ← readKey? maxDepth (skipBlanks rest)
      match rest with
      | ']' :: rest => some (.header path key, rest)
      | _ => none
  | text => do
      let ((path, key), rest) ← readKey? maxDepth text
      match rest with
      | '=' :: rest => do
          let (value, rest) ← readValue? (2 * rest.length + 2) maxDepth (skipBlanks rest)
          some (.assign path key value, rest)
      | _ => none

/-- All statements of a text. The count bounds them. -/
def readStatements? : Nat → List Char → Option (List Statement)
  | 0, _ => none
  | count + 1, text =>
      match skip text with
      | [] => some []
      | text => do
          let (statement, rest) ← readStatement? text
          let statements ← readStatements? count (← nextLine? rest)
          some (statement :: statements)

/-- A text without the mark that may stand at the beginning of a file. -/
def dropMark : List Char → List Char
  | c :: rest => if c = '\ufeff' then rest else c :: rest
  | [] => []

def read? (text : List Char) : Option Value := do
  let statements ← readStatements? (text.length + 1) (dropMark text)
  Value.ofStatements? statements

end CoopKernel.Toml
