/-! # TOML values and how tables grow

A document is a list of statements: a header opens a table, and what follows assigns keys within it.
Keys keep the order in which they came. How a table came to be decides what may still be added:

* a table of braces is finished;
* a table under its own header takes keys and further headers, but no dotted key passes through it;
* a table that only headers below it mention may still get its own header, once;
* a table that dotted keys made grows by dotted keys only.
-/

namespace CoopKernel.Toml

/-- How a table came to be. -/
inductive TableKind where
  /-- Under its own header. -/
  | headed
  /-- Mentioned in the header of a table below it. -/
  | implied
  /-- Mentioned in a dotted key. -/
  | dotted
  /-- Written in braces. -/
  | braced
deriving DecidableEq, Repr, Inhabited

inductive Value where
  | integer (value : Int)
  | boolean (value : Bool)
  | text (content : String)
  /-- A word in the place of a number that denotes no integer, by its spelling. -/
  | numeral (spelling : List Char)
  /-- A date, a time or both, by its spelling. -/
  | moment (spelling : List Char)
  | array (items : List Value)
  /-- Tables under headers that add to an array. -/
  | tables (items : List Value)
  | table (kind : TableKind) (entries : List (String × Value))
deriving Repr, Inhabited

/-- The entries of a table, in order. -/
abbrev Entries := List (String × Value)

namespace Entries

def get? (entries : Entries) (key : String) : Option Value := entries.lookup key

/-- Entries with a value in the place of a key, which a new key gets at the end. -/
def put (entries : Entries) (key : String) (value : Value) : Entries :=
  if (Entries.get? entries key).isSome then
    entries.map fun entry => if entry.1 == key then (key, value) else entry
  else entries ++ [(key, value)]

def insert? (entries : Entries) (key : String) (value : Value) : Option Entries :=
  if (Entries.get? entries key).isSome then none else some (entries ++ [(key, value)])

def erase (entries : Entries) (key : String) : Entries := entries.filter (·.1 != key)

end Entries

namespace Value

/-- The value without entries that a path comes by where there is none yet. -/
def fresh (dotted : Bool) : Value := .table (if dotted then .dotted else .implied) []

/-- Changes a table at the end of a path. The path makes tables where there are none and goes to the
last one of an array of tables. A dotted path passes through no table that has a header. -/
def change? (dotted : Bool) (act : TableKind → Entries → Option Value) :
    List String → Value → Option Value
  | [], .table kind entries => act kind entries
  | key :: path, .table kind entries => do
      let below ← match Entries.get? entries key with
        | none => change? dotted act path (fresh dotted)
        | some (.tables items) => do
            let last ← change? dotted act path (← items.getLast?)
            some (.tables (items.dropLast ++ [last]))
        | some (.table .braced _) => none
        | some (.table .headed entries) =>
            if dotted then none else change? dotted act path (.table .headed entries)
        | some value => change? dotted act path value
      some (.table kind (Entries.put entries key below))
  | _, _ => none

/-- Assigns a value to a key with a dotted path in front, within a table. -/
def assign? (table : Value) (path : List String) (key : String) (value : Value) : Option Value :=
  table.change? true
    (fun kind entries =>
      if path.isEmpty || kind = .dotted then (Entries.insert? entries key value).map (.table kind) else none)
    path

/-- Opens the table of a header. A table that was only implied moves behind its neighbours. -/
def openTable? (path : List String) (key : String) (root : Value) : Option Value :=
  root.change? false
    (fun kind entries =>
      match Entries.get? entries key with
      | none => some (.table kind (entries ++ [(key, .table .headed [])]))
      | some (.table .implied below) =>
          some (.table kind (Entries.erase entries key ++ [(key, .table .headed below)]))
      | _ => none)
    path

/-- Opens one more table of an array under a header. -/
def openElement? (path : List String) (key : String) (root : Value) : Option Value :=
  root.change? false
    (fun kind entries =>
      match Entries.get? entries key with
      | none => some (.table kind (entries ++ [(key, .tables [.table .headed []])]))
      | some (.tables items) =>
          some (.table kind (Entries.put entries key (.tables (items ++ [.table .headed []]))))
      | _ => none)
    path

end Value

/-- A line of a document that says something. Every key has a path in front, which may be empty. -/
inductive Statement where
  | assign (path : List String) (key : String) (value : Value)
  | header (path : List String) (key : String)
  | elementHeader (path : List String) (key : String)
deriving Repr, Inhabited

/-- A document so far: its root, and the path of the table that is open. -/
structure Draft where
  root : Value := .table .headed []
  opened : List String := []
deriving Repr, Inhabited

namespace Draft

/-- A document with one more statement. -/
def add? (draft : Draft) : Statement → Option Draft
  | .assign path key value => do
      let root ← draft.root.change? false
        (fun kind entries => (Value.table kind entries).assign? path key value) draft.opened
      some { draft with root }
  | .header path key => do some ⟨← draft.root.openTable? path key, path ++ [key]⟩
  | .elementHeader path key => do some ⟨← draft.root.openElement? path key, path ++ [key]⟩

end Draft

/-- The table that statements make. -/
def Value.ofStatements? (statements : List Statement) : Option Value :=
  (statements.foldlM Draft.add? {}).map (·.root)

end CoopKernel.Toml
