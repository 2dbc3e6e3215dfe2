import CoopKernel.Proofs.Source.Comments
import CoopKernel.Proofs.Source.Tokens

/-! # Declarations in a source text

A declaration gives a name to a value of a type. Values are numbers, calls of a constructor, records of
named fields, and arrays; the parts of a value are between brackets, with commas between them and perhaps
one behind the last. The reader knows nothing of what is declared: it takes the parts of a value from its
tokens, and what they are the parts of is left to others.

A reader reads a value from tokens (`Reads`) if it takes off these tokens and leaves what follows them,
whatever that is. `readListed?_separated` and `readListed?_terminated` say it of parts between brackets,
the other lemmas of the values around them.
-/

namespace CoopKernel.Source

/-- The value of a numeral, in base ten or, marked as such, in base sixteen. -/
def numeral? (word : String) : Option Nat :=
  match word.toList with
  | [] => none
  | ['0', 'x'] => none
  | '0' :: 'x' :: signs => Numeral.ofDigits? 16 signs
  | signs => Numeral.ofDigits? 10 signs

inductive Expr where
  | number (value : Nat)
  | negative (value : Nat)
  /-- A name with the names of the modules that it is in. -/
  | path (names : List String)
  | call (head : List String) (arguments : List Expr)
  | record (head : List String) (fields : List (String × Expr))
  | array (items : List Expr)

inductive TypeExpr where
  | path (names : List String)
  | array (item : List String) (length : Expr)

/-- A constant or a static of a module. -/
structure Declaration where
  name : String
  type : TypeExpr
  value : Expr

/-- What takes the tokens of a value off the front, if it is there. -/
abbrev Reader (α : Type) := List Token → Option (α × List Token)

/-! ## The reader -/

/-- The names behind the first of a path. -/
def readPath : List Token → List String × List Token
  | .mark ':' :: .mark ':' :: .word name :: rest => ((readPath rest).1.cons name, (readPath rest).2)
  | rest => ([], rest)

/-- Parts up to a closing bracket, if there are less than so many. -/
def readParts? {α : Type} (part? : Reader α) (close : Char) : Nat → Reader (List α)
  | 0, _ => none
  | steps + 1, tokens =>
      if tokens.head? = some (.mark close) then some ([], tokens.tail)
      else
        match part? tokens with
        | some (first, .mark ',' :: rest) =>
            (readParts? part? close steps rest).map fun (others, rest) => (first :: others, rest)
        | some (last, .mark sign :: rest) => if sign = close then some ([last], rest) else none
        | _ => none

def readListed? {α : Type} (part? : Reader α) (close : Char) : Reader (List α) := fun tokens =>
  readParts? part? close tokens.length tokens

def readField? (value? : Reader Expr) : Reader (String × Expr)
  | .word name :: .mark ':' :: rest => (value? rest).map fun (value, rest) => ((name, value), rest)
  | _ => none

/-- A value in which values are within others less than so often. -/
def readExpr? : Nat → Reader Expr
  | 0, _ => none
  | _ + 1, .mark '-' :: .word word :: rest => (numeral? word).map fun value => (.negative value, rest)
  | depth + 1, .mark '[' :: rest =>
      (readListed? (readExpr? depth) ']' rest).map fun (items, rest) => (.array items, rest)
  | depth + 1, .word word :: rest =>
      if word.toList.head?.any Char.isDigit then (numeral? word).map fun value => (.number value, rest)
      else
        match readPath rest with
        | (names, .mark '(' :: rest) =>
            (readListed? (readExpr? depth) ')' rest).map fun (arguments, rest) => (.call (word :: names) arguments, rest)
        | (names, .mark '\x7b' :: rest) =>
            (readListed? (readField? (readExpr? depth)) '\x7d' rest).map fun (fields, rest) =>
              (.record (word :: names) fields, rest)
        | (names, rest) => some (.path (word :: names), rest)
  | _ + 1, _ => none

/-- How often a value of a declaration may be within others. -/
def nesting : Nat := 128

/-- What was read, if a sign is behind it. -/
def followed? {α : Type} (sign : Char) : Option (α × List Token) → Option (α × List Token)
  | some (value, .mark found :: rest) => if found = sign then some (value, rest) else none
  | _ => none

def readType? : Reader TypeExpr
  | .mark '[' :: .word word :: rest =>
      (followed? ';' (readPath rest)).bind fun (names, rest) =>
        (followed? ']' (readExpr? nesting rest)).map fun (length, rest) => (.array (word :: names) length, rest)
  | .word word :: rest => some (.path (word :: (readPath rest).1), (readPath rest).2)
  | _ => none

/-- What declares a name: its type and its value. -/
def readTyped? (name : String) : Reader Declaration := fun tokens =>
  (followed? '=' (readType? tokens)).bind fun (type, rest) =>
    (followed? ';' (readExpr? nesting rest)).map fun (value, rest) => (⟨name, type, value⟩, rest)

/-- A public constant or static. -/
def readDeclaration? : Reader Declaration
  | .word "pub" :: .word "const" :: .word name :: .mark ':' :: rest => readTyped? name rest
  | .word "pub" :: .word "static" :: .word name :: .mark ':' :: rest => readTyped? name rest
  | _ => none

/-- Declarations up to the end, if there are less than so many. -/
def readDeclarations? : Nat → List Token → Option (List Declaration)
  | 0, _ => none
  | _ + 1, [] => some []
  | steps + 1, tokens => do
      let (first, rest) ← readDeclaration? tokens
      let others ← readDeclarations? steps rest
      return first :: others

/-! ## Numerals -/

/-- A word that is read as a number. -/
structure IsNumeral (word : String) (number : Nat) : Prop where
  isWord : IsWord word
  digit : word.toList.head?.any Char.isDigit = true
  same : numeral? word = some number

theorem isNumeral_decimal (number : Nat) : IsNumeral (Numeral.decimal number) number := by
  have signs : (Numeral.decimal number).toList = Numeral.digits 10 number := String.toList_ofList
  have digits := Numeral.isDigit_of_mem_digits number
  have value : Numeral.ofDigits? 10 (Numeral.digits 10 number) = some number :=
    Numeral.ofDigits?_digits (by decide) (by decide) number
  rw [← signs] at digits value
  have occupied : (Numeral.decimal number).toList ≠ [] := by
    rw [signs]
    exact Numeral.digits_ne_nil 10 number
  refine ⟨isWord_of_isAlphanum occupied (Numeral.isAlphanum_of_mem_decimal number), ?_, ?_⟩
  · cases written : (Numeral.decimal number).toList with
    | nil => exact absurd written occupied
    | cons c rest => exact digits c (by rw [written]; exact List.mem_cons_self)
  · unfold numeral?
    -- no digit is the mark of base sixteen
    split
    · next empty => exact absurd empty occupied
    · next marked => exact absurd (digits 'x' (by rw [marked]; decide)) (by decide)
    · next marked => exact absurd (digits 'x' (by rw [marked]; simp)) (by decide)
    · exact value

theorem isNumeral_paddedHex (width number : Nat) : IsNumeral (Numeral.paddedHex width number) number := by
  obtain ⟨zeros, signs⟩ : ∃ zeros, (Numeral.paddedHex width number).toList =
      '0' :: 'x' :: (List.replicate zeros '0' ++ Numeral.digits 16 number) :=
    ⟨_, by rw [Numeral.paddedHex, String.toList_append, String.toList_ofList, String.toList_ofList]; rfl⟩
  refine ⟨isWord_of_isAlphanum (by simp [signs]) (Numeral.isAlphanum_of_mem_paddedHex width number), by rw [signs]; rfl, ?_⟩
  unfold numeral?
  rw [signs]
  split
  · next empty => cases empty
  · next nothing => simp [Numeral.digits_ne_nil] at nothing
  · next marked =>
    cases marked
    rw [Numeral.ofDigits?_replicate 16 zeros (by decide), Numeral.ofDigits?_digits (by decide) (by decide)]
  · next notMarked => exact absurd rfl (notMarked _)

theorem isNumeral_hex (number : Nat) : IsNumeral (Numeral.hex number) number := by
  rw [Numeral.hex_eq_paddedHex]
  exact isNumeral_paddedHex 0 number

/-! ## Parts between brackets -/

/-- The signs that close a bracket. -/
def closings : List Char := [')', ']', '\x7d']

/-- A value is taken off the front of any tokens that begin with those of its text. -/
structure Reads {α : Type} (reader : Reader α) (text : List Token) (value : α) : Prop where
  opens : ∀ close ∈ closings, ∀ rest, (text ++ rest).head? ≠ some (.mark close)
  reads : ∀ rest, reader (text ++ rest) = some (value, rest)

theorem head?_mark_ne {sign close : Char} (opens : sign ∉ closings) (closes : close ∈ closings) (rest : List Token) :
    (Token.mark sign :: rest).head? ≠ some (.mark close) := by
  rintro ⟨⟩
  exact opens closes

section Parts

variable {α ι : Type} {part? : Reader α} {text : List Token} {value : α} {close : Char} {steps : Nat}

theorem readParts?_nil (rest : List Token) : readParts? part? close (steps + 1) (.mark close :: rest) = some ([], rest) := by
  rw [readParts?, List.head?_cons, if_pos rfl, List.tail_cons]

theorem readParts?_cons (reads : Reads part? text value) (closes : close ∈ closings) (rest : List Token) :
    readParts? part? close (steps + 1) (text ++ .mark ',' :: rest) =
      (readParts? part? close steps rest).map fun (others, rest) => (value :: others, rest) := by
  rw [readParts?, if_neg (reads.opens close closes _), reads.reads]
  rfl

theorem readParts?_last (reads : Reads part? text value) (closes : close ∈ closings) (rest : List Token) :
    readParts? part? close (steps + 1) (text ++ .mark close :: rest) = some ([value], rest) := by
  rw [readParts?, if_neg (reads.opens close closes _), reads.reads]
  -- none of the closing signs is a comma
  simp only [closings, List.mem_cons, List.not_mem_nil, or_false] at closes
  rcases closes with rfl | rfl | rfl <;> rfl

variable {texts : ι → List Token} {values : ι → α} {parts : List ι}

/-- Parts with a comma behind each. -/
def terminated (texts : List (List Token)) : List Token := texts.flatMap (· ++ [.mark ','])

/-- Parts with commas between them. -/
def separated (texts : List (List Token)) : List Token := [.mark ','].intercalate texts

theorem readParts?_terminated (each : ∀ part ∈ parts, Reads part? (texts part) (values part)) (closes : close ∈ closings)
    (enough : parts.length < steps) (rest : List Token) :
    readParts? part? close steps (terminated (parts.map texts) ++ .mark close :: rest) =
      some (parts.map values, rest) := by
  induction parts generalizing steps with
  | nil =>
    obtain ⟨steps, rfl⟩ : ∃ fewer, steps = fewer + 1 := ⟨steps - 1, by omega⟩
    exact readParts?_nil rest
  | cons part others ih =>
    obtain ⟨steps, rfl⟩ : ∃ fewer, steps = fewer + 1 := ⟨steps - 1, by omega⟩
    rw [List.forall_mem_cons] at each
    rw [List.length_cons, Nat.add_lt_add_iff_right] at enough
    rw [List.map_cons, terminated, List.flatMap_cons, List.append_assoc, List.append_assoc, List.singleton_append,
      readParts?_cons each.1 closes, ← terminated, ih each.2 enough]
    rfl

theorem readParts?_separated (each : ∀ part ∈ parts, Reads part? (texts part) (values part)) (closes : close ∈ closings)
    (enough : parts.length ≤ steps) (someStep : 0 < steps) (rest : List Token) :
    readParts? part? close steps (separated (parts.map texts) ++ .mark close :: rest) =
      some (parts.map values, rest) := by
  obtain ⟨steps, rfl⟩ : ∃ fewer, steps = fewer + 1 := ⟨steps - 1, by omega⟩
  induction parts generalizing steps with
  | nil => exact readParts?_nil rest
  | cons part others ih =>
    rw [List.forall_mem_cons] at each
    cases others with
    | nil =>
      rw [List.map_singleton, separated, List.intercalate_singleton, readParts?_last each.1 closes]
      rfl
    | cons next others =>
      rw [List.length_cons, Nat.add_le_add_iff_right] at enough
      obtain ⟨steps, rfl⟩ : ∃ fewer, steps = fewer + 1 := ⟨steps - 1, by rw [List.length_cons] at enough; omega⟩
      rw [List.map_cons, List.map_cons, separated, List.intercalate_cons_cons, List.append_assoc, List.append_assoc,
        List.singleton_append, readParts?_cons each.1 closes, ← separated, ← List.map_cons,
        ih each.2 steps enough (by omega)]
      rfl

theorem length_le_terminated (texts : List (List Token)) : texts.length ≤ (terminated texts).length := by
  induction texts with
  | nil => exact Nat.le_refl _
  | cons first others ih =>
    rw [terminated, List.flatMap_cons, ← terminated]
    simp only [List.length_append, List.length_cons, List.length_nil]
    omega

theorem length_le_separated : ∀ texts : List (List Token), texts.length ≤ (separated texts).length + 1
  | [] => Nat.zero_le _
  | [_] => Nat.le_add_left ..
  | first :: next :: others => by
    have ih := length_le_separated (next :: others)
    rw [separated, List.intercalate_cons_cons, ← separated]
    simp only [List.length_append, List.length_cons, List.length_nil] at ih ⊢
    omega

/-- Parts with a comma behind each are read up to the bracket. -/
theorem readListed?_terminated (each : ∀ part ∈ parts, Reads part? (texts part) (values part)) (closes : close ∈ closings)
    (rest : List Token) :
    readListed? part? close (terminated (parts.map texts) ++ .mark close :: rest) = some (parts.map values, rest) := by
  have enough := length_le_terminated (parts.map texts)
  rw [List.length_map] at enough
  refine readParts?_terminated each closes ?_ rest
  rw [List.length_append, List.length_cons]
  omega

/-- Parts with commas between them are read up to the bracket. -/
theorem readListed?_separated (each : ∀ part ∈ parts, Reads part? (texts part) (values part)) (closes : close ∈ closings)
    (rest : List Token) :
    readListed? part? close (separated (parts.map texts) ++ .mark close :: rest) = some (parts.map values, rest) := by
  have enough := length_le_separated (parts.map texts)
  rw [List.length_map] at enough
  refine readParts?_separated each closes ?_ ?_ rest
  all_goals
    rw [List.length_append, List.length_cons]
    omega

end Parts

/-! ## Values -/

section Values

variable {depth : Nat} {word : String} {names : List String} {text : List Token} {value : Expr}

theorem reads_number {number : Nat} (numeral : IsNumeral word number) :
    Reads (readExpr? (depth + 1)) [.word word] (.number number) where
  opens close _ rest := by simp
  reads rest := by
    rw [List.singleton_append, readExpr?, if_pos numeral.digit, numeral.same]
    rfl

theorem reads_negative {number : Nat} (numeral : IsNumeral word number) :
    Reads (readExpr? (depth + 1)) [.mark '-', .word word] (.negative number) where
  opens _ closes _ := head?_mark_ne (by decide) closes _
  reads rest := by
    change readExpr? (depth + 1) (.mark '-' :: .word word :: rest) = _
    rw [readExpr?, numeral.same]
    rfl

theorem reads_array {items : List Expr}
    (listed : ∀ rest, readListed? (readExpr? depth) ']' (text ++ rest) = some (items, rest)) :
    Reads (readExpr? (depth + 1)) (.mark '[' :: text) (.array items) where
  opens _ closes _ := head?_mark_ne (by decide) closes _
  reads rest := by
    rw [List.cons_append, readExpr?, listed]
    rfl

/-- The tokens of the names behind the first of a path. -/
def pathTail (names : List String) : List Token := names.flatMap fun name => [.mark ':', .mark ':', .word name]

theorem readPath_pathTail {rest : List Token} (stops : rest.head? ≠ some (.mark ':')) (names : List String) :
    readPath (pathTail names ++ rest) = (names, rest) := by
  induction names with
  | nil =>
    change readPath rest = _
    unfold readPath
    split
    · exact absurd rfl stops
    · rfl
  | cons name names ih =>
    change readPath (.mark ':' :: .mark ':' :: .word name :: (pathTail names ++ rest)) = _
    rw [readPath, ih]

theorem reads_call {arguments : List Expr} (named : word.toList.head?.any Char.isDigit = false)
    (listed : ∀ rest, readListed? (readExpr? depth) ')' (text ++ rest) = some (arguments, rest)) :
    Reads (readExpr? (depth + 1)) (.word word :: (pathTail names ++ .mark '(' :: text))
      (.call (word :: names) arguments) where
  opens close _ rest := by simp
  reads rest := by
    rw [List.cons_append, readExpr?, named, if_neg Bool.false_ne_true, List.append_assoc, List.cons_append,
      readPath_pathTail (by simp)]
    change (readListed? (readExpr? depth) ')' (text ++ rest)).map _ = _
    rw [listed]
    rfl

theorem reads_record {fields : List (String × Expr)} (named : word.toList.head?.any Char.isDigit = false)
    (listed : ∀ rest, readListed? (readField? (readExpr? depth)) '\x7d' (text ++ rest) = some (fields, rest)) :
    Reads (readExpr? (depth + 1)) (.word word :: (pathTail names ++ .mark '\x7b' :: text))
      (.record (word :: names) fields) where
  opens close _ rest := by simp
  reads rest := by
    rw [List.cons_append, readExpr?, named, if_neg Bool.false_ne_true, List.append_assoc, List.cons_append,
      readPath_pathTail (by simp)]
    change (readListed? (readField? (readExpr? depth)) '\x7d' (text ++ rest)).map _ = _
    rw [listed]
    rfl

/-- The tokens of a field, of which the name, the tokens of its value and the value are given. -/
def fieldText (field : String × List Token × Expr) : List Token := .word field.1 :: .mark ':' :: field.2.1

/-- The value of a field, with its name. -/
def fieldValue (field : String × List Token × Expr) : String × Expr := (field.1, field.2.2)

theorem reads_field {value? : Reader Expr} {field : String × List Token × Expr}
    (reads : Reads value? field.2.1 field.2.2) : Reads (readField? value?) (fieldText field) (fieldValue field) where
  opens close _ rest := by simp [fieldText]
  reads rest := by
    change readField? value? (.word field.1 :: .mark ':' :: (field.2.1 ++ rest)) = _
    rw [readField?, reads.reads]
    rfl

end Values

/-! ## Declarations -/

section Declarations

variable {word name : String} {names : List String} {type : TypeExpr} {value : Expr} {typeText valueText : List Token}

theorem followed?_mark {α : Type} (sign : Char) (value : α) (rest : List Token) :
    followed? sign (some (value, .mark sign :: rest)) = some (value, rest) := if_pos rfl

theorem readType?_path (rest : List Token) :
    readType? (.word word :: (pathTail names ++ .mark '=' :: rest)) = some (.path (word :: names), .mark '=' :: rest) := by
  rw [readType?, readPath_pathTail (by simp)]

def arrayText (word : String) (names : List String) (lengthText : List Token) : List Token :=
  .mark '[' :: .word word :: (pathTail names ++ .mark ';' :: (lengthText ++ [.mark ']']))

theorem readType?_array {length : Expr} {lengthText : List Token}
    (reads : ∀ rest, readExpr? nesting (lengthText ++ .mark ']' :: rest) = some (length, .mark ']' :: rest))
    (rest : List Token) :
    readType? (arrayText word names lengthText ++ rest) = some (.array (word :: names) length, rest) := by
  simp only [arrayText, List.cons_append, List.append_assoc, List.nil_append]
  rw [readType?, readPath_pathTail (by simp), followed?_mark]
  change (followed? ']' (readExpr? nesting (lengthText ++ .mark ']' :: rest))).map _ = _
  rw [reads, followed?_mark]
  rfl

def declarationText (kind name : String) (typeText valueText : List Token) : List Token :=
  .word "pub" :: .word kind :: .word name :: .mark ':' :: (typeText ++ .mark '=' :: (valueText ++ [.mark ';']))

/-- A declaration is read up to its end. -/
theorem reads_declaration {kind : String} (isKind : kind = "const" ∨ kind = "static")
    (typed : ∀ rest, readType? (typeText ++ .mark '=' :: rest) = some (type, .mark '=' :: rest))
    (reads : Reads (readExpr? nesting) valueText value) :
    Reads readDeclaration? (declarationText kind name typeText valueText) ⟨name, type, value⟩ where
  opens close _ rest := by simp [declarationText]
  reads rest := by
    have whole : readTyped? name (typeText ++ .mark '=' :: (valueText ++ .mark ';' :: rest)) =
        some (⟨name, type, value⟩, rest) := by
      rw [readTyped?, typed, followed?_mark]
      change (followed? ';' (readExpr? nesting (valueText ++ .mark ';' :: rest))).map _ = _
      rw [reads.reads, followed?_mark]
      rfl
    simp only [declarationText, List.cons_append, List.append_assoc]
    rcases isKind with rfl | rfl
    · exact whole
    · exact whole

/-- Declarations are read one after the other. -/
theorem readDeclarations?_flatten {texts : List (List Token)} {found : List Declaration} {steps : Nat}
    (each : List.Forall₂ (Reads readDeclaration?) texts found) (enough : found.length < steps) :
    readDeclarations? steps texts.flatten = some found := by
  induction each generalizing steps with
  | nil =>
    obtain ⟨steps, rfl⟩ : ∃ fewer, steps = fewer + 1 := ⟨steps - 1, by omega⟩
    rfl
  | @cons text first texts others reads each ih =>
    obtain ⟨steps, rfl⟩ : ∃ fewer, steps = fewer + 1 := ⟨steps - 1, by omega⟩
    rw [List.length_cons, Nat.add_lt_add_iff_right] at enough
    have taken := reads.reads texts.flatten
    rw [List.flatten_cons, readDeclarations?]
    · rw [taken]
      change (readDeclarations? steps texts.flatten).bind _ = _
      rw [ih enough]
      rfl
    · intro empty
      rw [empty] at taken
      cases taken

end Declarations

def declarations? (text : List Char) : Option (List Declaration) :=
  let found := tokens (uncomment text)
  readDeclarations? (found.length + 1) found

end CoopKernel.Source
