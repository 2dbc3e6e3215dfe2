import CoopKernel.Text.Numeral

/-! # The tokens of a source text

A token is a word, which is a run of letters, digits and underscores, or any other single sign; blanks
only keep words apart. A text may be cut wherever the cut does not go through a word. So the tokens of a
text into which words are put are those words and the tokens around them (`tokens_fillIn`).
-/

namespace CoopKernel.Source

/-- The signs that words are made of. -/
def isWordSign (c : Char) : Bool := c.isAlphanum || c == '_'

inductive Token where
  | word (name : String)
  | mark (sign : Char)
deriving DecidableEq, Repr

/-- The token of a word that has come to its end. -/
def wordToken (signs : List Char) : List Token := if signs.isEmpty then [] else [.word (String.ofList signs)]

/-- The token of a sign that belongs to no word. -/
def markToken (c : Char) : List Token := if c.isWhitespace then [] else [.mark c]

/-- The tokens of a text that goes on with a word, of which some signs have come. -/
def tokensFrom (begun : List Char) : List Char → List Token
  | [] => wordToken begun
  | c :: rest =>
      if isWordSign c then tokensFrom (begun ++ [c]) rest
      else wordToken begun ++ (markToken c ++ tokensFrom [] rest)

def tokens (text : List Char) : List Token := tokensFrom [] text

theorem tokensFrom_mark {c : Char} (apart : isWordSign c = false) (begun rest : List Char) :
    tokensFrom begun (c :: rest) = wordToken begun ++ (markToken c ++ tokens rest) := by
  rw [tokensFrom, if_neg (by simp [apart]), tokens]

theorem tokens_mark {c : Char} (apart : isWordSign c = false) (rest : List Char) :
    tokens (c :: rest) = markToken c ++ tokens rest := tokensFrom_mark apart [] rest

theorem tokensFrom_append_mark {c : Char} (apart : isWordSign c = false) (begun first rest : List Char) :
    tokensFrom begun (first ++ c :: rest) = tokensFrom begun first ++ tokens (c :: rest) := by
  induction first generalizing begun with
  | nil =>
    rw [List.nil_append, tokens_mark apart, tokensFrom_mark apart]
    rfl
  | cons d first ih =>
    rw [List.cons_append, tokensFrom, tokensFrom]
    split
    · exact ih _
    · rw [ih, List.append_assoc, List.append_assoc]

/-- A text is cut in front of a sign that belongs to no word. -/
theorem tokens_append_of_head {first rest : List Char} (apart : rest.head?.any isWordSign = false) :
    tokens (first ++ rest) = tokens first ++ tokens rest := by
  cases rest with
  | nil =>
    rw [List.append_nil]
    exact (List.append_nil _).symm
  | cons c rest => exact tokensFrom_append_mark apart [] first rest

/-- A text is cut behind a sign that belongs to no word. -/
theorem tokens_append_of_last {first : List Char} (apart : first.getLast?.any isWordSign = false) (rest : List Char) :
    tokens (first ++ rest) = tokens first ++ tokens rest := by
  rcases List.eq_nil_or_concat first with rfl | ⟨front, c, rfl⟩
  · rfl
  · rw [List.concat_eq_append] at apart ⊢
    have here : isWordSign c = false := by simpa using apart
    have cut : ∀ rest, tokens (front ++ c :: rest) = tokens front ++ (markToken c ++ tokens rest) := fun rest => by
      rw [← tokens_mark here]
      exact tokensFrom_append_mark here [] front rest
    rw [List.append_assoc, List.singleton_append, cut, cut, List.append_assoc, List.append_assoc]
    rfl

def IsWord (name : String) : Prop := name.toList ≠ [] ∧ name.toList.all isWordSign = true

instance (name : String) : Decidable (IsWord name) := inferInstanceAs (Decidable (_ ∧ _))

theorem isWord_of_isAlphanum {name : String} (occupied : name.toList ≠ [])
    (inside : ∀ c ∈ name.toList, c.isAlphanum = true) : IsWord name :=
  ⟨occupied, List.all_eq_true.mpr fun c member => by rw [isWordSign, inside c member, Bool.true_or]⟩

theorem tokensFrom_word {signs : List Char} (inside : signs.all isWordSign = true) (begun : List Char) :
    tokensFrom begun signs = wordToken (begun ++ signs) := by
  induction signs generalizing begun with
  | nil => rw [tokensFrom, List.append_nil]
  | cons c signs ih =>
    rw [List.all_cons, Bool.and_eq_true] at inside
    rw [tokensFrom, if_pos inside.1, ih inside.2, List.append_assoc, List.singleton_append]

/-- A word is one token. -/
theorem tokens_word {name : String} (isWord : IsWord name) : tokens name.toList = [.word name] := by
  rw [tokens, tokensFrom_word isWord.2, List.nil_append, wordToken, if_neg (by simpa using isWord.1), String.ofList_toList]

/-- Whether a text begins with a sign that belongs to no word. -/
def beginsApart (text : String) : Bool := text.toList.head?.any (!isWordSign ·)

/-- Whether a text ends with a sign that belongs to no word. -/
def endsApart (text : String) : Bool := text.toList.getLast?.any (!isWordSign ·)

theorem any_eq_false_of_apart {sign? : Option Char} (apart : sign?.any (!isWordSign ·) = true) :
    sign?.any isWordSign = false := by
  cases sign? with
  | none => rfl
  | some c => simpa using apart

/-- A text with gaps into which words are put: what comes before the first of them, and each word with what follows it. -/
def fillIn (first : String) (gaps : List (String × String)) : List Char :=
  first.toList ++ gaps.flatMap fun gap => gap.1.toList ++ gap.2.toList

/-- Each word that is put into a text is one token, and the text around the words has its own tokens. -/
theorem tokens_fillIn {first : String} {gaps : List (String × String)} (apart : endsApart first = true)
    (each : ∀ gap ∈ gaps, IsWord gap.1 ∧ beginsApart gap.2 = true ∧ endsApart gap.2 = true) :
    tokens (fillIn first gaps) = tokens first.toList ++ gaps.flatMap fun gap => .word gap.1 :: tokens gap.2.toList := by
  rw [fillIn, tokens_append_of_last (any_eq_false_of_apart apart)]
  congr 1
  clear apart
  induction gaps with
  | nil => rfl
  | cons gap gaps ih =>
    rw [List.forall_mem_cons] at each
    obtain ⟨⟨isWord, begins, ends⟩, others⟩ := each
    obtain ⟨c, isFirst, -⟩ := (Option.any_eq_true ..).mp begins
    rw [List.flatMap_cons, List.flatMap_cons, List.append_assoc, tokens_append_of_head, tokens_word isWord,
      tokens_append_of_last (any_eq_false_of_apart ends), ih others]
    · rfl
    · rw [List.head?_append, isFirst, Option.some_or, ← isFirst]
      exact any_eq_false_of_apart begins

/-- A word between two texts is one token. -/
theorem tokens_around {first last word : String} (isWord : IsWord word) (before : endsApart first = true)
    (behind : beginsApart last = true ∧ endsApart last = true) :
    tokens (first ++ word ++ last).toList = tokens first.toList ++ .word word :: tokens last.toList := by
  have gap : (first ++ word ++ last).toList = fillIn first [(word, last)] := by simp [fillIn]
  rw [gap, tokens_fillIn before (by simp [isWord, behind]), List.flatMap_cons, List.flatMap_nil, List.append_nil]

/-- The tokens of lines are those of one line after the other. -/
theorem tokens_flatMap (lines : List (List Char)) : tokens (lines.flatMap (· ++ ['\n'])) = lines.flatMap tokens := by
  induction lines with
  | nil => rfl
  | cons line rest ih =>
    have apart : isWordSign '\n' = false := by decide
    have behind : tokens ('\n' :: rest.flatMap (· ++ ['\n'])) = tokens (rest.flatMap (· ++ ['\n'])) := tokens_mark apart _
    rw [List.flatMap_cons, List.flatMap_cons, List.append_assoc, List.singleton_append, ← ih, ← behind]
    exact tokensFrom_append_mark apart [] line _

end CoopKernel.Source
