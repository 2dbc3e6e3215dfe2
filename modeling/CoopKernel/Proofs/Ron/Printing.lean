import CoopKernel.Proofs.Ron.Spelling
import CoopKernel.Ron.Reader

/-! # What is written is read: values

A value is written without blanks, and its text is read back in front of whatever may follow it
(`Legible.readsBack`). That holds of the values that the reader can take in (`Legible`): numbers have to
fit a word, the fields of records need names, and values must not nest deeper than the reader goes. The
reader counts its steps; three for each character of the text are enough, since a bracket takes three
before it comes to the first value within it.
-/

namespace CoopKernel.Ron

variable {extensions : Extensions} {steps depth : Nat} {value : Value}

/-- The values that are read back as they are written where the reader goes to some depth yet. A list or a record takes
two of the depth: one for its bracket, and one for the part within it. -/
inductive Legible : Nat → Value → Prop where
  | natural {depth number : Nat} (fits : number < UInt64.size) : Legible depth (.natural number)
  | text {depth : Nat} {content : String} : Legible depth (.text content)
  | absent {depth : Nat} : Legible depth .absent
  | present {depth : Nat} {value : Value} (inner : Legible depth value) : Legible (depth + 1) (.present value)
  | list {depth : Nat} {items : List Value} (each : ∀ item ∈ items, Legible depth item) :
      Legible (depth + 2) (.list items)
  | record {depth : Nat} {fields : List (String × Value)} (occupied : fields ≠ [])
      (named : ∀ field ∈ fields, isName field.1 = true) (each : ∀ field ∈ fields, Legible depth field.2) :
      Legible (depth + 2) (.record none fields)

/-- A value is read from its text, and what follows the text is left. -/
def ReadsBack (depth : Nat) (value : Value) : Prop :=
  ∀ {extensions : Extensions} {steps : Nat} {rest : List Char}, 3 * value.print.length ≤ steps → Stops rest →
    readValue? extensions steps depth (value.print ++ rest) = some (value, rest)

/-! ## The beginning of a value -/

/-- Whether the text of a legible value may begin with a character. -/
def opensValue (c : Char) : Bool := c.isDigit || ['"', 'N', 'S', '[', '('].contains c

theorem not_opensValue_of_stop : stopSigns.any opensValue = false := by decide

theorem skip_of_opensValue {c : Char} (opening : opensValue c = true) (rest : List Char) :
    skip (c :: rest) = c :: rest :=
  skip_of_kind (by decide) opening rest

theorem Legible.exists_print (legible : Legible depth value) :
    ∃ c rest, value.print = c :: rest ∧ opensValue c = true := by
  cases legible with
  | @natural _ number _ =>
    cases written : Numeral.digits 10 number with
    | nil => exact absurd written (Numeral.digits_ne_nil 10 number)
    | cons c rest =>
      have digit : c.isDigit = true := Numeral.isDigit_of_mem_digits number c (by rw [written]; exact List.mem_cons_self)
      exact ⟨c, rest, written, by rw [opensValue, digit, Bool.true_or]⟩
  | text => exact ⟨'"', _, rfl, rfl⟩
  | absent => exact ⟨'N', _, rfl, rfl⟩
  | present _ => exact ⟨'S', _, rfl, rfl⟩
  | list _ => exact ⟨'[', _, rfl, rfl⟩
  | record _ _ _ => exact ⟨'(', _, rfl, rfl⟩

/-- No blank is in front of a value. -/
theorem Legible.skip_print (legible : Legible depth value) (rest : List Char) :
    skip (value.print ++ rest) = value.print ++ rest := by
  obtain ⟨c, more, printed, opening⟩ := legible.exists_print
  rw [printed, List.cons_append, skip_of_opensValue opening]

/-- A value does not begin with what closes the values around it. -/
theorem Legible.head?_print_ne (legible : Legible depth value) {stop : Char} (isStop : stop ∈ stopSigns)
    (rest : List Char) : (value.print ++ rest).head? ≠ some stop := by
  obtain ⟨c, more, printed, opening⟩ := legible.exists_print
  rw [printed, List.cons_append, List.head?_cons]
  rintro ⟨⟩
  exact List.any_eq_false.mp not_opensValue_of_stop _ isStop opening

theorem Legible.length_print_pos (legible : Legible depth value) : 0 < value.print.length := by
  obtain ⟨c, more, printed, -⟩ := legible.exists_print
  rw [printed]
  exact Nat.zero_lt_succ _

/-! ## The reader in front of a value -/

/-- No name begins with a digit. -/
theorem opensName_of_isDigit {c : Char} (digit : c.isDigit = true) : opensName c = false := by
  refine Bool.eq_false_iff.mpr fun opening => ?_
  change ((decide (c.val ≥ 'A'.val ∧ c.val ≤ 'Z'.val) || (decide (c.val ≥ 'a'.val) && decide (c.val ≤ 'z'.val))) ||
    c == '_') = true at opening
  change (decide (c.val ≥ '0'.val) && decide (c.val ≤ '9'.val)) = true at digit
  simp only [Bool.or_eq_true, Bool.and_eq_true, beq_iff_eq, decide_eq_true_eq, UInt32.le_iff_toNat_le, ge_iff_le]
    at opening digit
  rcases opening with (⟨above, -⟩ | ⟨above, -⟩) | rfl
  · exact absurd (Nat.le_trans above digit.2) (by decide)
  · exact absurd (Nat.le_trans above digit.2) (by decide)
  · exact absurd digit.2 (by decide)

/-- No word that is a value by itself is in front of a number. -/
theorem readWord?_digit {word : String} (worded : word.toList.head?.any (!·.isDigit) = true) {c : Char}
    (digit : c.isDigit = true) (rest : List Char) : readWord? word (c :: rest) = none := by
  unfold readWord?
  cases spelled : word.toList with
  | nil =>
    rw [spelled] at worded
    cases worded
  | cons d more =>
    rw [spelled, List.head?_cons, Option.any_some, Bool.not_eq_true'] at worded
    have apart : d ≠ c := by
      rintro rfl
      exact absurd digit (Bool.eq_false_iff.mp worded)
    have step : (d :: more).isPrefixOf? (c :: rest) = if d == c then more.isPrefixOf? rest else none := rfl
    rw [step, if_neg (by simpa using apart), Option.filter_none]

theorem readConstant?_digit {c : Char} (digit : c.isDigit = true) (rest : List Char) :
    readConstant? (c :: rest) = none := by
  have wordless : ∀ words : List String, (∀ word ∈ words, word.toList.head?.any (!·.isDigit) = true) →
      readWordOf? words (c :: rest) = none := by
    intro words worded
    refine List.findSome?_eq_none_iff.mpr fun word member => ?_
    rw [readWord?_digit (worded word member) digit]
    rfl
  unfold readConstant?
  rw [wordless _ (by decide), wordless _ (by decide)]
  rfl

theorem readName?_digit {c : Char} (digit : c.isDigit = true) (rest : List Char) : readName? (c :: rest) = none := by
  unfold readName?
  split
  · next same =>
    cases same
    exact absurd digit (by decide)
  · next same =>
    cases same
    exact absurd digit (by decide)
  · next same =>
    cases same
    rw [opensName_of_isDigit digit, if_neg Bool.false_ne_true]
  · rfl

theorem readValue?_digit {c : Char} (digit : c.isDigit = true) (rest : List Char) :
    readValue? extensions (steps + 1) depth (c :: rest) = readNumber? (c :: rest) := by
  -- a digit is no bracket, no quote and no mark of a raw text
  have isDigit : ∀ {d tail}, c :: rest = d :: tail → d.isDigit = true := by
    rintro d tail ⟨⟩
    exact digit
  unfold readValue?
  rw [readWord?_digit (by decide) digit, readWord?_digit (by decide) digit, readConstant?_digit digit,
    readName?_digit digit]
  dsimp only
  split
  · next named => cases named
  · next same => exact absurd (isDigit same) (by decide)
  · next same => exact absurd (isDigit same) (by decide)
  · next same => exact absurd (isDigit same) (by decide)
  · next same => exact absurd (isDigit same) (by decide)
  · next same => exact absurd (isDigit same) (by decide)
  · next same => exact absurd (isDigit same) (by decide)
  · rfl

theorem readNumber?_digits {number : Nat} (fits : number < UInt64.size) {rest : List Char} (stops : Stops rest) :
    readNumber? (Numeral.digits 10 number ++ rest) = some (.natural number, rest) := by
  have unsigned : rest.head?.any (fun c => c == '.' || c == '+' || c == '-') = false := by
    rw [Option.any_eq_false]
    exact stops.outside (by decide)
  have whole : readBelow? UInt64.size (Numeral.digits 10 number ++ rest) = some (number, rest) :=
    Option.filter_eq_some_iff.mpr ⟨readNatural?_digits stops number, by simp [fits, unsigned]⟩
  have allDigits := Numeral.isDigit_of_mem_digits number
  cases written : Numeral.digits 10 number with
  | nil => exact absurd written (Numeral.digits_ne_nil 10 number)
  | cons c more =>
    have noSign : ¬(c = '+' ∨ c = '-') := by
      have digit := allDigits c (by rw [written]; exact List.mem_cons_self)
      rintro (rfl | rfl) <;> exact absurd digit (by decide)
    rw [written, List.cons_append] at whole
    rw [List.cons_append, readNumber?, if_neg noSign, whole]

theorem readValue?_quote (rest : List Char) :
    readValue? extensions (steps + 1) depth ('"' :: rest) =
      (readQuoted? rest).map fun (content, rest) => (.text (String.ofList content), rest) := by
  unfold readValue?
  rfl

theorem readValue?_absent {rest : List Char} (stops : Stops rest) :
    readValue? extensions (steps + 1) depth ("None".toList ++ rest) = some (.absent, rest) := by
  have unnamed : rest.head?.any extendsName = false := by
    rw [Option.any_eq_false]
    exact stops.outside (by decide)
  have whole : readWord? "None" ("None".toList ++ rest) = some rest :=
    Option.filter_eq_some_iff.mpr ⟨rfl, by rw [unnamed]; rfl⟩
  unfold readValue?
  rw [whole]

theorem readValue?_present (rest : List Char) :
    readValue? extensions (steps + 1) depth ("Some(".toList ++ rest) =
      readOptional? extensions steps depth ('(' :: rest) := by
  have notAbsent : readWord? "None" ("Some(".toList ++ rest) = none := rfl
  have isPresent : readWord? "Some" ("Some(".toList ++ rest) = some ('(' :: rest) := rfl
  unfold readValue?
  rw [notAbsent, isPresent]
  dsimp only
  rw [skip_cons rfl (by decide)]

theorem readValue?_list (rest : List Char) :
    readValue? extensions (steps + 1) (depth + 1) ('[' :: rest) =
      (readItems? extensions steps depth ']' rest).map fun (items, rest) => (.list items, rest) := by
  unfold readValue?
  change (readItems? extensions steps depth ']' rest).bind _ = _
  cases readItems? extensions steps depth ']' rest <;> rfl

theorem readValue?_brackets (rest : List Char) :
    readValue? extensions (steps + 1) depth ('(' :: rest) = readBrackets? extensions steps depth none rest := by
  unfold readValue?
  rfl

/-! ## Commas -/

theorem commas_cons_cons (first second : List Char) (rest : List (List Char)) :
    commas (first :: second :: rest) = first ++ ',' :: commas (second :: rest) := by
  rw [commas, commas, List.intercalate_cons_cons, List.append_assoc, List.singleton_append]

theorem commas_singleton (text : List Char) : commas [text] = text := by
  simp [commas]

theorem skipComma_comma (rest : List Char) : skipComma (',' :: rest) = (true, skip rest) := by
  unfold skipComma
  rw [skip_cons rfl (by decide)]
  rfl

theorem skipComma_stop {close : Char} (closes : close = ')' ∨ close = ']') (rest : List Char) :
    skipComma (close :: rest) = (false, close :: rest) := by
  unfold skipComma
  rcases closes with rfl | rfl
  · rw [skip_cons rfl (by decide)]
    rfl
  · rw [skip_cons rfl (by decide)]
    rfl

/-- Texts begin with the first of them. -/
theorem exists_commas_cons (first : List Char) (others : List (List Char)) :
    ∃ more, commas (first :: others) = first ++ more := by
  cases others with
  | nil => exact ⟨[], by rw [commas_singleton, List.append_nil]⟩
  | cons second rest => exact ⟨_, commas_cons_cons first second rest⟩

/-! ## Lists -/

theorem readItems?_nil (rest : List Char) :
    readItems? extensions (steps + 1) depth ']' (']' :: rest) = some ([], rest) := by
  unfold readItems?
  rw [skip_cons rfl (by decide), List.head?_cons, if_pos rfl, List.tail_cons]

section Item

variable {text rest : List Char} {item : Value} (solid : skip text = text) (opening : text.head? ≠ some ']')
include solid opening

theorem readItems?_last (found : readValue? extensions steps depth text = some (item, ']' :: rest)) :
    readItems? extensions (steps + 1) (depth + 1) ']' text = some ([item], rest) := by
  rw [readItems?.eq_2, solid, if_neg opening, if_neg (Nat.succ_ne_zero depth), Nat.add_sub_cancel, found,
    Option.bind_eq_bind, Option.bind_some]
  dsimp only
  rw [skipComma_stop (.inr rfl)]
  rfl

theorem readItems?_cons (found : readValue? extensions steps depth text = some (item, ',' :: rest)) :
    readItems? extensions (steps + 1) (depth + 1) ']' text =
      (readItems? extensions steps (depth + 1) ']' (skip rest)).map fun (items, rest) => (item :: items, rest) := by
  rw [readItems?.eq_2, solid, if_neg opening, if_neg (Nat.succ_ne_zero depth), Nat.add_sub_cancel, found,
    Option.bind_eq_bind, Option.bind_some]
  dsimp only
  rw [skipComma_comma]
  dsimp only
  cases readItems? extensions steps (depth + 1) ']' (skip rest) <;> rfl

end Item

/-- The items of a list are read back up to its closing bracket. -/
theorem readItems?_print {items : List Value} (legible : ∀ item ∈ items, Legible depth item)
    (back : ∀ item ∈ items, ReadsBack depth item) {rest : List Char}
    (enough : 3 * (commas (Value.printItems items)).length < steps) :
    readItems? extensions steps (depth + 1) ']' (commas (Value.printItems items) ++ ']' :: rest) =
      some (items, rest) := by
  obtain ⟨steps, rfl⟩ : ∃ fewer, steps = fewer + 1 := ⟨steps - 1, by omega⟩
  induction items generalizing steps with
  | nil => exact readItems?_nil rest
  | cons item items ih =>
    obtain ⟨first, others⟩ := List.forall_mem_cons.mp legible
    obtain ⟨firstBack, othersBack⟩ := List.forall_mem_cons.mp back
    have isStop : ']' ∈ stopSigns := by decide
    cases items with
    | nil =>
      rw [Value.printItems, Value.printItems, commas_singleton] at enough ⊢
      exact readItems?_last (first.skip_print _) (first.head?_print_ne isStop _)
        (firstBack (by omega) (stops_cons isStop rest))
    | cons next items =>
      have textEq : commas (Value.printItems (item :: next :: items)) =
          item.print ++ ',' :: commas (Value.printItems (next :: items)) := commas_cons_cons ..
      rw [textEq, List.length_append, List.length_cons] at enough
      rw [textEq, List.append_assoc, List.cons_append]
      -- what is behind the comma begins with the next item, so no blank is skipped there
      have nextSolid : skip (commas (Value.printItems (next :: items)) ++ ']' :: rest) =
          commas (Value.printItems (next :: items)) ++ ']' :: rest := by
        obtain ⟨more, moreEq⟩ := exists_commas_cons next.print (Value.printItems items)
        rw [Value.printItems, moreEq, List.append_assoc]
        exact (others next List.mem_cons_self).skip_print _
      obtain ⟨steps, rfl⟩ : ∃ fewer, steps = fewer + 1 := ⟨steps - 1, by omega⟩
      rw [readItems?_cons (first.skip_print _) (first.head?_print_ne isStop _)
        (firstBack (by omega) (stops_cons (by decide) _)), nextSolid, ih others othersBack steps (by omega)]
      rfl

/-! ## Records -/

theorem skip_name {name : String} (named : isName name = true) (rest : List Char) :
    skip (name.toList ++ rest) = name.toList ++ rest := by
  obtain ⟨c, run, spelled, opening, -⟩ := exists_toList_of_isName named
  rw [spelled, List.cons_append, skip_of_kind (by decide) opening]

theorem head?_name_ne {name : String} (named : isName name = true) (rest : List Char) :
    (name.toList ++ rest).head? ≠ some ')' := by
  obtain ⟨c, run, spelled, opening, -⟩ := exists_toList_of_isName named
  rw [spelled, List.cons_append, List.head?_cons]
  rintro ⟨⟩
  exact absurd opening (by decide)

theorem opensRecord_name {name : String} (named : isName name = true) (rest : List Char) :
    opensRecord (name.toList ++ ':' :: rest) = true := by
  rw [opensRecord, skip_name named, readName?_colon named]
  dsimp only
  rw [skip_cons rfl (by decide), List.head?_cons, decide_eq_true rfl]

section Field

variable {name : String} {text rest : List Char} {item : Value} (named : isName name = true)
  (solid : skip text = text)
include named solid

theorem readFields?_last (found : readValue? extensions steps depth text = some (item, ')' :: rest)) :
    readFields? extensions (steps + 1) (depth + 1) (name.toList ++ ':' :: text) = some ([(name, item)], rest) := by
  rw [readFields?.eq_2, skip_name named, if_neg (head?_name_ne named _), if_neg (Nat.succ_ne_zero depth),
    readName?_colon named, Option.bind_eq_bind, Option.bind_some]
  dsimp only
  rw [skip_cons rfl (by decide)]
  change (readValue? extensions steps depth (skip text)).bind _ = _
  rw [solid, found, Option.bind_some]
  dsimp only
  rw [skipComma_stop (.inl rfl)]
  rfl

theorem readFields?_cons (found : readValue? extensions steps depth text = some (item, ',' :: rest)) :
    readFields? extensions (steps + 1) (depth + 1) (name.toList ++ ':' :: text) =
      (readFields? extensions steps (depth + 1) (skip rest)).map fun (fields, rest) => ((name, item) :: fields, rest) := by
  rw [readFields?.eq_2, skip_name named, if_neg (head?_name_ne named _), if_neg (Nat.succ_ne_zero depth),
    readName?_colon named, Option.bind_eq_bind, Option.bind_some]
  dsimp only
  rw [skip_cons rfl (by decide)]
  change (readValue? extensions steps depth (skip text)).bind _ = _
  rw [solid, found, Option.bind_some]
  dsimp only
  rw [skipComma_comma]
  dsimp only
  cases readFields? extensions steps (depth + 1) (skip rest) <;> rfl

end Field

/-- Behind a bracket, a name and a colon, the fields of a record are read. -/
theorem readBrackets?_name (named : isName name = true) (text : List Char) :
    readBrackets? extensions (steps + 1) (depth + 1) none (name.toList ++ ':' :: text) =
      (readFields? extensions steps depth (name.toList ++ ':' :: text)).map fun (fields, rest) =>
        (.record none fields, rest) := by
  have notEmpty : ∀ more, name.toList ++ ':' :: text ≠ ')' :: more := by
    intro more same
    exact head?_name_ne named (':' :: text) (by rw [same, List.head?_cons])
  rw [readBrackets?.eq_4 _ _ _ _ _ fun more _ => notEmpty more, if_pos (opensRecord_name named text)]

/-- The fields of a record are read back up to its closing bracket. -/
theorem readFields?_print {fields : List (String × Value)} (occupied : fields ≠ [])
    (named : ∀ field ∈ fields, isName field.1 = true) (legible : ∀ field ∈ fields, Legible depth field.2)
    (back : ∀ field ∈ fields, ReadsBack depth field.2) {rest : List Char}
    (enough : 3 * (commas (Value.printFields fields)).length < steps) :
    readFields? extensions steps (depth + 1) (commas (Value.printFields fields) ++ ')' :: rest) =
      some (fields, rest) := by
  obtain ⟨steps, rfl⟩ : ∃ fewer, steps = fewer + 1 := ⟨steps - 1, by omega⟩
  induction fields generalizing steps with
  | nil => exact absurd rfl occupied
  | cons field fields ih =>
    obtain ⟨name, item⟩ := field
    obtain ⟨firstNamed, othersNamed⟩ := List.forall_mem_cons.mp named
    obtain ⟨first, others⟩ := List.forall_mem_cons.mp legible
    obtain ⟨firstBack, othersBack⟩ := List.forall_mem_cons.mp back
    dsimp only at firstNamed first firstBack
    cases fields with
    | nil =>
      rw [Value.printFields, Value.printFields, commas_singleton] at enough ⊢
      rw [List.length_append, List.length_cons] at enough
      rw [List.append_assoc, List.cons_append]
      exact readFields?_last firstNamed (first.skip_print _) (firstBack (by omega) (stops_cons (by decide) rest))
    | cons next fields =>
      have textEq : commas (Value.printFields ((name, item) :: next :: fields)) =
          (name.toList ++ ':' :: item.print) ++ ',' :: commas (Value.printFields (next :: fields)) := commas_cons_cons ..
      simp only [textEq, List.length_append, List.length_cons] at enough
      rw [textEq, List.append_assoc, List.append_assoc, List.cons_append, List.cons_append]
      -- what is behind the comma begins with the next name, so no blank is skipped there
      have nextSolid : skip (commas (Value.printFields (next :: fields)) ++ ')' :: rest) =
          commas (Value.printFields (next :: fields)) ++ ')' :: rest := by
        obtain ⟨more, moreEq⟩ := exists_commas_cons (next.1.toList ++ ':' :: next.2.print) (Value.printFields fields)
        rw [Value.printFields, moreEq, List.append_assoc, List.append_assoc]
        exact skip_name (othersNamed next List.mem_cons_self) _
      obtain ⟨steps, rfl⟩ : ∃ fewer, steps = fewer + 1 := ⟨steps - 1, by omega⟩
      rw [readFields?_cons firstNamed (first.skip_print _) (firstBack (by omega) (stops_cons (by decide) _)), nextSolid,
        ih (List.cons_ne_nil _ _) othersNamed others othersBack steps (by omega)]
      rfl

/-! ## Values -/

/-- A legible value is read from its text, whatever follows the text, by three steps for each of its characters. -/
theorem Legible.readsBack (legible : Legible depth value) : ReadsBack depth value := by
  induction legible with
  | @natural depth number fits =>
    intro extensions steps rest enough stops
    have allDigits := Numeral.isDigit_of_mem_digits number
    have found := readNumber?_digits fits stops
    have printed : (Value.natural number).print = Numeral.digits 10 number := rfl
    rw [printed] at enough ⊢
    cases written : Numeral.digits 10 number with
    | nil => exact absurd written (Numeral.digits_ne_nil 10 number)
    | cons c more =>
      rw [written] at enough found allDigits
      obtain ⟨steps, rfl⟩ : ∃ fewer, steps = fewer + 1 := ⟨steps - 1, by simp only [List.length_cons] at enough; omega⟩
      rw [List.cons_append, readValue?_digit (allDigits c List.mem_cons_self)]
      exact found
  | @text depth content =>
    intro extensions steps rest enough stops
    have printed : (Value.text content).print = '"' :: (content.toList.flatMap escape ++ ['"']) := rfl
    rw [printed] at enough ⊢
    rw [List.length_cons] at enough
    obtain ⟨steps, rfl⟩ : ∃ fewer, steps = fewer + 1 := ⟨steps - 1, by omega⟩
    rw [List.cons_append, readValue?_quote, List.append_assoc, List.singleton_append, readQuoted?_flatMap_escape,
      Option.map_some]
    dsimp only
    rw [String.ofList_toList]
  | @absent depth =>
    intro extensions steps rest enough stops
    have legible : Legible depth .absent := .absent
    have someText : 0 < Value.absent.print.length := legible.length_print_pos
    obtain ⟨steps, rfl⟩ : ∃ fewer, steps = fewer + 1 := ⟨steps - 1, by omega⟩
    exact readValue?_absent stops
  | @present depth value inner ih =>
    intro extensions steps rest enough stops
    have printed : value.present.print = "Some(".toList ++ value.print ++ [')'] := rfl
    rw [printed] at enough ⊢
    simp only [List.length_append, List.length_singleton] at enough
    obtain ⟨steps, rfl⟩ : ∃ fewer, steps = fewer + 2 := ⟨steps - 2, by have := inner.length_print_pos; omega⟩
    rw [List.append_assoc, List.append_assoc, List.singleton_append, readValue?_present]
    unfold readOptional?
    change (readValue? extensions steps depth (skip (value.print ++ ')' :: rest))).bind _ = _
    rw [inner.skip_print, ih (by omega) (stops_cons (by decide) rest), Option.bind_some]
    dsimp only
    rw [skipComma_stop (.inl rfl)]
    rfl
  | @list depth items each ih =>
    intro extensions steps rest enough stops
    have printed : (Value.list items).print = '[' :: (commas (Value.printItems items) ++ [']']) := rfl
    rw [printed] at enough ⊢
    simp only [List.length_cons, List.length_append, List.length_nil] at enough
    obtain ⟨steps, rfl⟩ : ∃ fewer, steps = fewer + 1 := ⟨steps - 1, by omega⟩
    rw [List.cons_append, List.append_assoc, List.singleton_append, readValue?_list,
      readItems?_print each ih (by omega), Option.map_some]
  | @record depth fields occupied named each ih =>
    intro extensions steps rest enough stops
    have printed : (Value.record none fields).print = '(' :: (commas (Value.printFields fields) ++ [')']) := rfl
    rw [printed] at enough ⊢
    simp only [List.length_cons, List.length_append, List.length_nil] at enough
    obtain ⟨steps, rfl⟩ : ∃ fewer, steps = fewer + 2 := ⟨steps - 2, by omega⟩
    rw [List.cons_append, List.append_assoc,
      List.singleton_append, readValue?_brackets]
    -- the text of the fields begins with the first name and its colon
    obtain ⟨name, more, textEq, firstNamed⟩ : ∃ name more,
        commas (Value.printFields fields) ++ ')' :: rest = name.toList ++ ':' :: more ∧ isName name = true := by
      cases fields with
      | nil => exact absurd rfl occupied
      | cons field fields =>
        obtain ⟨more, moreEq⟩ := exists_commas_cons (field.1.toList ++ ':' :: field.2.print) (Value.printFields fields)
        refine ⟨field.1, field.2.print ++ (more ++ ')' :: rest), ?_, named field List.mem_cons_self⟩
        rw [Value.printFields, moreEq, List.append_assoc, List.append_assoc, List.cons_append]
    rw [textEq, readBrackets?_name firstNamed, ← textEq, readFields?_print occupied named each ih (by omega),
      Option.map_some]

/-- The text of a legible value is a document by itself, without attributes in front. -/
theorem read?_print (legible : Legible maxDepth value) : read? value.print = some ⟨{}, value⟩ := by
  have noBlank : skip value.print = value.print := by
    rw [← List.append_nil value.print, legible.skip_print]
  have attributeless : readAttributes? (value.print.length + 1) {} value.print = some ({}, value.print) := by
    obtain ⟨c, more, printed, opening⟩ := legible.exists_print
    have noMark : value.print.head? ≠ some '#' := by
      rw [printed, List.head?_cons]
      rintro ⟨⟩
      exact absurd opening (by decide)
    rw [readAttributes?, if_neg noMark]
  have found : readValue? {} (3 * value.print.length + 3) maxDepth value.print = some (value, []) := by
    have whole : readValue? {} (3 * value.print.length + 3) maxDepth (value.print ++ []) = some (value, []) :=
      legible.readsBack (by omega) stops_nil
    rwa [List.append_nil] at whole
  unfold read?
  rw [noBlank, attributeless, Option.bind_eq_bind, Option.bind_some]
  dsimp only
  rw [found]
  rfl

end CoopKernel.Ron
