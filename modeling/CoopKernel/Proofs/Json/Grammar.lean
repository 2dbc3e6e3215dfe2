import CoopKernel.Proofs.Json.Spelling

/-! # The texts of a JSON value

`Datum.Spells` relates a value to its texts: blanks may stand around every sign of an array or an object.
The reader takes each of these texts and answers with the value (`read?_of_spells`), so how a value is laid
out does not matter. The compact text is the one without blanks (`spellsMembers_print` for the members of an object).

The reader counts its steps. Two for each character are enough: a bracket takes one to open and one before
the first value behind it. The grammar is stricter than the reader where that is of no use here: numbers are
integers, and a text is written with the escapes that the printer uses.
-/

namespace CoopKernel.Datum

mutual

/-- A text of a value, without blanks around it. -/
inductive Spells : Datum → List Char → Prop where
  | null : Spells .null "null".toList
  | yes : Spells (.boolean true) "true".toList
  | no : Spells (.boolean false) "false".toList
  | integer (value : Int) : Spells (.integer value) (Numeral.signed value).toList
  | text (content : String) : Spells (.text content) (quote content.toList)
  | noItems {blanks : List Char} (blank : Blanks blanks) : Spells (.array []) ('[' :: (blanks ++ [']']))
  | array {blanks inner : List Char} {items : List Datum} (blank : Blanks blanks) (spelled : SpellsItems items inner) :
      Spells (.array items) ('[' :: (blanks ++ inner))
  | noMembers {blanks : List Char} (blank : Blanks blanks) : Spells (.object []) ('{' :: (blanks ++ ['}']))
  | object {blanks inner : List Char} {members : List (Option String × Datum)} (blank : Blanks blanks)
      (spelled : SpellsMembers members inner) : Spells (.object members) ('{' :: (blanks ++ inner))

/-- A text of items, from the first one up to the bracket behind the last one. -/
inductive SpellsItems : List Datum → List Char → Prop where
  | last {item : Datum} {text blanks : List Char} (spelled : Spells item text) (blank : Blanks blanks) :
      SpellsItems [item] (text ++ (blanks ++ [']']))
  | cons {item : Datum} {text before behind : List Char} {items : List Datum} {inner : List Char}
      (spelled : Spells item text) (blankBefore : Blanks before) (blankBehind : Blanks behind)
      (later : SpellsItems items inner) : SpellsItems (item :: items) (text ++ (before ++ ',' :: (behind ++ inner)))

/-- A text of members, from the first name up to the bracket behind the last value. -/
inductive SpellsMembers : List (Option String × Datum) → List Char → Prop where
  | last {name : String} {item : Datum} {before behind text blanks : List Char} (blankBefore : Blanks before)
      (blankBehind : Blanks behind) (spelled : Spells item text) (blank : Blanks blanks) :
      SpellsMembers [(some name, item)]
        (quote name.toList ++ (before ++ ':' :: (behind ++ (text ++ (blanks ++ ['}'])))))
  | cons {name : String} {item : Datum} {before behind text blanks next : List Char}
      {members : List (Option String × Datum)} {inner : List Char} (blankBefore : Blanks before)
      (blankBehind : Blanks behind) (spelled : Spells item text) (blank : Blanks blanks) (blankNext : Blanks next)
      (later : SpellsMembers members inner) :
      SpellsMembers ((some name, item) :: members)
        (quote name.toList ++ (before ++ ':' :: (behind ++ (text ++ (blanks ++ ',' :: (next ++ inner))))))

end

/-! ## The beginning of a value -/

/-- Whether a text of a value may begin with a sign. -/
def opensValue (c : Char) : Bool := c.isDigit || ['-', '"', '[', '{', 'n', 't', 'f'].contains c

theorem isBlank_of_opensValue {c : Char} (opening : opensValue c = true) : isBlank c = false := by
  refine Bool.eq_false_iff.mpr fun blank => ?_
  simp only [isBlank, Bool.or_eq_true, beq_iff_eq] at blank
  rcases blank with ((rfl | rfl) | rfl) | rfl
  · exact absurd opening (by decide)
  · exact absurd opening (by decide)
  · exact absurd opening (by decide)
  · exact absurd opening (by decide)

/-- The sign in front of an integer is a digit or a minus. -/
theorem exists_signed (value : Int) :
    ∃ c more, (Numeral.signed value).toList = c :: more ∧ (c.isDigit = true ∨ c = '-') := by
  unfold Numeral.signed
  split
  · exact ⟨'-', _, String.toList_append, .inr rfl⟩
  · rw [Numeral.decimal, String.toList_ofList]
    obtain ⟨c, more, written⟩ := List.exists_cons_of_ne_nil (Numeral.digits_ne_nil 10 value.natAbs)
    exact ⟨c, more, written, .inl (Numeral.isDigit_of_mem_digits value.natAbs c (by rw [written]; exact List.mem_cons_self))⟩

theorem Spells.exists_cons {datum : Datum} {text : List Char} (spelled : Spells datum text) :
    ∃ c more, text = c :: more ∧ opensValue c = true := by
  cases spelled with
  | null => exact ⟨'n', _, rfl, rfl⟩
  | yes => exact ⟨'t', _, rfl, rfl⟩
  | no => exact ⟨'f', _, rfl, rfl⟩
  | integer value =>
    obtain ⟨c, more, written, digit | rfl⟩ := exists_signed value
    · exact ⟨c, more, written, by rw [opensValue, digit, Bool.true_or]⟩
    · exact ⟨'-', more, written, rfl⟩
  | text content => exact ⟨'"', _, rfl, rfl⟩
  | noItems _ => exact ⟨'[', _, rfl, rfl⟩
  | array _ _ => exact ⟨'[', _, rfl, rfl⟩
  | noMembers _ => exact ⟨'{', _, rfl, rfl⟩
  | object _ _ => exact ⟨'{', _, rfl, rfl⟩

/-- What is behind a bracket begins with the first item, or with the quote of the first name. -/
theorem SpellsItems.exists_cons {items : List Datum} {text : List Char} (spelled : SpellsItems items text) :
    ∃ c more, text = c :: more ∧ opensValue c = true := by
  cases spelled with
  | last here _ =>
    obtain ⟨c, more, rfl, opening⟩ := here.exists_cons
    exact ⟨c, _, rfl, opening⟩
  | cons here _ _ _ =>
    obtain ⟨c, more, rfl, opening⟩ := here.exists_cons
    exact ⟨c, _, rfl, opening⟩

theorem SpellsMembers.exists_cons {members : List (Option String × Datum)} {text : List Char}
    (spelled : SpellsMembers members text) : ∃ more, text = '"' :: more := by
  cases spelled with
  | last _ _ _ _ => exact ⟨_, rfl⟩
  | cons _ _ _ _ _ _ => exact ⟨_, rfl⟩

/-! ## The reader in front of a value -/

section Steps

variable {bound : Nat} {item : Datum} {text after rest : List Char}

theorem readValue?_number {c : Char} (opening : c.isDigit = true ∨ c = '-') (rest : List Char) :
    readValue? (bound + 1) (c :: rest) = readNumber? (c :: rest) := by
  have apart : ∀ {d : Char}, d.isDigit = false → d ≠ '-' → c ≠ d := by
    rintro d noDigit noMinus rfl
    rcases opening with digit | minus
    · exact absurd digit (Bool.eq_false_iff.mp noDigit)
    · exact noMinus minus
  rw [readValue?.eq_3, if_neg (apart rfl (by decide)), if_neg (apart rfl (by decide)), if_neg (apart rfl (by decide)),
    if_neg (apart rfl (by decide)), if_neg (apart rfl (by decide)), if_neg (apart rfl (by decide))]

theorem readValue?_noItems (closed : skip text = ']' :: rest) :
    readValue? (bound + 1) ('[' :: text) = some (.array [], rest) := by
  rw [readValue?.eq_3, if_neg (by decide), if_pos rfl, closed]
  rfl

theorem readValue?_items {c : Char} (opening : opensValue c = true) (inner : skip text = c :: rest) :
    readValue? (bound + 1) ('[' :: text) =
      (readItems? bound (c :: rest)).map fun (items, rest) => (.array items, rest) := by
  rw [readValue?.eq_3, if_neg (by decide), if_pos rfl, inner]
  split
  · next same =>
    cases same
    exact absurd opening (by decide)
  · rfl

theorem readValue?_noMembers (closed : skip text = '}' :: rest) :
    readValue? (bound + 1) ('{' :: text) = some (.object [], rest) := by
  rw [readValue?.eq_3, if_neg (by decide), if_neg (by decide), if_pos rfl, closed]
  rfl

theorem readValue?_members (inner : skip text = '"' :: rest) :
    readValue? (bound + 1) ('{' :: text) =
      (readMembers? bound ('"' :: rest)).map fun (members, rest) => (.object members, rest) := by
  rw [readValue?.eq_3, if_neg (by decide), if_neg (by decide), if_pos rfl, inner]
  split
  · next same => cases same
  · rfl

theorem readItems?_last (found : readValue? bound text = some (item, after)) (closed : skip after = ']' :: rest) :
    readItems? (bound + 1) text = some ([item], rest) := by
  rw [readItems?.eq_2, found, Option.bind_eq_bind, Option.bind_some]
  dsimp only
  rw [closed]
  rfl

theorem readItems?_cons (found : readValue? bound text = some (item, after)) (comma : skip after = ',' :: rest) :
    readItems? (bound + 1) text = (readItems? bound (skip rest)).map fun (items, rest) => (item :: items, rest) := by
  rw [readItems?.eq_2, found, Option.bind_eq_bind, Option.bind_some]
  dsimp only
  rw [comma]
  change (readItems? bound (skip rest)).bind _ = _
  cases readItems? bound (skip rest) <;> rfl

variable {between behind : List Char} (name : String) (colon : skip between = ':' :: behind)
include colon

theorem readMembers?_last (found : readValue? bound (skip behind) = some (item, after))
    (closed : skip after = '}' :: rest) :
    readMembers? (bound + 1) (quote name.toList ++ between) = some ([(some name, item)], rest) := by
  obtain ⟨pieces, read, joined⟩ := exists_pieces name.toList between
  rw [quote, List.cons_append, List.append_assoc, List.singleton_append, readMembers?.eq_2, read, Option.bind_eq_bind,
    Option.bind_some]
  dsimp only
  rw [colon]
  change (readValue? bound (skip behind)).bind _ = _
  rw [found, Option.bind_some]
  dsimp only
  rw [closed, joined, Option.map_some, String.ofList_toList]
  rfl

theorem readMembers?_cons (found : readValue? bound (skip behind) = some (item, after))
    (comma : skip after = ',' :: rest) :
    readMembers? (bound + 1) (quote name.toList ++ between) =
      (readMembers? bound (skip rest)).map fun (members, rest) => ((some name, item) :: members, rest) := by
  obtain ⟨pieces, read, joined⟩ := exists_pieces name.toList between
  rw [quote, List.cons_append, List.append_assoc, List.singleton_append, readMembers?.eq_2, read, Option.bind_eq_bind,
    Option.bind_some]
  dsimp only
  rw [colon]
  change (readValue? bound (skip behind)).bind _ = _
  rw [found, Option.bind_some]
  dsimp only
  rw [comma, joined, Option.map_some, String.ofList_toList]
  change (readMembers? bound (skip rest)).bind _ = _
  cases readMembers? bound (skip rest) <;> rfl

end Steps

/-! ## Reading what is spelled -/

/-- The reader takes every spelled text for which a number of steps is enough, whatever follows it. -/
structure Reads (bound : Nat) : Prop where
  value : ∀ {datum : Datum} {text rest : List Char}, Spells datum text → Stops rest → 2 * text.length ≤ bound →
    readValue? bound (text ++ rest) = some (datum, rest)
  items : ∀ {items : List Datum} {text rest : List Char}, SpellsItems items text → 2 * text.length < bound →
    readItems? bound (text ++ rest) = some (items, rest)
  members : ∀ {members : List (Option String × Datum)} {text rest : List Char}, SpellsMembers members text →
    2 * text.length < bound → readMembers? bound (text ++ rest) = some (members, rest)

namespace Reads

variable {bound : Nat} (reads : Reads bound) {rest : List Char}

include reads

theorem value_succ {datum : Datum} {text : List Char} (spelled : Spells datum text) (stops : Stops rest)
    (enough : 2 * text.length ≤ bound + 1) : readValue? (bound + 1) (text ++ rest) = some (datum, rest) := by
  cases spelled with
  | null => rfl
  | yes => rfl
  | no => rfl
  | integer value =>
    have back := readNumber?_signed value stops
    obtain ⟨c, more, written, opening⟩ := exists_signed value
    rw [written, List.cons_append] at back ⊢
    rw [readValue?_number opening, back]
  | text content =>
    rw [quote, List.cons_append, List.append_assoc, List.singleton_append, readValue?.eq_3, if_pos rfl, readText?_quote,
      String.ofList_toList]
  | noItems blank =>
    rw [List.cons_append, List.append_assoc, List.singleton_append]
    exact readValue?_noItems (skip_blanks blank rfl rest)
  | @array blanks inner items blank inside =>
    have found : readItems? bound (inner ++ rest) = some (items, rest) :=
      reads.items inside (by simp only [List.length_cons, List.length_append] at enough; omega)
    obtain ⟨c, more, rfl, opening⟩ := inside.exists_cons
    rw [List.cons_append, List.append_assoc, List.cons_append,
      readValue?_items opening (skip_blanks blank (isBlank_of_opensValue opening) _)]
    rw [List.cons_append] at found
    rw [found, Option.map_some]
  | noMembers blank =>
    rw [List.cons_append, List.append_assoc, List.singleton_append]
    exact readValue?_noMembers (skip_blanks blank rfl rest)
  | @object blanks inner members blank inside =>
    have found : readMembers? bound (inner ++ rest) = some (members, rest) :=
      reads.members inside (by simp only [List.length_cons, List.length_append] at enough; omega)
    obtain ⟨more, rfl⟩ := inside.exists_cons
    rw [List.cons_append, List.append_assoc, List.cons_append, readValue?_members (skip_blanks blank rfl _)]
    rw [List.cons_append] at found
    rw [found, Option.map_some]

theorem items_succ {items : List Datum} {text : List Char} (spelled : SpellsItems items text)
    (enough : 2 * text.length < bound + 1) : readItems? (bound + 1) (text ++ rest) = some (items, rest) := by
  cases spelled with
  | @last item text blanks here blank =>
    simp only [List.length_append, List.length_cons, List.length_nil] at enough
    rw [List.append_assoc, List.append_assoc, List.singleton_append]
    exact readItems?_last (reads.value here (stops_blanks blank (stops_cons rfl rest)) (by omega))
      (skip_blanks blank rfl rest)
  | @cons item text before behind items inner here blankBefore blankBehind later =>
    simp only [List.length_append, List.length_cons] at enough
    obtain ⟨c, more, innerEq, opening⟩ := later.exists_cons
    have found : readItems? bound (inner ++ rest) = some (items, rest) := reads.items later (by omega)
    have solid : skip (behind ++ (inner ++ rest)) = inner ++ rest := by
      rw [innerEq, List.cons_append, skip_blanks blankBehind (isBlank_of_opensValue opening)]
    rw [List.append_assoc, List.append_assoc, List.cons_append, List.append_assoc,
      readItems?_cons (reads.value here (stops_blanks blankBefore (stops_cons rfl _)) (by omega))
        (skip_blanks blankBefore rfl _), solid, found]
    rfl

theorem members_succ {members : List (Option String × Datum)} {text : List Char} (spelled : SpellsMembers members text)
    (enough : 2 * text.length < bound + 1) : readMembers? (bound + 1) (text ++ rest) = some (members, rest) := by
  cases spelled with
  | @last name item before behind text blanks blankBefore blankBehind here blank =>
    simp only [List.length_append, List.length_cons, List.length_nil] at enough
    obtain ⟨c, more, textEq, opening⟩ := here.exists_cons
    have found : readValue? bound (text ++ (blanks ++ '}' :: rest)) = some (item, blanks ++ '}' :: rest) :=
      reads.value here (stops_blanks blank (stops_cons rfl rest)) (by omega)
    have solid : skip (behind ++ (text ++ (blanks ++ '}' :: rest))) = text ++ (blanks ++ '}' :: rest) := by
      rw [textEq, List.cons_append, skip_blanks blankBehind (isBlank_of_opensValue opening)]
    simp only [List.append_assoc, List.cons_append, List.nil_append]
    exact readMembers?_last name (skip_blanks blankBefore rfl _) (by rw [solid]; exact found)
      (skip_blanks blank rfl rest)
  | @cons name item before behind text blanks next members inner blankBefore blankBehind here blank blankNext later =>
    simp only [List.length_append, List.length_cons] at enough
    obtain ⟨c, more, textEq, opening⟩ := here.exists_cons
    obtain ⟨others, innerEq⟩ := later.exists_cons
    have found : readValue? bound (text ++ (blanks ++ ',' :: (next ++ (inner ++ rest)))) =
        some (item, blanks ++ ',' :: (next ++ (inner ++ rest))) :=
      reads.value here (stops_blanks blank (stops_cons rfl _)) (by omega)
    have solid : skip (behind ++ (text ++ (blanks ++ ',' :: (next ++ (inner ++ rest))))) =
        text ++ (blanks ++ ',' :: (next ++ (inner ++ rest))) := by
      rw [textEq, List.cons_append, skip_blanks blankBehind (isBlank_of_opensValue opening)]
    have nextSolid : skip (next ++ (inner ++ rest)) = inner ++ rest := by
      rw [innerEq, List.cons_append, skip_blanks blankNext rfl]
    have foundLater : readMembers? bound (inner ++ rest) = some (members, rest) := reads.members later (by omega)
    simp only [List.append_assoc, List.cons_append]
    rw [readMembers?_cons name (skip_blanks blankBefore rfl _) (by rw [solid]; exact found) (skip_blanks blank rfl _),
      nextSolid, foundLater]
    rfl

end Reads

/-- Induction on the steps: each reader takes one step and leaves the rest to the others. -/
theorem reads_of_bound (bound : Nat) : Reads bound := by
  induction bound with
  | zero =>
    refine ⟨fun spelled _ enough => ?_, fun _ enough => absurd enough (Nat.not_lt_zero _),
      fun _ enough => absurd enough (Nat.not_lt_zero _)⟩
    obtain ⟨c, more, rfl, -⟩ := spelled.exists_cons
    rw [List.length_cons] at enough
    omega
  | succ bound ih => exact ⟨ih.value_succ, ih.items_succ, ih.members_succ⟩

/-- A spelled text with blanks around it is read as its value. -/
theorem read?_of_spells {datum : Datum} {text before behind : List Char} (spelled : Spells datum text)
    (blankBefore : Blanks before) (blankBehind : Blanks behind) : read? (before ++ (text ++ behind)) = some datum := by
  obtain ⟨c, more, textEq, opening⟩ := spelled.exists_cons
  have solid : skip (before ++ (text ++ behind)) = text ++ behind := by
    rw [textEq, List.cons_append, skip_blanks blankBefore (isBlank_of_opensValue opening)]
  have stops : Stops behind := by
    have ends := stops_blanks blankBehind stops_nil
    rwa [List.append_nil] at ends
  have enough : 2 * text.length ≤ 2 * (before ++ (text ++ behind)).length + 2 := by
    simp only [List.length_append]
    omega
  have nothing : skip behind = [] := by
    have skipped := skip_append blankBehind []
    rwa [List.append_nil] at skipped
  unfold read?
  rw [solid, (reads_of_bound _).value spelled stops enough, Option.bind_eq_bind, Option.bind_some]
  dsimp only
  rw [nothing]
  rfl

/-! ## The compact text of an object -/

def membersOf (fields : List (String × Datum)) : List (Option String × Datum) :=
  fields.map fun (name, item) => (some name, item)

/-- The members of an object are spelled compactly as they are printed. -/
theorem spellsMembers_print {fields : List (String × Datum)} (occupied : fields ≠ [])
    (spelled : ∀ field ∈ fields, Spells field.2 field.2.print) :
    SpellsMembers (membersOf fields) (commas (printMembers (membersOf fields)) ++ ['}']) := by
  induction fields with
  | nil => exact absurd rfl occupied
  | cons field fields ih =>
    obtain ⟨name, item⟩ := field
    obtain ⟨first, others⟩ := List.forall_mem_cons.mp spelled
    cases fields with
    | nil =>
      have text : commas (printMembers (membersOf [(name, item)])) ++ ['}'] =
          quote name.toList ++ ([] ++ ':' :: ([] ++ (item.print ++ ([] ++ ['}'])))) := by
        simp [commas, printMembers, membersOf]
      rw [text]
      exact .last blanks_nil blanks_nil first blanks_nil
    | cons next fields =>
      have later := ih (List.cons_ne_nil _ _) others
      have text : commas (printMembers (membersOf ((name, item) :: next :: fields))) ++ ['}'] =
          quote name.toList ++ ([] ++ ':' :: ([] ++ (item.print ++ ([] ++ ',' :: ([] ++
            (commas (printMembers (membersOf (next :: fields))) ++ ['}'])))))) := by
        simp [commas, printMembers, membersOf, List.intercalate_cons_cons]
      rw [text]
      exact .cons blanks_nil blanks_nil first blanks_nil blanks_nil later

end CoopKernel.Datum
