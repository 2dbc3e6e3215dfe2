import Mathlib.Algebra.Ring.Nat
import Mathlib.Data.List.TakeDrop
import CoopKernel.Ron.Lexical
import CoopKernel.Ron.Value

/-! # What is written is read: the smallest parts

Names, numbers and quoted texts are taken off the front of a text again as they were written, whatever
follows them. A number ends where something follows that no number goes on with; behind a value that is
a comma or the bracket that closes the values around it (`Stops`). A quoted text ends by itself: no
escape writes a quote (`readQuoted?_flatMap_escape`).
-/

namespace CoopKernel

/-- A run of characters of one kind comes off the front of a text that does not go on with the kind. -/
theorem span_append {kind : Char → Bool} {run rest : List Char} (inside : ∀ c ∈ run, kind c = true)
    (outside : ∀ c ∈ rest.head?, kind c = false) : (run ++ rest).span kind = (run, rest) := by
  have nothing : rest.takeWhile kind = [] ∧ rest.dropWhile kind = rest := by
    cases rest with
    | nil => exact ⟨rfl, rfl⟩
    | cons c _ => simp [outside c rfl]
  rw [List.span_eq_takeWhile_dropWhile, List.takeWhile_append_of_pos inside, List.dropWhile_append_of_pos inside,
    nothing.1, nothing.2, List.append_nil]

/-- A number below a power of the base has no more digits than the exponent says. -/
theorem Numeral.length_digits_le {base : Nat} (two : 2 ≤ base) {width : Nat} (positive : 0 < width) {number : Nat}
    (below : number < base ^ width) : (digits base number).length ≤ width := by
  rw [digits]
  split
  · next big =>
    obtain ⟨shorter, rfl⟩ : ∃ shorter, width = shorter + 1 := ⟨width - 1, by omega⟩
    have quotient : number / base < base ^ shorter := Nat.div_lt_of_lt_mul (by rwa [Nat.mul_comm, ← Nat.pow_succ])
    have left : 0 < shorter := by
      refine Nat.pos_of_ne_zero ?_
      rintro rfl
      rw [Nat.zero_add, Nat.pow_one] at below
      omega
    have fewer := length_digits_le two left quotient
    simp only [List.length_append, List.length_singleton]
    omega
  · exact positive
termination_by number
decreasing_by exact Nat.div_lt_self (by omega) (by omega)

namespace Ron

/-- What may follow a value that others surround. -/
def stopSigns : List Char := [',', ')', ']']

/-- Nothing follows, or a character that belongs to no value. -/
def Stops (rest : List Char) : Prop := ∀ c ∈ rest.head?, c ∈ stopSigns

/-- Nothing follows, or a character that is not of a kind to which no such sign belongs. -/
theorem Stops.outside {rest : List Char} {kind : Char → Bool} (apart : stopSigns.any kind = false) (stops : Stops rest) :
    ∀ c ∈ rest.head?, kind c = false := fun c first =>
  Bool.eq_false_iff.mpr (List.any_eq_false.mp apart c (stops c first))

theorem stops_nil : Stops [] := by
  rintro c ⟨⟩

theorem stops_cons {c : Char} (isStop : c ∈ stopSigns) (rest : List Char) : Stops (c :: rest) := by
  rintro _ ⟨⟩
  exact isStop

/-- No blank and no comment is in front of a text that begins with another sign. -/
theorem skip_cons {c : Char} (solid : isBlank c = false) (noSlash : c ≠ '/') (rest : List Char) :
    skip (c :: rest) = c :: rest := by
  have nothing : skipOne? (c :: rest) = none := by
    unfold skipOne?
    split
    · next same => exact absurd (List.cons.inj same).1 noSlash
    · next same => exact absurd (List.cons.inj same).1 noSlash
    · next same =>
      cases same
      rw [solid]
      rfl
    · rfl
  rw [skip, List.length_cons, skipUpTo, nothing]

/-- No blank and no comment is in front of a text that begins with a sign of a kind to which no such sign belongs. -/
theorem skip_of_kind {kind : Char → Bool} (apart : [' ', '\t', '\n', '\r', '/'].any kind = false) {c : Char}
    (isKind : kind c = true) (rest : List Char) : skip (c :: rest) = c :: rest := by
  have notIn : c ∉ [' ', '\t', '\n', '\r', '/'] := fun member => List.any_eq_false.mp apart c member isKind
  simp only [List.mem_cons, List.not_mem_nil, not_or] at notIn
  obtain ⟨noSpace, noTab, noNewline, noReturn, noSlash, -⟩ := notIn
  exact skip_cons (by simp [isBlank, noSpace, noTab, noNewline, noReturn]) noSlash rest

/-! ## Numbers -/

/-- The sign behind the first of a written number is another digit, or stops the number. -/
theorem isDigit_or_stop {number : Nat} {rest tail : List Char} {first second : Char} (stops : Stops rest)
    (same : Numeral.digits 10 number ++ rest = first :: second :: tail) :
    second.isDigit = true ∨ second ∈ stopSigns := by
  have allDigits := Numeral.isDigit_of_mem_digits number
  cases written : Numeral.digits 10 number with
  | nil => exact absurd written (Numeral.digits_ne_nil 10 number)
  | cons c others =>
    rw [written] at same allDigits
    obtain ⟨-, tailEq⟩ := List.cons.inj same
    cases others with
    | nil => exact .inr (stops second (by rw [show rest = second :: tail from tailEq]; rfl))
    | cons d others =>
      cases tailEq
      exact .inl (allDigits second (by simp))

/-- A number in base ten is read back. -/
theorem readNatural?_digits {rest : List Char} (stops : Stops rest) (number : Nat) :
    readNatural? (Numeral.digits 10 number ++ rest) = some (number, rest) := by
  have inside : ∀ c ∈ Numeral.digits 10 number, (extendsNatural c && c != '_') = true :=
    Numeral.forall_mem_digits (by decide) (by decide) number
  have outside : ∀ c ∈ rest.head?, extendsNatural c = false := stops.outside (by decide)
  have cut := span_append (fun c member => (Bool.and_eq_true_iff.mp (inside c member)).1) outside
  have whole : (Numeral.digits 10 number).filter (· != '_') = Numeral.digits 10 number :=
    List.filter_eq_self.mpr fun c member => (Bool.and_eq_true_iff.mp (inside c member)).2
  have noSpacer : (Numeral.digits 10 number).head? ≠ some '_' := by
    intro first
    exact absurd (inside '_' (List.mem_of_mem_head? first)) (by decide)
  unfold readNatural?
  split
  -- no digit and no stop sign is the mark of another base
  · next same => exact absurd (isDigit_or_stop stops same) (by decide)
  · next same => exact absurd (isDigit_or_stop stops same) (by decide)
  · next same => exact absurd (isDigit_or_stop stops same) (by decide)
  · rw [readInBase?, cut]
    dsimp only
    rw [if_neg (by simp [Numeral.digits_ne_nil, noSpacer]), whole, Numeral.ofDigits?_digits (by decide) (by decide),
      Option.map_some]

/-! ## Texts between quotes -/

theorem readNumbered?_append {run : List Char} (noBrace : ∀ c ∈ run, c ≠ '\x7d') (digits rest : List Char) :
    readNumbered? digits (run ++ rest) = readNumbered? (digits ++ run) rest := by
  induction run generalizing digits with
  | nil => rw [List.nil_append, List.append_nil]
  | cons c run ih =>
    rw [List.cons_append, readNumbered?.eq_2 _ _ _ (noBrace c List.mem_cons_self),
      ih fun d member => noBrace d (List.mem_cons_of_mem c member), List.append_assoc, List.singleton_append]

/-- Six digits of base sixteen are enough for the number of any character. -/
theorem numbered?_digits (c : Char) : numbered? (Numeral.digits 16 c.toNat) = some c := by
  have bound : c.toNat < 16 ^ 6 := by
    rcases c.valid with low | ⟨-, high⟩
    · exact Nat.lt_trans low (by decide)
    · exact Nat.lt_trans high (by decide)
  have short : (Numeral.digits 16 c.toNat).length ≤ 6 := Numeral.length_digits_le (by decide) (by decide) bound
  rw [numbered?, Numeral.ofDigits?_digits (by decide) (by decide), Option.bind_eq_bind, Option.bind_some, if_neg,
    Char.ofNat_toNat]
  rintro (empty | long | invalid)
  · exact Numeral.digits_ne_nil 16 c.toNat (List.isEmpty_iff.mp empty)
  · exact Nat.not_lt.mpr short long
  · exact invalid c.valid

theorem readQuoted?_letter {letter c : Char} (known : unescape? letter = some c) (text : List Char) :
    readQuoted? ('\\' :: letter :: text) = (readQuoted? text).map fun (content, rest) => (c :: content, rest) := by
  have notHex : letter ≠ 'x' := by
    rintro rfl
    cases known
  have notNumbered : letter ≠ 'u' := by
    rintro rfl
    cases known
  rw [readQuoted?.eq_4 letter text (fun _ _ _ same _ => notHex same) (fun _ same _ => notNumbered same), known]
  cases readQuoted? text <;> rfl

/-- An escaped character is read as the one that it stands for. -/
theorem readQuoted?_escape (c : Char) (text : List Char) :
    readQuoted? (escape c ++ text) = (readQuoted? text).map fun (content, rest) => (c :: content, rest) := by
  unfold escape
  split_ifs with isNul isTab isReturn isNewline isQuote visible
  · exact readQuoted?_letter (isNul ▸ rfl) text
  · exact readQuoted?_letter (isTab ▸ rfl) text
  · exact readQuoted?_letter (isReturn ▸ rfl) text
  · exact readQuoted?_letter (isNewline ▸ rfl) text
  · rcases isQuote with rfl | rfl | rfl
    · exact readQuoted?_letter rfl text
    · exact readQuoted?_letter rfl text
    · exact readQuoted?_letter rfl text
  · have notQuote : c ≠ '"' := fun same => isQuote (.inr (.inl same))
    have notBackslash : c ≠ '\\' := fun same => isQuote (.inr (.inr same))
    rw [List.singleton_append, readQuoted?.eq_5 c text notQuote (fun _ _ _ same _ => notBackslash same)
      (fun _ same _ => notBackslash same) (fun _ _ same _ => notBackslash same), if_neg notBackslash]
    cases readQuoted? text <;> rfl
  · have noBrace : ∀ d ∈ Numeral.digits 16 c.toNat, d ≠ '\x7d' :=
      Numeral.forall_mem_digits (by decide) (by decide) c.toNat
    simp only [escapeNumber, List.cons_append, List.append_assoc, List.nil_append]
    rw [readQuoted?.eq_3, readNumbered?_append noBrace, List.nil_append, readNumbered?.eq_1, numbered?_digits]
    cases readQuoted? text <;> rfl

/-- A text between quotes is read back, and nothing behind its closing quote. -/
theorem readQuoted?_flatMap_escape (content rest : List Char) :
    readQuoted? (content.flatMap escape ++ '"' :: rest) = some (content, rest) := by
  induction content with
  | nil => rfl
  | cons c content ih =>
    rw [List.flatMap_cons, List.append_assoc, readQuoted?_escape, ih]
    rfl

/-! ## Names -/

/-- Whether a text can be the name of a field as it is. -/
def isName (name : String) : Bool :=
  match name.toList with
  | c :: rest => opensName c && rest.all extendsName
  | [] => false

theorem exists_toList_of_isName {name : String} (named : isName name = true) :
    ∃ c run, name.toList = c :: run ∧ opensName c = true ∧ ∀ d ∈ run, extendsName d = true := by
  unfold isName at named
  split at named
  · next c run spelled =>
    obtain ⟨opening, inside⟩ := Bool.and_eq_true_iff.mp named
    exact ⟨c, run, spelled, opening, List.all_eq_true.mp inside⟩
  · cases named

/-- A name in front of a colon is read back. -/
theorem readName?_colon {name : String} (named : isName name = true) (rest : List Char) :
    readName? (name.toList ++ ':' :: rest) = some (name, ':' :: rest) := by
  obtain ⟨c, run, spelled, opening, inside⟩ := exists_toList_of_isName named
  have cut : (run ++ ':' :: rest).span extendsName = (run, ':' :: rest) :=
    span_append inside (by rintro _ ⟨⟩; decide)
  -- what is behind the first character goes on with the name or is the colon, so it marks no raw text
  have onward : ∀ {d tail}, run ++ ':' :: rest = d :: tail → extendsName d = true ∨ d = ':' := by
    intro d tail same
    cases run with
    | nil => exact .inr (List.cons.inj same).1.symm
    | cons e run => exact .inl ((List.cons.inj same).1 ▸ inside e List.mem_cons_self)
  have whole : String.ofList (c :: run) = name := by rw [← spelled, String.ofList_toList]
  rw [spelled, List.cons_append]
  unfold readName?
  split
  · next same => exact absurd (onward (List.cons.inj same).2) (by decide)
  · next same => exact absurd (onward (List.cons.inj same).2) (by decide)
  · next same =>
    cases same
    rw [if_pos opening, cut]
    dsimp only
    rw [show (':' :: rest).head?.any extendsRawName = false from rfl, if_neg Bool.false_ne_true, whole]
  · next same => cases same

end Ron

end CoopKernel
