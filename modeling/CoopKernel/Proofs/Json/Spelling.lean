import CoopKernel.Json.Reader
import CoopKernel.Proofs.Ron.Spelling

/-! # The smallest parts of JSON texts

Blanks, whole numbers and texts between quotes come off the front of a text as they were written, whatever
follows them. A number ends where something follows that no number goes on with (`Stops`); in a JSON text
that is a blank, a comma or a closing bracket. A written number has no superfluous zero in front
(`Numeral.head?_digits`), which the reader would not take.
-/

namespace CoopKernel

/-- Only zero is written with a zero in front. -/
theorem Numeral.head?_digits {base : Nat} (two : 2 ≤ base) (sixteen : base ≤ 16) {number : Nat}
    (zero : (digits base number).head? = some '0') : number = 0 := by
  rw [digits] at zero
  split at zero
  · next big =>
    obtain ⟨c, more, written⟩ := List.exists_cons_of_ne_nil (digits_ne_nil base (number / base))
    rw [written] at zero
    have quotient : number / base = 0 := head?_digits two sixteen (by rw [written]; exact zero)
    have positive : 0 < number / base := Nat.div_pos big.2 (by omega)
    omega
  · next small =>
    have every : ∀ digit : Fin 16, sign digit.val = '0' → digit.val = 0 := by decide
    exact every ⟨number, by omega⟩ (Option.some.inj zero)
termination_by number
decreasing_by exact Nat.div_lt_self (by omega) (by omega)

namespace Datum

/-! ## Blanks -/

def Blanks (text : List Char) : Prop := ∀ c ∈ text, isBlank c = true

theorem blanks_nil : Blanks [] := List.forall_mem_nil _

theorem skip_append {blanks : List Char} (blank : Blanks blanks) (text : List Char) :
    skip (blanks ++ text) = skip text := List.dropWhile_append_of_pos blank

theorem skip_cons {c : Char} (solid : isBlank c = false) (rest : List Char) : skip (c :: rest) = c :: rest :=
  List.dropWhile_cons_of_neg (by rw [solid]; exact Bool.false_ne_true)

/-- Blanks in front of a sign that is none are skipped, and nothing more. -/
theorem skip_blanks {blanks : List Char} (blank : Blanks blanks) {c : Char} (solid : isBlank c = false)
    (rest : List Char) : skip (blanks ++ c :: rest) = c :: rest := by
  rw [skip_append blank, skip_cons solid]

/-! ## Numbers -/

/-- Whether a number may go on with a sign behind its first digits. -/
def extendsNumber (c : Char) : Bool := c.isDigit || ['.', 'e', 'E'].contains c

/-- What follows goes on with no number. -/
def Stops (rest : List Char) : Prop := ∀ c ∈ rest.head?, extendsNumber c = false

theorem stops_nil : Stops [] := by
  rintro c ⟨⟩

theorem stops_cons {c : Char} (stop : extendsNumber c = false) (rest : List Char) : Stops (c :: rest) := by
  rintro _ ⟨⟩
  exact stop

/-- Blanks in front of what stops a number stop it as well. -/
theorem stops_blanks {blanks rest : List Char} (blank : Blanks blanks) (stops : Stops rest) : Stops (blanks ++ rest) := by
  cases blanks with
  | nil => exact stops
  | cons c more =>
    refine stops_cons ?_ _
    have isBlankSign := blank c List.mem_cons_self
    simp only [isBlank, Bool.or_eq_true, beq_iff_eq] at isBlankSign
    rcases isBlankSign with ((rfl | rfl) | rfl) | rfl
    · decide
    · decide
    · decide
    · decide

theorem readDigits?_digits {rest : List Char} (stops : Stops rest) (number : Nat) :
    readDigits? (Numeral.digits 10 number ++ rest) = some (Numeral.digits 10 number, rest) := by
  have outside : ∀ c ∈ rest.head?, c.isDigit = false := fun c first =>
    (Bool.or_eq_false_iff.mp (stops c first)).1
  have cut := span_append (Numeral.isDigit_of_mem_digits number) outside
  unfold readDigits?
  rw [cut]
  simp [Numeral.digits_ne_nil]

theorem readFraction?_of_stops {rest : List Char} (stops : Stops rest) : readFraction? rest = some ([], rest) := by
  unfold readFraction?
  split
  · exact absurd (stops '.' rfl) (by decide)
  · rfl

theorem readExponent?_of_stops {rest : List Char} (stops : Stops rest) : readExponent? rest = some ([], rest) := by
  unfold readExponent?
  split
  · next c rest =>
    refine if_neg ?_
    rintro (rfl | rfl)
    · exact absurd (stops 'e' rfl) (by decide)
    · exact absurd (stops 'E' rfl) (by decide)
  · rfl

/-- The digits of a number are read as an integer, unless a sign stands in front of zero. -/
theorem readUnsigned?_digits {negative : Bool} {number : Nat} (signed : negative = true → number ≠ 0)
    {rest : List Char} (stops : Stops rest) :
    readUnsigned? negative (Numeral.digits 10 number ++ rest) =
      some (.integer (if negative then -(number : Int) else number), rest) := by
  have short : ¬((Numeral.digits 10 number).head? = some '0' ∧ 1 < (Numeral.digits 10 number).length) := by
    rintro ⟨zero, long⟩
    rw [Numeral.head?_digits (by decide) (by decide) zero] at long
    exact absurd long (by decide +kernel)
  have value : Numeral.ofDigits? 10 (Numeral.digits 10 number) = some number :=
    Numeral.ofDigits?_digits (by decide) (by decide) number
  have whole : ¬(negative = true ∧ number = 0) := fun both => signed both.1 both.2
  unfold readUnsigned?
  simp only [readDigits?_digits stops, readFraction?_of_stops stops, readExponent?_of_stops stops, value,
    Option.bind_eq_bind, Option.bind_some, if_neg short, List.isEmpty_nil, whole, not_false_eq_true, and_self, if_true]

/-- An integer is read from its digits and its sign. -/
theorem readNumber?_signed (value : Int) {rest : List Char} (stops : Stops rest) :
    readNumber? ((Numeral.signed value).toList ++ rest) = some (.integer value, rest) := by
  unfold Numeral.signed
  split
  · next negative =>
    have text : ("-" ++ Numeral.decimal value.natAbs).toList = '-' :: Numeral.digits 10 value.natAbs := by
      rw [String.toList_append, Numeral.decimal, String.toList_ofList, String.toList_ofList, List.singleton_append]
    have back := readUnsigned?_digits (fun _ : true = true => (by omega : value.natAbs ≠ 0)) stops
    rw [text, List.cons_append, readNumber?, back, if_pos rfl]
    congr 3
    omega
  · next natural =>
    have noSign : ∀ more, Numeral.digits 10 value.natAbs ++ rest ≠ '-' :: more := by
      intro more same
      obtain ⟨c, others, written⟩ := List.exists_cons_of_ne_nil (Numeral.digits_ne_nil 10 value.natAbs)
      have digit := Numeral.isDigit_of_mem_digits value.natAbs c (by rw [written]; exact List.mem_cons_self)
      rw [written] at same
      cases same
      exact absurd digit (by decide)
    have unsigned : false = true → value.natAbs ≠ 0 := fun impossible => absurd impossible Bool.false_ne_true
    rw [Numeral.decimal, String.toList_ofList, readNumber?.eq_2 _ noSign, readUnsigned?_digits unsigned stops,
      if_neg Bool.false_ne_true]
    congr 3
    omega

/-! ## Texts between quotes -/

/-- A unit that is half of no pair is a character by itself, whatever follows it. -/
theorem join?_unit {value : Nat} (whole : value < 0xd800) (pieces : List TextPiece) :
    join? (.unit value :: pieces) = (join? pieces).map (Char.ofNat value :: ·) := by
  have notHigh : isHigh value = false := by
    rw [isHigh, Bool.and_eq_false_iff, decide_eq_false_iff_not]
    exact .inl (Nat.not_le.mpr whole)
  have notLow : isLow value = false := by
    rw [isLow, Bool.and_eq_false_iff, decide_eq_false_iff_not]
    exact .inl (by omega)
  by_cases paired : ∃ low rest, pieces = .unit low :: rest
  · obtain ⟨low, rest, rfl⟩ := paired
    rw [join?.eq_3, notHigh, notLow, if_neg Bool.false_ne_true, if_neg Bool.false_ne_true]
  · rw [join?.eq_4 value pieces fun low rest same => paired ⟨low, rest, same⟩, notHigh, notLow, Bool.or_self,
      if_neg Bool.false_ne_true]

/-- A character is read from its escape as one piece, which stands for the character. -/
structure Denotes (piece : TextPiece) (c : Char) : Prop where
  read : ∀ text, pieces? (escape c ++ text) = (pieces? text).map fun (pieces, rest) => (piece :: pieces, rest)
  join : ∀ pieces, join? (piece :: pieces) = (join? pieces).map (c :: ·)

theorem denotes_of_letter {letter c : Char} (known : unescape? letter = some c) (escaped : escape c = ['\\', letter]) :
    Denotes (.plain c) c := by
  have notUnit : letter ≠ 'u' := by
    rintro rfl
    cases known
  refine ⟨fun text => ?_, fun pieces => join?.eq_2 c pieces⟩
  rw [escaped, List.cons_append, List.singleton_append, pieces?.eq_3 letter text fun _ _ _ _ _ same _ => notUnit same, known]
  cases pieces? text <;> rfl

theorem unit?_escapeUnit {value : Nat} (small : value < 32) :
    unit? (Numeral.sign (value / 4096 % 16)) (Numeral.sign (value / 256 % 16)) (Numeral.sign (value / 16 % 16))
      (Numeral.sign (value % 16)) = some value := by
  have every : ∀ control : Fin 32, unit? (Numeral.sign (control.val / 4096 % 16)) (Numeral.sign (control.val / 256 % 16))
      (Numeral.sign (control.val / 16 % 16)) (Numeral.sign (control.val % 16)) = some control.val := by decide
  exact every ⟨value, small⟩

theorem exists_denotes (c : Char) : ∃ piece, Denotes piece c := by
  by_cases lettered : c ∈ ['"', '\\', '\n', '\r', '\t', '\x08', '\x0c']
  · simp only [List.mem_cons, List.not_mem_nil, or_false] at lettered
    rcases lettered with rfl | rfl | rfl | rfl | rfl | rfl | rfl
    · exact ⟨_, denotes_of_letter rfl rfl⟩
    · exact ⟨_, denotes_of_letter rfl rfl⟩
    · exact ⟨_, denotes_of_letter rfl rfl⟩
    · exact ⟨_, denotes_of_letter rfl rfl⟩
    · exact ⟨_, denotes_of_letter rfl rfl⟩
    · exact ⟨_, denotes_of_letter rfl rfl⟩
    · exact ⟨_, denotes_of_letter rfl rfl⟩
  · simp only [List.mem_cons, List.not_mem_nil, or_false, not_or] at lettered
    obtain ⟨noQuote, noBackslash, noNewline, noReturn, noTab, noBackspace, noFeed⟩ := lettered
    by_cases control : c.toNat < 32
    · have escaped : escape c = escapeUnit c.toNat := by
        simp only [escape, noQuote, noBackslash, noNewline, noReturn, noTab, noBackspace, noFeed, control, if_true, if_false]
      refine ⟨.unit c.toNat, fun text => ?_, fun pieces => ?_⟩
      · rw [escaped, escapeUnit]
        simp only [List.cons_append, List.nil_append]
        rw [pieces?.eq_2, unit?_escapeUnit control]
        cases pieces? text <;> rfl
      · rw [join?_unit (by omega), Char.ofNat_toNat]
    · have escaped : escape c = [c] := by
        simp only [escape, noQuote, noBackslash, noNewline, noReturn, noTab, noBackspace, noFeed, control, if_false]
      refine ⟨.plain c, fun text => ?_, fun pieces => join?.eq_2 c pieces⟩
      rw [escaped, List.singleton_append, pieces?.eq_4 c text noQuote (fun _ _ _ _ _ same _ => noBackslash same)
        (fun _ _ same _ => noBackslash same), if_neg (not_or.mpr ⟨control, noBackslash⟩)]
      cases pieces? text <;> rfl

/-- A text between quotes is read back, and nothing behind its closing quote. -/
theorem exists_pieces (content rest : List Char) :
    ∃ pieces, pieces? (content.flatMap escape ++ '"' :: rest) = some (pieces, rest) ∧ join? pieces = some content := by
  induction content with
  | nil => exact ⟨[], pieces?.eq_1 rest, rfl⟩
  | cons c content ih =>
    obtain ⟨pieces, found, joined⟩ := ih
    obtain ⟨piece, denotes⟩ := exists_denotes c
    refine ⟨piece :: pieces, ?_, ?_⟩
    · rw [List.flatMap_cons, List.append_assoc, denotes.read, found]
      rfl
    · rw [denotes.join, joined]
      rfl

theorem readText?_quote (content rest : List Char) :
    readText? (content.flatMap escape ++ '"' :: rest) = some (.text (String.ofList content), rest) := by
  obtain ⟨pieces, found, joined⟩ := exists_pieces content rest
  rw [readText?, found, Option.map_some]
  dsimp only
  rw [joined]

end Datum

end CoopKernel
