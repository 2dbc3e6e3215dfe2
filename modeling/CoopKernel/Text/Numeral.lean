/-! # Numerals

Natural numbers written in a base up to sixteen, and read back. `ofDigits?_digits` says that reading
what was written gives the number again, and `digits` never writes a sign that is not a digit.
-/

namespace CoopKernel.Numeral

/-- The sign of a digit below sixteen; letters are small. -/
def sign (digit : Nat) : Char :=
  if digit < 10 then Char.ofNat (48 + digit) else Char.ofNat (87 + digit)

/-- The digits of a number, most significant first. Zero has one digit. -/
def digits (base number : Nat) : List Char :=
  if _big : 2 ≤ base ∧ base ≤ number then digits base (number / base) ++ [sign (number % base)]
  else [sign number]
termination_by number
decreasing_by exact Nat.div_lt_self (by omega) (by omega)

/-- The value of a sign as a digit; letters of either case count from ten. -/
def value? (c : Char) : Option Nat :=
  if '0' ≤ c ∧ c ≤ '9' then some (c.toNat - 48)
  else if 'a' ≤ c ∧ c ≤ 'f' then some (c.toNat - 87)
  else if 'A' ≤ c ∧ c ≤ 'F' then some (c.toNat - 55)
  else none

/-- The value of a sign as a digit of the given base. -/
def digit? (base : Nat) (c : Char) : Option Nat :=
  (value? c).filter (· < base)

/-- One more digit at the right end of a number read so far. -/
def push? (base : Nat) (number? : Option Nat) (c : Char) : Option Nat :=
  number?.bind fun number => (digit? base c).map (number * base + ·)

/-- The number that a run of digits denotes. The empty run denotes zero; a sign that is no digit of
the base denotes nothing. -/
def ofDigits? (base : Nat) (signs : List Char) : Option Nat :=
  signs.foldl (push? base) (some 0)

def decimal (number : Nat) : String := String.ofList (digits 10 number)

/-- An integer in base ten, with a sign only below zero. -/
def signed (number : Int) : String :=
  if number < 0 then "-" ++ decimal number.natAbs else decimal number.natAbs

/-- A number in base sixteen, marked as such. -/
def hex (number : Nat) : String := "0x" ++ String.ofList (digits 16 number)

/-- A number in base sixteen, filled with zeros to the given count of digits. -/
def paddedHex (width number : Nat) : String :=
  let signs := digits 16 number
  "0x" ++ String.ofList (List.replicate (width - signs.length) '0' ++ signs)

/-- A byte as exactly two digits of base sixteen. -/
def byte (b : UInt8) : List Char := [sign (b.toNat / 16), sign (b.toNat % 16)]

/-- What holds of the signs of all digits of a base holds of every sign of a written number. -/
theorem forall_mem_digits {base : Nat} (two : 2 ≤ base) {property : Char → Prop}
    (each : ∀ digit < base, property (sign digit)) (number : Nat) : ∀ c ∈ digits base number, property c := by
  intro c member
  rw [digits] at member
  split at member
  · rcases List.mem_append.mp member with leading | last
    · exact forall_mem_digits two each (number / base) c leading
    · rw [List.mem_singleton.mp last]
      exact each _ (Nat.mod_lt _ (by omega))
  · rw [List.mem_singleton.mp member]
    exact each _ (by omega)
termination_by number
decreasing_by exact Nat.div_lt_self (by omega) (by omega)

theorem isDigit_of_mem_digits (number : Nat) : ∀ c ∈ digits 10 number, c.isDigit = true :=
  forall_mem_digits (by decide) (by decide) number

theorem isAlphanum_of_mem_digits {base : Nat} (two : 2 ≤ base) (sixteen : base ≤ 16) (number : Nat) :
    ∀ c ∈ digits base number, c.isAlphanum = true := by
  refine forall_mem_digits two (fun digit small => ?_) number
  have every : ∀ d : Fin 16, (sign d.val).isAlphanum = true := by decide
  exact every ⟨digit, Nat.lt_of_lt_of_le small sixteen⟩

theorem isAlphanum_of_mem_decimal (number : Nat) : ∀ c ∈ (decimal number).toList, c.isAlphanum = true := by
  rw [decimal, String.toList_ofList]
  exact isAlphanum_of_mem_digits (by decide) (by decide) number

theorem isAlphanum_of_mem_paddedHex (width number : Nat) :
    ∀ c ∈ (paddedHex width number).toList, c.isAlphanum = true := by
  intro c member
  simp only [paddedHex, String.toList_append, String.toList_ofList, List.mem_append] at member
  rcases member with mark | filling | written
  · exact List.all_eq_true.mp (by decide : "0x".toList.all Char.isAlphanum = true) c mark
  · rw [List.eq_of_mem_replicate filling]
    decide
  · exact isAlphanum_of_mem_digits (by decide) (by decide) number c written

theorem hex_eq_paddedHex (number : Nat) : hex number = paddedHex 0 number := by
  rw [hex, paddedHex, Nat.zero_sub, List.replicate_zero, List.nil_append]

theorem isAlphanum_of_mem_hex (number : Nat) : ∀ c ∈ (hex number).toList, c.isAlphanum = true := by
  rw [hex_eq_paddedHex]
  exact isAlphanum_of_mem_paddedHex 0 number

theorem digits_ne_nil (base number : Nat) : digits base number ≠ [] := by
  rw [digits]
  split <;> simp

theorem digit?_sign {base digit : Nat} (small : digit < base) (sixteen : base ≤ 16) :
    digit? base (sign digit) = some digit := by
  have every : ∀ d : Fin 16, value? (sign d.val) = some d.val := by decide
  have here := every ⟨digit, by omega⟩
  simp only at here
  simp [digit?, here, Option.filter, small]

/-- Reading the digits that were written gives the number back. -/
theorem ofDigits?_digits {base : Nat} (two : 2 ≤ base) (sixteen : base ≤ 16) (number : Nat) :
    ofDigits? base (digits base number) = some number := by
  rw [digits]
  split
  · rename_i big
    have ih := ofDigits?_digits two sixteen (number / base)
    have below : number % base < base := Nat.mod_lt _ (by omega)
    simp only [ofDigits?, List.foldl_append, List.foldl_cons, List.foldl_nil] at ih ⊢
    rw [ih]
    simp only [push?, digit?_sign below sixteen, Option.bind_some, Option.map_some, Option.some.injEq]
    rw [Nat.mul_comm]
    exact Nat.div_add_mod number base
  · rename_i small
    have below : number < base := by omega
    simp [ofDigits?, push?, digit?_sign below sixteen]
termination_by number
decreasing_by exact Nat.div_lt_self (by omega) (by omega)

/-- Zeros in front of a number change nothing. -/
theorem ofDigits?_replicate (base zeros : Nat) (positive : 0 < base) (signs : List Char) :
    ofDigits? base (List.replicate zeros '0' ++ signs) = ofDigits? base signs := by
  have zero : digit? base '0' = some 0 := by simp [digit?, value?, Option.filter, positive]
  induction zeros with
  | zero => rfl
  | succ zeros ih =>
    have step : push? base (some 0) '0' = some 0 := by simp [push?, zero]
    rw [List.replicate_succ, List.cons_append, ofDigits?, List.foldl_cons, step]
    exact ih

end CoopKernel.Numeral
