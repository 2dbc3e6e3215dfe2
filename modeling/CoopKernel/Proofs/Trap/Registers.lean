import CoopKernel.Proofs.Kernel.Trapping

/-! # What the registers of a host task mean

On the host, four registers carry the arguments of a call in and its results out. `HostContext.Asks`
says which call registers ask for, in terms of the words in them; registers that ask for none have a
number past the last call (`asks_call`, `exceeds_of_ofNumber?`). The other way, `HostContext.Reads` says
which answer a task reads in its registers, and `reads_shownIn` that it reads the one that the kernel
showed it, whatever the width of a message is.
-/

namespace CoopKernel

variable {width : Width} {n : Nat}

theorem Syscall.number_of_ofNumber? {number : UInt32} {syscall : Syscall}
    (found : Syscall.ofNumber? number = some syscall) : syscall.number = number := by
  have matched := List.find?_some (show Syscall.all.find? (·.number == number) = some syscall from found)
  exact beq_iff_eq.mp matched

theorem Syscall.exceeds_of_ofNumber? {number : UInt32} (unknown : Syscall.ofNumber? number = none) : 4 < number := by
  have others (syscall : Syscall) : syscall.number ≠ number := by
    have member : syscall ∈ Syscall.all := by cases syscall <;> decide
    simpa using List.find?_eq_none.mp unknown syscall member
  have wait := others .wait
  have yield := others .yield
  have send := others .send
  have receive := others .receive
  have exit := others .exit
  simp only [Syscall.number, ne_eq, ← UInt32.toNat_inj, UInt32.reduceToNat] at wait yield send receive exit
  rw [UInt32.lt_iff_toNat_lt, show (4 : UInt32).toNat = 4 from rfl]
  omega

namespace HostContext

/-- The task that a word names as a receiver: the word is the id as a signed number, and a number that does not fit an
id names nobody. -/
structure Names (word : UInt32) (id : TaskId) : Prop where
  fits : -128 ≤ word.toInt32.toInt → word.toInt32.toInt ≤ 127 → id.val.toInt = word.toInt32.toInt
  exceeds : word.toInt32.toInt < -128 ∨ 127 < word.toInt32.toInt → id = TaskId.nobody

theorem names_idOfWord (word : UInt32) : Names word (Registers.idOfWord word) := by
  constructor
  · intro low high
    rw [Registers.idOfWord, if_pos ⟨low, high⟩]
    exact Int8.toInt_ofInt_of_le low (by omega)
  · intro outside
    rw [Registers.idOfWord, if_neg]
    omega

/-- The direct call that registers ask for. -/
inductive Asks (saved : HostContext) : Call width → Prop
  | wait (number : saved.number = 0) : Asks saved (.wait ⟨saved.registers.get 0⟩)
  | yield (number : saved.number = 1) : Asks saved .yield
  | send {receiver : TaskId} (number : saved.number = 2) (names : Names (saved.registers.get 0) receiver) :
      Asks saved (.send receiver (.ofWords width (saved.registers.get 1) (saved.registers.get 2)))
  | receive (number : saved.number = 3) : Asks saved .receive
  | exit (number : saved.number = 4) : Asks saved .exit

theorem asks_call {saved : HostContext} {syscall : Syscall}
    (found : Syscall.ofNumber? (Registers.number saved) = some syscall) : saved.Asks (syscall.call width saved) := by
  have number : syscall.number = saved.number := Syscall.number_of_ofNumber? found
  cases syscall with
  | wait => exact .wait number.symm
  | yield => exact .yield number.symm
  | send => exact .send number.symm (names_idOfWord _)
  | receive => exact .receive number.symm
  | exit => exact .exit number.symm

/-- A task reads an answer in its registers: the status in the first one, and if it received an entry, the sender in
the low byte of the next one, and the words of the message in the two after that. -/
structure Reads (saved : HostContext) (result : Answer width n) : Prop where
  status_eq : ofStatus (saved.registers.get 0).toInt32 = result.status
  sender_eq : ∀ entry, result = .received (.ok entry) → (saved.registers.get 1).toUInt8.toInt8 = entry.sender.val
  message_eq : ∀ entry, result = .received (.ok entry) →
    Message.ofWords width (saved.registers.get 2) (saved.registers.get 3) = entry.message

theorem get_setResult (saved : HostContext) (i j : Fin 4) (word : UInt32) :
    (Registers.setResult saved i word).registers.get j = if i = j then word else saved.registers.get j := by
  change (saved.registers.set i word i.isLt)[j.val] = if i = j then word else saved.registers[j.val]
  simp only [Vector.getElem_set, Fin.val_inj]

theorem ofStatus_setStatus {α : Type} (saved : HostContext) (result : Except MailError α) :
    ofStatus ((Registers.setStatus saved result).registers.get 0).toInt32 = result.map fun _ => () := by
  rw [Registers.setStatus, get_setResult, if_pos rfl, Int32.toInt32_toUInt32, ofStatus_statusOf]

/-- A sender comes back from the register that it was widened to. -/
theorem toInt8_widened (id : Int8) : id.toInt32.toUInt32.toUInt8.toInt8 = id := by
  rw [← Int8.toBitVec_inj]
  change (id.toBitVec.signExtend 32).setWidth 8 = id.toBitVec
  apply BitVec.eq_of_getLsbD_eq
  intro i small
  simp [small, show i < 32 by omega, BitVec.getElem_signExtend]

/-- The first register of a shown answer holds its status. -/
theorem ofStatus_shownIn (saved : HostContext) (answer : Answer width n) :
    ofStatus ((answer.shownIn saved).registers.get 0).toInt32 = answer.status := by
  have unit (result : Except MailError Unit) : (result.map fun _ => ()) = result := by cases result <;> rfl
  cases answer with
  | received result =>
    have first : (Registers.setReceived saved result).registers.get 0 =
        (Registers.setStatus saved result).registers.get 0 := by
      simp [Registers.setReceived, get_setResult]
    rw [Answer.shownIn, Answer.status, first, ofStatus_setStatus]
  | _ => exact (ofStatus_setStatus ..).trans (unit _)

/-- A task reads the answer that it is shown. -/
theorem reads_shownIn (saved : HostContext) (result : Answer width n) : (result.shownIn saved).Reads result := by
  constructor
  · exact ofStatus_shownIn saved result
  · rintro entry rfl
    simp [Answer.shownIn, Registers.setReceived, get_setResult, toInt8_widened]
  · rintro entry rfl
    simp [Answer.shownIn, Registers.setReceived, get_setResult, Message.ofWords_toWords]

end HostContext

end CoopKernel
