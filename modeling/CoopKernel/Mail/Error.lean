/-! # Refusals of mailbox operations

A refused operation has one of five causes, and each cause is a negative status code that a task sees
in its first result register. `statusOf` writes a result as a code, `ofStatus` reads one back;
`ofStatus_statusOf` says that the reading recovers the result.
-/

namespace CoopKernel

/-- Why a mailbox operation was refused. -/
inductive MailError where
  /-- The receiver's mailbox has no free slot. -/
  | fifoFull
  /-- The caller's mailbox holds nothing. -/
  | fifoEmpty
  /-- The receiver does not accept mail from the caller. -/
  | denied
  /-- The caller's mailbox holds mail, but none from a sender it waits for. -/
  | receiveMismatch
  /-- An id names no task. -/
  | badParam
deriving DecidableEq, Repr, Inhabited

namespace MailError

def all : List MailError := [fifoFull, fifoEmpty, denied, receiveMismatch, badParam]

def code : MailError → Int32
  | fifoFull => -1
  | fifoEmpty => -2
  | denied => -3
  | receiveMismatch => -4
  | badParam => -5

def name : MailError → String
  | fifoFull => "FifoFull"
  | fifoEmpty => "FifoEmpty"
  | denied => "Denied"
  | receiveMismatch => "ReceiveMismatch"
  | badParam => "BadParam"

def ofName? (name : String) : Option MailError := all.find? (·.name == name)

def ofCode? (code : Int32) : Option MailError := all.find? (·.code == code)

theorem ofCode?_code (error : MailError) : ofCode? error.code = some error := by
  cases error <;> decide

end MailError

def success : Int32 := 0

def statusOf {α : Type} : Except MailError α → Int32
  | .ok _ => success
  | .error error => error.code

/-- The result that a status code stands for. A code that belongs to no cause counts as a bad id. -/
def ofStatus (code : Int32) : Except MailError Unit :=
  if code = success then .ok () else .error ((MailError.ofCode? code).getD .badParam)

theorem ofStatus_code (error : MailError) : ofStatus error.code = .error error := by
  have nonzero : error.code ≠ success := by cases error <;> decide
  simp [ofStatus, nonzero, MailError.ofCode?_code]

/-- Reading the code of a result recovers the result, its value aside. -/
theorem ofStatus_statusOf {α : Type} (result : Except MailError α) :
    ofStatus (statusOf result) = result.map fun _ => () := by
  cases result with
  | ok _ => rfl
  | error error => exact ofStatus_code error

end CoopKernel
