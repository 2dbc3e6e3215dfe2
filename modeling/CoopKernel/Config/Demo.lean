import CoopKernel.Config.Resolve

/-! # The demo application

An interrupt task forwards the timer to a task that minds it, and two equals accept mail from anyone.
It is what a board is brought up with to see that everything works.
-/

namespace CoopKernel.Demo

/-- One of the tasks: four kibibytes of code, one of data and one of stack. -/
def task (priority : UInt8) (senders : List String) (text data : UInt32) : AppTask :=
  ⟨⟨priority⟩, senders, ⟨text, 0x1000⟩, ⟨data, 0x400⟩, ⟨data + 0x400, 0x400⟩⟩

def tasks : List (String × AppTask) :=
  [("interrupt", task 3 [] 0x08008000 0x20001000),
    ("timer", task 2 ["interrupt"] 0x08009000 0x20002000),
    ("app1", task 1 [anySender] 0x0800a000 0x20003000),
    ("app2", task 1 [anySender] 0x0800b000 0x20004000)]

def timerLine : Nat := 8

def app : App where
  name := "demo"
  interruptTask := some "interrupt"
  irqs := [UInt32.ofNat timerLine]
  tasks := tasks
  distinct := by decide

end CoopKernel.Demo
