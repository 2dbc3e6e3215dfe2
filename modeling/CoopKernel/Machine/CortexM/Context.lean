import CoopKernel.Machine.Basic

/-! # Saved registers of a Cortex-M task

What a trap saves beside the hardware's own frame: r4 to r11, the process stack pointer, the exception
return word, and s16 to s31. Arguments and results of calls are in r4 to r7, the number of a call is
in r11.
-/

namespace CoopKernel.CortexM

abbrev contextWords : Nat := 26

/-- Where the number of a call is kept: r11. -/
def numberWord : Fin contextWords := 7

def stackPointerWord : Fin contextWords := 8

def exceptionReturnWord : Fin contextWords := 9

/-- The saved registers of a task. -/
structure Context where
  words : Vector UInt32 contextWords := .replicate contextWords 0
deriving DecidableEq, Repr

namespace Context

instance : Inhabited Context := ⟨{}⟩

/-- Overwrite a word; an index past the context changes nothing. -/
def setWord (context : Context) (index : Nat) (word : UInt32) : Context :=
  if inside : index < contextWords then ⟨context.words.set index word⟩ else context

def setWords (context : Context) (changes : List (Nat × UInt32)) : Context :=
  changes.foldl (fun context change => context.setWord change.1 change.2) context

def stackPointer (context : Context) : UInt32 := context.words.get stackPointerWord

/-- The words of r4 to r11. -/
def lowRegisters (context : Context) : List UInt32 := context.words.toList.take 8

instance : Registers Context where
  blank := {}
  argument context i := context.words.get (i.castAdd 23)
  number context := context.words.get numberWord
  setResult context i word := context.setWord i word

end Context

end CoopKernel.CortexM
