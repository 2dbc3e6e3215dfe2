/-! # Interrupt lines

The interrupt controller has 512 lines, each pending or not, and shows them as sixteen words with one
bit for each line. Lines past the last one do not exist: nothing makes them pending.
-/

namespace CoopKernel.CortexM

abbrev lineCount : Nat := 512

/-- Which lines are pending. -/
structure Lines where
  pending : Vector Bool lineCount := .replicate lineCount false
deriving DecidableEq

namespace Lines

instance : Inhabited Lines := ⟨{}⟩

def isPending (lines : Lines) (line : Nat) : Bool :=
  if inside : line < lineCount then lines.pending[line] else false

/-- Set whether a line is pending, if there is such a line. -/
def set (lines : Lines) (line : Nat) (value : Bool) : Lines :=
  if inside : line < lineCount then ⟨lines.pending.set line value⟩ else lines

/-- One of the words that show the lines, thirty-two at a time. -/
def word (lines : Lines) (index : Nat) : UInt32 :=
  (List.range 32).foldl
    (fun bits offset =>
      if lines.isPending (32 * index + offset) then bits ||| ⟨BitVec.twoPow 32 offset⟩ else bits) 0

def words (lines : Lines) : List UInt32 := (List.range (lineCount / 32)).map lines.word

theorem isPending_set (lines : Lines) (line other : Nat) (value : Bool) (inside : line < lineCount) :
    (lines.set line value).isPending other = if line = other then value else lines.isPending other := by
  by_cases same : line = other
  · subst same
    simp [set, isPending, inside]
  · by_cases there : other < lineCount <;> simp [set, isPending, inside, there, same]

end Lines

end CoopKernel.CortexM
