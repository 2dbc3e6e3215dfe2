import CoopKernel.Machine.Host
import CoopKernel.Proofs.Machine.Protection

/-! # When a host and a Cortex-M match

The host has one flag for an interrupt and counts the sleeps that will end with one. A Cortex-M has lines,
of which the application serves some, and a script of the lines that end its sleeps. They match (`Matched`)
if the flag is up exactly when a served line has its bit set in the words that show the lines, and this
stays so over every sleep from which the host comes back. A match survives a sleep (`Matched.idle`), and
what the Cortex-M does to memory, to the saved pointer and to its registers does not matter to it
(`Matched.aside`).

Calls are kept in different registers. `Context.Mirrors` says that the two contexts of a task hold the same
number and the same four words.
-/

namespace CoopKernel

namespace CortexM

/-! ## Interrupts -/

/-- The bits of a word that was put together from some of its offsets. -/
theorem Lines.getLsbD_foldl (lines : Lines) (index count offset : Nat) (small : count ≤ 32) :
    ((List.range count).foldl
      (fun bits offset =>
        if lines.isPending (32 * index + offset) then bits ||| ⟨BitVec.twoPow 32 offset⟩ else bits)
      (0 : UInt32)).toBitVec.getLsbD offset = (decide (offset < count) && lines.isPending (32 * index + offset)) := by
  induction count with
  | zero => simp
  | succ count ih =>
    have sofar := ih (by omega)
    rw [List.range_succ, List.foldl_append, List.foldl_cons, List.foldl_nil]
    by_cases same : count = offset
    · subst same
      split
      · next pending => simp [pending, show count < 32 by omega]
      · next quiet => simp [sofar, quiet]
    · have within : offset < count + 1 ↔ offset < count := by omega
      split
      · simp [sofar, BitVec.getLsbD_twoPow, same, within]
      · simp [sofar, within]

/-- A bit of the words that show the lines says whether its line is pending. -/
theorem Lines.getLsbD_word (lines : Lines) (index : Nat) {offset : Nat} (small : offset < 32) :
    (lines.word index).toBitVec.getLsbD offset = lines.isPending (32 * index + offset) := by
  rw [word, getLsbD_foldl lines index 32 offset (Nat.le_refl _), decide_eq_true small, Bool.true_and]

/-- Some line that the application serves exists, and has its bit set in the words that show the lines. -/
def Signals (board : CortexM) : Prop :=
  ∃ line ∈ board.served, line < lineCount ∧ (board.lines.word (line / 32)).toBitVec.getLsbD (line % 32) = true

theorem interruptPending_iff {board : CortexM} : board.interruptPending = true ↔ board.Signals := by
  have shown (line : Nat) : (board.lines.word (line / 32)).toBitVec.getLsbD (line % 32) = board.lines.isPending line := by
    rw [Lines.getLsbD_word _ _ (Nat.mod_lt _ (by decide)), Nat.div_add_mod]
  rw [interruptPending, List.any_eq_true, Signals]
  apply exists_congr
  intro line
  apply and_congr_right
  intro _
  rw [shown]
  constructor
  · intro pending
    refine ⟨?_, pending⟩
    apply Classical.byContradiction
    intro outside
    rw [Lines.isPending, dif_neg outside] at pending
    cases pending
  · exact fun found => found.2

/-- The next so many sleeps end, each with a served line pending. -/
def Wakes : Nat → CortexM → Prop
  | 0, _ => True
  | left + 1, board => ∃ after, sleep board = .ok () after ∧ after.Signals ∧ Wakes left after

/-- A sleep goes by the lines and the script alone. -/
theorem sleep_aside {before after : CortexM} (memory : Memory) (saved : TaskId) (log : List RegisterWrite)
    (woke : sleep before = .ok () after) :
    sleep { before with memory := memory, saved := saved, log := log } =
      .ok () { after with memory := memory, saved := saved, log := log } := by
  unfold sleep at woke ⊢
  split at woke
  · next line rest scripted =>
    cases woke
    simp only [scripted]
    rfl
  · cases woke
  · next line scripted standing =>
    split at woke
    · cases woke
    · next quiet =>
      cases woke
      simp only [scripted, standing, quiet]
      rfl

theorem Wakes.aside {left : Nat} {board : CortexM} (memory : Memory) (saved : TaskId) (log : List RegisterWrite)
    (wakes : board.Wakes left) : Wakes left { board with memory := memory, saved := saved, log := log } := by
  induction left generalizing board with
  | zero => trivial
  | succ left ih =>
    obtain ⟨after, woke, signals, rest⟩ := wakes
    exact ⟨_, sleep_aside memory saved log woke, signals, ih rest⟩

theorem table_sleep {before after : CortexM} (woke : sleep before = .ok () after) : after.table = before.table := by
  unfold sleep at woke
  split at woke
  · cases woke
    rfl
  · cases woke
  · split at woke
    · cases woke
    · cases woke
      rfl

/-! ## Sections -/

/-- What the machine asserts of a task: its stack has room for a frame, and its sections can be regions. -/
structure Accepts (desc : TaskDesc) : Prop where
  framed : ∃ frame, frameAddress desc.stack = .ok frame
  guarded : ∃ words, taskWords desc = .ok words

namespace Accepts

variable {desc : TaskDesc} (accepts : Accepts desc)

include accepts

/-- A region has at least 32 bytes, so no section is empty. -/
theorem firstEmpty_eq : desc.firstEmpty = none := by
  obtain ⟨words, found⟩ := accepts.guarded
  have large (access : Access) (region : Section) (member : (access, region) ∈ taskRegions desc) :
      region.isEmpty = false := by
    obtain ⟨word, isRegion⟩ := ok_of_mapM found _ member
    unfold regionWords at isRegion
    split at isRegion
    · next fits =>
      rw [Section.isEmpty, beq_eq_false_iff_ne]
      intro none
      dsimp only at fits
      rw [none] at fits
      exact absurd fits.2 (by decide)
    · cases isRegion
  have text := large .code desc.text (by simp [taskRegions])
  have bss := large .data desc.bss (by simp [taskRegions])
  have stack := large .data desc.stack (by simp [taskRegions])
  rw [TaskDesc.firstEmpty, List.find?_eq_none]
  intro kind _
  cases kind with
  | text => simpa [TaskDesc.region] using text
  | bss => simpa [TaskDesc.region] using bss
  | stack => simpa [TaskDesc.region] using stack

theorem buildContext_ok (id : TaskId) (board : CortexM) :
    ∃ context memory, buildContext id desc board = .ok context { board with memory := memory } := by
  obtain ⟨frame, framed⟩ := accepts.framed
  unfold buildContext
  rw [framed]
  exact ⟨_, _, rfl⟩

theorem protect_ok (board : CortexM) : ∃ log, protect desc board = .ok () { board with log := log } := by
  obtain ⟨words, found⟩ := accepts.guarded
  exact ⟨_, protect_of_taskWords found board⟩

end Accepts

/-! ## Registers -/

namespace Context

theorem get_setWord (context : Context) (index : Nat) (word : UInt32) (i : Fin contextWords) :
    (context.setWord index word).words.get i = if index = i then word else context.words.get i := by
  unfold setWord
  split
  · next inside => exact Vector.getElem_set inside i.isLt
  · next outside =>
    rw [if_neg]
    rintro rfl
    exact outside i.isLt

/-- The registers of a task on a Cortex-M hold the call that those of a task on the host hold: its number, and the words
that are its arguments before it and its results after it. -/
structure Mirrors (context : Context) (saved : HostContext) : Prop where
  number_eq : context.words.get numberWord = saved.number
  register_eq : ∀ i : Fin 4, context.words.get (i.castAdd 22) = saved.registers.get i

/-- A call that is loaded on both is mirrored, whatever was loaded before. -/
theorem mirrors_load (context : Context) (saved : HostContext) (number a b c d : UInt32) :
    (context.setWords [(0, a), (1, b), (2, c), (3, d), (7, number)]).Mirrors (saved.load number [a, b, c, d]) := by
  constructor
  · exact (get_setWord _ 7 number numberWord).trans (if_pos rfl)
  · intro i
    simp only [setWords, List.foldl_cons, List.foldl_nil, get_setWord, HostContext.load, Fin.val_castAdd]
    match i with
    | 0 => rfl
    | 1 => rfl
    | 2 => rfl
    | 3 => rfl

theorem Mirrors.setResult {context : Context} {saved : HostContext} (mirrors : context.Mirrors saved) (i : Fin 4)
    (word : UInt32) : Mirrors (Registers.setResult context i word) (Registers.setResult saved i word) := by
  constructor
  · have apart : ¬i.val = numberWord.val := Nat.ne_of_lt (Nat.lt_trans i.isLt (by decide))
    change (context.setWord i word).words.get numberWord = saved.number
    rw [get_setWord, if_neg apart]
    exact mirrors.number_eq
  · intro j
    change (context.setWord i word).words.get (j.castAdd 22) = (saved.registers.set i word i.isLt)[j.val]
    rw [get_setWord, Vector.getElem_set, mirrors.register_eq]
    rfl

end Context

end CortexM

/-! ## Both machines -/

/-- The interrupts of a host and a Cortex-M match, now and over every sleep from which the host comes back. -/
structure Matched (host : HostMachine) (board : CortexM) : Prop where
  pending : host.pending = true ↔ board.Signals
  wakes : board.Wakes host.scheduled

namespace Matched

variable {host after : HostMachine} {board : CortexM}

theorem idle (matched : Matched host board) (woke : HostMachine.idle host = .ok () after) :
    ∃ later, CortexM.sleep board = .ok () later ∧ Matched after later := by
  have wakes := matched.wakes
  unfold HostMachine.idle at woke
  split at woke
  · cases woke
  · next left isLeft =>
    cases woke
    rw [isLeft] at wakes
    obtain ⟨later, slept, signals, rest⟩ := wakes
    exact ⟨later, slept, ⟨fun _ => signals, fun _ => rfl⟩, rest⟩

theorem aside (matched : Matched host board) (pendingEq : after.pending = host.pending)
    (scheduledEq : after.scheduled = host.scheduled) (memory : Memory) (saved : TaskId)
    (log : List CortexM.RegisterWrite) :
    Matched after { board with memory := memory, saved := saved, log := log } := by
  constructor
  · rw [pendingEq]
    exact matched.pending
  · rw [scheduledEq]
    exact matched.wakes.aside memory saved log

end Matched

end CoopKernel
