import CoopKernel.Task.Desc

/-! # Errors of the task table

What can be wrong with a table of task descriptions when a kernel is brought up on it.
-/

namespace CoopKernel

/-- Why a kernel cannot run a table. -/
inductive ConfigError where
  /-- A task has a section without bytes. -/
  | emptySection (task : TaskId) (kind : SectionKind)
  /-- There are more tasks than a mask can name. -/
  | tooManyTasks (count : Nat)
  /-- The interrupt task is not in the table. -/
  | badInterruptTask (task : TaskId)
deriving DecidableEq, Repr, Inhabited

namespace ConfigError

def name : ConfigError → String
  | emptySection _ _ => "EmptySection"
  | tooManyTasks _ => "TooManyTasks"
  | badInterruptTask _ => "BadInterruptTask"

def message : ConfigError → String
  | emptySection task kind => "task " ++ task.display ++ ": " ++ kind.display ++ " section is empty"
  | tooManyTasks count =>
      Numeral.decimal count ++ " tasks configured, at most " ++ Numeral.decimal maxTasks ++ " supported"
  | badInterruptTask task => "interrupt task " ++ task.display ++ " is not in the task table"

end ConfigError

end CoopKernel
