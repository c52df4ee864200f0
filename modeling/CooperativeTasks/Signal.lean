import CooperativeTasks.Fault
import CooperativeTasks.Value

set_option autoImplicit false

/-! Ways in which a statement ends other than by running through. -/

namespace CooperativeTasks

inductive Signal where
  /-- The running task pauses. When the pause comes from inside a loop or a list, the task
  enters the same statement again on its next turn instead of going on to the next one. -/
  | suspend (fromLoop : Bool)
  | returning (value : Value)
  | breakLoop
  | continueLoop
  | fault (cause : Fault)

/-- The fault that a signal amounts to where nothing is left to receive it. -/
def Signal.toFault : Signal → Fault
  | .fault cause => cause
  | .breakLoop => .strayControl .breakLoop
  | .continueLoop => .strayControl .continueLoop
  | .suspend _ => .strayControl .yield
  | .returning _ => .strayControl .returning

end CooperativeTasks
