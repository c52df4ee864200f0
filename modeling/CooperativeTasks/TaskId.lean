set_option autoImplicit false

/-! Task identities: numbers handed out in order and never reused. -/

namespace CooperativeTasks

structure TaskId where
  index : Nat
  deriving DecidableEq, Repr, Inhabited

def TaskId.text (task : TaskId) : String := "Task(" ++ toString task.index ++ ")"

structure TaskIds where
  next : TaskId := ⟨0⟩
  deriving DecidableEq, Repr

def TaskIds.take (ids : TaskIds) : TaskId × TaskIds :=
  (ids.next, { next := ⟨ids.next.index + 1⟩ })

end CooperativeTasks
