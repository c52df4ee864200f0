import CooperativeTasks.Proofs.Awaiting

set_option autoImplicit false

/-! How many futures are wrapped around a value.

A payload that is a future itself is opened before it goes into the completion slot, and an await
hands on what the slot holds. Only the outermost future is opened, so what comes out of an await is
no future just if the payload was not a future around a future. -/

namespace CooperativeTasks

mutual

/-- How many futures have to be opened one after the other until none is left. -/
def Value.layers : Value → Nat
  | .struct typeName fields => if typeName = Future.typeName then slotLayers fields + 1 else 0
  | .void => 0
  | .bool _ => 0
  | .int _ => 0
  | .float _ => 0
  | .str _ => 0

def slotLayers : List (String × Value) → Nat
  | [] => 0
  | (name, value) :: rest => if name = "value" then value.layers else slotLayers rest

end

theorem slotLayers_eq (fields : List (String × Value)) :
    slotLayers fields = ((Bindings.get? "value" fields).getD .void).layers := by
  induction fields with
  | nil => rfl
  | cons entry rest ih =>
      unfold slotLayers Bindings.get?
      by_cases here : entry.1 = "value"
      · rw [if_pos here, if_pos here]
        rfl
      · rw [if_neg here, if_neg here]
        exact ih

namespace Value

theorem isStructOf_iff_layers (value : Value) :
    value.isStructOf Future.typeName = true ↔ 0 < value.layers := by
  cases value with
  | struct typeName fields =>
      unfold isStructOf layers
      by_cases future : typeName = Future.typeName
      · simp [future]
      · simp [future]
  | _ => simp [isStructOf, layers]

theorem layers_opened {value : Value} (future : value.isStructOf Future.typeName = true) :
    ((value.field? "value").getD .void).layers = value.layers - 1 := by
  cases value with
  | struct typeName fields =>
      have whole : (struct typeName fields).layers = slotLayers fields + 1 := by
        unfold layers
        exact if_pos (eq_of_beq future)
      rw [whole, Nat.add_sub_cancel, slotLayers_eq]
      rfl
  | _ => cases future

end Value

theorem Task.layers_slotValue (payload : Value) : (slotValue payload).layers = payload.layers - 1 := by
  rw [slotValue_eq]
  by_cases future : payload.isStructOf Future.typeName = true
  · rw [if_pos future]
    exact payload.layers_opened future
  · have none : payload.layers = 0 := by
      rw [payload.isStructOf_iff_layers] at future
      omega
    rw [if_neg future, none]

/-- The value is what the payload is opened to, once. -/
structure Value.OpensTo (payload value : Value) : Prop where
  opened : value = Task.slotValue payload
  layers : value.layers = payload.layers - 1
  nested : value.isStructOf Future.typeName = true ↔ 1 < payload.layers

theorem Value.OpensTo.ofSlot (payload : Value) : payload.OpensTo (Task.slotValue payload) where
  opened := rfl
  layers := Task.layers_slotValue payload
  nested := by
    rw [isStructOf_iff_layers, Task.layers_slotValue]
    omega

/-- The slot of a finished task holds its payload, opened once. -/
theorem Scheduler.Consistent.slot_opens {scheduler : Scheduler} (consistent : scheduler.Consistent)
    {id : TaskId} {task : Task} {payload : Value} (found : scheduler.task? id = some task)
    (result : task.result = some payload) :
    task.future.isReady = true ∧ payload.OpensTo task.future.value := by
  have settled : task.progress.Consistent := by
    apply consistent id
    unfold progress?
    rw [found]
    rfl
  have ready : task.future.isReady = task.result.isSome := settled.ready.trans settled.result.symm
  have slot : task.future.value = Task.slotValue payload :=
    (settled.slot payload result).trans (Task.slotValue_eq payload).symm
  rw [slot]
  refine ⟨?_, .ofSlot payload⟩
  rw [ready, result]
  rfl

namespace Interpreter

variable {interpreter : Interpreter} {session after : Session} {value : Value}

theorem slotOf_done {id : TaskId} (ended : slotOf id session = .done value after) :
    after = session ∧ ∃ task, session.scheduler.task? id = some task ∧
      task.future.isReady = true ∧ task.future.value = value := by
  unfold slotOf at ended
  rw [Act.scheduler_bind] at ended
  cases found : session.scheduler.task? id with
  | none =>
      rw [found] at ended
      cases ended
  | some task =>
      rw [found] at ended
      dsimp only at ended
      cases ready : task.future.isReady with
      | true =>
          rw [ready, if_pos rfl] at ended
          cases ended
          exact ⟨rfl, task, rfl, ready, rfl⟩
      | false =>
          rw [ready, if_neg Bool.false_ne_true] at ended
          cases ended

theorem awaitFuture_done {future : Value}
    (ended : interpreter.awaitFuture future session = .done value after) :
    (∃ id task, after.scheduler.task? id = some task ∧ task.future.isReady = true ∧
        task.future.value = value) ∨
      Future.taskOf? future = none ∧ after = session ∧ future.OpensTo value := by
  -- A future without a task is read itself; otherwise the slot is read, with or without a drive
  -- before.
  cases carries : Future.taskOf? future with
  | none =>
      unfold awaitFuture at ended
      rw [carries] at ended
      dsimp only at ended
      cases shaped : Future.ofValue? future with
      | none =>
          rw [shaped] at ended
          cases ended
      | some inner =>
          obtain ⟨held, ready⟩ := inner
          rw [shaped] at ended
          cases ready with
          | false => cases ended
          | true =>
              cases ended
              have slot : value = Task.slotValue future := by
                unfold Task.slotValue
                rw [shaped]
              rw [slot]
              exact .inr ⟨rfl, rfl, .ofSlot future⟩
  | some id =>
      have handed : ∃ between, slotOf id between = .done value after := by
        cases known : session.scheduler.task? id with
        | none =>
            unfold awaitFuture at ended
            rw [carries] at ended
            dsimp only at ended
            rw [Act.scheduler_bind, known] at ended
            cases ended
        | some awaited =>
            rw [awaitFuture_eq interpreter carries known] at ended
            split at ended
            · exact ⟨session, ended⟩
            · obtain ⟨_, between, _, handed⟩ := Act.bind_done ended
              exact ⟨between, handed⟩
      obtain ⟨between, handed⟩ := handed
      obtain ⟨rfl, task, found, ready, slot⟩ := slotOf_done handed
      exact .inl ⟨id, task, found, ready, slot⟩

end Interpreter

/-- In every session that can be reached, the slot of a finished task holds its payload with the
outermost future opened, and so does what an await gives: of the payload of a task, or of the future
itself if it names no task. What is held or given is itself a future just if the payload was a future
around a future. -/
theorem one_layer_is_opened {session : Session} (reachable : session.Reachable) :
    (∀ id task payload, session.scheduler.task? id = some task → task.result = some payload →
      task.future.isReady = true ∧ payload.OpensTo task.future.value) ∧
    ∀ depth operand value after,
      (interpreter depth).eval (.await operand) session = .done value after →
      ∃ payload, payload.OpensTo value ∧
        ((∃ id task, after.scheduler.task? id = some task ∧ task.result = some payload) ∨
          Future.taskOf? payload = none ∧
            ∃ depth, (interpreter depth).eval operand session = .done payload after) := by
  refine ⟨fun id task payload found result => reachable.consistent.slot_opens found result, ?_⟩
  intro depth operand value after ended
  have reached := reachable.evaluated depth (.await operand)
  rw [ended] at reached
  have consistent : after.scheduler.Consistent := reached.consistent
  cases depth with
  | zero => cases ended
  | succ depth =>
      obtain ⟨future, between, evaluated, awaited⟩ := Act.bind_done ended
      rcases Interpreter.awaitFuture_done awaited with
        ⟨id, task, found, ready, slot⟩ | ⟨taskless, rfl, opens⟩
      · have settled : task.progress.Consistent := by
          apply consistent id
          unfold Scheduler.progress?
          rw [found]
          rfl
        have present : task.result.isSome = true :=
          settled.result.trans (settled.ready.symm.trans ready)
        obtain ⟨payload, result⟩ := Option.isSome_iff_exists.mp present
        have opens := (consistent.slot_opens found result).2
        rw [slot] at opens
        exact ⟨payload, opens, .inl ⟨id, task, found, result⟩⟩
      · exact ⟨future, opens, .inr ⟨taskless, depth, evaluated⟩⟩

/-- A function that returns a future around a future. -/
def wrapping : FunctionDecl where
  name := "wrap"
  params := []
  body :=
    [.returning (some (.structLit Future.typeName
      [("value", .lit ((Future.ready (.int 1)).toValue none)), ("is_ready", .lit (.bool true))]))]
  isAsync := true
  owner := none

def readyToWrap : Session :=
  ((interpreter 0).request (.load ⟨[], [wrapping], []⟩) (.start {} 0)).session

theorem readyToWrap_reachable : readyToWrap.Reachable :=
  .requested (.start {} 0) rfl 0 (.load ⟨[], [wrapping], []⟩)

theorem readyToWrap_awaits :
    ∃ value after, (interpreter 12).eval (.await (.call "wrap" [])) readyToWrap = .done value after ∧
      value.layers = 1 := by
  have ended : ((interpreter 12).eval (.await (.call "wrap" [])) readyToWrap).isDone = true := by
    decide +kernel
  have layers : ((interpreter 12).eval (.await (.call "wrap" [])) readyToWrap).result?.map
      (fun result => (result.toOption.getD .void).layers) = some 1 := by
    decide +kernel
  obtain ⟨value, awaited⟩ := Outcome.eq_done ended
  rw [awaited] at layers
  exact ⟨value, _, awaited, Option.some.inj layers⟩

/-- One await of the task gives a future, so there was one around it. -/
theorem one_layer_is_opened_wrapping :
    readyToWrap.Reachable ∧
    ∃ (value payload : Value) (after : Session),
      (interpreter 12).eval (.await (.call "wrap" [])) readyToWrap = .done value after ∧
      value.layers = 1 ∧ payload.OpensTo value ∧ payload.layers = 2 := by
  obtain ⟨value, after, awaited, inner⟩ := readyToWrap_awaits
  obtain ⟨payload, opens, _⟩ := (one_layer_is_opened readyToWrap_reachable).2 _ _ _ _ awaited
  have layers := opens.layers
  refine ⟨readyToWrap_reachable, value, payload, after, awaited, inner, opens, ?_⟩
  omega

/-- So futures do nest, in slots and in what awaits give. -/
theorem not_futures_never_nest :
    (¬ ∀ (session : Session) (id : TaskId) (task : Task), session.Reachable →
      session.scheduler.task? id = some task →
      task.future.value.isStructOf Future.typeName = false) ∧
    ¬ ∀ (depth : Nat) (operand : Expr) (session after : Session) (value : Value),
      session.Reachable → (interpreter depth).eval (.await operand) session = .done value after →
      value.isStructOf Future.typeName = false := by
  obtain ⟨value, after, awaited, layers⟩ := readyToWrap_awaits
  constructor
  · intro claimed
    have slot : (((interpreter 12).eval (.await (.call "wrap" [])) readyToWrap).session.scheduler.task?
        ⟨0⟩).map (fun task => task.future.value.isStructOf Future.typeName) = some true := by
      decide +kernel
    obtain ⟨task, found, nested⟩ := Option.map_eq_some_iff.mp slot
    have flat := claimed _ ⟨0⟩ task (readyToWrap_reachable.evaluated 12 _) found
    rw [nested] at flat
    cases flat
  · intro claimed
    have flat := claimed 12 _ readyToWrap after value readyToWrap_reachable awaited
    have nested := (value.isStructOf_iff_layers).mpr (by omega)
    rw [nested] at flat
    cases flat

end CooperativeTasks
