import CooperativeTasks.Proofs.Deepening

set_option autoImplicit false

/-! What can be asked of a session from outside, one request after the other.

A request that fails does not end the sequence: the next one finds the session as the failed
one left it. The sessions in which a sequence can be halted, over all budgets, are the moments
of all that it does. -/

namespace CooperativeTasks

theorem Executor.load_eq (program : Program) (executor : Executor) :
    executor.load program =
      { executor with
        functions := (executor.load program).functions
        structs := (executor.load program).structs } := by
  have functions (added : List FunctionDecl) (known : Executor) :
      ∃ functions,
        added.foldl (fun known function => known.defineFunction function) known =
          { known with functions } := by
    induction added generalizing known with
    | nil => exact ⟨known.functions, rfl⟩
    | cons function rest ih =>
        obtain ⟨functions, same⟩ := ih (known.defineFunction function)
        exact ⟨functions, same⟩
  have structs (added : List StructDecl) (known : Executor) :
      ∃ structs,
        added.foldl (fun known decl => known.defineStruct decl) known = { known with structs } := by
    induction added generalizing known with
    | nil => exact ⟨known.structs, rfl⟩
    | cons declaration rest ih =>
        obtain ⟨structs, same⟩ := ih (known.defineStruct declaration)
        exact ⟨structs, same⟩
  unfold Executor.load
  dsimp only
  obtain ⟨declared, withStructs⟩ := structs program.structs executor
  rw [withStructs]
  obtain ⟨defined, withFunctions⟩ := functions program.functions { executor with structs := declared }
  rw [withFunctions]

/-! ### Time -/

/-- The session after nothing but time has passed. -/
def Session.later (nanos : Nat) (session : Session) : Session :=
  { session with clock := { session.clock with now := session.clock.now + nanos } }

namespace Interpreter

/-- A turn before which time passes, as much as is said of the turn of this number. -/
def turnThrough (interpreter : Interpreter) (passing : Nat → Nat) (state : Nat × List TaskId) :
    Act (Option (Nat × List TaskId)) := do
  Act.advanceClock (passing state.1)
  match ← interpreter.turn state.2 with
  | none => return none
  | some swept => return some (state.1 + 1, swept)

/-- As `run`, with time that passes between the turns. As a turn reads the clock at most once, what
the turns read may be any times of which none is before the last. -/
def runThrough (interpreter : Interpreter) (passing : Nat → Nat) : Act Unit := do
  Act.note (.driving (← Act.scheduler).queue.size)
  Act.iterate interpreter.turns (interpreter.turnThrough passing) (0, [])
  Act.note .drained

theorem turnThrough_apply (interpreter : Interpreter) (passing : Nat → Nat) (moment : Nat)
    (swept : List TaskId) (session : Session) :
    interpreter.turnThrough passing (moment, swept) session =
      match interpreter.turn swept (session.later (passing moment)) with
      | .done swept after => .done (swept.map fun swept => (moment + 1, swept)) after
      | .raised signal after => .raised signal after
      | .halted moment => .halted moment := by
  change (interpreter.turn swept >>= fun left => match left with
    | none => pure none
    | some swept => pure (some (moment + 1, swept)) : Act (Option (Nat × List TaskId)))
      (session.later (passing moment)) = _
  rw [Act.bind_apply]
  rcases interpreter.turn swept (session.later (passing moment)) with
    ⟨_ | _, _⟩ | ⟨_, _⟩ | ⟨_⟩ <;> rfl

theorem Related.runThrough {drives evaluates executes : (α : Type) → Act α → Act α → Prop}
    {shallow deep : Interpreter} (related : Related drives evaluates executes shallow deep)
    (passes : ∀ nanos, drives Unit (Act.advanceClock nanos) (Act.advanceClock nanos))
    (passing : Nat → Nat) :
    drives Unit (shallow.runThrough passing) (deep.runThrough passing) := by
  have joins := related.pieces.driving
  refine joins.bind joins.scheduler fun scheduler => ?_
  refine joins.bind (joins.note _ rfl rfl) fun _ => ?_
  refine joins.bind (joins.iterate related.turns (fun state => ?_) _) fun _ => joins.note _ rfl rfl
  refine joins.bind (passes _) fun _ => joins.bind (related.turn state.2) fun swept => ?_
  cases swept with
  | none => exact joins.pure none
  | some swept => exact joins.pure _

end Interpreter

/-! ### Operations -/

inductive Operation where
  | load (program : Program)
  | execute (path : Path) (statement : Stmt)
  | register (task : Task) (fresh : task.Fresh)
  | spawn (function : FunctionDecl) (args : List Value)
  | spawnTimer (millis : Nat)
  | sleep (id : TaskId) (millis : Nat)
  | timeout (id : TaskId) (millis : Nat)
  | waitOn (id awaited : TaskId)
  | clearWait (id : TaskId)
  | bindFuture (id : TaskId) (site : BindingSite)
  | bindReceiver (id : TaskId) (site : BindingSite)
  | finalize (id : TaskId)
  /-- A single step of a task, past the queue. -/
  | step (id : TaskId)
  | cycle
  | run
  | runUntilComplete (id : TaskId)
  | pass (nanos : Nat)
  /-- A drive during which time passes, besides what the clock moves on by itself. -/
  | runThrough (passing : Nat → Nat)

namespace Interpreter

def request (interpreter : Interpreter) : Operation → Act Unit
  | .load program => Act.load program
  | .execute path statement => interpreter.exec path statement
  | .register task _ => do
      let _ ← Act.register task
  | .spawn function args => do
      let _ ← Act.spawn function args
  | .spawnTimer millis => do
      let _ ← Act.spawnTimer millis
  | .sleep id millis => Act.sleepTask id millis
  | .timeout id millis => Act.setTimeout id millis
  | .waitOn id awaited => Act.updateScheduler (Scheduler.waitOn id awaited)
  | .clearWait id => Act.updateScheduler (Scheduler.clearWait id)
  | .bindFuture id site => Act.updateScheduler (Scheduler.bindFuture id site)
  | .bindReceiver id site => Act.updateScheduler (Scheduler.bindReceiver id site)
  | .finalize id => Act.finalize id
  | .step id => do
      let _ ← interpreter.step id
  | .cycle => interpreter.runOneCycle
  | .run => interpreter.run
  | .runUntilComplete id => interpreter.runUntilComplete id
  | .pass nanos => Act.advanceClock nanos
  | .runThrough passing => interpreter.runThrough passing

def requestAll (interpreter : Interpreter) : List Operation → Act Unit
  | [] => return
  | operation :: rest => do
      let _ ← Act.attempt (interpreter.request operation)
      interpreter.requestAll rest

/-- The operations are made of the pieces that programs are made of, apart from the three that
programs have no part in: loading them, stepping a task past the queue, and sending the instance of
a method elsewhere. -/
theorem DeepensTo.request {shallow deep : Interpreter} (deepens : shallow.DeepensTo deep)
    (operation : Operation) :
    (∃ program, operation = .load program) ∨ (∃ id, operation = .step id) ∨
      (∃ id site, operation = .bindReceiver id site) ∨
      Deepens .statement (shallow.request operation) (deep.request operation) := by
  cases operation with
  | load program => exact .inl ⟨program, rfl⟩
  | step id => exact .inr (.inl ⟨id, rfl⟩)
  | execute path statement => exact .inr (.inr (.inr (deepens.exec path statement)))
  | register task fresh => exact .inr (.inr (.inr (.bind (.register fresh) fun _ => .pure ())))
  | spawn function args =>
      exact .inr (.inr (.inr (.bind (.register (.ofFunction function args)) fun _ => .pure ())))
  | spawnTimer millis => exact .inr (.inr (.inr (.bind (.lift (deepens.related.spawnTimer millis)) fun _ => .pure ())))
  | sleep id millis => exact .inr (.inr (.inr (.sleepTask id millis)))
  | timeout id millis => exact .inr (.inr (.inr (.setTimeout id millis)))
  | waitOn id awaited => exact .inr (.inr (.inr (.move (.mark id (.wait (some awaited))))))
  | clearWait id => exact .inr (.inr (.inr (.move (.mark id (.wait none)))))
  | bindFuture id site => exact .inr (.inr (.inr (.move (.mark id (.future site)))))
  | bindReceiver id site => exact .inr (.inr (.inl ⟨id, site, rfl⟩))
  | finalize id => exact .inr (.inr (.inr (.finalize id)))
  | cycle => exact .inr (.inr (.inr (.lift deepens.related.runOneCycle)))
  | run => exact .inr (.inr (.inr (.lift deepens.related.run)))
  | runUntilComplete id => exact .inr (.inr (.inr (.lift (deepens.related.runUntilComplete id))))
  | pass nanos => exact .inr (.inr (.inr (.move (.pause nanos))))
  | runThrough passing =>
      have passes (nanos : Nat) : Deepens .expression (Act.advanceClock nanos)
        (Act.advanceClock nanos) := .move (.pause nanos)
      exact .inr (.inr (.inr (.lift (deepens.related.runThrough passes passing))))

end Interpreter

/-- What can be asked for from outside: single operations, and whole programs. -/
inductive Errand where
  | operation (operation : Operation)
  | program (program : Program)

namespace Interpreter

def undertake (interpreter : Interpreter) : Errand → Act Unit
  | .operation operation => interpreter.request operation
  | .program program => interpreter.runProgram program

/-- Goes on errands one after the other, whichever way each of them ends. -/
def undertakeAll (interpreter : Interpreter) : List Errand → Act Unit
  | [] => return
  | errand :: rest => do
      let _ ← Act.attempt (interpreter.undertake errand)
      interpreter.undertakeAll rest

theorem undertakeAll_append (interpreter : Interpreter) (earlier more : List Errand)
    (session : Session) :
    interpreter.undertakeAll (earlier ++ more) session =
      (do
        interpreter.undertakeAll earlier
        interpreter.undertakeAll more) session := by
  induction earlier generalizing session with
  | nil => rfl
  | cons errand rest ih =>
      rw [Act.bind_apply, List.cons_append]
      rw [undertakeAll, undertakeAll, Act.attempt_bind, Act.attempt_bind]
      cases interpreter.undertake errand session with
      | done value after => exact ih after
      | raised signal after => exact ih after
      | halted moment => rfl

end Interpreter

end CooperativeTasks
