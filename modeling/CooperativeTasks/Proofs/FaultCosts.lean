import CooperativeTasks.Proofs.Unwinding

set_option autoImplicit false

/-! What a fault costs.

A cycle, a drive to the end of everything or a drive to the end of one task may end in a fault. It
is then the fault of the innermost step that failed, and the tasks whose steps it was raised in are
lost to the queue. All others are queued, each of them once, as if nothing had happened. -/

namespace CooperativeTasks

/-! ### Drives -/

/-- The ways in which the scheduler is driven from outside. -/
inductive Interpreter.Drives (interpreter : Interpreter) : Act Unit → Prop where
  | runOneCycle : Drives interpreter interpreter.runOneCycle
  | run : Drives interpreter interpreter.run
  | runUntilComplete (id : TaskId) : Drives interpreter (interpreter.runUntilComplete id)

namespace Interpreter

variable {depth : Nat}

theorem cycle_faultless : (interpreter depth).cycle.Unwinding False :=
  have itself := interpreter_deepens (Nat.le_refl depth)
  cycle_unwinding itself.exec fun path statement => (itself.exec path statement).unwinding

theorem turn_faultless (swept : List TaskId) :
    ((interpreter depth).turn swept).Unwinding False := by
  have idles (swept : List TaskId) : (idle swept).Unwinding False := by
    refine .bind (.move .countPause) fun _ => ?_
    refine .bind .scheduler fun scheduler => ?_
    exact .bind (.move (.pause _)) fun _ => .note nofun
  have after (id : TaskId) (status : StepStatus) : (afterTurn swept id status).Unwinding False := by
    cases status with
    | pending => exact .pure []
    | done => exact .pure []
    | blocked =>
        refine .bind .scheduler fun scheduler => ?_
        split
        · exact .bind (idles _) fun _ => .pure []
        · exact .pure _
  refine .bind cycle_faultless fun outcome => ?_
  match outcome with
  | none => exact .pure none
  | some (id, status) => exact .bind (after id status) fun _ => .pure _

theorem Drives.faultless {drive : Act Unit} (drives : (interpreter depth).Drives drive) :
    drive.Unwinding False := by
  cases drives with
  | runOneCycle => exact .bind cycle_faultless fun _ => .pure ()
  | run =>
      refine .bind .scheduler fun scheduler => ?_
      refine .bind (.note nofun) fun _ => ?_
      exact .bind (.iterate turn_faultless []) fun _ => .note nofun
  | runUntilComplete id =>
      have towards (swept : List TaskId) : ((interpreter depth).turnUntil id swept).Unwinding False := by
        refine .bind .scheduler fun scheduler => ?_
        split
        · exact .pure none
        · exact turn_faultless swept
      refine .bind (.iterate towards []) fun _ => ?_
      refine .bind .scheduler fun scheduler => ?_
      split
      · exact .finalize id
      · exact .note nofun

end Interpreter

/-! ### Before and after -/

/-- Nothing runs, and the queue holds the unfinished tasks, each of them once. The numbers of tasks
are their places in the table. -/
structure Scheduler.AtRest (scheduler : Scheduler) : Prop where
  numbered : scheduler.ids.next.index = scheduler.tasks.length
  unique : scheduler.queue.ids.Nodup
  queued : ∀ id, id ∈ scheduler.queue.ids ↔ scheduler.Unfinished id
  idle : scheduler.active = []

namespace Scheduler.AtRest

variable {scheduler : Scheduler}

theorem accounted (rests : scheduler.AtRest) : scheduler.Accounted True none where
  ids := rests.numbered
  queue := rests.unique
  active := by
    rw [rests.idle]
    exact List.nodup_nil
  apart := nofun
  registered id place := by
    rw [rests.idle] at place
    rcases place with queued | impossible | impossible
    · obtain ⟨task, found, _⟩ := (rests.queued id).mp queued
      exact (List.getElem?_eq_some_iff.mp found).1
    · cases impossible
    · cases impossible
  covered id unfinished := .inl ((rests.queued id).mpr unfinished)
  running id runs := by
    rw [rests.idle] at runs
    cases runs
  outermost id _ runs := by
    rw [rests.idle] at runs
    cases runs
  exact _ id queued := by
    refine ⟨(rests.queued id).mp queued, ?_⟩
    rw [rests.idle]
    exact List.not_mem_nil

theorem ofAccounted (accounted : scheduler.Accounted True none) (idle : scheduler.active = []) :
    scheduler.AtRest where
  numbered := accounted.ids
  unique := accounted.queue
  idle := idle
  queued id := by
    refine ⟨fun queued => (accounted.exact trivial id queued).1, fun unfinished => ?_⟩
    rcases accounted.covered id unfinished with queued | runs | impossible
    · exact queued
    · rw [idle] at runs
      cases runs
    · cases impossible

end Scheduler.AtRest

/-- The steps that a fault has ended on its way out of a drive, innermost first: each of them is
given in a turn that begins while just the ones below it run, and ends in that very fault. There
is no other turn that fails. So the fault was raised in the first of the steps and in no step
inside it, while these steps were on the call stack. -/
structure Act.FailsThrough (drive : Act Unit) (session : Session) (cause : Fault)
    (stack : List TaskId) : Prop where
  nonempty : stack ≠ []
  given : ∀ id below, id :: below <:+ stack → ∃ moment, drive.Visits session moment ∧
    moment.scheduler.active = below ∧ moment.Failing cause id
  only : ∀ id other moment, drive.Visits session moment → moment.Failing other id →
    other = cause ∧ id :: moment.scheduler.active <:+ stack

/-- Nothing runs, the tasks given are the unfinished ones that are not queued, and every other
unfinished task is queued once. -/
structure Scheduler.HasLost (stack : List TaskId) (scheduler : Scheduler) : Prop where
  idle : scheduler.active = []
  unique : scheduler.queue.ids.Nodup
  queued : ∀ id, id ∈ scheduler.queue.ids → scheduler.Unfinished id
  lost : ∀ id, scheduler.Unfinished id ∧ id ∉ scheduler.queue.ids ↔ id ∈ stack
  spared : ∀ id, scheduler.Unfinished id → id ∉ stack → scheduler.queue.ids.count id = 1

theorem Scheduler.HasLost.ofAccounted {stack : List TaskId} {scheduler : Scheduler}
    (idle : scheduler.active = [])
    (accounted : { scheduler with active := stack }.Accounted True none) :
    scheduler.HasLost stack where
  idle := idle
  unique := accounted.queue
  queued id queued := (accounted.exact trivial id queued).1
  lost id := by
    constructor
    · rintro ⟨unfinished, missing⟩
      rcases accounted.covered id unfinished with queued | runs | impossible
      · exact absurd queued missing
      · exact runs
      · cases impossible
    · intro runs
      refine ⟨accounted.running id runs, fun queued => ?_⟩
      exact (accounted.exact trivial id queued).2 runs
  spared id unfinished apart := by
    rcases accounted.covered id unfinished with queued | runs | impossible
    · rw [List.Nodup.count accounted.queue, if_pos queued]
    · exact absurd runs apart
    · cases impossible

/-- A drive from rest that does not come to its end ends in the fault of the innermost step that
failed, and costs the tasks whose steps it was raised in, and no others. -/
theorem fault_costs_step_stack {depth : Nat} {drive : Act Unit}
    (drives : (interpreter depth).Drives drive) {session after : Session} {signal : Signal}
    (rests : session.scheduler.AtRest) (raised : drive session = .raised signal after) :
    ∃ cause stack, signal = .fault cause ∧ drive.FailsThrough session cause stack ∧
      after.scheduler.HasLost stack := by
  have unwinding := drives.faultless
  have idle : (session.granted none).scheduler.active = [] := rests.idle
  -- Without a limit the drive ends in the same fault, and what is known of unwinding is about such
  -- runs.
  have poised : (session.granted none).Poised :=
    ⟨rfl, fun id _ => (rests.queued id).mpr, rests.accounted⟩
  have ended : drive session = .of after (.error signal) := raised
  have run : drive (session.granted none) = .raised signal (after.granted none) :=
    unwinding.itself.granted ended none
  rcases unwinding.unwinds _ poised with ⟨moment, halted⟩ | ⟨stack, unwinds, active, _, lost⟩
  · rw [run] at halted
    cases halted
  · have nonempty : stack ≠ [] := (lost ⟨signal, _, run⟩).resolve_left id
    rw [run] at active
    rw [idle] at unwinds active
    obtain ⟨first, below, rfl⟩ := List.exists_cons_of_ne_nil nonempty
    obtain ⟨cause, _, fault, _⟩ := unwinds.given first below List.suffix_rfl
    obtain rfl := Outcome.fault?_of_raised run fault
    refine ⟨cause, first :: below, rfl, ⟨nonempty, ?_, ?_⟩, ?_⟩
    · intro id below under
      obtain ⟨other, moment, same, visited, stack, failing⟩ := unwinds.given id below under
      rw [fault] at same
      cases same
      rw [List.append_nil] at stack
      exact ⟨moment, visited, stack, failing⟩
    · intro id other moment visited failing
      obtain ⟨same, below, under, stack⟩ := unwinds.only id other moment visited failing
      rw [fault] at same
      cases same
      rw [List.append_nil] at stack
      rw [stack]
      exact ⟨rfl, under⟩
    · have accounted := (unwinds.lost cause fault).2
      rw [run, List.append_nil] at accounted
      exact .ofAccounted active accounted

def failing : FunctionDecl where
  name := "fail"
  params := []
  body := [.expression (.var "missing")]
  isAsync := true
  owner := none

def hoping : FunctionDecl where
  name := "hope"
  params := []
  body := [.expression (.await (.call "fail" []))]
  isAsync := true
  owner := none

def yielding : FunctionDecl where
  name := "yield"
  params := []
  body := [.yield]
  isAsync := true
  owner := none

/-- A session at rest in which one task is going to fail for the sake of another. -/
def hopingInVain : Session :=
  ({ executor := Executor.load ⟨[], [failing], []⟩ {} } : Session).registering
    (.ofFunction hoping []) |>.registering (.ofFunction yielding [])

/-- The task that hopes and the one it has started are lost, the third one is still queued. -/
theorem fault_costs_step_stack_hopingInVain :
    hopingInVain.scheduler.AtRest ∧
    ∃ signal after, (interpreter 12).runOneCycle hopingInVain = .raised signal after ∧
      after.scheduler.queue.ids = [⟨1⟩] ∧ after.scheduler.tasks.length = 3 ∧
      ∃ cause stack, signal = .fault cause ∧
        (interpreter 12).runOneCycle.FailsThrough hopingInVain cause stack ∧
        after.scheduler.HasLost stack := by
  have rests : hopingInVain.scheduler.AtRest := by
    refine .ofAccounted ?_ rfl
    exact ((Scheduler.accounted_fresh True {}).register (.ofFunction hoping [])).register
      (.ofFunction yielding [])
  have ended : ((interpreter 12).runOneCycle hopingInVain).isRaised = true := by decide +kernel
  have left : ((interpreter 12).runOneCycle hopingInVain).session.scheduler.queue.ids = [⟨1⟩] ∧
      ((interpreter 12).runOneCycle hopingInVain).session.scheduler.tasks.length = 3 := by
    decide +kernel
  obtain ⟨signal, run⟩ := Outcome.eq_raised ended
  exact ⟨rests, signal, _, run, left.1, left.2, fault_costs_step_stack .runOneCycle rests run⟩

end CooperativeTasks
