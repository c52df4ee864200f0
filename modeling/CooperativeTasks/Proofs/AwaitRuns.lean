import CooperativeTasks.Proofs.AwaitMarks

set_option autoImplicit false

/-! Marks along runs.

A task whose turn it is was queued, so it is in no step and has no mark. It is in a step then, and
no longer queued, for as long as its statement runs. -/

namespace CooperativeTasks

variable {α : Type}

/-- The task has been taken out of the queue, and no step of it is in progress. -/
structure Session.Chosen (id : TaskId) (session : Session) : Prop where
  known : id.index < session.scheduler.tasks.length
  idle : id ∉ session.scheduler.active
  unqueued : id ∉ session.scheduler.queue.ids

theorem Session.Chosen.rejoined {id : TaskId} {before after : Session} (chosen : before.Chosen id)
    (rejoins : before.Rejoins after) : after.Chosen id where
  known := Nat.lt_of_lt_of_le chosen.known rejoins.tasks
  idle := by
    rw [rejoins.active]
    exact chosen.idle
  unqueued member := by
    rcases rejoins.queued id member with older | new
    · exact chosen.unqueued older
    · exact Nat.not_lt_of_le new chosen.known

namespace Session.Marked

variable {before : Session} (marked : before.Marked)

include marked

theorem entered {id : TaskId} (chosen : before.Chosen id) (task : Task)
    (begun : ∀ other earlier, before.journal ≠ .dequeued other :: earlier) :
    (before.enteringTask id task).Marked ∧ (before.enteringTask id task).Unawaiting := by
  have active : (before.enteringTask id task).scheduler.active = id :: before.scheduler.active :=
    rfl
  constructor
  · refine ⟨marked.marks, ?_, marked.awaited, ?_, ?_, marked.unique, marked.next, ?_,
      marked.neverStill⟩
    · intro awaited waiter member
      rw [active]
      exact List.mem_cons_of_mem _ (marked.waiters awaited waiter member)
    · intro other runs
      rw [active] at runs
      rcases List.mem_cons.mp runs with rfl | outer
      · exact chosen.known
      · exact marked.running other outer
    · intro other member
      obtain ⟨registered, apart⟩ := marked.queued other member
      refine ⟨registered, fun runs => ?_⟩
      rw [active] at runs
      rcases List.mem_cons.mp runs with rfl | outer
      · exact chosen.unqueued member
      · exact apart outer
    · exact fun other earlier recorded => absurd recorded (begun other earlier)
  · intro other current
    cases current
    exact ⟨List.mem_cons_self, marked.unmarked chosen.idle⟩

theorem left {id : TaskId} {task : Task} {inside : Session} (inner : inside.Marked)
    (rejoins : (before.enteringTask id task).Rejoins inside) :
    (inside.leavingTask id task before.executor).Marked ∧
      before.Rejoins (inside.leavingTask id task before.executor) := by
  have running : inside.scheduler.active = id :: before.scheduler.active := rejoins.active
  have outer : (inside.leavingTask id task before.executor).scheduler.active =
      before.scheduler.active := congrArg List.tail running
  constructor
  · refine ⟨inner.marks, ?_, inner.awaited, ?_, ?_, inner.unique, inner.next, ?_,
      inner.neverStill⟩
    · intro awaited waiter awaits
      rw [outer]
      exact marked.waiters awaited waiter (rejoins.awaits ▸ awaits)
    · intro other runs
      rw [outer] at runs
      exact Nat.lt_of_lt_of_le (marked.running other runs) rejoins.tasks
    · intro other member
      obtain ⟨registered, apart⟩ := inner.queued other member
      exact ⟨registered, fun runs => apart (List.mem_of_mem_tail runs)⟩
    · intro other earlier recorded runs
      exact inner.taken other earlier recorded (List.mem_of_mem_tail runs)
  · exact ⟨rejoins.awaits, rfl, outer, rejoins.queued, rejoins.tasks⟩

theorem taking {id : TaskId} {rest : List TaskId} {popped : Session}
    (ids : before.scheduler.queue.ids = id :: rest)
    (noted : (before.taking rest).Noted (.dequeued id) popped) :
    popped.Marked ∧ before.Rejoins popped ∧ popped.Chosen id := by
  have queued := marked.queued
  have unique := marked.unique
  rw [ids] at queued unique
  obtain ⟨registered, idle⟩ := queued id List.mem_cons_self
  obtain ⟨unqueued, distinct⟩ := List.nodup_cons.mp unique
  have awaits : awaitsIn popped.journal = awaitsIn before.journal := by
    rw [noted.journal]
    rfl
  have scheduler : popped.scheduler = { before.scheduler with queue := ⟨rest⟩ } := noted.scheduler
  refine ⟨⟨?_, ?_, ?_, ?_, ?_, ?_, ?_, ?_, ?_⟩, ⟨awaits, ?_, ?_, ?_, ?_⟩, ?_⟩
  · intro other awaited
    rw [awaits, scheduler]
    exact marked.marks other awaited
  · rw [awaits, scheduler]
    exact marked.waiters
  · rw [awaits, scheduler]
    exact marked.awaited
  · rw [scheduler]
    exact marked.running
  · rw [scheduler]
    exact fun other member => queued other (List.mem_cons_of_mem _ member)
  · rw [scheduler]
    exact distinct
  · rw [scheduler]
    exact marked.next
  · intro other earlier recorded
    rw [noted.journal] at recorded
    cases recorded
    rw [scheduler]
    exact idle
  · rw [noted.journal]
    exact stillWaiting_not_mem_cons marked.neverStill fun _ _ => nofun
  · exact congrArg Executor.currentTask noted.executor
  · rw [scheduler]
  · intro other member
    rw [scheduler] at member
    rw [ids]
    exact .inl (List.mem_cons_of_mem _ member)
  · exact Nat.le_of_eq (by rw [scheduler])
  · constructor <;> rw [scheduler] <;> assumption

end Session.Marked

theorem Session.Marked.requeued {id : TaskId} {before left after : Session} (inner : left.Marked)
    (rejoins : before.Rejoins left) (chosen : left.Chosen id)
    (queued : id ∈ before.scheduler.queue.ids)
    (noted : (Interpreter.requeueing id left).Noted (.requeued id) after) :
    after.Marked ∧ before.Rejoins after := by
  have pushed : (Interpreter.requeueing id left).Marked := by
    refine ⟨inner.marks, inner.waiters, inner.awaited, inner.running, ?_, ?_, inner.next,
      inner.taken, inner.neverStill⟩
    · intro other member
      rcases List.mem_append.mp member with older | last
      · exact inner.queued other older
      · cases List.mem_singleton.mp last
        exact ⟨chosen.known, chosen.idle⟩
    · exact Scheduler.nodup_push inner.unique chosen.unqueued
  have back : before.Rejoins (Interpreter.requeueing id left) := by
    refine ⟨rejoins.awaits, rejoins.currentTask, rejoins.active, fun other member => ?_,
      rejoins.tasks⟩
    rcases List.mem_append.mp member with older | last
    · exact rejoins.queued other older
    · cases List.mem_singleton.mp last
      exact .inl queued
  exact ⟨pushed.noted rfl noted, back.trans (noted.rejoins rfl)⟩

/-! ### Steps and turns -/

theorem Interpreter.stepEnding_marks {id : TaskId} {task : Task} {session : Session}
    {outcome : Outcome Unit} (marked : session.Marked) (idle : id ∉ session.scheduler.active)
    (ended : outcome.Rejoins (session.enteringTask id task)) :
    (stepEnding id task session.executor outcome).Rejoins session := by
  have advanced {left : Session} (inner : left.Marked)
      (rejoins : (session.enteringTask id task).Rejoins left) {change : Task → Task}
      (keeps : ∀ task, (change task).waitingFor = task.waitingFor) :
      ((left.leavingTask id task session.executor).onTask id change).Marked ∧
        session.Rejoins ((left.leavingTask id task session.executor).onTask id change) := by
    obtain ⟨marked', rejoins'⟩ := marked.left inner rejoins
    have same := Session.Alongside.onTask keeps id (left.leavingTask id task session.executor)
    exact ⟨marked'.alongside same, rejoins'.trans same.rejoins⟩
  -- Whatever the task has awaited in the step, it does not await any more.
  have completed {after : Session} (done : after.Marked ∧ session.Rejoins after)
      (payload : Value) : (after.onTask id (Task.complete payload)).Marked ∧
        session.Rejoins (after.onTask id (Task.complete payload)) := by
    obtain ⟨marked', rejoins'⟩ := done
    have same := Session.Alongside.completing (marked'.unmarked (rejoins'.active ▸ idle)) payload
    exact ⟨marked'.alongside same, rejoins'.trans same.rejoins⟩
  cases outcome with
  | halted moment => exact ended
  | done value left =>
      unfold stepEnding
      dsimp only
      split
      · refine completed (advanced ended.1 ended.2 ?_) .void
        exact fun _ => rfl
      · refine advanced ended.1 ended.2 ?_
        exact fun _ => rfl
  | raised signal left =>
      cases signal with
      | suspend fromLoop =>
          refine advanced ended.1 ended.2 ?_
          exact fun _ => rfl
      | returning value =>
          refine completed (advanced ended.1 ended.2 ?_) value
          exact fun _ => rfl
      | breakLoop => exact marked.left ended.1 ended.2
      | continueLoop => exact marked.left ended.1 ended.2
      | fault cause => exact marked.left ended.1 ended.2

theorem Interpreter.afterStep_marks (finalize : ∀ id, Act.Marks .driving (Act.finalize id))
    {id : TaskId} {before left : Session} (marked : left.Marked) (rejoins : before.Rejoins left)
    (chosen : left.Chosen id) (queued : id ∈ before.scheduler.queue.ids) (status : StepStatus) :
    (Interpreter.afterStep id status left).Rejoins before := by
  have requeue (status : StepStatus) :
      ((Interpreter.requeue id >>= fun _ => Pure.pure (some (id, status)) :
        Act (Option (TaskId × StepStatus))) left).Rejoins before := by
    refine Act.note_bind_elim (motive := Outcome.Rejoins before) ?_ ?_
    · exact fun after noted => marked.requeued rejoins chosen queued noted
    · exact fun moment noted => (marked.requeued rejoins chosen queued noted).1.awaitsMarked
  cases status with
  | done =>
      have ends : Act.Marks .driving (Interpreter.afterStep id .done) :=
        .bind (finalize id) fun _ => .pure _
      exact (ends left marked nofun).after rejoins
  | pending => exact requeue .pending
  | blocked => exact requeue .blocked

section Turns

variable {interpreter : Interpreter}
  (exec : ∀ path statement, Act.Marks .running (interpreter.exec path statement))

include exec

theorem runStatement_marks {id : TaskId} {reading : Nat} {session : Session}
    (marked : session.Marked) (chosen : session.Chosen id) :
    (interpreter.runStatement id reading session).Rejoins session := by
  have started : session.Alongside (session.onTask id Task.start) := by
    refine .onTask (fun task => ?_) id session
    unfold Task.start
    split <;> rfl
  have announced : session.Alongside
      (Interpreter.announcing id (session.onTask id Task.start)) := by
    refine started.trans (.trans (.onTask ?_ id _) (.counting _ _))
    exact fun _ => rfl
  refine interpreter.runStatement_elim (motive := Outcome.Rejoins session) ?_ ?_ ?_ ?_
  · exact fun _ => ⟨marked.alongside started, started.rejoins⟩
  · intro _ _ _
    have completed : session.Alongside ((session.onTask id Task.start).onTask id
        (Task.complete .void)) := by
      refine started.trans (.completing ?_ .void)
      rw [started.marks]
      exact marked.unmarked chosen.idle
    exact ⟨marked.alongside completed, completed.rejoins⟩
  · exact fun _ _ moment noted => ((marked.alongside announced).noted rfl noted).awaitsMarked
  · intro task _ statement _ noted recorded
    have begins := (marked.alongside announced).noted rfl recorded
    have rejoins : session.Rejoins noted := announced.rejoins.trans (recorded.rejoins rfl)
    have chosen' := chosen.rejoined rejoins
    have begun : ∀ other earlier, noted.journal ≠ .dequeued other :: earlier := by
      rw [recorded.journal]
      exact fun _ _ => nofun
    obtain ⟨entered, free⟩ := begins.entered chosen' task begun
    have runs := exec [.item task.counter] statement _ entered fun _ => free
    exact (Interpreter.stepEnding_marks begins chosen'.idle runs).after rejoins

theorem step_marks {id : TaskId} {session : Session} (marked : session.Marked)
    (chosen : session.Chosen id) : (interpreter.step id session).Rejoins session := by
  have free := marked.unmarked chosen.idle
  have impossible {goal : Prop} {task : Task} {awaited : TaskId}
      (found : session.scheduler.task? id = some task) (mark : task.waitingFor = some awaited) :
      goal := by
    unfold Scheduler.mark? at free
    rw [found] at free
    cases mark.symm.trans free
  have ticked : session.Alongside session.ticked := .ofScheduler rfl rfl rfl
  have awake : session.Alongside (session.ticked.onTask id Interpreter.woken) := by
    refine ticked.trans (.onTask ?_ id _)
    exact fun _ => rfl
  have freed {after : Session} (alongside : session.Alongside after) :
      after.scheduler.mark? id = none := by
    rw [alongside.marks]
    exact free
  refine interpreter.step_elim (motive := Outcome.Rejoins session) ?_ ?_ ?_ ?_
  · exact fun _ => ⟨marked, .refl session⟩
  · exact fun _ found _ _ mark => impossible found mark
  · intro _ _ _ _
    refine interpreter.stepReady_elim (motive := Outcome.Rejoins session) ?_ ?_ ?_ ?_ ?_
    · exact fun _ => ⟨marked.alongside ticked, ticked.rejoins⟩
    · intro _ _ _ after noted
      have expired : session.Alongside (Interpreter.expiring id session.ticked) :=
        ticked.trans (.trans (.completing (freed ticked) _) (.counting _ _))
      have recorded := (marked.alongside expired).noted rfl noted
      exact ⟨⟨recorded, expired.rejoins.trans (noted.rejoins rfl)⟩, recorded.awaitsMarked⟩
    · intro _ _ _ _
      have blocked : session.Alongside (Interpreter.blocking session.ticked) :=
        ticked.trans (.counting _ _)
      exact ⟨marked.alongside blocked, blocked.rejoins⟩
    · intro _ _ _ _ _
      have completed : session.Alongside ((session.ticked.onTask id Interpreter.woken).onTask id
          (Task.complete .void)) := awake.trans (.completing (freed awake) .void)
      have marked' := marked.alongside completed
      refine ⟨⟨marked', completed.rejoins⟩, fun after noted => ?_⟩
      have recorded := marked'.noted rfl noted
      exact ⟨⟨recorded, completed.rejoins.trans (noted.rejoins rfl)⟩, recorded.awaitsMarked⟩
    · intro _ _ _ _ _
      refine Outcome.Rejoins.after awake.rejoins ?_
      exact runStatement_marks exec (marked.alongside awake) (chosen.rejoined awake.rejoins)
  · exact fun _ found _ _ mark _ => impossible found mark

theorem cycle_marks (finalize : ∀ id, Act.Marks .driving (Act.finalize id)) :
    Act.Marks .driving interpreter.cycle := by
  intro session marked _
  cases ids : session.scheduler.queue.ids with
  | nil =>
      rw [interpreter.cycle_empty ids]
      exact ⟨marked, .refl session⟩
  | cons id rest =>
      have queued : id ∈ session.scheduler.queue.ids := by
        rw [ids]
        exact List.mem_cons_self
      rw [interpreter.cycle_taking ids (marked.queued id queued).2]
      refine Act.note_bind_elim (motive := Outcome.Rejoins session) (fun popped noted => ?_) ?_
      · obtain ⟨marked', rejoins, chosen⟩ := marked.taking ids noted
        have stepped := step_marks exec marked' chosen
        refine Act.bind_elim (motive := Outcome.Rejoins session) ?_ ?_ ?_
        · intro status left run
          rw [run] at stepped
          exact Interpreter.afterStep_marks finalize stepped.1 (rejoins.trans stepped.2)
            (chosen.rejoined stepped.2) queued status
        · intro signal left run
          rw [run] at stepped
          exact ⟨stepped.1, rejoins.trans stepped.2⟩
        · intro moment run
          rw [run] at stepped
          exact stepped
      · exact fun moment noted => (marked.taking ids noted).1.awaitsMarked

end Turns

/-- Whatever an interpreter does, the marks stay the awaits in progress. -/
theorem Woven.marks {grade : Grade} {action : Act α} (woven : Woven grade action) :
    Act.Marks grade action := by
  induction woven with
  | halt => exact .halt
  | pure value => exact .pure value
  | raise signal => exact .raise signal
  | moment => exact .moment
  | read view => exact .read view
  | note event remark => exact .note event (Event.isOfWaiting_of_isRemark remark)
  | write _ => exact .update fun _ => .ofScheduler rfl rfl rfl
  | print line => exact .update fun _ => .ofScheduler rfl rfl rfl
  | positions change => exact .update fun _ => .ofScheduler rfl rfl rfl
  | idle swept => exact .idle swept
  | register fresh => exact .register fresh
  | publish id receiver =>
      refine .update fun session => .onTask ?_ id session
      exact fun _ => rfl
  | count change => exact .update fun session => .counting change session
  | modifySite site _ => exact .update fun session => .modifySite site _ session
  | sleepTask id millis => exact .sleepTask id millis
  | setTimeout id millis => exact .setTimeout id millis
  | bindFuture id site =>
      refine .update fun session => .onTask ?_ id session
      exact fun _ => rfl
  | bind _ _ head tail => exact .bind head tail
  | attempt _ inner => exact .attempt inner
  | lift _ inner => exact fun session marked _ => inner session marked nofun
  | cycle _ _ finalize exec => exact cycle_marks exec finalize
  | calling name _ _ inner => exact .calling name _ inner
  | @awaiting depth id _ inner =>
      intro session marked free
      rcases (interpreter depth).awaitUnfinished_cases id session with run | ⟨⟨task, known, _⟩, run⟩
      · rw [run]
        exact ⟨marked, .refl session⟩
      · rw [run]
        exact Act.Marks.awaiting inner marked (free rfl)
          (Scheduler.task?_isSome_iff.mp ⟨task, known⟩)

/-! ### Runs -/

theorem Session.marked_start (settings : Settings) (clock : Clock) (budget : Option Nat) :
    ({ Session.start settings 0 with clock, budget } : Session).Marked where
  marks id awaited := by
    have unmarked : (Session.start settings 0).scheduler.mark? id = none := rfl
    exact ⟨fun mark => (nomatch unmarked.symm.trans mark), nofun⟩
  waiters := nofun
  awaited := nofun
  running := nofun
  queued := nofun
  unique := List.nodup_nil
  next := rfl
  taken := nofun
  neverStill := nofun

theorem Act.Marks.load {grade : Grade} (program : Program) : Marks grade (Act.load program) := by
  refine .bind (.update fun session => .ofScheduler rfl ?_ rfl) fun _ => ?_
  · rw [Executor.load_eq]
  · exact .bind (.read _) fun _ => .note _

theorem Interpreter.runProgram_marks (depth : Nat) (program : Program) :
    Act.Marks .running ((interpreter depth).runProgram program) := by
  rw [Interpreter.runProgram_eq]
  exact .bind (.load program) fun _ => ((interpreter_woven depth).runLoaded program).marks

def Session.NobodyWaits (session : Session) : Prop :=
  session.scheduler.active = [] ∧ ∀ id, session.scheduler.mark? id = none

theorem Outcome.Rejoins.settled {session : Session} {outcome : Outcome α}
    (calm : session.scheduler.active = []) (ends : outcome.Rejoins session) :
    outcome.session.AwaitsMarked ∧
      (∀ value after, outcome = .done value after → after.NobodyWaits) ∧
      ∀ signal after, outcome = .raised signal after → after.NobodyWaits := by
  have unmarked {after : Session} (marked : after.Marked) (rejoins : session.Rejoins after) :
      after.NobodyWaits := by
    have idle := rejoins.active.trans calm
    exact ⟨idle, marked.awaitsMarked.outside idle⟩
  cases outcome with
  | done value after =>
      refine ⟨ends.1.awaitsMarked, fun _ _ same => ?_, fun _ _ => nofun⟩
      cases same
      exact unmarked ends.1 ends.2
  | raised signal after =>
      refine ⟨ends.1.awaitsMarked, fun _ _ => nofun, fun _ _ same => ?_⟩
      cases same
      exact unmarked ends.1 ends.2
  | halted moment => exact ⟨ends, fun _ _ => nofun, fun _ _ => nofun⟩

/-- The marks of waiting tasks are the awaits in progress, at every moment of every run of a program
in a fresh session. When the run is over, whether it has succeeded or not, no task is marked. -/
theorem marks_are_awaits (depth : Nat) (program : Program) (settings : Settings) (clock : Clock)
    (budget : Option Nat) :
    let outcome := (interpreter depth).runProgram program
      { Session.start settings 0 with clock, budget }
    outcome.session.AwaitsMarked ∧
      (∀ value after, outcome = .done value after → after.NobodyWaits) ∧
      ∀ signal after, outcome = .raised signal after → after.NobodyWaits := by
  have ends := Interpreter.runProgram_marks depth program _
    (Session.marked_start settings clock budget) fun _ _ => nofun
  exact ends.settled rfl

/-- A task that awaits a second one, which yields once. -/
def awaitingWork : Program where
  structs := []
  functions := [
    { name := "work", params := [], body := [.yield], isAsync := true, owner := none },
    { name := "wait", params := [], body := [.expression (.await (.call "work" []))],
      isAsync := true, owner := none }]
  main := [.expression (.call "wait" [])]

def awaitingWorkWithin (budget : Option Nat) : Outcome Unit :=
  (interpreter 8).runProgram awaitingWork { Session.start {} 0 with clock := {}, budget }

/-- When the awaited task has yielded, the task that awaits it is marked. -/
theorem marks_are_awaits_awaitingWork :
    let halfway := (awaitingWorkWithin (some 14)).session
    halfway.scheduler.mark? ⟨0⟩ = some ⟨1⟩ ∧ ⟨0⟩ ∈ halfway.scheduler.active ∧
      (⟨1⟩, some ⟨0⟩) ∈ awaitsIn halfway.journal ∧
      (awaitingWorkWithin none).isDone = true ∧ (awaitingWorkWithin none).session.NobodyWaits := by
  have mark : (awaitingWorkWithin (some 14)).session.scheduler.mark? ⟨0⟩ = some ⟨1⟩ := by
    decide +kernel
  have ends : (awaitingWorkWithin none).isDone = true := by decide +kernel
  obtain ⟨value, run⟩ := Outcome.eq_done ends
  have marks : (awaitingWorkWithin (some 14)).session.AwaitsMarked :=
    (marks_are_awaits 8 awaitingWork {} {} (some 14)).1
  obtain ⟨running, _, awaits⟩ := marks.marked ⟨0⟩ ⟨1⟩ mark
  have rests : ∀ value after, awaitingWorkWithin none = .done value after → after.NobodyWaits :=
    (marks_are_awaits 8 awaitingWork {} {} none).2.1
  exact ⟨mark, running, awaits, ends, rests value _ run⟩

end CooperativeTasks
