import CooperativeTasks.Proofs.Completion
import CooperativeTasks.Proofs.Publishing
import CooperativeTasks.Proofs.RoundRobin

set_option autoImplicit false

/-! Drives that come to an end.

A turn of the queue leaves less to do than it found, whether its task goes on, ends or is blocked.
So the driver ends, and it does so however fast time passes between the turns: there is not more
left to do when the clock has moved on further. -/

namespace CooperativeTasks

variable {α β : Type}

/-! ### Publishing -/

theorem Session.Reported.map_tasks {before after : Session} (reported : before.Reported after)
    {view : Task → β} (same : ∀ task later : Task, task.ReportedAs later → view later = view task) :
    after.scheduler.tasks.map view = before.scheduler.tasks.map view := by
  apply List.ext_getElem?
  intro index
  rw [List.getElem?_map, List.getElem?_map]
  cases found : before.scheduler.tasks[index]? with
  | none =>
      have beyond := List.getElem?_eq_none_iff.mp found
      rw [← reported.count] at beyond
      rw [List.getElem?_eq_none beyond]
  | some task =>
      obtain ⟨later, known, reportedAs⟩ := reported.tasks ⟨index⟩ task found
      have there : after.scheduler.tasks[index]? = some later := known
      rw [there, Option.map_some, same task later reportedAs]
      rfl

theorem Session.Reported.toGo {before after : Session} (reported : before.Reported after) :
    after.scheduler.toGo = before.scheduler.toGo := by
  unfold Scheduler.toGo
  rw [reported.map_tasks]
  rintro task later ⟨_, _, _, _, rfl⟩
  rfl

theorem finalize_reports {id : TaskId} {session : Session} {task : Task}
    (unlimited : session.budget = none) (found : session.scheduler.task? id = some task)
    (finished : task.isFinished = true) :
    ∃ after, Act.finalize id session = .done () after ∧ session.Reported after ∧
      after.scheduler.settings = session.scheduler.settings := by
  obtain ⟨after, ran, reported, _⟩ := Act.Reports.finalize unlimited found finished
  refine ⟨after, ran, reported, ?_⟩
  cases published : task.isPublished with
  | true =>
      have unready : Act.finalize id session = .done () session := by
        apply Act.finalize_unready
        intro other known
        cases found.symm.trans known
        exact .inr published
      cases ran.symm.trans unready
      rfl
  | false =>
      obtain ⟨written, wrote, overwritten⟩ := finalize_overwrites unlimited found finished published
      cases ran.symm.trans wrote
      rw [overwritten.scheduler]
      rfl

/-! ### Turns -/

namespace Session

def requeued (id : TaskId) (session : Session) : Session :=
  (Interpreter.requeueing id session).recorded (.requeued id)

def idled (swept : List TaskId) (session : Session) : Session :=
  let pause := session.scheduler.settings.idleBackoffMs * nanosPerMilli
  let counted := session.counting fun statistics =>
    { statistics with idleBackoffs := statistics.idleBackoffs + 1 }
  { counted with clock := { session.clock with now := session.clock.now + pause } }.recorded
    (.idled swept)

end Session

namespace Interpreter

variable {interpreter : Interpreter} {session left after : Session} {id : TaskId}
  {rest : List TaskId} {status : StepStatus}

theorem requeue_unlimited (unlimited : session.budget = none) (id : TaskId) :
    requeue id session = .done () (session.requeued id) :=
  @Act.note_unlimited (requeueing id session) unlimited (.requeued id)

theorem idle_unlimited (unlimited : session.budget = none) (swept : List TaskId) :
    idle swept session = .done () (session.idled swept) :=
  @Act.note_unlimited { session.counting _ with clock := _ } unlimited (.idled swept)

theorem turn_cycle {id : TaskId} {status : StepStatus}
    (ran : interpreter.cycle session = .done (some (id, status)) after) (swept : List TaskId) :
    interpreter.turn swept session =
      (do return some (← afterTurn swept id status) : Act (Option (List TaskId))) after :=
  Act.bind_of_done ran

section Front

variable (queue : session.scheduler.queue.ids = id :: rest)
  (active : session.scheduler.active = []) (unlimited : session.budget = none)

include queue active unlimited

theorem turn_done (ran : interpreter.step id (popping id rest session) = .done .done left)
    (finalized : Act.finalize id left = .done () after) (swept : List TaskId) :
    interpreter.turn swept session = .done (some []) after := by
  have cycled : interpreter.cycle session = .done (some (id, .done)) after := by
    rw [cycle_front queue active unlimited, Act.bind_of_done ran]
    exact Act.bind_of_done finalized
  exact turn_cycle cycled swept

variable (still : left.budget = none)

include still

theorem turn_pending (ran : interpreter.step id (popping id rest session) = .done .pending left)
    (swept : List TaskId) :
    interpreter.turn swept session = .done (some []) (left.requeued id) := by
  have cycled : interpreter.cycle session = .done (some (id, .pending)) (left.requeued id) := by
    rw [cycle_front queue active unlimited, Act.bind_of_done ran]
    exact Act.bind_of_done (requeue_unlimited still id)
  exact turn_cycle cycled swept

theorem turn_blocked (ran : interpreter.step id (popping id rest session) = .done .blocked left)
    (swept : List TaskId) :
    interpreter.turn swept session =
      if (left.requeued id).scheduler.queue.size ≤ (swept ++ [id]).length then
        .done (some []) ((left.requeued id).idled (swept ++ [id]))
      else .done (some (swept ++ [id])) (left.requeued id) := by
  have cycled : interpreter.cycle session = .done (some (id, .blocked)) (left.requeued id) := by
    rw [cycle_front queue active unlimited, Act.bind_of_done ran]
    exact Act.bind_of_done (requeue_unlimited still id)
  have goesOn : interpreter.turn swept session =
      (do return some (← afterTurn swept id .blocked) : Act (Option (List TaskId)))
        (left.requeued id) := turn_cycle cycled swept
  by_cases full : (left.requeued id).scheduler.queue.size ≤ (swept ++ [id]).length
  · have pauses : afterTurn swept id .blocked (left.requeued id) =
        .done [] ((left.requeued id).idled (swept ++ [id])) := by
      rw [afterTurn, Act.scheduler_bind, if_pos full]
      exact Act.bind_of_done (@idle_unlimited (left.requeued id) still (swept ++ [id]))
    rw [if_pos full, goesOn]
    exact Act.bind_of_done pauses
  · have sweeps : afterTurn swept id .blocked (left.requeued id) =
        .done (swept ++ [id]) (left.requeued id) := by
      rw [afterTurn, Act.scheduler_bind, if_neg full]
      rfl
    rw [if_neg full, goesOn]
    exact Act.bind_of_done sweeps

end Front

end Interpreter

namespace Session.Completable

variable {session left after : Session} {id : TaskId} {rest : List TaskId} {task : Task}
  {change : Task → Task}

section Step

variable (completable : session.Completable) (queue : session.scheduler.queue.ids = id :: rest)
  (stepped : (Interpreter.popping id rest session).SteppedOn id change left)

include completable queue stepped

theorem others {other : TaskId} (different : other ≠ id) :
    other ∈ rest ↔ left.scheduler.Unfinished other := by
  have table : left.scheduler.task? other = session.scheduler.task? other :=
    stepped.task?_of_ne different
  have member := completable.queued other
  rw [queue, List.mem_cons, or_iff_right different] at member
  unfold Scheduler.Unfinished at member ⊢
  rw [table]
  exact member

theorem requeued (onward : session.scheduler.GoesOn left.scheduler)
    (lives : left.scheduler.Unfinished id) : (left.requeued id).Completable := by
  have rotated : (left.requeued id).scheduler.queue.ids = rest ++ [id] :=
    congrArg (fun queue : ReadyQueue => queue.ids ++ [id]) stepped.queue
  have distinct := completable.distinct
  rw [queue] at distinct
  obtain ⟨absent, unique⟩ := List.nodup_cons.mp distinct
  apply @goesOn session (left.requeued id) completable
  case onward => exact onward.trans (.ofTasks rfl)
  case budget => exact stepped.budget
  case active => exact stepped.active
  case settings => exact stepped.settings
  case distinct =>
    rw [rotated]
    exact Scheduler.nodup_push unique absent
  case queued =>
    intro other
    change _ ↔ left.scheduler.Unfinished other
    rw [rotated, List.mem_append, List.mem_singleton]
    by_cases same : other = id
    · subst other
      exact iff_of_true (.inr rfl) lives
    · rw [or_iff_left same]
      exact completable.others queue stepped same

theorem finalized (onward : session.scheduler.GoesOn left.scheduler)
    (gone : ¬ left.scheduler.Unfinished id) (reported : left.Reported after)
    (settings : after.scheduler.settings = left.scheduler.settings) : after.Completable := by
  have queued : after.scheduler.queue.ids = rest :=
    congrArg ReadyQueue.ids (reported.queue.trans stepped.queue)
  have distinct := completable.distinct
  rw [queue] at distinct
  obtain ⟨absent, unique⟩ := List.nodup_cons.mp distinct
  have lives (other : TaskId) :
      after.scheduler.Unfinished other ↔ left.scheduler.Unfinished other := by
    constructor
    · exact reported.goesOn.unfinished
    · rintro ⟨task, known, unfinished⟩
      obtain ⟨later, found, _, _, _, _, rfl⟩ := reported.tasks other task known
      exact ⟨_, found, unfinished⟩
  apply @goesOn session after completable
  case onward => exact onward.trans reported.goesOn
  case budget => exact reported.budget.trans stepped.budget
  case active => exact reported.active.trans stepped.active
  case settings => exact settings.trans stepped.settings
  case distinct =>
    rw [queued]
    exact unique
  case queued =>
    intro other
    rw [queued, lives]
    by_cases same : other = id
    · subst other
      exact iff_of_false absent gone
    · exact completable.others queue stepped same

end Step

theorem remaining_lt_blocked (completable : session.Completable)
    (queue : session.scheduler.queue.ids = id :: rest)
    (known : session.scheduler.task? id = some task)
    (stepped : (Interpreter.popping id rest session).SteppedOn id change left)
    (resumes : task.Resumes (Interpreter.popping id rest session).scheduler session.clock.now
      .blocked (change task))
    {swept swept' : List TaskId} (tasks : after.scheduler.tasks = left.scheduler.tasks)
    (requeued : after.scheduler.queue = left.scheduler.queue.push id)
    (later : left.clock.now ≤ after.clock.now)
    (paused : left.clock.now < after.clock.now ∨
      swept' = swept ++ [id] ∧ swept'.length < after.scheduler.queue.size) :
    after.remaining swept' < session.remaining swept := by
  have modified : after.scheduler.tasks = session.scheduler.tasks.modify id.index change :=
    tasks.trans stepped.tasks
  have now : session.clock.now ≤ left.clock.now := stepped.now
  apply @Session.remaining_lt_of_blocked session after swept swept' id rest
  case toGo =>
    unfold Scheduler.toGo
    rw [modified, map_modify_of_same known resumes.toGo_eq]
  case lastWake =>
    unfold Scheduler.lastWake
    have same : (change task).wakeAt.getD 0 = task.wakeAt.getD 0 :=
      congrArg (Option.getD · 0) resumes.wakeAt_eq
    rw [modified]
    exact congrArg (List.foldr max 0) (map_modify_of_same known same)
  case front => exact queue
  case rotated =>
    rw [requeued, stepped.queue]
    rfl
  -- Once nobody sleeps, what has blocked the task is the one it waits for, and it is as it was.
  case held =>
    intro awake
    rcases resumes.blocked with ⟨same, awaited, marked, going⟩ | ⟨wakeAt, set, early⟩
    · have unchanged : after.scheduler.tasks = session.scheduler.tasks := by
        have views : (session.scheduler.tasks.modify id.index change).map (fun task => task) =
            session.scheduler.tasks.map fun task => task := map_modify_of_same known same
        rw [modified]
        simpa using views
      refine ⟨?_, unchanged⟩
      have waits : (!session.scheduler.isFinished awaited) = true := by
        rw [show session.scheduler.isFinished awaited = false from going]
        rfl
      unfold Scheduler.isHeldUp
      rw [known, Option.any_some, marked]
      exact waits
    · have ahead := Scheduler.le_lastWake known set
      unfold Session.untilAwake at awake
      omega
  case free =>
    apply completable.exists_free
    rw [queue]
    exact List.cons_ne_nil id rest
  case later => exact Nat.le_trans now later
  case paused => exact paused.imp_left fun sooner => Nat.lt_of_le_of_lt now sooner

/-- A turn leaves less to do. -/
theorem turn (completable : session.Completable) (queue : session.scheduler.queue.ids = id :: rest)
    (swept : List TaskId) :
    ∃ swept' after,
      (∀ depth, (interpreter (depth + 2)).turn swept session = .done (some swept') after) ∧
      after.Completable ∧ after.remaining swept' < session.remaining swept := by
  have member : id ∈ session.scheduler.queue.ids := by
    rw [queue]
    exact List.mem_cons_self
  obtain ⟨task, known, unfinished⟩ := (completable.queued id).mp member
  have unlimited := completable.unlimited
  obtain ⟨status, change, left, ran, stepped, resumes⟩ :=
    @step_prints id (Interpreter.popping id rest session) task known unfinished
      (completable.prints id task known unfinished) unlimited
  have still : left.budget = none := stepped.budget.trans unlimited
  have onward : session.scheduler.GoesOn left.scheduler :=
    .resumes known unfinished resumes stepped.tasks
  have own : left.scheduler.task? id = some (change task) := stepped.task?_self known
  have ending := resumes.isFinished_iff unfinished
  have less (moved : status ≠ .blocked) : left.scheduler.toGo < session.scheduler.toGo := by
    unfold Scheduler.toGo
    rw [stepped.tasks]
    exact foldr_add_modify_lt known (resumes.toGo_lt unfinished moved)
  -- A task that ends or goes on has less to do. One that is blocked brings on a pause or extends
  -- the sweep.
  cases status with
  | done =>
      have finished : (change task).isFinished = true := ending.mpr rfl
      obtain ⟨after, ended, reported, settings⟩ := finalize_reports still own finished
      have gone : ¬ left.scheduler.Unfinished id := by
        rintro ⟨other, there, going⟩
        cases own.symm.trans there
        rw [finished] at going
        cases going
      refine ⟨[], after, fun depth => ?_, ?_, ?_⟩
      · exact Interpreter.turn_done queue completable.outside unlimited (ran depth) ended swept
      · exact completable.finalized queue stepped onward gone reported settings
      · apply Session.remaining_lt_of_toGo
        rw [reported.toGo]
        exact less nofun
  | pending =>
      have going : (change task).isFinished = false := by
        apply eq_false_of_ne_true
        exact fun finished => nomatch ending.mp finished
      refine ⟨[], left.requeued id, fun depth => ?_, ?_, ?_⟩
      · exact Interpreter.turn_pending queue completable.outside unlimited still (ran depth) swept
      · exact completable.requeued queue stepped onward ⟨_, own, going⟩
      · exact Session.remaining_lt_of_toGo (less nofun)
  | blocked =>
      have going : (change task).isFinished = false := by
        apply eq_false_of_ne_true
        exact fun finished => nomatch ending.mp finished
      have back := completable.requeued queue stepped onward ⟨_, own, going⟩
      have turned (depth : Nat) :=
        Interpreter.turn_blocked queue completable.outside unlimited still (ran depth) swept
      by_cases full : (left.requeued id).scheduler.queue.size ≤ (swept ++ [id]).length
      · let idled := (left.requeued id).idled (swept ++ [id])
        have pause : left.clock.now < idled.clock.now :=
          Nat.lt_add_of_pos_right (Nat.mul_pos back.pauses (by decide))
        refine ⟨[], idled, fun depth => ?_, ?_, ?_⟩
        · rw [turned, if_pos full]
        · exact back.goesOn (.ofTasks rfl) rfl rfl rfl back.distinct back.queued
        · exact completable.remaining_lt_blocked queue known stepped resumes rfl rfl
            (Nat.le_of_lt pause) (.inl pause)
      · refine ⟨swept ++ [id], left.requeued id, fun depth => ?_, back, ?_⟩
        · rw [turned, if_neg full]
        · exact completable.remaining_lt_blocked queue known stepped resumes rfl rfl
            (Nat.le_refl _) (.inr ⟨rfl, Nat.lt_of_not_le full⟩)

end Session.Completable

/-! ### Drives -/

namespace Interpreter

theorem iterate_turnThrough_still (interpreter : Interpreter) (turns moment : Nat)
    (swept : List TaskId) (session : Session) :
    Act.iterate turns (interpreter.turnThrough fun _ => 0) (moment, swept) session =
      Act.iterate turns interpreter.turn swept session := by
  induction turns generalizing moment swept session with
  | zero => rfl
  | succ turns ih =>
      have same : session.later 0 = session := rfl
      rw [Act.iterate, Act.iterate, turnThrough_apply, same]
      rcases interpreter.turn swept session with ⟨_ | swept, after⟩ | ⟨signal, after⟩ | ⟨moment⟩
      · rfl
      · exact ih (moment + 1) swept after
      · rfl
      · rfl

theorem runThrough_still (interpreter : Interpreter) :
    interpreter.runThrough (fun _ => 0) = interpreter.run := by
  have same : Act.iterate interpreter.turns (interpreter.turnThrough fun _ => 0) (0, []) =
      Act.iterate interpreter.turns interpreter.turn [] := by
    funext session
    exact iterate_turnThrough_still interpreter _ 0 [] session
  unfold runThrough
  rw [same]
  rfl

end Interpreter

/-- Nothing is queued, and every task has come to its end. -/
structure Session.Drained (session : Session) : Prop where
  queue : session.scheduler.queue.ids = []
  tasks : ∀ id task, session.scheduler.task? id = some task → task.isFinished = true

namespace Session.Completable

variable {session : Session}

theorem drained (completable : session.Completable) (empty : session.scheduler.queue.ids = []) :
    session.Drained where
  queue := empty
  tasks id task known := by
    cases finished : task.isFinished with
    | true => rfl
    | false =>
        have queued := (completable.queued id).mpr ⟨task, known, finished⟩
        rw [empty] at queued
        cases queued

theorem later (completable : session.Completable) (nanos : Nat) :
    (session.later nanos).Completable :=
  completable.goesOn (.ofTasks rfl) rfl rfl rfl completable.distinct completable.queued

/-- The turns of a drive come to an end, whatever time passes between them. -/
theorem iterate (passing : Nat → Nat) (completable : session.Completable) (moment : Nat)
    (swept : List TaskId) :
    ∃ turns after, after.Completable ∧ after.Drained ∧ ∀ depth more, turns ≤ more →
      Act.iterate more ((interpreter (depth + 2)).turnThrough passing) (moment, swept) session =
        .done () after := by
  -- The order of what remains is well-founded, and every turn leaves less.
  induction left : session.remaining swept using WellFoundedLT.induction
    generalizing session moment swept with
  | ind bound ih =>
      have begins := completable.later (passing moment)
      cases queue : (session.later (passing moment)).scheduler.queue.ids with
      | nil =>
          refine ⟨1, session.later (passing moment), begins, begins.drained queue, ?_⟩
          intro depth more enough
          obtain ⟨spare, rfl⟩ := Nat.exists_eq_add_of_le' enough
          rw [Act.iterate, Interpreter.turnThrough_apply, Interpreter.turn_empty queue]
          rfl
      | cons id rest =>
          obtain ⟨swept', between, turned, kept, less⟩ := begins.turn queue swept
          -- Time that passes before the turn leaves no more to do than there was.
          have nearer :
              (session.later (passing moment)).remaining swept ≤ session.remaining swept :=
            Session.remaining_le_of_later rfl (Nat.le_add_right ..)
          have shorter : between.remaining swept' < bound := left ▸ lt_of_lt_of_le less nearer
          obtain ⟨turns, after, ends, drained, ran⟩ := ih _ shorter kept (moment + 1) swept' rfl
          refine ⟨turns + 1, after, ends, drained, ?_⟩
          intro depth more enough
          obtain ⟨spare, rfl⟩ := Nat.exists_eq_add_of_le' enough
          rw [← Nat.add_assoc, Act.iterate, Interpreter.turnThrough_apply, turned]
          exact ran depth (spare + turns) (Nat.le_add_left ..)

end Session.Completable

theorem runThrough_drains {session : Session} (completable : session.Completable)
    (passing : Nat → Nat) :
    ∃ bound after, after.Drained ∧ ∀ depth, bound ≤ depth →
      (interpreter depth).runThrough passing session = .done () after := by
  let driving := session.recorded (.driving session.scheduler.queue.size)
  have begins : driving.Completable :=
    completable.goesOn (.ofTasks rfl) rfl rfl rfl completable.distinct completable.queued
  obtain ⟨turns, after, ends, drained, ran⟩ := begins.iterate passing 0 []
  refine ⟨turns + 2, after.recorded .drained, ⟨drained.queue, drained.tasks⟩, ?_⟩
  intro depth enough
  obtain ⟨spare, rfl⟩ := Nat.exists_eq_add_of_le' enough
  have driven := ran (spare + turns) (spare + turns + 1) (by omega)
  exact Act.driving_done completable.unlimited driven ends.unlimited

/-- A run comes to its end, with nothing queued and every task finished, when nothing is in a step,
the driver pauses for some time when it finds everybody blocked, those who are queued are just the
unfinished tasks, none of them twice, each of them does nothing but print literals, if that, and the
marks of those that wait point at registered tasks and never in a circle. When tasks wake up, when
they run out of time, and how fast time passes between the turns makes no difference. -/
theorem run_drains {session : Session} (completable : session.Completable) :
    (∃ bound after, after.Drained ∧ ∀ depth, bound ≤ depth →
      (interpreter depth).run session = .done () after) ∧
    ∀ passing, ∃ bound after, after.Drained ∧ ∀ depth, bound ≤ depth →
      (interpreter depth).runThrough passing session = .done () after := by
  refine ⟨?_, runThrough_drains completable⟩
  obtain ⟨bound, after, drained, ran⟩ := runThrough_drains completable fun _ => 0
  refine ⟨bound, after, drained, fun depth enough => ?_⟩
  rw [← Interpreter.runThrough_still]
  exact ran depth enough

def greeting : FunctionDecl where
  name := "greeting"
  params := []
  body := [.printing (.str "good"), .printing (.str "morning")]
  isAsync := true
  owner := none

def sleepingIn : Session :=
  let slept := ((interpreter 0).request (.spawnTimer 5) (.start {} 0)).session
  let called := ((interpreter 0).request (.spawn greeting []) slept).session
  let waits := ((interpreter 0).request (.waitOn ⟨1⟩ ⟨0⟩) called).session
  ((interpreter 0).request (.timeout ⟨1⟩ 8) waits).session

theorem sleepingIn_completable : sleepingIn.Completable := by
  have queue : sleepingIn.scheduler.queue.ids = [⟨0⟩, ⟨1⟩] := rfl
  constructor
  case unlimited => rfl
  case outside => rfl
  case pauses => decide
  case distinct =>
    rw [queue]
    decide
  case queued =>
    intro id
    rw [queue]
    rcases id with ⟨_ | _ | index⟩
    · exact iff_of_true (by decide) ⟨_, rfl, rfl⟩
    · exact iff_of_true (by decide) ⟨_, rfl, rfl⟩
    · refine iff_of_false (by simp) ?_
      rintro ⟨task, known, _⟩
      cases known
  case prints =>
    rintro ⟨_ | _ | index⟩ task known _ statement member
    · cases known
      cases member
    · cases known
      change statement ∈ [Stmt.printing _, Stmt.printing _] at member
      rcases List.mem_pair.mp member with same | same
      · exact ⟨_, same⟩
      · exact ⟨_, same⟩
    · cases known
  case registered =>
    rintro ⟨_ | _ | index⟩ task awaited known _ marked
    · cases known
      cases marked
    · cases known
      cases marked
      exact ⟨_, rfl⟩
    · cases known
  case acyclic =>
    apply Scheduler.acyclic_of_earlier
    rintro ⟨_ | _ | index⟩ awaited ⟨⟨task, known, _, marked⟩, _⟩
    · cases known
      cases marked
    · cases known
      cases marked
      exact Nat.zero_lt_one
    · cases known

/-- The task that sleeps has to be passed over several times before anything can move on. -/
theorem run_drains_sleepingIn :
    sleepingIn.Completable ∧
      ∃ bound after, after.Drained ∧ (interpreter bound).run sleepingIn = .done () after := by
  obtain ⟨⟨bound, after, drained, ran⟩, _⟩ := run_drains sleepingIn_completable
  exact ⟨sleepingIn_completable, bound, after, drained, ran bound (Nat.le_refl bound)⟩

end CooperativeTasks
