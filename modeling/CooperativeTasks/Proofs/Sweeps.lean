import CooperativeTasks.Proofs.Awaiting

set_option autoImplicit false

/-! Pauses and sweeps of the queue.

A driver counts the turns that find a task blocked, and pauses when it has had as many in a row as
there are tasks in the queue. Such a turn moves its task from the front of the queue to the end and
leaves the queue alone otherwise. So the turns before a pause have been through the whole queue. -/

namespace CooperativeTasks

namespace Interpreter

variable (interpreter : Interpreter)

/-! ### Turns that find a task blocked -/

theorem step_blocked_queue (id : TaskId) (session : Session) :
    (interpreter.step id session).Meets
      (fun status after => status = .blocked → after.scheduler.queue = session.scheduler.queue)
      fun _ _ => True := by
  have ready (start : Session) (same : start.scheduler.queue = session.scheduler.queue) :
      (interpreter.stepReady id start).Meets
        (fun status after => status = .blocked → after.scheduler.queue = session.scheduler.queue)
        fun _ _ => True := by
    refine interpreter.stepReady_elim (fun _ => nofun) (fun _ _ _ _ _ => ⟨nofun, trivial⟩)
      (fun _ _ _ _ _ => same) (fun _ _ _ _ _ => ⟨nofun, fun _ _ => ⟨nofun, trivial⟩⟩) ?_
    intro _ _ _ _ _
    refine interpreter.runStatement_elim (fun _ => nofun) (fun _ _ _ => nofun)
      (fun _ _ _ _ => trivial) ?_
    intro task _ statement _ noted _
    unfold stepping
    rcases stepEnding_cases id task noted.executor
        (interpreter.exec [.item task.counter] statement (noted.enteringTask id task)) with
      ⟨_, _, ended⟩ | ⟨_, _, ended⟩ | ⟨_, _, _, ending, _, _, ended, _⟩
    · rw [ended]
      trivial
    · rw [ended]
      trivial
    · rw [ended]
      cases ending <;> nofun
  refine interpreter.step_elim (fun _ => nofun) ?_ (fun _ _ _ _ => ready session rfl)
    fun _ _ _ _ _ _ => ready _ rfl
  intro _ _ _ _ _ _ after noted
  exact ⟨fun _ => (congrArg Scheduler.queue noted.scheduler :), trivial⟩

theorem cycle_rotates (session : Session) :
    (interpreter.cycle session).Meets
      (fun result after => ∀ id status, result = some (id, status) →
        ∃ rest, session.scheduler.queue.ids = id :: rest ∧
          (status = .blocked → after.scheduler.queue.ids = rest ++ [id]))
      fun _ _ => True := by
  refine interpreter.cycle_elim (fun _ => nofun) (fun _ _ _ _ _ => trivial) ?_
    (fun _ _ _ _ _ _ _ _ => trivial) (fun _ _ _ _ _ _ _ _ _ => trivial) ?_ ?_
  · intro id remaining taken _ popped noted after requeued
    obtain ⟨rest, ids, rfl⟩ := Scheduler.dequeue?_eq_some taken
    refine ⟨trivial, nofun, ?_⟩
    rintro _ _ ⟨⟩
    refine ⟨rest, ids, fun _ => ?_⟩
    rw [requeued.scheduler]
    change popped.scheduler.queue.ids ++ [id] = _
    rw [noted.scheduler]
  · intro id remaining taken _ popped _ left _ after _
    obtain ⟨rest, ids, rfl⟩ := Scheduler.dequeue?_eq_some taken
    refine ⟨fun _ => trivial, fun _ => ?_⟩
    rintro _ _ ⟨⟩
    exact ⟨rest, ids, nofun⟩
  · intro id remaining taken _ popped noted status left _ stepped after requeued
    obtain ⟨rest, ids, rfl⟩ := Scheduler.dequeue?_eq_some taken
    refine ⟨trivial, ?_⟩
    rintro _ _ ⟨⟩
    refine ⟨rest, ids, fun blocked => ?_⟩
    have kept := interpreter.step_blocked_queue id popped
    rw [stepped] at kept
    rw [requeued.scheduler]
    change left.scheduler.queue.ids ++ [id] = _
    rw [kept blocked, noted.scheduler]

theorem idle_done {swept : List TaskId} {before after : Session}
    (ended : idle swept before = .done () after) :
    after.scheduler.queue = before.scheduler.queue ∧
      after.scheduler.statistics.idleBackoffs = before.scheduler.statistics.idleBackoffs + 1 := by
  let counted := before.counting fun statistics =>
    { statistics with idleBackoffs := statistics.idleBackoffs + 1 }
  have idles : idle swept before = Act.note (.idled swept) { counted with clock := _ } := rfl
  rw [idles] at ended
  rcases Act.note_cases (.idled swept) { counted with clock := _ } with
    ⟨noted, same, run⟩ | ⟨_, _, run⟩
  · cases run.symm.trans ended
    rw [same.scheduler]
    exact ⟨rfl, rfl⟩
  · cases run.symm.trans ended

/-- After a turn that has found its task blocked, the driver pauses if it has had as many in a row
as there are tasks in the queue. Otherwise it adds the turn to its sweep. All other turns end the
sweep. -/
theorem afterTurn_cases {swept next : List TaskId} {id : TaskId} {status : StepStatus}
    {between after : Session} (ended : afterTurn swept id status between = .done next after) :
    (status ≠ .blocked ∧ next = [] ∧ after = between) ∨
    (status = .blocked ∧ between.scheduler.queue.ids.length ≤ swept.length + 1 ∧ next = [] ∧
      after.scheduler.queue = between.scheduler.queue ∧
        after.scheduler.statistics.idleBackoffs = between.scheduler.statistics.idleBackoffs + 1) ∨
    (status = .blocked ∧ swept.length + 1 < between.scheduler.queue.ids.length ∧
      next = swept ++ [id] ∧ after = between) := by
  cases status with
  | done =>
      cases ended
      exact .inl ⟨nofun, rfl, rfl⟩
  | pending =>
      cases ended
      exact .inl ⟨nofun, rfl, rfl⟩
  | blocked =>
      rw [afterTurn, Act.scheduler_bind, List.length_append, List.length_singleton] at ended
      split at ended
      · rename_i full
        obtain ⟨_, paused, idled, ended⟩ := Act.bind_done ended
        cases ended
        exact .inr (.inl ⟨rfl, full, rfl, idle_done idled⟩)
      · rename_i short
        cases ended
        exact .inr (.inr ⟨rfl, Nat.lt_of_not_le short, rfl, rfl⟩)

end Interpreter

/-! ### Laps -/

/-- A turn of a driver: the task that had it, what came of it, the queue after that, and whether the
driver paused then. -/
structure Lap where
  id : TaskId
  status : StepStatus
  queue : List TaskId
  paused : Bool

/-- Pauses are counted. -/
def Session.pausedBy (before after : Session) : Bool :=
  before.scheduler.statistics.idleBackoffs < after.scheduler.statistics.idleBackoffs

namespace Interpreter

/-- The drivers: for all tasks, and until one of them is finished. -/
inductive IsDriver (interpreter : Interpreter) :
    (List TaskId → Act (Option (List TaskId))) → Prop where
  | all : IsDriver interpreter interpreter.turn
  | untilFinished (id : TaskId) : IsDriver interpreter (interpreter.turnUntil id)

/-- The turns that a driver has made so far, and the sweep and the session that it has come to. -/
inductive Laps (interpreter : Interpreter) (driver : List TaskId → Act (Option (List TaskId)))
    (start : Session) : List Lap → List TaskId → Session → Prop where
  | start : Laps interpreter driver start [] [] start
  | lap {laps : List Lap} {swept next : List TaskId} {session between after : Session} {id : TaskId}
      {status : StepStatus} (earlier : Laps interpreter driver start laps swept session)
      (cycled : interpreter.cycle session = .done (some (id, status)) between)
      (turned : driver swept session = .done (some next) after) :
      Laps interpreter driver start
        (laps ++ [⟨id, status, between.scheduler.queue.ids, between.pausedBy after⟩]) next after

variable {interpreter : Interpreter} {driver : List TaskId → Act (Option (List TaskId))}
  {start session after : Session} {swept next : List TaskId}

theorem IsDriver.turned (drives : interpreter.IsDriver driver)
    (ran : driver swept session = .done (some next) after) :
    ∃ id status between, interpreter.cycle session = .done (some (id, status)) between ∧
      afterTurn swept id status between = .done next after := by
  have turn (ran : interpreter.turn swept session = .done (some next) after) :
      ∃ id status between, interpreter.cycle session = .done (some (id, status)) between ∧
        afterTurn swept id status between = .done next after := by
    obtain ⟨result, between, cycled, rest⟩ := Act.bind_done ran
    cases result with
    | none => cases rest
    | some result =>
        obtain ⟨id, status⟩ := result
        obtain ⟨_, _, ended, last⟩ := Act.bind_done rest
        cases last
        exact ⟨id, status, between, cycled, ended⟩
  cases drives with
  | all => exact turn ran
  | untilFinished id =>
      rw [turnUntil, Act.scheduler_bind] at ran
      split at ran
      · cases ran
      · exact turn ran

end Interpreter

/-! ### Sweeps -/

/-- The lap ends a sweep. The laps of the sweep have found their tasks blocked, and these are the
tasks of the queue, each of them once and in the order of the queue. There is no pause between these
laps, and no lap more that might have counted. -/
structure FullSweep (earlier sweep : List Lap) (lap : Lap) : Prop where
  dequeued : (sweep ++ [lap]).map Lap.id = lap.queue
  count : sweep.length + 1 = lap.queue.length
  blocked : ∀ other ∈ sweep ++ [lap], other.status = .blocked
  unpaused : ∀ other ∈ sweep, other.paused = false
  whole : ∀ previous, earlier.getLast? = some previous →
    previous.paused = true ∨ previous.status ≠ .blocked

/-- The laps of a sweep that goes on. Their tasks are at the end of the queue, and are not the whole
of it. -/
structure Sweeping (earlier sweep : List Lap) (swept : List TaskId) (session : Session) : Prop where
  ids : sweep.map Lap.id = swept
  blocked : ∀ lap ∈ sweep, lap.status = .blocked
  unpaused : ∀ lap ∈ sweep, lap.paused = false
  whole : ∀ previous, earlier.getLast? = some previous →
    previous.paused = true ∨ previous.status ≠ .blocked
  level : ∀ lap ∈ sweep, lap.queue.length = session.scheduler.queue.ids.length
  queue : ∃ rest, session.scheduler.queue.ids = rest ++ swept ∧ (rest = [] → swept = [])

namespace Sweeping

variable {interpreter : Interpreter} {earlier sweep : List Lap} {swept next : List TaskId}
  {session between after : Session} {id : TaskId} {status : StepStatus}

theorem opening (whole : ∀ previous, earlier.getLast? = some previous →
      previous.paused = true ∨ previous.status ≠ .blocked) (session : Session) :
    Sweeping earlier [] [] session where
  ids := rfl
  blocked := nofun
  unpaused := nofun
  whole := whole
  level := nofun
  queue := ⟨_, (List.append_nil _).symm, fun _ => rfl⟩

theorem anew {lap : Lap} (ends : lap.paused = true ∨ lap.status ≠ .blocked) (laps : List Lap)
    (session : Session) : Sweeping (laps ++ [lap]) [] [] session := by
  refine opening (fun previous last => ?_) session
  rw [List.getLast?_append, List.getLast?_singleton, Option.some_or] at last
  cases last
  exact ends

variable (sweeping : Sweeping earlier sweep swept session)

include sweeping

theorem rotated (cycled : interpreter.cycle session = .done (some (id, .blocked)) between) :
    between.scheduler.queue.ids.length = session.scheduler.queue.ids.length ∧
      ∃ rest, between.scheduler.queue.ids = rest ++ (swept ++ [id]) := by
  have rotates := interpreter.cycle_rotates session
  rw [cycled] at rotates
  obtain ⟨rest, front, back⟩ := rotates id .blocked rfl
  obtain ⟨ahead, split, swept_nil⟩ := sweeping.queue
  rw [back rfl, front]
  refine ⟨by simp, ?_⟩
  cases ahead with
  | nil =>
      rw [swept_nil rfl, front] at split
      cases split
  | cons first ahead =>
      rw [front] at split
      cases split
      exact ⟨ahead, List.append_assoc ..⟩

section

variable (cycled : interpreter.cycle session = .done (some (id, .blocked)) between) (paused : Bool)

include cycled

theorem fullSweep (full : between.scheduler.queue.ids.length ≤ swept.length + 1) :
    FullSweep earlier sweep ⟨id, .blocked, between.scheduler.queue.ids, paused⟩ := by
  obtain ⟨_, ahead, back⟩ := sweeping.rotated cycled
  have whole : between.scheduler.queue.ids = swept ++ [id] := by
    have sizes := congrArg List.length back
    simp only [List.length_append, List.length_singleton] at sizes
    rw [List.eq_nil_of_length_eq_zero (show ahead.length = 0 by omega)] at back
    exact back
  have dequeued :
      (sweep ++ [(⟨id, .blocked, between.scheduler.queue.ids, paused⟩ : Lap)]).map Lap.id =
        between.scheduler.queue.ids := by
    rw [List.map_append, sweeping.ids]
    exact whole.symm
  refine ⟨dequeued, ?_, ?_, sweeping.unpaused, sweeping.whole⟩
  · have sizes := congrArg List.length dequeued
    rwa [List.length_map, List.length_append, List.length_singleton] at sizes
  · exact List.forall_mem_append.mpr ⟨sweeping.blocked, List.forall_mem_singleton.mpr rfl⟩

theorem extended (short : swept.length + 1 < between.scheduler.queue.ids.length) :
    Sweeping earlier (sweep ++ [⟨id, .blocked, between.scheduler.queue.ids, false⟩]) (swept ++ [id])
      between := by
  obtain ⟨same, ahead, back⟩ := sweeping.rotated cycled
  refine ⟨?_, ?_, ?_, sweeping.whole, ?_, ahead, back, fun none => ?_⟩
  · rw [List.map_append, sweeping.ids]
    rfl
  · exact List.forall_mem_append.mpr ⟨sweeping.blocked, List.forall_mem_singleton.mpr rfl⟩
  · exact List.forall_mem_append.mpr ⟨sweeping.unpaused, List.forall_mem_singleton.mpr rfl⟩
  · refine List.forall_mem_append.mpr ⟨fun other member => ?_, List.forall_mem_singleton.mpr rfl⟩
    rw [sweeping.level other member, same]
  · have sizes := congrArg List.length back
    rw [none, List.nil_append, List.length_append, List.length_singleton] at sizes
    omega

end

theorem lap (cycled : interpreter.cycle session = .done (some (id, status)) between)
    (ended : Interpreter.afterTurn swept id status between = .done next after) :
    let lap : Lap := ⟨id, status, between.scheduler.queue.ids, between.pausedBy after⟩
    (lap.paused = true → FullSweep earlier sweep lap) ∧
      ∃ earlier' sweep', earlier ++ sweep ++ [lap] = earlier' ++ sweep' ∧
        Sweeping earlier' sweep' next after := by
  have still : between.pausedBy between = false := decide_eq_false (Nat.lt_irrefl _)
  rcases Interpreter.afterTurn_cases ended with
    ⟨ready, rfl, rfl⟩ | ⟨rfl, full, rfl, queue, counted⟩ | ⟨rfl, short, rfl, rfl⟩
  · rw [still]
    exact ⟨nofun, _, [], (List.append_nil _).symm, anew (.inr ready) _ _⟩
  · have pauses : between.pausedBy after = true := by
      unfold Session.pausedBy
      rw [counted]
      exact decide_eq_true (Nat.lt_succ_self _)
    exact ⟨fun _ => sweeping.fullSweep cycled _ full, _, [], (List.append_nil _).symm,
      anew (.inl pauses) _ _⟩
  · rw [still]
    exact ⟨nofun, earlier, _, List.append_assoc .., sweeping.extended cycled short⟩

/-- A sweep that goes on has fewer laps than the queue has tasks. Blocked laps that are more reach
back to the lap before it, which therefore has ended with a pause. -/
theorem pauses {before window : List Lap} (split : earlier ++ sweep = before ++ window)
    (blocked : ∀ lap ∈ window, lap.status = .blocked)
    (enough : ∃ lap ∈ window, lap.queue.length ≤ window.length) :
    ∃ lap ∈ window, lap.paused = true := by
  -- Within the sweep there are fewer laps than the queue is long.
  have outside {more : List Lap} (inside : sweep = more ++ window) : False := by
    obtain ⟨lap, member, few⟩ := enough
    obtain ⟨rest, queue, rest_nil⟩ := sweeping.queue
    have level := sweeping.level lap (inside ▸ List.mem_append_right more member)
    have lengths := congrArg List.length inside
    have swept_length := congrArg List.length sweeping.ids
    rw [List.length_append] at lengths
    rw [List.length_map] at swept_length
    rw [queue, List.length_append] at level
    have none : rest = [] := List.eq_nil_of_length_eq_zero (by omega)
    have positive := List.length_pos_of_mem member
    rw [rest_nil none, List.length_nil] at swept_length
    omega
  -- The window reaches back past the beginning of the sweep, to the lap that ended the one before.
  rcases List.append_eq_append_iff.mp split with ⟨more, _, inside⟩ | ⟨reaching, ahead, cut⟩
  · exact (outside inside).elim
  · rcases List.eq_nil_or_concat reaching with rfl | ⟨others, last, rfl⟩
    · exact (@outside [] cut.symm).elim
    · have member : last ∈ window := by
        rw [cut]
        simp
      refine ⟨last, member, (sweeping.whole last ?_).resolve_right fun ready =>
        ready (blocked last member)⟩
      rw [ahead]
      simp

end Sweeping

namespace Interpreter

section Driving

variable {interpreter : Interpreter} {driver : List TaskId → Act (Option (List TaskId))}
  (drives : interpreter.IsDriver driver) {start reached : Session} {laps : List Lap}
  {swept : List TaskId}

include drives

theorem Laps.sweeping (driven : interpreter.Laps driver start laps swept reached) :
    ∃ earlier sweep, laps = earlier ++ sweep ∧ Sweeping earlier sweep swept reached := by
  induction driven with
  | start => exact ⟨[], [], rfl, .opening (by simp) start⟩
  | lap driven cycled turned ih =>
      obtain ⟨earlier, sweep, rfl, sweeping⟩ := ih
      obtain ⟨_, _, _, cycled', ended⟩ := drives.turned turned
      cases cycled.symm.trans cycled'
      exact (sweeping.lap cycled ended).2

theorem Laps.fullSweep (driven : interpreter.Laps driver start laps swept reached)
    {before later : List Lap} {lap : Lap} (split : laps = before ++ lap :: later)
    (paused : lap.paused = true) :
    ∃ earlier sweep, before = earlier ++ sweep ∧ FullSweep earlier sweep lap := by
  induction driven generalizing later with
  | start => cases List.append_eq_nil_iff.mp split.symm |>.2
  | @lap laps _ _ _ _ _ _ _ driven cycled turned ih =>
      rcases List.eq_nil_or_concat later with rfl | ⟨others, last, rfl⟩
      · obtain ⟨rfl, same⟩ := List.append_inj' split rfl
        obtain ⟨earlier, sweep, rfl, sweeping⟩ := driven.sweeping drives
        obtain ⟨_, _, _, cycled', ended⟩ := drives.turned turned
        cases cycled.symm.trans cycled'
        cases same
        exact ⟨earlier, sweep, rfl, (sweeping.lap cycled ended).1 paused⟩
      · rw [List.concat_eq_append, ← List.cons_append, ← List.append_assoc] at split
        exact ih (List.append_inj' split rfl).1

/-- Laps that find their tasks blocked, one after the other and as many as there are tasks in the
queue, include one with a pause. -/
theorem Laps.pauses (driven : interpreter.Laps driver start laps swept reached)
    {before window later : List Lap} (split : laps = before ++ window ++ later)
    (blocked : ∀ lap ∈ window, lap.status = .blocked)
    (enough : ∃ lap ∈ window, lap.queue.length ≤ window.length) :
    ∃ lap ∈ window, lap.paused = true := by
  induction driven generalizing later with
  | start =>
      obtain ⟨lap, member, _⟩ := enough
      have empty := (List.append_eq_nil_iff.mp (List.append_eq_nil_iff.mp split.symm).1).2
      rw [empty] at member
      cases member
  | @lap laps _ _ _ _ _ _ _ driven cycled turned ih =>
      rcases List.eq_nil_or_concat later with rfl | ⟨others, last, rfl⟩
      · obtain ⟨earlier, sweep, same, sweeping⟩ :=
          Laps.sweeping drives (.lap driven cycled turned)
        rw [List.append_nil, same] at split
        exact sweeping.pauses split blocked enough
      · rw [List.concat_eq_append, ← List.append_assoc] at split
        exact ih (List.append_inj' split rfl).1

/-- However a driver ends, and however many turns it may take, it makes laps, and after the last of
them at most one more turn, in which it stops. -/
theorem Laps.iterate (driven : interpreter.Laps driver start laps swept reached) (turns : Nat) :
    ∃ laps' swept' reached', interpreter.Laps driver start laps' swept' reached' ∧
      ((Act.iterate turns driver swept reached).session = reached' ∨
        (Act.iterate turns driver swept reached).session = (driver swept' reached').session) := by
  induction turns generalizing laps swept reached with
  | zero => exact ⟨laps, swept, reached, driven, .inl rfl⟩
  | succ turns ih =>
      rw [Act.iterate]
      cases turned : driver swept reached with
      | halted | raised =>
          refine ⟨laps, swept, reached, driven, .inr ?_⟩
          rw [turned]
          rfl
      | done next after =>
          cases next with
          | none =>
              refine ⟨laps, swept, reached, driven, .inr ?_⟩
              rw [turned]
              rfl
          | some next =>
              obtain ⟨_, _, _, cycled, _⟩ := drives.turned turned
              exact ih (.lap driven cycled turned)

end Driving

end Interpreter

/-- The drivers are loops of laps, wherever they are started, and each lap dequeues the front of the
queue. A lap with a pause ends a sweep: exactly as many laps as there are tasks in the queue then,
the last of which it is, have dequeued these tasks, each of them once, and have found them blocked.
And of as many laps in a row that find their tasks blocked one ends with a pause. -/
theorem pauses_end_full_sweeps (interpreter : Interpreter)
    (driver : List TaskId → Act (Option (List TaskId))) (drives : interpreter.IsDriver driver)
    (start : Session) :
    (∀ turns, ∃ laps swept reached, interpreter.Laps driver start laps swept reached ∧
      ((Act.iterate turns driver [] start).session = reached ∨
        (Act.iterate turns driver [] start).session = (driver swept reached).session)) ∧
    (∀ session id status between, interpreter.cycle session = .done (some (id, status)) between →
      session.scheduler.queue.ids.head? = some id) ∧
    ∀ laps swept reached, interpreter.Laps driver start laps swept reached →
      (∀ before lap later, laps = before ++ lap :: later → lap.paused = true →
        ∃ earlier sweep, before = earlier ++ sweep ∧ FullSweep earlier sweep lap) ∧
      ∀ before window later, laps = before ++ window ++ later →
        (∀ lap ∈ window, lap.status = .blocked) →
        (∃ lap ∈ window, lap.queue.length ≤ window.length) →
        ∃ lap ∈ window, lap.paused = true := by
  refine ⟨fun turns => ?_, fun session id status between cycled => ?_,
    fun laps swept reached driven => ⟨?_, ?_⟩⟩
  · exact Interpreter.Laps.iterate drives .start turns
  · have rotates := interpreter.cycle_rotates session
    rw [cycled] at rotates
    obtain ⟨rest, front, _⟩ := rotates id status rfl
    rw [front]
    rfl
  · exact fun before lap later split paused => driven.fullSweep drives split paused
  · exact fun before window later split blocked enough => driven.pauses drives split blocked enough

/-- The session in which two timers have been set. -/
def twoTimers : Session :=
  let first := ((interpreter 0).request (.spawnTimer 5) (.start {} 0)).session
  ((interpreter 0).request (.spawnTimer 5) first).session

theorem pauses_end_full_sweeps_twoTimers :
    ∃ reached, (interpreter 1).Laps (interpreter 1).turn twoTimers
        [⟨⟨0⟩, .blocked, [⟨1⟩, ⟨0⟩], false⟩, ⟨⟨1⟩, .blocked, [⟨0⟩, ⟨1⟩], true⟩] [] reached ∧
      (∃ earlier sweep, [⟨⟨0⟩, .blocked, [⟨1⟩, ⟨0⟩], false⟩] = earlier ++ sweep ∧
        FullSweep earlier sweep ⟨⟨1⟩, .blocked, [⟨0⟩, ⟨1⟩], true⟩) ∧
      ∃ lap ∈ ([⟨⟨0⟩, .blocked, [⟨1⟩, ⟨0⟩], false⟩, ⟨⟨1⟩, .blocked, [⟨0⟩, ⟨1⟩], true⟩] : List Lap),
        lap.paused = true := by
  let driver := interpreter 1
  let between := (driver.turn [] twoTimers).session
  have first : driver.Laps driver.turn twoTimers [⟨⟨0⟩, .blocked, [⟨1⟩, ⟨0⟩], false⟩] [⟨0⟩]
      between :=
    @Interpreter.Laps.lap driver driver.turn twoTimers [] [] [⟨0⟩] twoTimers
      (driver.cycle twoTimers).session between ⟨0⟩ .blocked .start rfl rfl
  have second : driver.Laps driver.turn twoTimers
      [⟨⟨0⟩, .blocked, [⟨1⟩, ⟨0⟩], false⟩, ⟨⟨1⟩, .blocked, [⟨0⟩, ⟨1⟩], true⟩] []
      (driver.turn [⟨0⟩] between).session :=
    @Interpreter.Laps.lap driver driver.turn twoTimers _ [⟨0⟩] [] between
      (driver.cycle between).session (driver.turn [⟨0⟩] between).session ⟨1⟩ .blocked first rfl rfl
  obtain ⟨_, _, sweeps⟩ := pauses_end_full_sweeps driver driver.turn .all twoTimers
  obtain ⟨whole, often⟩ := sweeps _ _ _ second
  exact ⟨_, second, whole [_] _ [] rfl rfl,
    often [] _ [] (List.append_nil _).symm (by simp) ⟨_, List.mem_cons_self, Nat.le_refl 2⟩⟩

end CooperativeTasks
