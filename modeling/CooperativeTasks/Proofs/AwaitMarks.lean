import CooperativeTasks.Proofs.Weaving
import CooperativeTasks.Proofs.QueueAccounting

set_option autoImplicit false

/-! Marks of tasks that wait, and awaits in progress.

An await marks the task that awaits, drives the scheduler and takes the mark away again, whichever
way the drive has ended. While it drives, nobody steps the task that awaits, since that is in a
step, and a call that its step is in has hidden it. So no task awaits twice at a time, and the marks
are exactly the awaits in progress. -/

namespace CooperativeTasks

variable {α β : Type}

/-- The task that a task is marked as waiting for. -/
def Scheduler.mark? (id : TaskId) (scheduler : Scheduler) : Option TaskId :=
  (scheduler.task? id).bind Task.waitingFor

/-- The awaits that have begun and not ended, each with the task that awaits, innermost first. -/
def awaitsIn : List Event → List (TaskId × Option TaskId)
  | [] => []
  | .awaiting awaited waiter :: earlier => (awaited, waiter) :: awaitsIn earlier
  | .awaitEnded _ _ :: earlier => (awaitsIn earlier).tail
  | _ :: earlier => awaitsIn earlier

def Event.isOfAwait : Event → Bool
  | .awaiting _ _ => true
  | .awaitEnded _ _ => true
  | _ => false

/-- The event is about an await, or about what the marks of awaits decide. -/
def Event.isOfWaiting : Event → Bool
  | .stillWaiting _ _ => true
  | .dequeued _ => true
  | event => event.isOfAwait

theorem awaitsIn_cons {event : Event} (aside : event.isOfWaiting = false) (earlier : List Event) :
    awaitsIn (event :: earlier) = awaitsIn earlier := by
  cases event <;> first | rfl | cases aside

theorem Event.isOfWaiting_of_isRemark {event : Event} (remark : event.isRemark = true) :
    event.isOfWaiting = false := by
  cases event <;> first | rfl | cases remark

theorem stillWaiting_not_mem_cons {event : Event} {earlier : List Event}
    (never : ∀ id awaited, .stillWaiting id awaited ∉ earlier)
    (different : ∀ id awaited, event ≠ .stillWaiting id awaited) (id awaited : TaskId) :
    .stillWaiting id awaited ∉ event :: earlier := by
  intro member
  rcases List.mem_cons.mp member with same | older
  · exact different id awaited same.symm
  · exact never id awaited older

/-- The marks are the awaits in progress. -/
structure Session.AwaitsMarked (session : Session) : Prop where
  /-- A marked task is in a step, in which it awaits the task that it is marked for. -/
  marked : ∀ id awaited, session.scheduler.mark? id = some awaited →
    id ∈ session.scheduler.active ∧ (∃ task, session.scheduler.task? awaited = some task) ∧
      (awaited, some id) ∈ awaitsIn session.journal
  /-- A task that awaits is marked, as soon as it has been recorded that it awaits. -/
  awaits : ∀ id awaited, (awaited, some id) ∈ awaitsIn session.journal →
    session.scheduler.mark? id = some awaited ∨
      session.journal.head? = some (.awaiting awaited (some id))
  dequeued : ∀ id earlier, session.journal = .dequeued id :: earlier →
    session.scheduler.mark? id = none
  neverStill : ∀ id awaited, .stillWaiting id awaited ∉ session.journal
  outside : session.scheduler.active = [] → ∀ id, session.scheduler.mark? id = none

/-- The marks are exactly the awaits in progress, which are those of tasks in steps; and what is
queued is not in a step. -/
structure Session.Marked (session : Session) : Prop where
  marks : ∀ id awaited, session.scheduler.mark? id = some awaited ↔
    (awaited, some id) ∈ awaitsIn session.journal
  waiters : ∀ awaited waiter, (awaited, some waiter) ∈ awaitsIn session.journal →
    waiter ∈ session.scheduler.active
  awaited : ∀ awaited waiter, (awaited, waiter) ∈ awaitsIn session.journal →
    awaited.index < session.scheduler.tasks.length
  running : ∀ id ∈ session.scheduler.active, id.index < session.scheduler.tasks.length
  queued : ∀ id ∈ session.scheduler.queue.ids,
    id.index < session.scheduler.tasks.length ∧ id ∉ session.scheduler.active
  unique : session.scheduler.queue.ids.Nodup
  next : session.scheduler.ids.next.index = session.scheduler.tasks.length
  taken : ∀ id earlier, session.journal = .dequeued id :: earlier → id ∉ session.scheduler.active
  neverStill : ∀ id awaited, .stillWaiting id awaited ∉ session.journal

/-- What any bracket restores, as far as awaits are concerned. What is queued in the end was queued
before or is new. -/
structure Session.Rejoins (before after : Session) : Prop where
  awaits : awaitsIn after.journal = awaitsIn before.journal
  currentTask : after.executor.currentTask = before.executor.currentTask
  active : after.scheduler.active = before.scheduler.active
  queued : ∀ id ∈ after.scheduler.queue.ids,
    id ∈ before.scheduler.queue.ids ∨ before.scheduler.tasks.length ≤ id.index
  tasks : before.scheduler.tasks.length ≤ after.scheduler.tasks.length

namespace Session.Rejoins

theorem refl (session : Session) : Rejoins session session :=
  ⟨rfl, rfl, rfl, fun _ queued => .inl queued, Nat.le_refl _⟩

theorem trans {first second third : Session} (left : Rejoins first second)
    (right : Rejoins second third) : Rejoins first third where
  awaits := right.awaits.trans left.awaits
  currentTask := right.currentTask.trans left.currentTask
  active := right.active.trans left.active
  queued id last := by
    rcases right.queued id last with between | new
    · exact left.queued id between
    · exact .inr (Nat.le_trans left.tasks new)
  tasks := Nat.le_trans left.tasks right.tasks

end Session.Rejoins

/-- Nothing has changed that has to do with awaits, and nothing has been recorded. -/
structure Session.Alongside (before after : Session) : Prop where
  journal : after.journal = before.journal
  currentTask : after.executor.currentTask = before.executor.currentTask
  active : after.scheduler.active = before.scheduler.active
  queue : after.scheduler.queue = before.scheduler.queue
  ids : after.scheduler.ids = before.scheduler.ids
  tasks : after.scheduler.tasks.length = before.scheduler.tasks.length
  marks : ∀ id, after.scheduler.mark? id = before.scheduler.mark? id

theorem Scheduler.task?_isSome_iff {id : TaskId} {scheduler : Scheduler} :
    (∃ task, scheduler.task? id = some task) ↔ id.index < scheduler.tasks.length := by
  unfold Scheduler.task?
  constructor
  · rintro ⟨task, known⟩
    exact (List.getElem?_eq_some_iff.mp known).1
  · exact fun below => ⟨_, List.getElem?_eq_getElem below⟩

theorem Scheduler.mark?_modifyTask {change : Task → Task}
    (keeps : ∀ task, (change task).waitingFor = task.waitingFor) (id other : TaskId)
    (scheduler : Scheduler) :
    (scheduler.modifyTask id change).mark? other = scheduler.mark? other :=
  view_modifyTask (·.bind Task.waitingFor) keeps id other scheduler

theorem Scheduler.mark?_modifyTask_complete {id : TaskId} {scheduler : Scheduler}
    (unmarked : scheduler.mark? id = none) (payload : Value) (other : TaskId) :
    (scheduler.modifyTask id (Task.complete payload)).mark? other = scheduler.mark? other := by
  by_cases same : other = id
  · subst other
    unfold mark? at unmarked ⊢
    rw [task?_modifyTask_self, unmarked]
    cases scheduler.task? id <;> rfl
  · unfold mark?
    rw [task?_modifyTask_of_ne same]

namespace Session.Alongside

theorem trans {first second third : Session} (left : Alongside first second)
    (right : Alongside second third) : Alongside first third where
  journal := right.journal.trans left.journal
  currentTask := right.currentTask.trans left.currentTask
  active := right.active.trans left.active
  queue := right.queue.trans left.queue
  ids := right.ids.trans left.ids
  tasks := right.tasks.trans left.tasks
  marks id := (right.marks id).trans (left.marks id)

theorem rejoins {before after : Session} (alongside : Alongside before after) :
    before.Rejoins after where
  awaits := by rw [alongside.journal]
  currentTask := alongside.currentTask
  active := alongside.active
  queued id member := .inl (alongside.queue ▸ member)
  tasks := Nat.le_of_eq alongside.tasks.symm

theorem ofScheduler {before after : Session} (journal : after.journal = before.journal)
    (currentTask : after.executor.currentTask = before.executor.currentTask)
    (scheduler : after.scheduler = before.scheduler) : Alongside before after := by
  refine ⟨journal, currentTask, ?_, ?_, ?_, ?_, ?_⟩ <;> rw [scheduler]
  exact fun _ => rfl

theorem onTask {change : Task → Task} (keeps : ∀ task, (change task).waitingFor = task.waitingFor)
    (id : TaskId) (session : Session) : Alongside session (session.onTask id change) where
  journal := rfl
  currentTask := rfl
  active := rfl
  queue := rfl
  ids := rfl
  tasks := List.length_modify ..
  marks other := Scheduler.mark?_modifyTask keeps id other session.scheduler

theorem completing {id : TaskId} {session : Session} (unmarked : session.scheduler.mark? id = none)
    (payload : Value) : Alongside session (session.onTask id (Task.complete payload)) where
  journal := rfl
  currentTask := rfl
  active := rfl
  queue := rfl
  ids := rfl
  tasks := List.length_modify ..
  marks := Scheduler.mark?_modifyTask_complete unmarked payload

theorem counting (change : Statistics → Statistics) (session : Session) :
    Alongside session (session.counting change) :=
  ⟨rfl, rfl, rfl, rfl, rfl, rfl, fun _ => rfl⟩

theorem modifySite (site : BindingSite) (change : Scope → Scope) (session : Session) :
    Alongside session (session.modifySite site change) := by
  unfold Session.modifySite
  split
  · exact .ofScheduler rfl rfl rfl
  · split
    · refine .onTask ?_ _ session
      exact fun _ => rfl
    · exact .ofScheduler rfl rfl rfl

end Session.Alongside

namespace Session.Marked

variable {before after : Session} (marked : before.Marked)

include marked

theorem unmarked {id : TaskId} (idle : id ∉ before.scheduler.active) :
    before.scheduler.mark? id = none := by
  cases mark : before.scheduler.mark? id with
  | none => rfl
  | some awaited =>
      exact absurd (marked.waiters awaited id ((marked.marks id awaited).mp mark)) idle

theorem awaitsMarked : before.AwaitsMarked where
  marked id awaited mark := by
    have awaits := (marked.marks id awaited).mp mark
    exact ⟨marked.waiters awaited id awaits,
      Scheduler.task?_isSome_iff.mpr (marked.awaited awaited _ awaits), awaits⟩
  awaits id awaited awaits := .inl ((marked.marks id awaited).mpr awaits)
  dequeued id earlier recorded := marked.unmarked (marked.taken id earlier recorded)
  neverStill := marked.neverStill
  outside idle id := marked.unmarked (idle ▸ List.not_mem_nil)

theorem alongside (same : before.Alongside after) : after.Marked where
  marks id awaited := by
    rw [same.marks, same.journal]
    exact marked.marks id awaited
  waiters := by
    rw [same.journal, same.active]
    exact marked.waiters
  awaited := by
    rw [same.journal, same.tasks]
    exact marked.awaited
  running := by
    rw [same.active, same.tasks]
    exact marked.running
  queued := by
    rw [same.queue, same.active, same.tasks]
    exact marked.queued
  unique := by
    rw [same.queue]
    exact marked.unique
  next := by
    rw [same.ids, same.tasks]
    exact marked.next
  taken := by
    rw [same.journal, same.active]
    exact marked.taken
  neverStill := by
    rw [same.journal]
    exact marked.neverStill

theorem congr (journal : after.journal = before.journal)
    (scheduler : after.scheduler = before.scheduler) : after.Marked := by
  obtain ⟨marks, waiters, awaited, running, queued, unique, next, taken, neverStill⟩ := marked
  rw [← journal] at marks waiters awaited taken neverStill
  rw [← scheduler] at marks waiters awaited running queued unique next taken
  exact ⟨marks, waiters, awaited, running, queued, unique, next, taken, neverStill⟩

theorem noted {event : Event} (aside : event.isOfWaiting = false)
    (noted : before.Noted event after) : after.Marked where
  marks id awaited := by
    rw [noted.scheduler, noted.journal, awaitsIn_cons aside]
    exact marked.marks id awaited
  waiters := by
    rw [noted.scheduler, noted.journal, awaitsIn_cons aside]
    exact marked.waiters
  awaited := by
    rw [noted.scheduler, noted.journal, awaitsIn_cons aside]
    exact marked.awaited
  running := by
    rw [noted.scheduler]
    exact marked.running
  queued := by
    rw [noted.scheduler]
    exact marked.queued
  unique := by
    rw [noted.scheduler]
    exact marked.unique
  next := by
    rw [noted.scheduler]
    exact marked.next
  taken id earlier recorded := by
    rw [noted.journal] at recorded
    cases recorded
    cases aside
  neverStill := by
    rw [noted.journal]
    refine stillWaiting_not_mem_cons marked.neverStill fun id awaited same => ?_
    rw [same] at aside
    cases aside

end Session.Marked

theorem Session.Noted.rejoins {event : Event} (aside : event.isOfWaiting = false)
    {before after : Session} (noted : before.Noted event after) : before.Rejoins after where
  awaits := by rw [noted.journal, awaitsIn_cons aside]
  currentTask := by rw [noted.executor]
  active := by rw [noted.scheduler]
  queued id member := .inl (noted.scheduler ▸ member)
  tasks := Nat.le_of_eq (by rw [noted.scheduler])

/-! ### Actions -/

def Session.Unawaiting (session : Session) : Prop :=
  ∀ id, session.executor.currentTask = some id →
    id ∈ session.scheduler.active ∧ session.scheduler.mark? id = none

theorem Session.Unawaiting.rejoined {before after : Session} (free : before.Unawaiting)
    (marked : before.Marked) (marked' : after.Marked) (rejoins : before.Rejoins after) :
    after.Unawaiting := by
  intro id current
  obtain ⟨running, unmarked⟩ := free id (rejoins.currentTask.symm.trans current)
  refine ⟨rejoins.active ▸ running, ?_⟩
  cases mark : after.scheduler.mark? id with
  | none => rfl
  | some awaited =>
      have awaits := (marked'.marks id awaited).mp mark
      rw [rejoins.awaits] at awaits
      rw [(marked.marks id awaited).mpr awaits] at unmarked
      cases unmarked

/-- The marks are right wherever this leads to. -/
def Outcome.Rejoins (before : Session) : Outcome α → Prop
  | .done _ after => after.Marked ∧ before.Rejoins after
  | .raised _ after => after.Marked ∧ before.Rejoins after
  | .halted moment => moment.AwaitsMarked

theorem Outcome.Rejoins.after {before between : Session} {outcome : Outcome α}
    (earlier : before.Rejoins between) (later : outcome.Rejoins between) :
    outcome.Rejoins before := by
  cases outcome with
  | done value after => exact ⟨later.1, earlier.trans later.2⟩
  | raised signal after => exact ⟨later.1, earlier.trans later.2⟩
  | halted moment => exact later

/-- The action keeps marks right. Running code does so if its task does not await already. -/
def Act.Marks (grade : Grade) (action : Act α) : Prop :=
  ∀ session, session.Marked → (grade = .running → session.Unawaiting) →
    (action session).Rejoins session

namespace Act.Marks

variable {grade : Grade}

theorem pure (value : α) : Marks grade (Pure.pure value : Act α) :=
  fun session marked _ => ⟨marked, .refl session⟩

theorem raise (signal : Signal) : Marks grade (Act.raise signal : Act α) :=
  fun session marked _ => ⟨marked, .refl session⟩

theorem halt : Marks grade (Act.halt : Act α) :=
  fun _ marked _ => marked.awaitsMarked

theorem read (view : Session → α) : Marks grade (Act.read view) :=
  fun session marked _ => ⟨marked, .refl session⟩

theorem update {change : Session → Session}
    (alongside : ∀ session : Session, session.Alongside (change session)) :
    Marks grade (Act.update change) :=
  fun session marked _ => ⟨marked.alongside (alongside session), (alongside session).rejoins⟩

theorem moment : Marks grade Act.moment := by
  intro session marked _
  have limited (budget : Option Nat) : session.Alongside { session with budget } :=
    .ofScheduler rfl rfl rfl
  unfold Act.moment
  split
  · exact ⟨marked, .refl session⟩
  · exact marked.awaitsMarked
  · exact ⟨marked.alongside (limited _), (limited _).rejoins⟩

theorem note (event : Event) (aside : event.isOfWaiting = false := by rfl) :
    Marks grade (Act.note event) := by
  intro session marked _
  refine note_elim (motive := Outcome.Rejoins session) ?_ ?_
  · exact fun after noted => ⟨marked.noted aside noted, noted.rejoins aside⟩
  · exact fun moment noted => (marked.noted aside noted).awaitsMarked

theorem bind {first : Act α} {next : α → Act β} (head : Marks grade first)
    (tail : ∀ value, Marks grade (next value)) : Marks grade (first >>= next) := by
  intro session marked free
  have begins := head session marked free
  refine bind_elim (motive := Outcome.Rejoins session) ?_ ?_ ?_
  · intro value after run
    rw [run] at begins
    obtain ⟨marked', rejoins⟩ := begins
    have goesOn := tail value after marked' fun running =>
      (free running).rejoined marked marked' rejoins
    exact goesOn.after rejoins
  · intro signal after run
    rw [run] at begins
    exact begins
  · intro moment run
    rw [run] at begins
    exact begins

theorem attempt {action : Act α} (inner : Marks grade action) :
    Marks grade (Act.attempt action) := by
  intro session marked free
  have ends := inner session marked free
  unfold Act.attempt
  cases run : action session with
  | done value after =>
      rw [run] at ends
      exact ends
  | raised signal after =>
      rw [run] at ends
      exact ends
  | halted moment =>
      rw [run] at ends
      exact ends

theorem readClock : Marks grade Act.readClock := by
  rw [readClock_eq]
  refine .bind (.read _) fun now => ?_
  exact .bind (.update fun _ => .ofScheduler rfl rfl rfl) fun _ => .pure now

theorem sleepTask (id : TaskId) (millis : Nat) : Marks grade (Act.sleepTask id millis) := by
  refine .bind .readClock fun now => .bind (.read _) fun scheduler => ?_
  split
  · refine .bind (.update fun session => .onTask ?_ id session) fun _ => .note _
    exact fun _ => rfl
  · exact .pure ()

theorem setTimeout (id : TaskId) (millis : Nat) : Marks grade (Act.setTimeout id millis) := by
  refine .bind .readClock fun now => .bind (.read _) fun scheduler => ?_
  split
  · refine .bind (.update fun session => .onTask ?_ id session) fun _ => .note _
    exact fun _ => rfl
  · exact .pure ()

theorem idle (swept : List TaskId) : Marks grade (Interpreter.idle swept) := by
  refine .bind (.update fun session => .counting _ session) fun _ => .bind (.read _) fun _ => ?_
  exact .bind (.update fun _ => .ofScheduler rfl rfl rfl) fun _ => .note _

end Act.Marks

theorem Session.Marked.registered {task : Task} (fresh : task.waitingFor = none) {before : Session}
    (marked : before.Marked) :
    (before.registering task).Marked ∧ before.Rejoins (before.registering task) := by
  have length : (before.registering task).scheduler.tasks.length =
      before.scheduler.tasks.length + 1 := Scheduler.length_register task before.scheduler
  have queue : (before.registering task).scheduler.queue.ids =
      before.scheduler.queue.ids ++ [before.scheduler.ids.next] := rfl
  have unqueued : before.scheduler.ids.next ∉ before.scheduler.queue.ids := by
    intro member
    have below := (marked.queued _ member).1
    rw [marked.next] at below
    exact Nat.lt_irrefl _ below
  have marks (id : TaskId) :
      (before.registering task).scheduler.mark? id = before.scheduler.mark? id :=
    Scheduler.view_register (·.bind Task.waitingFor) fresh id
  constructor
  · constructor
    · intro id awaited
      rw [marks]
      exact marked.marks id awaited
    · exact marked.waiters
    · intro awaited waiter awaits
      rw [length]
      exact Nat.lt_succ_of_lt (marked.awaited awaited waiter awaits)
    · intro id runs
      rw [length]
      exact Nat.lt_succ_of_lt (marked.running id runs)
    · intro id member
      rw [length]
      rw [queue] at member
      rcases List.mem_append.mp member with older | new
      · exact ⟨Nat.lt_succ_of_lt (marked.queued id older).1, (marked.queued id older).2⟩
      · cases List.mem_singleton.mp new
        refine ⟨Nat.lt_succ_of_le (Nat.le_of_eq marked.next), fun runs => ?_⟩
        have below := marked.running _ runs
        rw [marked.next] at below
        exact Nat.lt_irrefl _ below
    · rw [queue]
      exact Scheduler.nodup_push marked.unique unqueued
    · rw [length, ← marked.next]
      rfl
    · exact marked.taken
    · exact marked.neverStill
  · refine ⟨rfl, rfl, rfl, fun id member => ?_, ?_⟩
    · rw [queue] at member
      rcases List.mem_append.mp member with older | new
      · exact .inl older
      · cases List.mem_singleton.mp new
        exact .inr (Nat.le_of_eq marked.next.symm)
    · rw [length]
      exact Nat.le_succ _

theorem Task.Fresh.waitingFor {task : Task} (fresh : task.Fresh) : task.waitingFor = none := by
  induction fresh with
  | ofFunction function args => rfl
  | timer => rfl
  | withReceiver _ value site ih => exact ih

namespace Act.Marks

variable {grade : Grade}

theorem register {task : Task} (fresh : task.Fresh) : Marks grade (Act.register task) := by
  intro session marked _
  obtain ⟨registered, rejoins⟩ := marked.registered fresh.waitingFor
  refine register_elim (motive := Outcome.Rejoins session) fun _ after noted => ?_
  have recorded := registered.noted rfl noted
  exact ⟨⟨recorded, rejoins.trans (noted.rejoins rfl)⟩, recorded.awaitsMarked⟩

theorem calling (name : String) (scope : Scope) {body : Act Unit} (inner : Marks .running body) :
    Marks .running (Act.calling name scope body) := by
  intro session marked _
  refine calling_elim (motive := Outcome.Rejoins session) ?_ ?_ ?_
  · exact fun _ => ⟨marked, .refl session⟩
  · exact fun _ moment noted => (marked.noted rfl noted).awaitsMarked
  · intro _ noted recorded
    have begins := marked.noted rfl recorded
    have entered : (noted.enteringCall scope).Marked := begins.congr rfl rfl
    have hidden : (noted.enteringCall scope).Unawaiting := fun _ current => nomatch current
    have ends := inner _ entered fun _ => hidden
    have returned {left : Session} (marked' : left.Marked)
        (rejoins : (noted.enteringCall scope).Rejoins left) :
        (left.leavingCall session.executor).Marked ∧
          session.Rejoins (left.leavingCall session.executor) := by
      refine ⟨marked'.congr rfl rfl, (recorded.rejoins rfl).trans ?_⟩
      refine ⟨rejoins.awaits, ?_, rejoins.active, rejoins.queued, rejoins.tasks⟩
      exact (congrArg Executor.currentTask recorded.executor).symm
    cases run : body (noted.enteringCall scope) with
    | halted moment =>
        rw [run] at ends
        exact ends
    | done value left =>
        rw [run] at ends
        exact returned ends.1 ends.2
    | raised signal left =>
        rw [run] at ends
        have back := returned ends.1 ends.2
        cases signal <;> exact back

end Act.Marks

/-! ### Awaits -/

theorem Session.awaitedBy_same (waiter awaited : Option TaskId) (session : Session) :
    (session.awaitedBy waiter awaited).journal = session.journal ∧
      (session.awaitedBy waiter awaited).executor = session.executor ∧
      (session.awaitedBy waiter awaited).scheduler.active = session.scheduler.active ∧
      (session.awaitedBy waiter awaited).scheduler.queue = session.scheduler.queue ∧
      (session.awaitedBy waiter awaited).scheduler.ids = session.scheduler.ids ∧
      (session.awaitedBy waiter awaited).scheduler.tasks.length =
        session.scheduler.tasks.length := by
  unfold Session.awaitedBy
  split
  · exact ⟨rfl, rfl, rfl, rfl, rfl, rfl⟩
  · exact ⟨rfl, rfl, rfl, rfl, rfl, List.length_modify ..⟩

theorem Session.scheduler_awaitedBy {first second : Session}
    (same : second.scheduler = first.scheduler) (waiter awaited : Option TaskId) :
    (second.awaitedBy waiter awaited).scheduler = (first.awaitedBy waiter awaited).scheduler := by
  cases waiter with
  | none => exact same
  | some waiter => exact congrArg (Scheduler.modifyTask waiter _) same

theorem Session.mark?_awaitedBy_self {waiter : TaskId} {session : Session}
    (known : waiter.index < session.scheduler.tasks.length) (awaited : Option TaskId) :
    (session.awaitedBy (some waiter) awaited).scheduler.mark? waiter = awaited := by
  obtain ⟨task, found⟩ := Scheduler.task?_isSome_iff.mpr known
  change (session.scheduler.modifyTask waiter _).mark? waiter = awaited
  unfold Scheduler.mark?
  rw [Scheduler.task?_modifyTask_self, found]
  rfl

theorem Session.mark?_awaitedBy_of_ne {waiter : Option TaskId} {other : TaskId}
    (different : waiter ≠ some other) (awaited : Option TaskId) (session : Session) :
    (session.awaitedBy waiter awaited).scheduler.mark? other = session.scheduler.mark? other := by
  cases waiter with
  | none => rfl
  | some waiter =>
      change (session.scheduler.modifyTask waiter _).mark? other = _
      unfold Scheduler.mark?
      rw [Scheduler.task?_modifyTask_of_ne fun same => different (congrArg some same.symm)]

namespace Session.Marked

variable {before after : Session} (marked : before.Marked)

include marked

theorem remarked {waiter mark : Option TaskId} {event : Event}
    (plain : event.isOfAwait = true)
    (journal : after.journal = event :: before.journal)
    (scheduler : after.scheduler = (before.awaitedBy waiter mark).scheduler)
    (marks : ∀ id awaited, (before.awaitedBy waiter mark).scheduler.mark? id = some awaited ↔
      (awaited, some id) ∈ awaitsIn (event :: before.journal))
    (waiters : ∀ awaited waiter, (awaited, some waiter) ∈ awaitsIn (event :: before.journal) →
      waiter ∈ before.scheduler.active)
    (awaited : ∀ awaited waiter, (awaited, waiter) ∈ awaitsIn (event :: before.journal) →
      awaited.index < before.scheduler.tasks.length) : after.Marked := by
  obtain ⟨_, _, active, queue, ids, length⟩ := before.awaitedBy_same waiter mark
  rw [← journal] at marks waiters awaited
  rw [← scheduler] at marks active queue ids length
  refine ⟨marks, ?_, ?_, ?_, ?_, ?_, ?_, ?_, ?_⟩
  · rw [active]
    exact waiters
  · rw [length]
    exact awaited
  · rw [active, length]
    exact marked.running
  · rw [queue, active, length]
    exact marked.queued
  · rw [queue]
    exact marked.unique
  · rw [ids, length]
    exact marked.next
  · intro id earlier recorded
    rw [journal] at recorded
    cases recorded
    cases plain
  · rw [journal]
    refine stillWaiting_not_mem_cons marked.neverStill fun id awaited same => ?_
    rw [same] at plain
    cases plain

theorem begun {id : TaskId} (free : before.Unawaiting)
    (known : id.index < before.scheduler.tasks.length)
    (journal : after.journal = .awaiting id before.executor.currentTask :: before.journal)
    (scheduler : after.scheduler =
      (before.awaitedBy before.executor.currentTask (some id)).scheduler) : after.Marked := by
  refine marked.remarked rfl journal scheduler ?_ ?_ ?_
  · intro other awaited
    change _ ↔ (awaited, some other) ∈ (id, before.executor.currentTask) :: _
    rw [List.mem_cons]
    by_cases current : before.executor.currentTask = some other
    · obtain ⟨runs, unmarked⟩ := free other current
      rw [current, mark?_awaitedBy_self (marked.running other runs)]
      constructor
      · intro same
        cases same
        exact .inl rfl
      · rintro (same | older)
        · cases same
          rfl
        · rw [(marked.marks other awaited).mpr older] at unmarked
          cases unmarked
    · rw [mark?_awaitedBy_of_ne current, marked.marks other awaited]
      refine ⟨.inr, fun member => member.resolve_left fun same => current ?_⟩
      exact (congrArg Prod.snd same).symm
  · intro awaited waiter member
    rcases List.mem_cons.mp member with same | older
    · exact (free waiter (congrArg Prod.snd same).symm).1
    · exact marked.waiters awaited waiter older
  · intro awaited waiter member
    rcases List.mem_cons.mp member with same | older
    · cases same
      exact known
    · exact marked.awaited awaited waiter older

theorem ended {id : TaskId} {current : Option TaskId} {others : List (TaskId × Option TaskId)}
    (awaits : awaitsIn before.journal = (id, current) :: others)
    (once : ∀ waiter, current = some waiter → ∀ awaited, (awaited, some waiter) ∉ others)
    (journal : after.journal = .awaitEnded id current :: before.journal)
    (scheduler : after.scheduler = (before.awaitedBy current none).scheduler) : after.Marked := by
  have left : awaitsIn (.awaitEnded id current :: before.journal) = others := by
    rw [awaitsIn, awaits, List.tail_cons]
  have older {pair : TaskId × Option TaskId} (member : pair ∈ others) :
      pair ∈ awaitsIn before.journal := by
    rw [awaits]
    exact List.mem_cons_of_mem _ member
  refine marked.remarked rfl journal scheduler ?_ ?_ ?_
  · intro other awaited
    rw [left]
    by_cases same : current = some other
    · have runs : other ∈ before.scheduler.active := by
        refine marked.waiters id other ?_
        rw [awaits, same]
        exact List.mem_cons_self
      rw [same, mark?_awaitedBy_self (marked.running other runs)]
      exact ⟨nofun, fun member => absurd member (once other same awaited)⟩
    · rw [mark?_awaitedBy_of_ne same, marked.marks other awaited, awaits, List.mem_cons]
      refine ⟨fun member => member.resolve_left fun first => same ?_, .inr⟩
      cases first
      rfl
  · rw [left]
    exact fun awaited waiter member => marked.waiters awaited waiter (older member)
  · rw [left]
    exact fun awaited waiter member => marked.awaited awaited waiter (older member)

end Session.Marked

theorem Session.Marked.announced {id : TaskId} {before moment : Session} (marked : before.Marked)
    (noted : before.Noted (.awaiting id before.executor.currentTask) moment) :
    moment.AwaitsMarked := by
  have weak := marked.awaitsMarked
  have awaits : awaitsIn moment.journal =
      (id, before.executor.currentTask) :: awaitsIn before.journal := by
    rw [noted.journal]
    rfl
  constructor
  · intro other awaited mark
    rw [noted.scheduler] at mark ⊢
    obtain ⟨runs, found, member⟩ := weak.marked other awaited mark
    rw [awaits]
    exact ⟨runs, found, List.mem_cons_of_mem _ member⟩
  · intro other awaited member
    rw [awaits] at member
    rw [noted.scheduler]
    rcases List.mem_cons.mp member with same | older
    · obtain ⟨rfl, current⟩ := Prod.mk.inj same
      refine .inr ?_
      rw [noted.journal, ← current]
      rfl
    · exact .inl ((marked.marks other awaited).mpr older)
  · intro other earlier recorded
    rw [noted.journal] at recorded
    cases recorded
  · rw [noted.journal]
    exact stillWaiting_not_mem_cons marked.neverStill fun _ _ => nofun
  · intro idle other
    rw [noted.scheduler] at idle ⊢
    exact weak.outside idle other

theorem Act.Marks.awaiting {id : TaskId} {drive : Act Unit} (inner : Marks .driving drive)
    {session : Session} (marked : session.Marked) (free : session.Unawaiting)
    (known : id.index < session.scheduler.tasks.length) :
    (Act.awaiting id drive session).Rejoins session := by
  -- Nobody awaits twice at a time, so that an await takes away no mark but its own.
  have begins {noted : Session}
      (noted' : session.Noted (.awaiting id session.executor.currentTask) noted) :
      (noted.awaitedBy session.executor.currentTask (some id)).Marked := by
    refine marked.begun free known ?_ ?_
    · exact (noted.awaitedBy_same _ _).1.trans noted'.journal
    · exact Session.scheduler_awaitedBy noted'.scheduler _ _
  have back {noted left after : Session}
      (noted' : session.Noted (.awaiting id session.executor.currentTask) noted)
      (marked' : left.Marked)
      (rejoins : (noted.awaitedBy session.executor.currentTask (some id)).Rejoins left)
      (ended : (left.awaitedBy session.executor.currentTask none).Noted
        (.awaitEnded id session.executor.currentTask) after) :
      after.Marked ∧ session.Rejoins after := by
    obtain ⟨journal, executor, active, queue, _, length⟩ :=
      noted.awaitedBy_same session.executor.currentTask (some id)
    obtain ⟨journal', executor', active', queue', _, length'⟩ :=
      left.awaitedBy_same session.executor.currentTask none
    have awaits : awaitsIn left.journal =
        (id, session.executor.currentTask) :: awaitsIn session.journal := by
      rw [rejoins.awaits, journal, noted'.journal]
      rfl
    have recorded : after.journal =
        .awaitEnded id session.executor.currentTask :: left.journal := by
      rw [ended.journal, journal']
    have once (waiter : TaskId) (current : session.executor.currentTask = some waiter)
        (awaited : TaskId) : (awaited, some waiter) ∉ awaitsIn session.journal := by
      intro member
      have unmarked := (free waiter current).2
      rw [(marked.marks waiter awaited).mpr member] at unmarked
      cases unmarked
    refine ⟨marked'.ended awaits once recorded ended.scheduler, ?_, ?_, ?_, ?_, ?_⟩
    · rw [recorded, awaitsIn, awaits, List.tail_cons]
    · rw [ended.executor, executor', rejoins.currentTask, executor, noted'.executor]
    · rw [ended.scheduler, active', rejoins.active, active, noted'.scheduler]
    · intro other member
      rw [ended.scheduler, queue'] at member
      have known := rejoins.queued other member
      rw [queue, length, noted'.scheduler] at known
      exact known
    · have grown := rejoins.tasks
      rw [length, noted'.scheduler] at grown
      rw [ended.scheduler, length']
      exact grown
  refine awaiting_elim (motive := Outcome.Rejoins session) ?_ ?_ ?_ ?_
  · exact fun moment noted => marked.announced noted
  · intro noted noted' moment run
    have ends := inner _ (begins noted') nofun
    rw [run] at ends
    exact ends
  · intro noted noted' left run after ended
    have ends := inner _ (begins noted') nofun
    rw [run] at ends
    have whole := back noted' ends.1 ends.2 ended
    exact ⟨whole, whole.1.awaitsMarked⟩
  · intro noted noted' signal left run after ended
    have ends := inner _ (begins noted') nofun
    rw [run] at ends
    have whole := back noted' ends.1 ends.2 ended
    exact ⟨whole, whole.1.awaitsMarked⟩

end CooperativeTasks
