import CooperativeTasks.Proofs.AwaitMarks
import CooperativeTasks.Proofs.PrintingSteps
import CooperativeTasks.Proofs.QueueAccounting
import Mathlib.Data.Fintype.Card
import Mathlib.Data.Fintype.EquivFin
import Mathlib.Data.Prod.Lex
import Mathlib.Order.WellFounded

set_option autoImplicit false

/-! Tasks that can all come to their end.

Nothing holds up such tasks for ever: each of them has only so many statements left, sleeps only
until some time, and waits, if at all, for a task from which no chain of waits leads back to it. How
far they are from their end is measured first by the steps they can still be given, then by the time
until the last of them has to wake up, and at last by the turns until the queue comes to one that is
not held up, or until the clock moves on. -/

namespace CooperativeTasks

variable {α β : Type}

/-! ### Lists in which one item is changed -/

theorem map_modify_of_same {items : List α} {index : Nat} {item : α}
    (found : items[index]? = some item) {change : α → α} {view : α → β}
    (same : view (change item) = view item) :
    (items.modify index change).map view = items.map view := by
  apply List.ext_getElem?
  intro other
  rw [List.getElem?_map, List.getElem?_map, List.getElem?_modify]
  by_cases own : index = other
  · subst other
    simp [found, same]
  · simp [own]

theorem foldr_add_modify_lt {items : List α} {index : Nat} {item : α}
    (found : items[index]? = some item) {change : α → α} {size : α → Nat}
    (less : size (change item) < size item) :
    ((items.modify index change).map size).foldr (· + ·) 0 <
      (items.map size).foldr (· + ·) 0 := by
  induction items generalizing index with
  | nil => simp at found
  | cons first rest ih =>
      cases index with
      | zero =>
          obtain rfl : first = item := by simpa using found
          exact Nat.add_lt_add_right less _
      | succ index =>
          have present : rest[index]? = some item := by simpa using found
          exact Nat.add_lt_add_left (ih present) (size first)

theorem le_foldr_max {numbers : List Nat} {number : Nat} (member : number ∈ numbers) :
    number ≤ numbers.foldr max 0 := by
  induction numbers with
  | nil => cases member
  | cons first rest ih =>
      rw [List.foldr_cons]
      rcases List.mem_cons.mp member with rfl | later
      · exact Nat.le_max_left ..
      · exact Nat.le_trans (ih later) (Nat.le_max_right ..)

/-- Where no chain leads back, following a relation among the items of a list comes to an end. -/
theorem exists_last [DecidableEq α] {items : List α} (nonempty : items ≠ []) {next : α → α → Prop}
    (acyclic : ∀ item, ¬ Relation.TransGen next item item) :
    ∃ item ∈ items, ∀ other ∈ items, ¬ next item other := by
  let behind (later earlier : { item // item ∈ items }) : Prop :=
    Relation.TransGen next earlier.val later.val
  have : IsTrans _ behind := ⟨fun _ _ _ near far => Relation.TransGen.trans far near⟩
  have : Std.Irrefl behind := ⟨fun item cycle => acyclic item.val cycle⟩
  have founded : WellFounded behind := Finite.wellFounded_of_trans_of_irrefl behind
  obtain ⟨first, member⟩ := List.exists_mem_of_ne_nil items nonempty
  obtain ⟨last, _, final⟩ := founded.has_min Set.univ ⟨⟨first, member⟩, trivial⟩
  refine ⟨last.val, last.property, fun other listed follows => ?_⟩
  exact final ⟨other, listed⟩ trivial (Relation.TransGen.single follows)

/-! ### Waiting -/

namespace Scheduler

/-- An unfinished task waits for another that is unfinished. -/
structure Awaits (scheduler : Scheduler) (waiter awaited : TaskId) : Prop where
  marked : ∃ task, scheduler.task? waiter = some task ∧ task.isFinished = false ∧
    task.waitingFor = some awaited
  unfinished : scheduler.Unfinished awaited

def isHeldUp (id : TaskId) (scheduler : Scheduler) : Bool :=
  (scheduler.task? id).any fun task =>
    task.waitingFor.any fun awaited => !scheduler.isFinished awaited

/-- What was unfinished later has been so before, with the same statements, and waits for nobody
new. -/
structure GoesOn (before after : Scheduler) : Prop where
  count : after.tasks.length = before.tasks.length
  tasks : ∀ id later, after.task? id = some later → later.isFinished = false →
    ∃ task, before.task? id = some task ∧ task.isFinished = false ∧
      later.statements = task.statements ∧
      (later.waitingFor = task.waitingFor ∨ later.waitingFor = none)

theorem acyclic_of_earlier {scheduler : Scheduler}
    (earlier : ∀ waiter awaited, scheduler.Awaits waiter awaited → awaited.index < waiter.index)
    (id : TaskId) : ¬ Relation.TransGen scheduler.Awaits id id := by
  have descends {waiter awaited : TaskId}
      (chain : Relation.TransGen scheduler.Awaits waiter awaited) :
      awaited.index < waiter.index := by
    induction chain with
    | single awaits => exact earlier _ _ awaits
    | tail _ awaits ih => exact Nat.lt_trans (earlier _ _ awaits) ih
  exact fun circle => Nat.lt_irrefl id.index (descends circle)

namespace GoesOn

variable {before after : Scheduler}

theorem ofTasks (tasks : after.tasks = before.tasks) : GoesOn before after where
  count := congrArg List.length tasks
  tasks id later found unfinished := by
    refine ⟨later, ?_, unfinished, rfl, .inl rfl⟩
    unfold task? at found ⊢
    rw [← tasks, found]

theorem trans {first second third : Scheduler} (earlier : GoesOn first second)
    (later : GoesOn second third) : GoesOn first third where
  count := later.count.trans earlier.count
  tasks id last found unfinished := by
    obtain ⟨between, known, going, statements, mark⟩ := later.tasks id last found unfinished
    obtain ⟨task, there, lives, statements', mark'⟩ := earlier.tasks id between known going
    refine ⟨task, there, lives, statements.trans statements', ?_⟩
    rcases mark with same | free
    · rw [same]
      exact mark'
    · exact .inr free

theorem unfinished (goesOn : GoesOn before after) {id : TaskId} (lives : after.Unfinished id) :
    before.Unfinished id := by
  obtain ⟨later, found, unfinished⟩ := lives
  obtain ⟨task, known, going, _⟩ := goesOn.tasks id later found unfinished
  exact ⟨task, known, going⟩

theorem awaits (goesOn : GoesOn before after) {waiter awaited : TaskId}
    (awaits : after.Awaits waiter awaited) : before.Awaits waiter awaited := by
  obtain ⟨⟨later, found, unfinished, marked⟩, lives⟩ := awaits
  obtain ⟨task, known, going, _, mark⟩ := goesOn.tasks waiter later found unfinished
  refine ⟨⟨task, known, going, ?_⟩, goesOn.unfinished lives⟩
  rcases mark with same | free
  · exact same.symm.trans marked
  · rw [free] at marked
    cases marked

theorem resumes {id : TaskId} {task : Task} {change : Task → Task} {status : StepStatus}
    {reading : Nat} {scheduler : Scheduler} (known : before.task? id = some task)
    (unfinished : task.isFinished = false)
    (resumes : task.Resumes scheduler reading status (change task))
    (tasks : after.tasks = before.tasks.modify id.index change) : GoesOn before after where
  count := by rw [tasks, List.length_modify]
  tasks other later found going := by
    have table : after.task? other = (before.modifyTask id change).task? other := by
      unfold task?
      rw [tasks]
      rfl
    rw [table] at found
    by_cases same : other = id
    · subst other
      rw [task?_modifyTask_self, known] at found
      cases found
      exact ⟨task, known, unfinished, resumes.keeps going⟩
    · rw [task?_modifyTask_of_ne same] at found
      exact ⟨later, found, going, rfl, .inl rfl⟩

end GoesOn

end Scheduler

theorem Session.Reported.goesOn {before after : Session} (reported : before.Reported after) :
    before.scheduler.GoesOn after.scheduler where
  count := reported.count
  tasks id later found going := by
    have known : id.index < before.scheduler.tasks.length := by
      rw [← reported.count]
      exact Scheduler.task?_isSome_iff.mp ⟨later, found⟩
    obtain ⟨task, there⟩ := Scheduler.task?_isSome_iff.mpr known
    obtain ⟨same, still, _, _, _, _, rfl⟩ := reported.tasks id task there
    cases found.symm.trans still
    exact ⟨task, there, going, rfl, .inl rfl⟩

/-! ### Sessions whose tasks can come to their end -/

/-- Nothing is running, the unfinished tasks are queued, none of them more than once, and nothing
holds one of them up for ever. -/
structure Session.Completable (session : Session) : Prop where
  unlimited : session.budget = none
  outside : session.scheduler.active = []
  pauses : 0 < session.scheduler.settings.idleBackoffMs
  distinct : session.scheduler.queue.ids.Nodup
  queued : ∀ id, id ∈ session.scheduler.queue.ids ↔ session.scheduler.Unfinished id
  prints : ∀ id task, session.scheduler.task? id = some task → task.isFinished = false →
    task.OnlyPrints
  registered : ∀ id task awaited, session.scheduler.task? id = some task →
    task.isFinished = false → task.waitingFor = some awaited →
      ∃ other, session.scheduler.task? awaited = some other
  acyclic : ∀ id, ¬ Relation.TransGen session.scheduler.Awaits id id

namespace Session.Completable

variable {before after session : Session}

theorem goesOn (completable : before.Completable)
    (onward : before.scheduler.GoesOn after.scheduler) (budget : after.budget = before.budget)
    (active : after.scheduler.active = before.scheduler.active)
    (settings : after.scheduler.settings = before.scheduler.settings)
    (distinct : after.scheduler.queue.ids.Nodup)
    (queued : ∀ id, id ∈ after.scheduler.queue.ids ↔ after.scheduler.Unfinished id) :
    after.Completable where
  unlimited := budget.trans completable.unlimited
  outside := active.trans completable.outside
  pauses := by
    rw [settings]
    exact completable.pauses
  distinct := distinct
  queued := queued
  prints id later found unfinished := by
    obtain ⟨task, known, going, statements, _⟩ := onward.tasks id later found unfinished
    unfold Task.OnlyPrints
    rw [statements]
    exact completable.prints id task known going
  registered id later awaited found unfinished marked := by
    obtain ⟨task, known, going, _, mark⟩ := onward.tasks id later found unfinished
    have before : task.waitingFor = some awaited := by
      rcases mark with same | free
      · exact same.symm.trans marked
      · rw [free] at marked
        cases marked
    apply Scheduler.task?_isSome_iff.mpr
    rw [onward.count]
    exact Scheduler.task?_isSome_iff.mp (completable.registered id task awaited known going before)
  acyclic id cycle := 
    completable.acyclic id (Relation.TransGen.mono (fun _ _ => onward.awaits) id id cycle)

theorem awaits (completable : session.Completable) {id : TaskId}
    (member : id ∈ session.scheduler.queue.ids) (held : session.scheduler.isHeldUp id = true) :
    ∃ awaited ∈ session.scheduler.queue.ids, session.scheduler.Awaits id awaited := by
  obtain ⟨task, known, unfinished⟩ := (completable.queued id).mp member
  unfold Scheduler.isHeldUp at held
  rw [known, Option.any_some] at held
  obtain ⟨awaited, marked, going⟩ := (Option.any_eq_true _ _).mp held
  obtain ⟨other, there⟩ := completable.registered id task awaited known unfinished marked
  have lives : session.scheduler.Unfinished awaited := by
    refine ⟨other, there, ?_⟩
    unfold Scheduler.isFinished at going
    rw [there] at going
    simpa using going
  exact ⟨awaited, (completable.queued awaited).mpr lives, ⟨task, known, unfinished, marked⟩, lives⟩

/-- Somebody in the queue is not held up. -/
theorem exists_free (completable : session.Completable) (busy : session.scheduler.queue.ids ≠ []) :
    ∃ id ∈ session.scheduler.queue.ids, session.scheduler.isHeldUp id = false := by
  -- The last task of a chain of waiting tasks does not wait, as chains do not close.
  obtain ⟨id, member, last⟩ := exists_last busy completable.acyclic
  refine ⟨id, member, ?_⟩
  cases held : session.scheduler.isHeldUp id with
  | false => rfl
  | true =>
      obtain ⟨awaited, queued, awaits⟩ := completable.awaits member held
      exact absurd awaits (last awaited queued)

end Session.Completable

/-! ### How far the tasks are from their end -/

/-- How many more steps the task can be given that are not blocked. -/
def Task.toGo (task : Task) : Nat :=
  if task.isFinished then 0 else task.statements.length - task.counter + 1

namespace Task.Resumes

variable {scheduler : Scheduler} {reading : Nat} {task later : Task} {status : StepStatus}

theorem isFinished_iff (resumes : task.Resumes scheduler reading status later)
    (unfinished : task.isFinished = false) : later.isFinished = true ↔ status = .done := by
  have going : ¬ task.isFinished = true := by
    rw [unfinished]
    exact Bool.false_ne_true
  cases resumes with
  | waiting _ _ => exact iff_of_false going nofun
  | asleep _ _ same =>
      rcases same with rfl | rfl
      · exact iff_of_false going nofun
      · exact iff_of_false going nofun
  | goesOn onward =>
      cases onward with
      | printed going _ _ _ _ =>
          rw [going]
          exact iff_of_false Bool.false_ne_true nofun
      | ended finished => exact iff_of_true finished rfl

theorem toGo_lt (resumes : task.Resumes scheduler reading status later)
    (unfinished : task.isFinished = false) (moved : status ≠ .blocked) :
    later.toGo < task.toGo := by
  have whole : task.toGo = task.statements.length - task.counter + 1 := by
    rw [Task.toGo, unfinished]
    rfl
  cases resumes with
  | waiting _ _ => exact absurd rfl moved
  | asleep _ _ _ => exact absurd rfl moved
  | goesOn onward =>
      cases onward with
      | printed going statements _ counter within =>
          rw [whole, Task.toGo, going, ← statements]
          rw [counter] at within ⊢
          change later.statements.length - (task.counter + 1) + 1 < _
          omega
      | ended finished =>
          rw [whole, Task.toGo, finished]
          exact Nat.succ_pos _

theorem toGo_eq (resumes : task.Resumes scheduler reading .blocked later) :
    later.toGo = task.toGo := by
  cases resumes with
  | waiting _ _ => rfl
  | asleep _ _ same =>
      rcases same with rfl | rfl
      · rfl
      · rfl
  | goesOn onward => cases onward

theorem wakeAt_eq (resumes : task.Resumes scheduler reading .blocked later) :
    later.wakeAt = task.wakeAt := by
  cases resumes with
  | waiting _ _ => rfl
  | asleep _ _ same =>
      rcases same with rfl | rfl
      · rfl
      · rfl
  | goesOn onward => cases onward

theorem blocked (resumes : task.Resumes scheduler reading .blocked later) :
    (later = task ∧
      ∃ awaited, task.waitingFor = some awaited ∧ scheduler.isFinished awaited = false) ∨
    ∃ wakeAt, task.wakeAt = some wakeAt ∧ reading < wakeAt := by
  cases resumes with
  | waiting marked going => exact .inl ⟨rfl, _, marked, going⟩
  | asleep set early _ => exact .inr ⟨_, set, early⟩
  | goesOn onward => cases onward

end Task.Resumes

namespace Scheduler

def toGo (scheduler : Scheduler) : Nat := (scheduler.tasks.map Task.toGo).foldr (· + ·) 0

def lastWake (scheduler : Scheduler) : Nat :=
  (scheduler.tasks.map fun task => task.wakeAt.getD 0).foldr max 0

theorem le_lastWake {scheduler : Scheduler} {id : TaskId} {task : Task} {wakeAt : Nat}
    (known : scheduler.task? id = some task) (set : task.wakeAt = some wakeAt) :
    wakeAt ≤ scheduler.lastWake := by
  apply le_foldr_max
  apply List.mem_map.mpr
  exact ⟨task, List.mem_of_getElem? known, by rw [set]; rfl⟩

end Scheduler

namespace Session

def untilAwake (session : Session) : Nat := session.scheduler.lastWake - session.clock.now

/-- How many turns go by at most until somebody has a step that is not blocked, once nobody sleeps
any more, and before that, until the driver pauses. -/
def untilMoved (swept : List TaskId) (session : Session) : Nat :=
  if session.untilAwake = 0 then
    session.scheduler.queue.ids.findIdx fun id => !session.scheduler.isHeldUp id
  else session.scheduler.queue.size - swept.length

/-- What is left to do for a driver that has found these tasks blocked one after the other. -/
def remaining (swept : List TaskId) (session : Session) : Nat ×ₗ Nat ×ₗ Nat :=
  toLex (session.scheduler.toGo, toLex (session.untilAwake, session.untilMoved swept))

variable {before after : Session} {swept swept' : List TaskId}

theorem remaining_lt_of_toGo (less : after.scheduler.toGo < before.scheduler.toGo) :
    after.remaining swept' < before.remaining swept := by
  rw [remaining, remaining, Prod.Lex.toLex_lt_toLex]
  exact .inl less

theorem remaining_le_of_later (scheduler : after.scheduler = before.scheduler)
    (later : before.clock.now ≤ after.clock.now) :
    after.remaining swept ≤ before.remaining swept := by
  have nearer : after.untilAwake ≤ before.untilAwake := by
    unfold untilAwake
    rw [scheduler]
    omega
  rw [remaining, remaining, Prod.Lex.toLex_le_toLex, Prod.Lex.toLex_le_toLex]
  refine .inr ⟨congrArg Scheduler.toGo scheduler, ?_⟩
  rcases Nat.lt_or_eq_of_le nearer with sooner | same
  · exact .inl sooner
  · refine .inr ⟨same, Nat.le_of_eq ?_⟩
    unfold untilMoved
    dsimp only
    rw [same, scheduler]

theorem findIdx_rotate_lt {id : TaskId} {rest : List TaskId} {free : TaskId → Bool}
    (held : free id = false) (somebody : ∃ other ∈ id :: rest, free other = true) :
    (rest ++ [id]).findIdx free < (id :: rest).findIdx free := by
  obtain ⟨other, member, able⟩ := somebody
  have inside : other ∈ rest := by
    rcases List.mem_cons.mp member with rfl | later
    · rw [held] at able
      cases able
    · exact later
  have within := List.findIdx_lt_length_of_exists ⟨other, inside, able⟩
  have passed : (id :: rest).findIdx free = rest.findIdx free + 1 := by
    rw [List.findIdx_cons, held]
    rfl
  rw [passed, List.findIdx_append, if_pos within]
  exact Nat.lt_succ_self _

/-- A turn has found its task blocked and put it back at the end of the queue. Either the driver has
paused afterwards, or it has not yet found everybody blocked. -/
theorem remaining_lt_of_blocked {id : TaskId} {rest : List TaskId}
    (toGo : after.scheduler.toGo = before.scheduler.toGo)
    (lastWake : after.scheduler.lastWake = before.scheduler.lastWake)
    (front : before.scheduler.queue.ids = id :: rest)
    (rotated : after.scheduler.queue.ids = rest ++ [id])
    (held : before.untilAwake = 0 → before.scheduler.isHeldUp id = true ∧
      after.scheduler.tasks = before.scheduler.tasks)
    (free : ∃ other ∈ before.scheduler.queue.ids, before.scheduler.isHeldUp other = false)
    (later : before.clock.now ≤ after.clock.now)
    (paused : before.clock.now < after.clock.now ∨
      swept' = swept ++ [id] ∧ swept'.length < after.scheduler.queue.size) :
    after.remaining swept' < before.remaining swept := by
  have nearer : after.untilAwake ≤ before.untilAwake := by
    unfold untilAwake
    omega
  rw [remaining, remaining, Prod.Lex.toLex_lt_toLex, Prod.Lex.toLex_lt_toLex]
  -- Steps to go first, then the time until nobody sleeps, then the turns until somebody moves.
  refine .inr ⟨toGo, ?_⟩
  rcases Nat.lt_or_eq_of_le nearer with sooner | same
  · exact .inl sooner
  refine .inr ⟨same, ?_⟩
  unfold untilMoved
  dsimp only
  rw [same]
  by_cases awake : before.untilAwake = 0
  · obtain ⟨waits, tasks⟩ := held awake
    have still (other : TaskId) :
        after.scheduler.isHeldUp other = before.scheduler.isHeldUp other := by
      unfold Scheduler.isHeldUp Scheduler.isFinished Scheduler.task?
      rw [tasks]
    rw [if_pos awake, if_pos awake, rotated, front]
    simp only [still]
    apply findIdx_rotate_lt
    · rw [waits]
      rfl
    · obtain ⟨other, member, able⟩ := free
      refine ⟨other, front ▸ member, ?_⟩
      rw [able]
      rfl
  · rw [if_neg awake, if_neg awake]
    rcases paused with sooner | ⟨rfl, within⟩
    · unfold untilAwake at same awake
      omega
    · have sizes : after.scheduler.queue.size = before.scheduler.queue.size := by
        unfold ReadyQueue.size
        rw [rotated, front, List.length_append, List.length_cons]
        rfl
      rw [sizes] at within ⊢
      rw [List.length_append] at within ⊢
      exact Nat.sub_lt_sub_left (Nat.lt_of_succ_lt within) (Nat.lt_succ_self _)

end Session

end CooperativeTasks
