import CooperativeTasks.Proofs.Turns

set_option autoImplicit false

/-! The life cycle of tasks.

A task comes forward by its own steps and in no other way. Its counter never goes back, and a
finished task stays as it is, whatever is done to it or to others. All of this holds between any
two moments of a run, also if the second is inside of a step that the first is inside of. -/

namespace CooperativeTasks

namespace Task.Progress

def bodyLength (progress : Progress) : Nat :=
  match progress.body with
  | none => 0
  | some function => function.body.length

/-- The completion slot agrees with the result, and the counter with what has been executed. -/
structure Consistent (progress : Progress) : Prop where
  ready : progress.future.isReady = progress.isFinished
  result : progress.result.isSome = progress.isFinished
  kind : ∀ value, progress.result = some value → progress.resultKind = some value.kind
  slot : ∀ value, progress.result = some value →
    progress.future.value =
      if value.isStructOf Future.typeName then (value.field? "value").getD .void else value
  within : progress.counter ≤ progress.bodyLength
  counted : progress.counter ≤ progress.steps

/-- How far a task may come between two sessions. The `slack` is for a statement that has been
counted as executed before the first of them and comes to its end after it. -/
structure Matures (slack : Nat) (before after : Progress) : Prop where
  body : after.body = before.body
  started : before.isStarted = true → after.isStarted = true
  counter : before.counter ≤ after.counter
  growth : after.counter + before.steps ≤ before.counter + after.steps + slack
  finished : before.isFinished = true → after = before

namespace Matures

theorem refl (slack : Nat) (progress : Progress) : Matures slack progress progress := by
  refine ⟨rfl, fun started => started, Nat.le_refl _, ?_, fun _ => rfl⟩
  omega

theorem trans {slack slack' : Nat} {first second third : Progress}
    (left : Matures slack first second) (right : Matures slack' second third) :
    Matures (slack + slack') first third := by
  constructor
  · exact right.body.trans left.body
  · intro started
    exact right.started (left.started started)
  · exact Nat.le_trans left.counter right.counter
  · have earlier := left.growth
    have later := right.growth
    omega
  · intro finished
    have same := left.finished finished
    have again : second.isFinished = true := by
      rw [same]
      exact finished
    exact (right.finished again).trans same

theorem relax {before after : Progress} (matures : Matures 0 before after) (slack : Nat) :
    Matures slack before after := by
  refine { matures with growth := ?_ }
  have growth := matures.growth
  omega

end Matures

end Task.Progress

/-! ### Changes to one task -/

namespace Task

theorem progress_bodyLength (task : Task) : task.progress.bodyLength = task.statements.length := by
  unfold Progress.bodyLength statements progress
  cases task.body <;> rfl

theorem progress_start (task : Task) :
    task.start.progress = { task.progress with isStarted := true } := by
  unfold start
  split
  · rename_i started
    unfold progress
    rw [started]
  · rfl

theorem slotValue_eq (payload : Value) :
    slotValue payload =
      if payload.isStructOf Future.typeName then (payload.field? "value").getD .void else payload := by
  unfold slotValue Future.ofValue?
  by_cases shaped : payload.isStructOf Future.typeName = true
  · rw [if_pos shaped, if_pos shaped]
  · rw [if_neg shaped, if_neg shaped]

theorem matures_complete {task : Task} (unfinished : task.isFinished = false) (payload : Value) :
    task.progress.Matures 0 (task.complete payload).progress := by
  refine ⟨rfl, fun started => started, Nat.le_refl _, Nat.le_refl _, ?_⟩
  intro finished
  exact absurd (unfinished.symm.trans finished) Bool.false_ne_true

theorem consistent_complete {task : Task} (consistent : task.progress.Consistent)
    (unfinished : task.isFinished = false) (payload : Value) :
    (task.complete payload).progress.Consistent := by
  have pending : task.future.isReady = false := consistent.ready.trans unfinished
  have resolved : (task.complete payload).future = .ready (slotValue payload) := by
    unfold complete Future.resolve
    dsimp only
    rw [if_neg (by rw [pending]; exact Bool.false_ne_true)]
  constructor
  · change (task.complete payload).future.isReady = true
    rw [resolved]
    rfl
  · rfl
  · intro value same
    cases same
    rfl
  · intro value same
    cases same
    change (task.complete payload).future.value = _
    rw [resolved]
    exact slotValue_eq payload
  · exact consistent.within
  · exact consistent.counted

theorem Fresh.consistent {task : Task} (fresh : task.Fresh) : task.progress.Consistent := by
  have blank : task.future = .pending ∧ task.result = none ∧ task.counter = 0 := by
    induction fresh with
    | ofFunction function args => exact ⟨rfl, rfl, rfl⟩
    | timer => exact ⟨rfl, rfl, rfl⟩
    | withReceiver _ value site ih => exact ih
  obtain ⟨future, result, counter⟩ := blank
  have unfinished := fresh.unfinished
  constructor
  · change task.future.isReady = task.isFinished
    rw [future, unfinished]
    rfl
  · change task.result.isSome = task.isFinished
    rw [result, unfinished]
    rfl
  · intro value same
    change task.result = some value at same
    rw [result] at same
    cases same
  · intro value same
    change task.result = some value at same
    rw [result] at same
    cases same
  · change task.counter ≤ _
    omega
  · change task.counter ≤ _
    omega

end Task

/-! ### The task of a step -/

namespace Task

/-- What a task, whose statement has been counted, comes to when that statement ends. -/
structure Advances (task current after : Task) : Prop where
  whole : task.progress.Matures 0 after.progress
  rest : current.progress.Matures 1 after.progress
  consistent : task.progress.Consistent → after.progress.Consistent

theorem advances_counter {task current : Task} (unfinished : task.isFinished = false)
    (present : task.counter < task.statements.length)
    (counted : current.progress = { task.progress with steps := task.steps + 1 })
    {after : Task} {counter : Nat} (low : task.counter ≤ counter) (high : counter ≤ task.counter + 1)
    (moved : after.progress = { current.progress with counter }) : Advances task current after := by
  rw [counted] at moved
  constructor
  · rw [moved]
    refine ⟨rfl, fun started => started, low, ?_, ?_⟩
    · change counter + task.steps ≤ task.counter + (task.steps + 1) + 0
      omega
    · intro finished
      exact absurd (unfinished.symm.trans finished) Bool.false_ne_true
  · rw [moved, counted]
    refine ⟨rfl, fun started => started, low, ?_, ?_⟩
    · change counter + (task.steps + 1) ≤ task.counter + (task.steps + 1) + 1
      omega
    · intro finished
      exact absurd (unfinished.symm.trans finished) Bool.false_ne_true
  · intro consistent
    rw [moved]
    refine ⟨consistent.ready, consistent.result, consistent.kind, consistent.slot, ?_, ?_⟩
    · change counter ≤ task.progress.bodyLength
      rw [progress_bodyLength]
      omega
    · have executed : task.counter ≤ task.steps := consistent.counted
      change counter ≤ task.steps + 1
      omega

theorem Advances.complete {task current after : Task} (advances : Advances task current after)
    (unfinished : after.isFinished = false) (payload : Value) :
    Advances task current (after.complete payload) where
  whole := advances.whole.trans (matures_complete unfinished payload)
  rest := advances.rest.trans (matures_complete unfinished payload)
  consistent before := consistent_complete (advances.consistent before) unfinished payload

end Task

theorem Interpreter.TaskEnding.advances {task current : Task} {status : StepStatus}
    {change : Task → Task} (ending : TaskEnding task status change)
    (unfinished : task.isFinished = false) (present : task.counter < task.statements.length)
    (counted : current.progress = { task.progress with steps := task.steps + 1 }) :
    Task.Advances task current (change current) := by
  have counter : current.counter = task.counter := congrArg Task.Progress.counter counted
  have pending : current.isFinished = false :=
    (congrArg Task.Progress.isFinished counted).trans unfinished
  have moves := @Task.advances_counter task current unfinished present counted
  cases ending with
  | advanced scope positions more =>
      exact moves (Nat.le_succ _) (Nat.le_refl _) (by rw [← counter]; rfl)
  | exhausted scope positions =>
      have moved : Task.Advances task current
          { current with scope := some scope, positions, counter := current.counter + 1 } :=
        moves (Nat.le_succ _) (Nat.le_refl _) (by rw [← counter]; rfl)
      exact moved.complete pending .void
  | suspended scope positions fromLoop =>
      cases fromLoop with
      | true => exact moves (Nat.le_refl _) (Nat.le_succ _) (by rw [← counter]; rfl)
      | false => exact moves (Nat.le_succ _) (Nat.le_refl _) (by rw [← counter]; rfl)
  | returned scope value =>
      have moved : Task.Advances task current { current with scope := some scope } :=
        moves (Nat.le_refl _) (Nat.le_succ _) (by rw [← counter]; rfl)
      exact moved.complete pending value

/-! ### Schedulers -/

namespace Scheduler

def Consistent (scheduler : Scheduler) : Prop :=
  ∀ id progress, scheduler.progress? id = some progress → progress.Consistent

/-- Every task is still there and has come as far as it may; those of the list have not moved. -/
def Matures (slack : Nat) (still : List TaskId) (before after : Scheduler) : Prop :=
  ∀ id progress, before.progress? id = some progress →
    ∃ later, after.progress? id = some later ∧ progress.Matures slack later ∧
      (id ∈ still → later = progress)

variable {slack slack' : Nat} {still : List TaskId} {scheduler : Scheduler}

theorem Matures.trans {first second third : Scheduler} (left : Matures slack still first second)
    (right : Matures slack' still second third) : Matures (slack + slack') still first third := by
  intro id progress found
  obtain ⟨middle, reached, matures, stays⟩ := left id progress found
  obtain ⟨later, continued, matures', stays'⟩ := right id middle reached
  refine ⟨later, continued, matures.trans matures', fun member => ?_⟩
  exact (stays' member).trans (stays member)

theorem Matures.relax {before after : Scheduler} (matures : Matures 0 still before after)
    (slack : Nat) : Matures slack still before after := by
  intro id progress found
  obtain ⟨later, reached, comes, stays⟩ := matures id progress found
  exact ⟨later, reached, comes.relax slack, stays⟩

theorem Matures.fewer {id : TaskId} {before after : Scheduler}
    (matures : Matures slack (id :: still) before after) : Matures slack still before after := by
  intro other progress found
  obtain ⟨later, reached, comes, stays⟩ := matures other progress found
  exact ⟨later, reached, comes, fun member => stays (List.mem_cons_of_mem id member)⟩

theorem Matures.ofSame {before after : Scheduler}
    (same : ∀ id, after.progress? id = before.progress? id) : Matures slack still before after := by
  intro id progress found
  refine ⟨progress, ?_, .refl slack progress, fun _ => rfl⟩
  rw [same id]
  exact found

theorem Consistent.ofSame {before after : Scheduler} (consistent : before.Consistent)
    (same : ∀ id, after.progress? id = before.progress? id) : after.Consistent := by
  intro id progress found
  rw [same id] at found
  exact consistent id progress found

theorem progress?_modifyTask_self (id : TaskId) (change : Task → Task) (scheduler : Scheduler) :
    (scheduler.modifyTask id change).progress? id =
      (scheduler.task? id).map fun task => (change task).progress := by
  unfold progress?
  rw [task?_modifyTask_self, Option.map_map]
  rfl

theorem progress?_modifyTask_of_ne {id other : TaskId} (different : other ≠ id)
    (change : Task → Task) (scheduler : Scheduler) :
    (scheduler.modifyTask id change).progress? other = scheduler.progress? other := by
  unfold progress?
  rw [task?_modifyTask_of_ne different]

theorem Matures.modifyTask {id : TaskId} {task : Task} (found : scheduler.task? id = some task)
    (moves : id ∉ still) {change : Task → Task}
    (matures : task.progress.Matures slack (change task).progress) :
    Matures slack still scheduler (scheduler.modifyTask id change) := by
  intro other progress present
  by_cases same : other = id
  · subst other
    refine ⟨(change task).progress, ?_, ?_, fun member => absurd member moves⟩
    · rw [progress?_modifyTask_self, found]
      rfl
    · unfold progress? at present
      rw [found] at present
      cases present
      exact matures
  · refine ⟨progress, ?_, .refl slack progress, fun _ => rfl⟩
    rw [progress?_modifyTask_of_ne same]
    exact present

theorem Consistent.modifyTask (consistent : scheduler.Consistent) {id : TaskId} {task : Task}
    (found : scheduler.task? id = some task) {change : Task → Task}
    (changed : task.progress.Consistent → (change task).progress.Consistent) :
    (scheduler.modifyTask id change).Consistent := by
  intro other progress present
  by_cases same : other = id
  · subst other
    rw [progress?_modifyTask_self, found] at present
    cases present
    apply changed
    apply consistent id
    unfold progress?
    rw [found]
    rfl
  · rw [progress?_modifyTask_of_ne same] at present
    exact consistent other progress present

theorem matures_register (task : Task) (scheduler : Scheduler) :
    Matures slack still scheduler (scheduler.register task).2 := by
  intro id progress found
  obtain ⟨registered, present, rfl⟩ := Option.map_eq_some_iff.mp found
  have known : id.index < scheduler.tasks.length := (List.getElem?_eq_some_iff.mp present).1
  refine ⟨registered.progress, ?_, .refl slack _, fun _ => rfl⟩
  unfold progress?
  rw [task?_register_of_lt known, present]
  rfl

theorem Consistent.register (consistent : scheduler.Consistent) {task : Task} (fresh : task.Fresh) :
    (scheduler.register task).2.Consistent := by
  intro id progress found
  obtain ⟨registered, present, rfl⟩ := Option.map_eq_some_iff.mp found
  rw [task?_register] at present
  split at present
  · cases present
    exact fresh.consistent
  · apply consistent id
    unfold progress?
    rw [present]
    rfl

end Scheduler

/-! ### Runs -/

/-- Tasks mature along a run and stay consistent. The tasks that are running do not move, apart
from the one whose step is the innermost, once its statement has ended. -/
def lifeWatch (extra : Option Nat) (stack : List TaskId) : Watch where
  extra := extra
  excuses := False
  Along before after := before.Matures 0 stack after ∧ (before.Consistent → after.Consistent)
  Moment _ := True
  Sees moment _ outcome := moment.scheduler.Matures 1 stack outcome.session.scheduler
  refl _ := ⟨.ofSame fun _ => rfl, fun consistent => consistent⟩
  trans left right := ⟨left.1.trans right.1, fun consistent => right.2 (left.2 consistent)⟩
  now _ along := along.1.relax 1
  later seen along := seen.trans along.1
  handled seen along _ := seen.trans along.1
  halted seen := seen
  excused impossible := impossible.elim

structure Stepped (stack : List TaskId) (id : TaskId) (scheduler : Scheduler) : Prop where
  active : scheduler.active = stack
  idle : id ∉ stack

namespace Stepped

variable {extra : Option Nat} {stack : List TaskId} {id : TaskId} {scheduler : Scheduler}

theorem along_same {before after : Scheduler}
    (same : ∀ id, after.progress? id = before.progress? id) :
    (lifeWatch extra stack).Along before after :=
  ⟨.ofSame same, fun consistent => consistent.ofSame same⟩

theorem along_modifyTask {task : Task} (found : scheduler.task? id = some task) (idle : id ∉ stack)
    {change : Task → Task} (matures : task.progress.Matures 0 (change task).progress)
    (consistent : task.progress.Consistent → (change task).progress.Consistent) :
    (lifeWatch extra stack).Along scheduler (scheduler.modifyTask id change) :=
  ⟨.modifyTask found idle matures, fun before => before.modifyTask found consistent⟩

/-! A statement that is running leaves the counter of its task alone: what it does to the others
comes first, and the task itself moves when the statement has ended. -/

section

variable {task : Task} (ready : scheduler.Ready id task)

include ready

theorem progress?_announced :
    (scheduler.announced id).progress? id =
      some { task.progress with steps := task.steps + 1 } := by
  change (scheduler.modifyTask id Interpreter.stepCounted).progress? id = _
  rw [Scheduler.progress?_modifyTask_self, ready.found]
  rfl

theorem along_announced (idle : id ∉ stack) :
    (lifeWatch extra stack).Along scheduler (scheduler.announced id) := by
  have counted : (lifeWatch extra stack).Along scheduler
      (scheduler.modifyTask id Interpreter.stepCounted) := by
    refine along_modifyTask ready.found idle ?_ ?_
    · refine ⟨rfl, fun started => started, Nat.le_refl _, ?_, ?_⟩
      · change task.counter + task.steps ≤ task.counter + (task.steps + 1) + 0
        omega
      · intro finished
        exact absurd (ready.unfinished.symm.trans finished) Bool.false_ne_true
    · intro consistent
      refine { consistent with counted := ?_ }
      exact Nat.le_succ_of_le consistent.counted
  exact (lifeWatch extra stack).trans counted (along_same fun _ => rfl)

theorem held {left : Scheduler}
    (along : (lifeWatch extra (id :: stack)).Along (scheduler.entered id) left) :
    ∃ current, left.task? id = some current ∧
      current.progress = { task.progress with steps := task.steps + 1 } := by
  obtain ⟨later, reached, _, stays⟩ := along.1 id _ (progress?_announced ready)
  obtain ⟨current, found, same⟩ := Option.map_eq_some_iff.mp reached
  refine ⟨current, found, ?_⟩
  rw [same]
  exact stays List.mem_cons_self

theorem along_left (idle : id ∉ stack) {left : Scheduler}
    (along : (lifeWatch extra (id :: stack)).Along (scheduler.entered id) left) :
    (lifeWatch extra stack).Along scheduler left := by
  have entered : (lifeWatch extra stack).Along scheduler (scheduler.entered id) :=
    (lifeWatch extra stack).trans (along_announced ready idle) (along_same fun _ => rfl)
  exact (lifeWatch extra stack).trans entered ⟨along.1.fewer, along.2⟩

theorem along_settled (idle : id ∉ stack) {left : Scheduler}
    (along : (lifeWatch extra (id :: stack)).Along (scheduler.entered id) left)
    {status : StepStatus} {change : Task → Task}
    (ending : Interpreter.TaskEnding task status change) :
    (lifeWatch extra stack).Along scheduler (left.settled id change) := by
  obtain ⟨current, found, counted⟩ := held ready along
  have advances := ending.advances ready.unfinished ready.present counted
  have before := along_left ready idle along
  have settled : (left.settled id change).progress? id = some (change current).progress := by
    change (left.modifyTask id change).progress? id = _
    rw [Scheduler.progress?_modifyTask_self, found]
    rfl
  have others {other : TaskId} (different : other ≠ id) :
      (left.settled id change).progress? other = left.progress? other :=
    Scheduler.progress?_modifyTask_of_ne different change left
  have start : scheduler.progress? id = some task.progress := by
    unfold Scheduler.progress?
    rw [ready.found]
    rfl
  constructor
  · intro other progress present
    by_cases same : other = id
    · subst other
      rw [start] at present
      cases present
      exact ⟨_, settled, advances.whole, fun member => absurd member idle⟩
    · rw [others same]
      exact before.1 other progress present
  · intro consistent other progress present
    by_cases same : other = id
    · subst other
      rw [settled] at present
      cases present
      exact advances.consistent (consistent id _ start)
    · rw [others same] at present
      exact before.2 consistent other progress present

theorem matures_settled (idle : id ∉ stack) {left : Scheduler}
    (along : (lifeWatch extra (id :: stack)).Along (scheduler.entered id) left)
    {moment : Scheduler} (seen : moment.Matures 1 (id :: stack) left)
    {status : StepStatus} {change : Task → Task}
    (ending : Interpreter.TaskEnding task status change) :
    moment.Matures 1 stack (left.settled id change) := by
  obtain ⟨current, found, counted⟩ := held ready along
  have advances := ending.advances ready.unfinished ready.present counted
  intro other progress present
  obtain ⟨later, reached, matures, stays⟩ := seen other progress present
  by_cases same : other = id
  · subst other
    have still : current.progress = progress := by
      unfold Scheduler.progress? at reached
      rw [found] at reached
      cases reached
      exact stays List.mem_cons_self
    refine ⟨(change current).progress, ?_, ?_, fun member => absurd member idle⟩
    · change (left.modifyTask id change).progress? id = _
      rw [Scheduler.progress?_modifyTask_self, found]
      rfl
    · rw [← still]
      exact advances.rest
  · refine ⟨later, ?_, matures, fun member => stays (List.mem_cons_of_mem id member)⟩
    change (left.modifyTask id change).progress? other = _
    rw [Scheduler.progress?_modifyTask_of_ne same]
    exact reached

/-- The moment at which a statement is announced: it is counted already. -/
theorem matures_announced (idle : id ∉ stack) {after : Scheduler}
    (along : (lifeWatch extra stack).Along scheduler after) :
    (scheduler.announced id).Matures 1 stack after := by
  intro other progress present
  by_cases same : other = id
  · subst other
    rw [progress?_announced ready] at present
    cases present
    have start : scheduler.progress? id = some task.progress := by
      unfold Scheduler.progress?
      rw [ready.found]
      rfl
    obtain ⟨later, reached, matures, _⟩ := along.1 id _ start
    refine ⟨later, reached, ⟨matures.body, matures.started, matures.counter, ?_, ?_⟩,
      fun member => absurd member idle⟩
    · have growth : later.counter + task.steps ≤ task.counter + later.steps + 0 := matures.growth
      change later.counter + (task.steps + 1) ≤ task.counter + later.steps + 1
      omega
    · intro finished
      exact absurd (ready.unfinished.symm.trans finished) Bool.false_ne_true
  · have before : scheduler.progress? other = some progress := by
      rw [← Scheduler.progress?_modifyTask_of_ne same Interpreter.stepCounted scheduler]
      exact present
    obtain ⟨later, reached, matures, stays⟩ := along.1 other progress before
    exact ⟨later, reached, matures.relax 1, stays⟩

end

theorem executes {task : Task} (stepped : Stepped stack id scheduler)
    (ready : scheduler.Ready id task) :
    Watch.Executes (lifeWatch extra stack) (lifeWatch extra (id :: stack)) (Stepped stack id)
      (fun scheduler => scheduler.active = stack) (fun scheduler => scheduler.active = id :: stack)
      id task scheduler where
  grants := rfl
  excuses impossible := impossible
  announced := along_announced ready stepped.idle
  announces session reading _ outcome same _ along := by
    change session.scheduler.Matures 1 stack outcome.session.scheduler
    rw [same]
    exact matures_announced ready stepped.idle along
  enters := by
    change id :: scheduler.active = id :: stack
    rw [stepped.active]
  lives left _ along := by
    obtain ⟨current, found, counted⟩ := held ready along
    refine ⟨current, found, ?_⟩
    exact (congrArg Task.Progress.isFinished counted).trans ready.unfinished
  -- A settled statement moves its own task and takes it off the stack.
  settles left running along status change ending := by
    refine ⟨⟨?_, stepped.idle⟩, along_settled ready stepped.idle along ending⟩
    change left.active.tail = stack
    rw [running]
    rfl
  fails left along := by
    constructor
    · exact (lifeWatch extra stack).trans (along_left ready stepped.idle along)
        (along_same fun _ => rfl)
    · intro running
      refine .inr ?_
      change left.active.tail = stack
      rw [running]
      rfl
  halts left along := along_left ready stepped.idle along
  seesSettled moment after outcome running along seen _ status change ending same := by
    change moment.scheduler.Matures 1 stack after.scheduler
    rw [same]
    exact matures_settled ready stepped.idle along seen ending
  seesFailed moment left after signal seen same _ := by
    change moment.scheduler.Matures 1 stack after.scheduler
    rw [same]
    have fewer : moment.scheduler.Matures 1 stack left.scheduler := seen.fewer
    exact fewer
  seesHalted moment left seen := seen.fewer

end Stepped

theorem life_steps (extra : Option Nat) :
    Watch.Steps (lifeWatch extra) (fun stack scheduler => scheduler.active = stack) Stepped where
  alike stack id _ _ same stepped := by
    refine ⟨⟨?_, stepped.idle⟩, Stepped.along_same same.progress⟩
    rw [same.active]
    exact stepped.active
  waiting _ _ _ _ _ _ _ := trivial
  ended _ _ _ _ _ := trivial
  start stack id scheduler stepped unfinished := by
    obtain ⟨task, found, lives⟩ := unfinished
    refine ⟨⟨stepped.active, stepped.idle⟩, Stepped.along_modifyTask found stepped.idle ?_ ?_⟩
    · rw [Task.progress_start]
      refine ⟨rfl, fun _ => rfl, Nat.le_refl _, Nat.le_refl _, ?_⟩
      intro finished
      exact absurd (lives.symm.trans finished) Bool.false_ne_true
    · intro consistent
      rw [Task.progress_start]
      exact { consistent with }
  complete stack id scheduler stepped unfinished payload := by
    obtain ⟨task, found, lives⟩ := unfinished
    refine ⟨⟨stepped.active, stepped.idle⟩, Stepped.along_modifyTask found stepped.idle ?_ ?_⟩
    · exact Task.matures_complete lives payload
    · intro consistent
      exact Task.consistent_complete consistent lives payload
  executes stack id task scheduler stepped ready := ⟨id :: stack, stepped.executes ready⟩

theorem life_upholds (extra : Option Nat) :
    Watch.Upholds (lifeWatch extra) (fun stack scheduler => scheduler.active = stack) Stepped where
  steps := life_steps extra
  moment _ _ _ := trivial
  alike stack _ _ same active := by
    refine ⟨?_, Stepped.along_same same.progress⟩
    rw [same.active]
    exact active
  registers stack task fresh scheduler active :=
    ⟨active, Scheduler.matures_register task scheduler, fun consistent => consistent.register fresh⟩
  pop stack scheduler id remaining active front := by
    obtain ⟨rest, _, rfl⟩ := Scheduler.dequeue?_eq_some front
    exact ⟨Stepped.along_same fun _ => rfl, fun _ _ _ => trivial⟩
  take stack scheduler id remaining active front idle := by
    obtain ⟨rest, _, rfl⟩ := Scheduler.dequeue?_eq_some front
    have apart : id ∉ scheduler.active := of_decide_eq_false idle
    rw [active] at apart
    exact ⟨active, apart⟩
  skip stack scheduler id remaining active front _ := by
    obtain ⟨rest, _, rfl⟩ := Scheduler.dequeue?_eq_some front
    exact ⟨active, Stepped.along_same fun _ => rfl⟩
  push stack id scheduler stepped _ := ⟨stepped.active, Stepped.along_same fun _ => rfl⟩
  drop stack id scheduler stepped _ := stepped.active

/-! ### Sequences of requests -/

variable (extra : Option Nat) {shallow deep : Nat}

theorem step_matures (deeper : shallow ≤ deep) (id : TaskId) :
    (lifeWatch extra []).Keeps (fun scheduler => scheduler.active = [])
      ((interpreter shallow).step id) ((interpreter deep).step id) := by
  have exec (stack : List TaskId) (path : Path) (statement : Stmt) :=
    (life_upholds extra).keeps ((interpreter_deepens deeper).exec path statement) stack
  refine ((life_steps extra).step exec [] id).weaken ?_ ?_
  · intro scheduler idle
    exact ⟨idle, List.not_mem_nil⟩
  · intro result scheduler stepped
    match result with
    | .ok .done => exact .inr stepped.1.active
    | .ok .pending => exact .inr stepped.1.active
    | .ok .blocked => exact .inr stepped.1.active
    | .error signal => exact Watch.Kept.error stepped

theorem requestAll_matures (deeper : shallow ≤ deep) (operations : List Operation) :
    (lifeWatch extra []).Keeps (fun scheduler => scheduler.active = [])
      ((interpreter shallow).requestAll operations) ((interpreter deep).requestAll operations) := by
  induction operations with
  | nil => exact .pure ()
  | cons operation rest ih =>
      have head := (life_upholds extra).request deeper operation [] fun id _ =>
        step_matures extra deeper id
      refine Watch.Leads.attempt head (fun result => ih.weaken ?_ fun _ _ ended => ended) ?_
      · rintro scheduler (⟨impossible, _⟩ | idle)
        · exact impossible.elim
        · exact idle
      · intro impossible
        exact impossible.elim

theorem Interpreter.requestAll_append (interpreter : Interpreter) (earlier more : List Operation)
    (session : Session) :
    interpreter.requestAll (earlier ++ more) session =
      (do
        interpreter.requestAll earlier
        interpreter.requestAll more) session := by
  induction earlier generalizing session with
  | nil => rfl
  | cons operation rest ih =>
      rw [Act.bind_apply, List.cons_append]
      rw [requestAll, requestAll, Act.attempt_bind, Act.attempt_bind]
      cases interpreter.request operation session with
      | done value after => exact ih after
      | raised signal after => exact ih after
      | halted moment => rfl

theorem Scheduler.consistent_fresh (settings : SchedulerSettings) :
    Scheduler.Consistent { settings } := by
  intro id progress found
  cases found

/-- From a fresh scheduler, every task is consistent at every moment of any operations, also of
those that fail. Wherever such a run is halted, and however it then goes on, with more depth, a
larger budget or further operations, tasks have only matured since. -/
theorem tasks_mature_along_runs (depth further : Nat) (extra : Option Nat) (session : Session)
    (settings : SchedulerSettings) (earlier more : List Operation) :
    let start : Session := { session with scheduler := { settings } }
    let early := (interpreter depth).requestAll earlier start
    let late := (interpreter (depth + further)).requestAll (earlier ++ more) (start.granted extra)
    early.session.scheduler.Consistent ∧
    early.session.scheduler.Matures 1 [] late.session.scheduler ∧
    ∀ after, early = .done () after → after.scheduler.Matures 0 [] late.session.scheduler := by
  intro start early late
  have deeper : depth ≤ depth + further := Nat.le_add_right depth further
  have idle : start.scheduler.active = [] := rfl
  have keeps := requestAll_matures extra (Nat.le_refl depth) earlier
  -- The later run goes on where the earlier one has ended, or past the moment at which it was
  -- halted.
  have longer : early.Extends extra
      ((interpreter (depth + further)).requestAll earlier (start.granted extra)) :=
    (requestAll_matures extra deeper earlier).goesOn.outcome extra start
  have finished (after : Session) (ended : early = .done () after) :
      after.scheduler.Matures 0 [] late.session.scheduler := by
    rw [ended] at longer
    have resumed : late = (interpreter (depth + further)).requestAll more (after.granted extra) := by
      change (interpreter (depth + further)).requestAll (earlier ++ more) _ = _
      rw [Interpreter.requestAll_append, Act.bind_apply, longer.ofDone]
    have resting : after.scheduler.active = [] := (keeps.done idle ended).ok
    have rest := (requestAll_matures extra (Nat.le_refl (depth + further)) more).along
      (after.granted extra) resting
    rw [resumed]
    exact rest.1
  refine ⟨(keeps.along start idle).2 (Scheduler.consistent_fresh settings), ?_, finished⟩
  cases run : early with
  | done value after => exact (finished after run).relax 1
  | raised signal after =>
      rw [run] at longer
      have resumed : late = .raised signal (after.granted extra) := by
        change (interpreter (depth + further)).requestAll (earlier ++ more) _ = _
        rw [Interpreter.requestAll_append, Act.bind_apply, longer.ofRaised]
      rw [resumed]
      exact .ofSame fun _ => rfl
  | halted moment =>
      refine (requestAll_matures extra deeper (earlier ++ more)).sees start moment idle ?_
      rw [Interpreter.requestAll_append, Act.bind_apply]
      rw [show (interpreter depth).requestAll earlier start = early from rfl, run]

end CooperativeTasks
