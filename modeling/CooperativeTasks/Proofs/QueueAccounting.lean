import CooperativeTasks.Proofs.Turns

set_option autoImplicit false

/-! Accounting for tasks.

Every unfinished task is in the ready queue, or on the stack of running tasks, or is the one that
a turn has just taken out. This is kept by everything that turns do with a task. -/

namespace CooperativeTasks

/-- What accounts for every task, given the one that a turn has in its hands. Where it is
`strict`, all steps are those of turns. -/
structure Scheduler.Accounted (strict : Prop) (popped : Option TaskId) (scheduler : Scheduler) :
    Prop where
  ids : scheduler.ids.next.index = scheduler.tasks.length
  queue : scheduler.queue.ids.Nodup
  active : scheduler.active.Nodup
  apart : ∀ id, popped = some id → id ∉ scheduler.queue.ids ∧ id ∉ scheduler.active
  registered : ∀ id, id ∈ scheduler.queue.ids ∨ id ∈ scheduler.active ∨ popped = some id →
    id.index < scheduler.tasks.length
  covered : ∀ id, scheduler.Unfinished id →
    id ∈ scheduler.queue.ids ∨ id ∈ scheduler.active ∨ popped = some id
  running : ∀ id, id ∈ scheduler.active → scheduler.Unfinished id
  outermost : ∀ id, id ∈ scheduler.queue.ids → id ∈ scheduler.active →
    scheduler.active.getLast? = some id
  exact : strict → ∀ id, id ∈ scheduler.queue.ids → scheduler.Unfinished id ∧ id ∉ scheduler.active

namespace Scheduler

variable {strict : Prop} {popped : Option TaskId} {scheduler : Scheduler}

theorem nodup_push {ids : List TaskId} {id : TaskId} (unique : ids.Nodup) (unqueued : id ∉ ids) :
    (ids ++ [id]).Nodup := by
  refine List.nodup_append.mpr ⟨unique, by simp, ?_⟩
  intro other queued last member same
  rw [same, List.mem_singleton.mp member] at queued
  exact unqueued queued

namespace Accounted

theorem transfer (accounted : Accounted strict popped scheduler) {other : Scheduler}
    (queue : other.queue = scheduler.queue) (ids : other.ids = scheduler.ids)
    (active : other.active = scheduler.active)
    (tasks : other.tasks.length = scheduler.tasks.length)
    (unfinished : ∀ id, other.Unfinished id ↔ scheduler.Unfinished id) :
    Accounted strict popped other := by
  constructor
  · rw [ids, tasks]
    exact accounted.ids
  · rw [queue]
    exact accounted.queue
  · rw [active]
    exact accounted.active
  · rw [queue, active]
    exact accounted.apart
  · rw [queue, active, tasks]
    exact accounted.registered
  · intro id lives
    rw [queue, active]
    exact accounted.covered id ((unfinished id).mp lives)
  · intro id runs
    rw [active] at runs
    exact (unfinished id).mpr (accounted.running id runs)
  · rw [queue, active]
    exact accounted.outermost
  · intro holds id queued
    rw [queue] at queued
    rw [active]
    obtain ⟨lives, idle⟩ := accounted.exact holds id queued
    exact ⟨(unfinished id).mpr lives, idle⟩

theorem alike (accounted : Accounted strict popped scheduler) {other : Scheduler}
    (same : scheduler.Alike other) : Accounted strict popped other :=
  accounted.transfer same.queue same.ids same.active same.tasks same.unfinished

theorem modifyTask (accounted : Accounted strict popped scheduler) {change : Task → Task}
    (keeps : ∀ task, (change task).isFinished = task.isFinished) (id : TaskId) :
    Accounted strict popped (scheduler.modifyTask id change) :=
  accounted.transfer rfl rfl rfl (List.length_modify ..)
    (fun other => unfinished_modifyTask_iff keeps id other scheduler)

theorem finish (accounted : Accounted strict popped scheduler) {change : Task → Task}
    (completes : ∀ task, (change task).isFinished = true) {id : TaskId}
    (idle : id ∉ scheduler.active) (unqueued : strict → id ∉ scheduler.queue.ids) :
    Accounted strict popped (scheduler.modifyTask id change) := by
  have tasks : (scheduler.modifyTask id change).tasks.length = scheduler.tasks.length :=
    List.length_modify ..
  constructor
  · rw [tasks]
    exact accounted.ids
  · exact accounted.queue
  · exact accounted.active
  · exact accounted.apart
  · rw [tasks]
    exact accounted.registered
  · intro other lives
    by_cases same : other = id
    · subst other
      exact absurd lives (not_unfinished_complete id completes scheduler)
    · exact accounted.covered other ((unfinished_modifyTask_of_ne same change scheduler).mp lives)
  · intro other runs
    have different : other ≠ id := by
      rintro rfl
      exact idle runs
    exact (unfinished_modifyTask_of_ne different change scheduler).mpr (accounted.running other runs)
  · exact accounted.outermost
  · intro holds other queued
    have different : other ≠ id := by
      rintro rfl
      exact unqueued holds queued
    obtain ⟨lives, apart⟩ := accounted.exact holds other queued
    exact ⟨(unfinished_modifyTask_of_ne different change scheduler).mpr lives, apart⟩

theorem enter (accounted : Accounted strict popped scheduler) {id : TaskId}
    (lives : scheduler.Unfinished id) (held : popped = some id ∨ popped = none)
    (idle : id ∉ scheduler.active) (unqueued : strict → id ∉ scheduler.queue.ids)
    (alone : id ∈ scheduler.queue.ids → scheduler.active = []) :
    Accounted strict none { scheduler with active := id :: scheduler.active } := by
  have known : id.index < scheduler.tasks.length := by
    obtain ⟨task, found, _⟩ := lives
    exact (List.getElem?_eq_some_iff.mp found).1
  constructor
  · exact accounted.ids
  · exact accounted.queue
  · exact List.nodup_cons.mpr ⟨idle, accounted.active⟩
  · intro other impossible
    cases impossible
  · intro other place
    rcases place with queued | running | impossible
    · exact accounted.registered other (.inl queued)
    · rcases List.mem_cons.mp running with rfl | runs
      · exact known
      · exact accounted.registered other (.inr (.inl runs))
    · cases impossible
  · intro other unfinished
    rcases accounted.covered other unfinished with queued | runs | taken
    · exact .inl queued
    · exact .inr (.inl (List.mem_cons_of_mem id runs))
    · rcases held with same | none
      · rw [same] at taken
        cases taken
        exact .inr (.inl List.mem_cons_self)
      · rw [none] at taken
        cases taken
  · intro other running
    rcases List.mem_cons.mp running with rfl | runs
    · exact lives
    · exact accounted.running other runs
  · intro other queued running
    rcases List.mem_cons.mp running with rfl | runs
    · change (other :: scheduler.active).getLast? = some other
      rw [alone queued]
      rfl
    · change (id :: scheduler.active).getLast? = some other
      rw [List.getLast?_cons, accounted.outermost other queued runs]
      rfl
  · intro holds other queued
    obtain ⟨unfinished, apart⟩ := accounted.exact holds other queued
    refine ⟨unfinished, fun running => ?_⟩
    rcases List.mem_cons.mp running with rfl | runs
    · exact unqueued holds queued
    · exact apart runs

theorem leave (accounted : Accounted strict none scheduler) {id : TaskId} {stack : List TaskId}
    (top : scheduler.active = id :: stack)
    (held : popped = some id ∧ id ∉ scheduler.queue.ids ∨
      popped = none ∧ id ∈ scheduler.queue.ids) :
    Accounted strict popped scheduler.abandoned := by
  have nodup := accounted.active
  have rest : scheduler.abandoned.active = stack := by
    unfold abandoned
    rw [top]
    rfl
  rw [top] at nodup
  obtain ⟨below, unique⟩ := List.nodup_cons.mp nodup
  have inner (other : TaskId) (runs : other ∈ stack) : other ∈ scheduler.active := by
    rw [top]
    exact List.mem_cons_of_mem id runs
  constructor
  · exact accounted.ids
  · exact accounted.queue
  · rw [rest]
    exact unique
  · intro other taken
    rw [rest]
    rcases held with ⟨same, unqueued⟩ | ⟨none, _⟩
    · rw [same] at taken
      cases taken
      exact ⟨unqueued, below⟩
    · rw [none] at taken
      cases taken
  · intro other place
    rw [rest] at place
    rcases place with queued | runs | taken
    · exact accounted.registered other (.inl queued)
    · exact accounted.registered other (.inr (.inl (inner other runs)))
    · rcases held with ⟨same, _⟩ | ⟨none, _⟩
      · rw [same] at taken
        cases taken
        refine accounted.registered id (.inr (.inl ?_))
        rw [top]
        exact List.mem_cons_self
      · rw [none] at taken
        cases taken
  · intro other unfinished
    rw [rest]
    rcases accounted.covered other unfinished with queued | running | impossible
    · exact .inl queued
    · rw [top] at running
      rcases List.mem_cons.mp running with rfl | runs
      · rcases held with ⟨same, _⟩ | ⟨_, queued⟩
        · exact .inr (.inr same)
        · exact .inl queued
      · exact .inr (.inl runs)
    · cases impossible
  · intro other runs
    rw [rest] at runs
    exact accounted.running other (inner other runs)
  · intro other queued runs
    rw [rest] at runs ⊢
    -- Only the outermost running task may be queued, and it stays outermost when the innermost
    -- leaves.
    have last := accounted.outermost other queued (inner other runs)
    rw [top, List.getLast?_cons] at last
    cases bottom : stack.getLast? with
    | none =>
        rw [List.getLast?_eq_none_iff.mp bottom] at runs
        cases runs
    | some deepest =>
        rw [bottom] at last
        exact last
  · intro holds other queued
    obtain ⟨unfinished, apart⟩ := accounted.exact holds other queued
    rw [rest]
    exact ⟨unfinished, fun runs => apart (inner other runs)⟩

theorem register (accounted : Accounted strict none scheduler) {task : Task} (fresh : task.Fresh) :
    Accounted strict none (scheduler.register task).2 := by
  have next : scheduler.ids.next.index = scheduler.tasks.length := accounted.ids
  have queue : (scheduler.register task).2.queue.ids =
      scheduler.queue.ids ++ [scheduler.ids.next] := rfl
  have tasks := scheduler.length_register task
  have older {id : TaskId} (known : id.index < scheduler.tasks.length) : id ≠ scheduler.ids.next := by
    rintro rfl
    omega
  have earlier {id : TaskId} (known : id.index < scheduler.tasks.length) :
      (scheduler.register task).2.Unfinished id ↔ scheduler.Unfinished id := by
    unfold Unfinished
    rw [task?_register_of_lt known]
  have newest : (scheduler.register task).2.Unfinished scheduler.ids.next :=
    ⟨_, task?_register_new next task, fresh.unfinished⟩
  constructor
  · rw [tasks]
    exact congrArg (· + 1) next
  · rw [queue]
    refine nodup_push accounted.queue fun queued => ?_
    exact older (accounted.registered _ (.inl queued)) rfl
  · exact accounted.active
  · intro id impossible
    cases impossible
  · intro id place
    rw [tasks]
    rcases place with queued | runs | impossible
    · rcases List.mem_append.mp queued with queued | last
      · have := accounted.registered id (.inl queued)
        omega
      · rw [List.mem_singleton.mp last]
        omega
    · have := accounted.registered id (.inr (.inl runs))
      omega
    · cases impossible
  · rintro id ⟨found, present, lives⟩
    rw [task?_register] at present
    split at present
    · rename_i new
      have same : id = scheduler.ids.next := congrArg TaskId.mk (new.trans next.symm)
      rw [same]
      exact .inl (List.mem_append_right _ List.mem_cons_self)
    · exact (accounted.covered id ⟨found, present, lives⟩).imp_left (List.mem_append_left _)
  · intro id runs
    exact (earlier (accounted.registered id (.inr (.inl runs)))).mpr (accounted.running id runs)
  · intro id queued runs
    have known := accounted.registered id (.inr (.inl runs))
    rcases List.mem_append.mp queued with queued | last
    · exact accounted.outermost id queued runs
    · exact absurd (List.mem_singleton.mp last) (older known)
  · intro holds id queued
    rcases List.mem_append.mp queued with queued | last
    · obtain ⟨unfinished, apart⟩ := accounted.exact holds id queued
      exact ⟨(earlier (accounted.registered id (.inl queued))).mpr unfinished, apart⟩
    · rw [List.mem_singleton.mp last]
      refine ⟨newest, fun runs => ?_⟩
      exact older (accounted.registered _ (.inr (.inl runs))) rfl

theorem push {id : TaskId} (accounted : Accounted strict (some id) scheduler)
    (lives : scheduler.Unfinished id) : Accounted strict none (scheduler.enqueue id) := by
  obtain ⟨unqueued, idle⟩ := accounted.apart id rfl
  have queue : (scheduler.enqueue id).queue.ids = scheduler.queue.ids ++ [id] := rfl
  constructor
  · exact accounted.ids
  · rw [queue]
    exact nodup_push accounted.queue unqueued
  · exact accounted.active
  · intro other impossible
    cases impossible
  · intro other place
    rcases place with queued | runs | impossible
    · rcases List.mem_append.mp queued with queued | last
      · exact accounted.registered other (.inl queued)
      · rw [List.mem_singleton.mp last]
        exact accounted.registered id (.inr (.inr rfl))
    · exact accounted.registered other (.inr (.inl runs))
    · cases impossible
  · intro other unfinished
    rcases accounted.covered other unfinished with queued | runs | taken
    · exact .inl (List.mem_append_left _ queued)
    · exact .inr (.inl runs)
    · cases taken
      exact .inl (List.mem_append_right _ (List.mem_singleton_self _))
  · exact accounted.running
  · intro other queued runs
    rcases List.mem_append.mp queued with queued | last
    · exact accounted.outermost other queued runs
    · rw [List.mem_singleton.mp last] at runs
      exact absurd runs idle
  · intro holds other queued
    rcases List.mem_append.mp queued with queued | last
    · exact accounted.exact holds other queued
    · rw [List.mem_singleton.mp last]
      exact ⟨lives, idle⟩

theorem drop {id : TaskId} (accounted : Accounted strict (some id) scheduler)
    (finished : ¬ scheduler.Unfinished id) : Accounted strict none scheduler := by
  refine { accounted with apart := ?_, registered := ?_, covered := ?_ }
  · intro other impossible
    cases impossible
  · intro other place
    rcases place with queued | runs | impossible
    · exact accounted.registered other (.inl queued)
    · exact accounted.registered other (.inr (.inl runs))
    · cases impossible
  · intro other unfinished
    rcases accounted.covered other unfinished with queued | runs | taken
    · exact .inl queued
    · exact .inr (.inl runs)
    · cases taken
      exact absurd unfinished finished

end Accounted

namespace Accounted

theorem pop (accounted : Accounted strict none scheduler) {id : TaskId} {rest : List TaskId}
    (front : scheduler.queue.ids = id :: rest)
    (held : popped = some id ∧ id ∉ scheduler.active ∨ popped = none ∧ id ∈ scheduler.active) :
    Accounted strict popped { scheduler with queue := ⟨rest⟩ } := by
  have nodup := accounted.queue
  rw [front] at nodup
  obtain ⟨unqueued, unique⟩ := List.nodup_cons.mp nodup
  have behind {other : TaskId} (queued : other ∈ rest) : other ∈ scheduler.queue.ids := by
    rw [front]
    exact List.mem_cons_of_mem id queued
  constructor
  · exact accounted.ids
  · exact unique
  · exact accounted.active
  · intro other taken
    rcases held with ⟨same, idle⟩ | ⟨none, _⟩
    · rw [same] at taken
      cases taken
      exact ⟨unqueued, idle⟩
    · rw [none] at taken
      cases taken
  · intro other place
    rcases place with queued | runs | taken
    · exact accounted.registered other (.inl (behind queued))
    · exact accounted.registered other (.inr (.inl runs))
    · rcases held with ⟨same, _⟩ | ⟨none, _⟩
      · rw [same] at taken
        cases taken
        refine accounted.registered id (.inl ?_)
        rw [front]
        exact List.mem_cons_self
      · rw [none] at taken
        cases taken
  · intro other unfinished
    rcases accounted.covered other unfinished with queued | runs | impossible
    · rw [front] at queued
      rcases List.mem_cons.mp queued with rfl | queued
      · rcases held with ⟨same, _⟩ | ⟨_, runs⟩
        · exact .inr (.inr same)
        · exact .inr (.inl runs)
      · exact .inl queued
    · exact .inr (.inl runs)
    · cases impossible
  · exact accounted.running
  · intro other queued runs
    exact accounted.outermost other (behind queued) runs
  · intro holds other queued
    exact accounted.exact holds other (behind queued)

theorem mem_rotate {queue : List TaskId} {id : TaskId} {rest : List TaskId}
    (front : queue = id :: rest) (other : TaskId) : other ∈ rest ++ [id] ↔ other ∈ queue := by
  rw [front, List.mem_append, List.mem_singleton, List.mem_cons]
  exact Or.comm

theorem rotate (accounted : Accounted strict popped scheduler) {id : TaskId} {rest : List TaskId}
    (front : scheduler.queue.ids = id :: rest) :
    Accounted strict popped { scheduler with queue := ⟨rest ++ [id]⟩ } := by
  have same := mem_rotate front
  have nodup := accounted.queue
  rw [front] at nodup
  obtain ⟨unqueued, unique⟩ := List.nodup_cons.mp nodup
  constructor
  · exact accounted.ids
  · exact nodup_push unique unqueued
  · exact accounted.active
  · intro other taken
    rw [same other]
    exact accounted.apart other taken
  · intro other place
    rw [same other] at place
    exact accounted.registered other place
  · intro other unfinished
    rw [same other]
    exact accounted.covered other unfinished
  · exact accounted.running
  · intro other queued runs
    exact accounted.outermost other ((same other).mp queued) runs
  · intro holds other queued
    exact accounted.exact holds other ((same other).mp queued)

end Accounted

end Scheduler

end CooperativeTasks
