import CooperativeTasks.Proofs.Veil

set_option autoImplicit false

/-! Tasks with running tasks beneath them.

Where the covered scopes are not there, all tasks are as they are where the scopes are, apart from what
is saved in the tasks that run below. -/

namespace CooperativeTasks

/-- The task is still to write what it leaves to a variable of the given scope. -/
def Task.ReportsTo (frame : ScopeId) (task : Task) : Prop :=
  task.isPublished = false ∧ ∃ site : BindingSite, site.frame = frame ∧
    (task.futureSite = some site ∨ task.receiver.bind Receiver.site = some site)

/-- The task without what is saved in it. -/
def Task.bare (task : Task) : Task := { task with scope := none }

/-- A task next to the same task where the covered scopes are not there. -/
structure Veil.Resembles (veil : Veil) (id : TaskId) (one other : Task) : Prop where
  bare : other.bare = one.bare
  same : id ∉ veil.running → other = one
  saved : id ∉ veil.running → ∀ identity, one.scope.bind Scope.id = some identity →
    some identity ∉ veil.ids
  unfinished : id ∈ veil.running → one.isFinished = false
  reports : ∀ frame, one.ReportsTo frame → some frame ∈ veil.ids → veil.awaits frame

theorem Scheduler.modifyTask_untouched (task : TaskId) (scheduler : Scheduler) :
    scheduler.modifyTask task id = scheduler := by
  unfold modifyTask
  rw [List.modify_id]

/-- Two schedulers, the second where the covered scopes are not there. -/
structure Veil.Alike (veil : Veil) (first second : Scheduler) : Prop where
  settings : second.settings = first.settings
  queue : second.queue = first.queue
  ids : second.ids = first.ids
  statistics : second.statistics = first.statistics
  active : first.active = veil.begun ++ veil.running
  active' : second.active = veil.begun ++ veil.marked
  marks : ∀ id ∈ veil.marked, id ∈ veil.running
  queued : ∀ id ∈ first.queue.ids, id ∈ veil.running → id ∈ veil.marked
  length : second.tasks.length = first.tasks.length
  numbered : first.Numbered
  registered : ∀ id ∈ veil.running, id.index < first.tasks.length
  tasks : ∀ id one, first.task? id = some one →
    ∃ other, second.task? id = some other ∧ veil.Resembles id one other

namespace Veil.Resembles

variable {veil : Veil} {id : TaskId} {one other : Task}

theorem marked (resembles : veil.Resembles id one other) {change : Task → Task}
    (blind : ∀ task, (change task).bare = change task.bare)
    (scope : ∀ task, (change task).scope = task.scope)
    (isFinished : ∀ task, (change task).isFinished = task.isFinished)
    (reports : ∀ frame, (change one).ReportsTo frame → one.ReportsTo frame ∨ some frame ∉ veil.ids) :
    veil.Resembles id (change one) (change other) where
  bare := by rw [blind, blind, resembles.bare]
  same idle := congrArg change (resembles.same idle)
  saved := by
    rw [scope]
    exact resembles.saved
  unfinished := by
    rw [isFinished]
    exact resembles.unfinished
  reports frame reported member := by
    rcases reports frame reported with earlier | apart
    · exact resembles.reports frame earlier member
    · exact absurd member apart

theorem idle (resembles : veil.Resembles id one other) (aside : id ∉ veil.running)
    {change : Task → Task}
    (saved : ∀ identity, (change one).scope.bind Scope.id = some identity → some identity ∉ veil.ids)
    (reports : ∀ frame, (change one).ReportsTo frame → one.ReportsTo frame) :
    veil.Resembles id (change one) (change other) := by
  rw [resembles.same aside]
  refine ⟨rfl, fun _ => rfl, fun _ => saved, fun member => absurd member aside, ?_⟩
  exact fun frame reported => resembles.reports frame (reports frame reported)

end Veil.Resembles

namespace Veil.Alike

variable {veil : Veil} {first second : Scheduler} (alike : veil.Alike first second)

include alike

theorem unknown {id : TaskId} (missing : first.task? id = none) : second.task? id = none := by
  unfold Scheduler.task? at missing ⊢
  rw [List.getElem?_eq_none_iff] at missing ⊢
  rw [alike.length]
  exact missing

theorem idle {id : TaskId} (aside : id ∉ veil.running) : second.task? id = first.task? id := by
  cases found : first.task? id with
  | none => exact alike.unknown found
  | some one =>
      obtain ⟨other, known, resembles⟩ := alike.tasks id one found
      rw [known, resembles.same aside]

theorem savedId?_apart {id : TaskId} (aside : id ∉ veil.running) {identity : ScopeId}
    (saved : first.savedId? id = some identity) : some identity ∉ veil.ids := by
  unfold Scheduler.savedId? Scheduler.savedScope? at saved
  cases found : first.task? id with
  | none =>
      rw [found] at saved
      cases saved
  | some one =>
      rw [found] at saved
      obtain ⟨_, _, resembles⟩ := alike.tasks id one found
      exact resembles.saved aside identity saved

theorem view {β : Type} (look : Option Task → β)
    (blind : ∀ task : Task, look (some task.bare) = look (some task)) (id : TaskId) :
    look (second.task? id) = look (first.task? id) := by
  cases found : first.task? id with
  | none => rw [alike.unknown found]
  | some one =>
      obtain ⟨other, known, resembles⟩ := alike.tasks id one found
      rw [known, ← blind other, resembles.bare, blind one]

theorem isFinished (id : TaskId) : second.isFinished id = first.isFinished id := by
  have spelled (scheduler : Scheduler) :
      scheduler.isFinished id = ((scheduler.task? id).map Task.isFinished).getD false := by
    unfold Scheduler.isFinished
    cases scheduler.task? id <;> rfl
  rw [spelled, spelled]
  exact alike.view (fun found => (found.map Task.isFinished).getD false) (fun _ => rfl) id

theorem isActive {id : TaskId} (queued : id ∈ veil.running → id ∈ veil.marked) :
    second.isActive id = first.isActive id := by
  unfold Scheduler.isActive
  rw [alike.active, alike.active']
  refine decide_eq_decide.mpr ?_
  rw [List.mem_append, List.mem_append]
  exact or_congr Iff.rfl ⟨alike.marks id, queued⟩

theorem onlyActiveQueued : second.onlyActiveQueued = first.onlyActiveQueued := by
  unfold Scheduler.onlyActiveQueued
  rw [alike.queue, Bool.eq_iff_iff, List.all_eq_true, List.all_eq_true]
  constructor
  · intro all id member
    rw [← alike.isActive (alike.queued id member)]
    exact all id member
  · intro all id member
    rw [alike.isActive (alike.queued id member)]
    exact all id member

/-! ### Changes -/

theorem onTask (id : TaskId) {change change' : Task → Task}
    (changed : ∀ one other, first.task? id = some one → veil.Resembles id one other →
      veil.Resembles id (change one) (change' other)) :
    veil.Alike (first.modifyTask id change) (second.modifyTask id change') := by
  have lengths (scheduler : Scheduler) (change : Task → Task) :
      (scheduler.modifyTask id change).tasks.length = scheduler.tasks.length := List.length_modify ..
  refine { alike with length := ?_, numbered := ?_, registered := ?_, tasks := ?_ }
  · rw [lengths, lengths, alike.length]
  · exact alike.numbered.modifyTask id change
  · rw [lengths]
    exact alike.registered
  · intro name later found
    by_cases same : name = id
    · subst name
      rw [Scheduler.task?_modifyTask_self] at found ⊢
      obtain ⟨one, known, rfl⟩ := Option.map_eq_some_iff.mp found
      obtain ⟨other, there, resembles⟩ := alike.tasks id one known
      rw [there]
      exact ⟨change' other, rfl, changed one other known resembles⟩
    · rw [Scheduler.task?_modifyTask_of_ne same] at found ⊢
      exact alike.tasks name later found

theorem mark (id : TaskId) {change : Task → Task}
    (blind : ∀ task, (change task).bare = change task.bare)
    (scope : ∀ task, (change task).scope = task.scope)
    (isFinished : ∀ task, (change task).isFinished = task.isFinished)
    (reports : ∀ task frame, (change task).ReportsTo frame →
      task.ReportsTo frame ∨ some frame ∉ veil.ids) :
    veil.Alike (first.modifyTask id change) (second.modifyTask id change) :=
  alike.onTask id fun one _ _ resembles => resembles.marked blind scope isFinished (reports one)

theorem onIdle {id : TaskId} (aside : id ∉ veil.running) {change : Task → Task}
    (saved : ∀ task, first.task? id = some task → ∀ identity,
      (change task).scope.bind Scope.id = some identity → some identity ∉ veil.ids)
    (reports : ∀ task frame, (change task).ReportsTo frame → task.ReportsTo frame) :
    veil.Alike (first.modifyTask id change) (second.modifyTask id change) :=
  alike.onTask id fun one _ found resembles =>
    resembles.idle aside (saved one found) (reports one)

theorem onIdleSaved {id : TaskId} (aside : id ∉ veil.running) {change : Task → Task}
    (scope : ∀ task, (change task).scope = task.scope)
    (reports : ∀ task frame, (change task).ReportsTo frame → task.ReportsTo frame) :
    veil.Alike (first.modifyTask id change) (second.modifyTask id change) := by
  refine alike.onIdle aside (fun task found identity saved => ?_) reports
  rw [scope] at saved
  obtain ⟨_, _, resembles⟩ := alike.tasks id task found
  exact resembles.saved aside identity saved

theorem started {id : TaskId} (aside : id ∉ veil.running) :
    veil.Alike (first.modifyTask id Task.start) (second.modifyTask id Task.start) := by
  refine alike.onIdle aside (fun task found identity saved => ?_) fun task frame reported => ?_
  · unfold Task.start at saved
    split at saved
    · obtain ⟨_, _, resembles⟩ := alike.tasks id task found
      exact resembles.saved aside identity saved
    · cases saved
  · unfold Task.start at reported
    split at reported
    · exact reported
    · exact reported

theorem savedBelow {id : TaskId} (below : id ∈ veil.running) (scope : Scope) :
    veil.Alike (first.modifyTask id fun task => { task with scope := some scope }) second ∧
      veil.Alike first (second.modifyTask id fun task => { task with scope := some scope }) := by
  constructor
  · rw [← Scheduler.modifyTask_untouched id second]
    refine alike.onTask id fun one other _ resembles => ?_
    refine { resembles with
      bare := resembles.bare
      same := fun aside => absurd below aside
      saved := fun aside => absurd below aside }
  · rw [← Scheduler.modifyTask_untouched id first]
    refine alike.onTask id fun one other _ resembles => ?_
    refine { resembles with
      bare := resembles.bare
      same := fun aside => absurd below aside }

theorem counted (change : Statistics → Statistics) :
    veil.Alike (first.countWith change) (second.countWith change) :=
  { alike with statistics := congrArg change alike.statistics }

theorem requeued {queue : ReadyQueue}
    (listed : ∀ id ∈ queue.ids, id ∈ veil.running → id ∈ veil.marked) :
    veil.Alike { first with queue } { second with queue } :=
  { alike with queue := rfl, queued := listed }

theorem dequeues :
    (first.dequeue? = none ∧ second.dequeue? = none) ∨
      ∃ id remaining remaining', first.dequeue? = some (id, remaining) ∧
        second.dequeue? = some (id, remaining') ∧ veil.Alike remaining remaining' ∧
        (id ∈ veil.running → id ∈ veil.marked) := by
  have listed := alike.queued
  have same : second.queue.ids = first.queue.ids := congrArg ReadyQueue.ids alike.queue
  cases ids : first.queue.ids with
  | nil => exact .inl ⟨Scheduler.dequeue?_nil ids, Scheduler.dequeue?_nil (same.trans ids)⟩
  | cons id rest =>
      rw [ids] at listed
      refine .inr ⟨id, _, _, Scheduler.dequeue?_cons ids, Scheduler.dequeue?_cons (same.trans ids),
        ?_, listed id List.mem_cons_self⟩
      exact alike.requeued fun later member => listed later (List.mem_cons_of_mem id member)

theorem enqueues {id : TaskId} (allowed : id ∈ veil.running → id ∈ veil.marked) :
    veil.Alike (first.enqueue id) (second.enqueue id) := by
  unfold Scheduler.enqueue
  rw [alike.queue]
  refine alike.requeued fun name member below => ?_
  rcases List.mem_append.mp member with older | newest
  · exact alike.queued name older below
  · cases List.mem_singleton.mp newest
    exact allowed below

theorem registers {task : Task} (scopeless : task.scope = none)
    (reports : ∀ frame, task.ReportsTo frame → some frame ∉ veil.ids) :
    (second.register task).1 = (first.register task).1 ∧
      veil.Alike (first.register task).2 (second.register task).2 := by
  have next : second.ids.next = first.ids.next := congrArg TaskIds.next alike.ids
  -- What runs below has been registered, so that the new identity is not among it.
  have fresh : first.ids.next ∉ veil.running := by
    intro member
    exact Nat.ne_of_lt (alike.registered _ member) alike.numbered
  refine ⟨next, ?_⟩
  refine
    { settings := alike.settings
      queue := ?_
      ids := ?_
      statistics := ?_
      active := alike.active
      active' := alike.active'
      marks := alike.marks
      queued := ?_
      length := ?_
      numbered := alike.numbered.register task
      registered := ?_
      tasks := ?_ }
  · unfold Scheduler.register TaskIds.take
    rw [alike.queue, next]
  · unfold Scheduler.register TaskIds.take
    rw [next]
  · unfold Scheduler.register
    rw [alike.statistics]
  · intro id member below
    rcases List.mem_append.mp member with older | newest
    · exact alike.queued id older below
    · cases List.mem_singleton.mp newest
      exact absurd below fresh
  · rw [Scheduler.length_register, Scheduler.length_register, alike.length]
  · intro id member
    rw [Scheduler.length_register]
    exact Nat.lt_succ_of_lt (alike.registered id member)
  · intro id one found
    rw [Scheduler.task?_register] at found
    rw [Scheduler.task?_register, alike.length]
    by_cases newest : id.index = first.tasks.length
    · rw [if_pos newest] at found ⊢
      have same : id = first.ids.next := by
        cases id
        exact congrArg TaskId.mk (newest.trans alike.numbered.symm)
      have added : second.added task = first.added task := by
        unfold Scheduler.added
        rw [next]
      rw [added]
      refine ⟨one, found, ?_⟩
      cases found
      refine ⟨rfl, fun _ => rfl, fun _ identity held => ?_, fun below => ?_, fun frame reported member => ?_⟩
      · have unsaved : (first.added task).scope = none := scopeless
        rw [unsaved] at held
        cases held
      · rw [same] at below
        exact absurd below fresh
      · exact absurd member (reports frame reported)
    · rw [if_neg newest] at found ⊢
      exact alike.tasks id one found

theorem raised (height : Nat) : { veil with height }.Alike first second := by
  refine { alike with tasks := fun id one found => ?_ }
  obtain ⟨other, known, resembles⟩ := alike.tasks id one found
  exact ⟨other, known, { resembles with }⟩

theorem enter (id : TaskId) :
    { veil with begun := id :: veil.begun, height := veil.height + 1 }.Alike
      { first with active := id :: first.active } { second with active := id :: second.active } := by
  refine { alike with active := ?_, active' := ?_, tasks := ?_ }
  · rw [alike.active]
    rfl
  · rw [alike.active']
    rfl
  · intro name one found
    obtain ⟨other, known, resembles⟩ := alike.tasks name one found
    exact ⟨other, known, { resembles with }⟩

omit alike in
theorem leave {id : TaskId} {left left' : Scheduler}
    (inside : { veil with begun := id :: veil.begun, height := veil.height + 1 }.Alike left left') :
    veil.Alike { left with active := left.active.tail } { left' with active := left'.active.tail } := by
  refine { inside with active := ?_, active' := ?_, tasks := ?_ }
  · rw [inside.active]
    rfl
  · rw [inside.active']
    rfl
  · intro name one found
    obtain ⟨other, known, resembles⟩ := inside.tasks name one found
    exact ⟨other, known, { resembles with }⟩

end Veil.Alike

end CooperativeTasks
