import CooperativeTasks.Proofs.Crowd

set_option autoImplicit false

/-! What publishing leaves alone.

Finalizing a task changes what scopes hold and where tasks report to. The ready queue, the output
and all that decides how tasks go on stay as they are, and when there is no limit it comes to its
end. -/

namespace CooperativeTasks

variable {α : Type}

/-- Publishing has changed nothing but these parts of the task, and has not taken anything back. -/
def Task.ReportedAs (task later : Task) : Prop :=
  (task.isPublished = true → later.isPublished = true) ∧
    ∃ scope receiver isPublished, later = { task with scope, receiver, isPublished }

theorem Task.ReportedAs.refl (task : Task) : task.ReportedAs task :=
  ⟨fun published => published, task.scope, task.receiver, task.isPublished, rfl⟩

theorem Task.ReportedAs.trans {first second third : Task} (earlier : first.ReportedAs second)
    (later : second.ReportedAs third) : first.ReportedAs third := by
  obtain ⟨kept, _, _, _, rfl⟩ := earlier
  obtain ⟨still, scope, receiver, isPublished, rfl⟩ := later
  exact ⟨fun published => still (kept published), scope, receiver, isPublished, rfl⟩

/-- Publishing changes where tasks report to and what their scopes hold. Nothing of that has to do
with how they go on. -/
structure Session.Reported (before after : Session) : Prop where
  output : after.executor.output = before.executor.output
  queue : after.scheduler.queue = before.scheduler.queue
  active : after.scheduler.active = before.scheduler.active
  budget : after.budget = before.budget
  count : after.scheduler.tasks.length = before.scheduler.tasks.length
  tasks : ∀ id task, before.scheduler.task? id = some task →
    ∃ later, after.scheduler.task? id = some later ∧ task.ReportedAs later

namespace Session.Reported

theorem ofSame {before after : Session} (output : after.executor.output = before.executor.output)
    (queue : after.scheduler.queue = before.scheduler.queue)
    (active : after.scheduler.active = before.scheduler.active)
    (budget : after.budget = before.budget)
    (tasks : after.scheduler.tasks = before.scheduler.tasks) : Reported before after := by
  refine ⟨output, queue, active, budget, by rw [tasks], fun id task found => ?_⟩
  refine ⟨task, ?_, .refl task⟩
  unfold Scheduler.task? at found ⊢
  rw [tasks, found]

theorem trans {first second third : Session} (earlier : Reported first second)
    (later : Reported second third) : Reported first third where
  output := later.output.trans earlier.output
  queue := later.queue.trans earlier.queue
  active := later.active.trans earlier.active
  budget := later.budget.trans earlier.budget
  count := later.count.trans earlier.count
  tasks id task found := by
    obtain ⟨between, known, reported⟩ := earlier.tasks id task found
    obtain ⟨last, still, goesOn⟩ := later.tasks id between known
    exact ⟨last, still, reported.trans goesOn⟩

theorem onTask {change : Task → Task} (keeps : ∀ task : Task, task.ReportedAs (change task))
    (id : TaskId) (session : Session) : Reported session (session.onTask id change) := by
  refine ⟨rfl, rfl, rfl, rfl, List.length_modify .., fun other task found => ?_⟩
  change ∃ later, (session.scheduler.modifyTask id change).task? other = _ ∧ _
  by_cases same : other = id
  · subst other
    rw [Scheduler.task?_modifyTask_self, found]
    exact ⟨change task, rfl, keeps task⟩
  · rw [Scheduler.task?_modifyTask_of_ne same, found]
    exact ⟨task, rfl, .refl task⟩

theorem modifySite (site : BindingSite) (change : Scope → Scope) (session : Session) :
    Reported session (session.modifySite site change) := by
  unfold Session.modifySite
  split
  · exact .ofSame rfl rfl rfl rfl rfl
  · split
    · apply onTask
      exact fun task => ⟨fun published => published, _, task.receiver, task.isPublished, rfl⟩
    · exact .ofSame rfl rfl rfl rfl rfl

end Session.Reported

/-- An action that only publishes, and comes to its end when there is no limit. -/
def Act.Reports (action : Act Unit) : Prop :=
  ∀ session : Session, session.budget = none →
    ∃ after, action session = .done () after ∧ session.Reported after

namespace Act.Reports

theorem bind {first : Act Unit} {next : Unit → Act Unit} (head : first.Reports)
    (tail : (next ()).Reports) : (first >>= next).Reports := by
  intro session unlimited
  obtain ⟨between, ran, reported⟩ := head session unlimited
  obtain ⟨after, goesOn, later⟩ := tail between (reported.budget.trans unlimited)
  refine ⟨after, ?_, reported.trans later⟩
  rw [bind_apply, ran]
  exact goesOn

theorem read {view : Session → α} {next : α → Act Unit} (tail : ∀ value, (next value).Reports) :
    (Act.read view >>= next).Reports :=
  fun session unlimited => tail (view session) session unlimited

theorem note (event : Event) : (Act.note event).Reports :=
  fun session unlimited =>
    ⟨session.recorded event, note_unlimited unlimited event, .ofSame rfl rfl rfl rfl rfl⟩

theorem update {change : Session → Session}
    (reported : ∀ session : Session, session.Reported (change session)) :
    (Act.update change).Reports :=
  fun session _ => ⟨change session, rfl, reported session⟩

theorem reports (id : TaskId) : Act.ReportsClosed id Act.Reports where
  pure := fun session _ => ⟨session, rfl, .ofSame rfl rfl rfl rfl rfl⟩
  bind := bind
  target _ := read
  modifySite site change _ := update (.modifySite site change)
  futureSiteGone _ := note _
  receiverSiteGone _ := note _

theorem finalize {id : TaskId} {task : Task} {session : Session} (unlimited : session.budget = none)
    (found : session.scheduler.task? id = some task) (finished : task.isFinished = true) :
    ∃ after, Act.finalize id session = .done () after ∧ session.Reported after ∧
      ∃ later, after.scheduler.task? id = some later ∧ task.ReportedAs later ∧
        later.isPublished = true := by
  cases published : task.isPublished with
  | true =>
      refine ⟨session, finalize_unready fun other known => .inr ?_, .ofSame rfl rfl rfl rfl rfl,
        task, found, .refl task, published⟩
      rw [found] at known
      cases known
      exact published
  | false =>
      have ended := finalize_ready found finished published
      have whole : Act.Reports (do
          reportFuture id (task.future.toValue (some id)) task.futureSite
          reportInstance id task
          Act.note (.finalized id)) :=
        bind ((reports id).reportFuture _ _) (bind ((reports id).reportInstance task) (note _))
      let receiver := task.mergedReceiver
      let mark (task : Task) : Task := { task with isPublished := true, receiver }
      have kept (task : Task) : task.ReportedAs (mark task) :=
        ⟨fun _ => rfl, task.scope, receiver, true, rfl⟩
      have marked : session.Reported (session.reporting id receiver) :=
        .trans (.onTask kept id session) (.ofSame rfl rfl rfl rfl rfl)
      have there : (session.reporting id receiver).scheduler.task? id = some (mark task) := by
        change (session.scheduler.modifyTask id mark).task? id = _
        rw [Scheduler.task?_modifyTask_self, found]
        rfl
      obtain ⟨after, ran, reported⟩ := whole (session.reporting id receiver) unlimited
      obtain ⟨later, known, goesOn⟩ := reported.tasks id (mark task) there
      exact ⟨after, ended.trans ran, marked.trans reported, later, known, (kept task).trans goesOn,
        goesOn.1 rfl⟩

end Act.Reports

end CooperativeTasks
