import CooperativeTasks.Proofs.ScopeOwners
import CooperativeTasks.Proofs.StepForms

set_option autoImplicit false

/-! The owners of scopes along a run.

A run that is halted can go on with a larger budget. It then passes the moment at which it was
halted before, so that whoever the scopes belonged to at that moment, they belong to later as
well. -/

namespace CooperativeTasks

variable {α β : Type}

/-- The owners of the scopes at a moment are still their owners later. -/
def Session.Outlasts (before moment late : Session) : Prop :=
  ∀ owners, before.Attributed owners → ∃ more rest,
    moment.Attributed (owners ++ more) ∧ late.Attributed (owners ++ more ++ rest)

theorem Session.granted_keepsOwners (extra : Option Nat) (session : Session) :
    session.KeepsOwners (session.granted extra) :=
  .aside rfl rfl

namespace Session.Outlasts

variable {before start moment between late : Session}

theorem here (earlier : before.KeepsOwners moment) (later : moment.KeepsOwners late) :
    before.Outlasts moment late := by
  intro owners attributed
  obtain ⟨more, reached⟩ := earlier owners attributed
  obtain ⟨rest, last⟩ := later (owners ++ more) reached
  exact ⟨more, rest, reached, last⟩

theorem after (earlier : before.KeepsOwners start) (outlasts : start.Outlasts moment late) :
    before.Outlasts moment late := by
  intro owners attributed
  obtain ⟨first, begun⟩ := earlier owners attributed
  obtain ⟨more, rest, reached, last⟩ := outlasts (owners ++ first) begun
  rw [List.append_assoc owners first more] at reached last
  exact ⟨_, rest, reached, last⟩

theorem goesOn (outlasts : before.Outlasts moment between) (later : between.KeepsOwners late) :
    before.Outlasts moment late := by
  intro owners attributed
  obtain ⟨more, rest, reached, left⟩ := outlasts owners attributed
  obtain ⟨further, last⟩ := later _ left
  rw [List.append_assoc] at last
  exact ⟨more, _, reached, last⟩

end Session.Outlasts

/-- From this session on, wherever the action is halted, it goes on from there. -/
def Act.OutlastsFrom (session : Session) (action : Act α) : Prop :=
  ∀ extra moment, action session = .halted moment →
    session.Outlasts moment (action (session.granted extra)).session

/-- An action whose moments the owners of scopes outlast. -/
structure Act.Outlasts (action : Act α) : Prop where
  itself : Act.Extends action action
  becomes : action.Becomes
  outlasts : ∀ session, action.OutlastsFrom session

theorem Act.noted_of_done {event : Event} {session after : Session}
    (ran : note event session = .done () after) : session.Noted event after := by
  rcases note_cases event session with ⟨other, same, run⟩ | ⟨moment, _, run⟩
  · rw [run] at ran
    cases ran
    exact same
  · rw [run] at ran
    cases ran

namespace Act.OutlastsFrom

theorem bind {first : Act α} {next : α → Act β} {session : Session}
    (itself : Act.Extends first first) (head : first.OutlastsFrom session)
    (keeps : ∀ extra value after, first (session.granted extra) = .done value after →
      after.KeepsOwners (next value after).session)
    (tail : ∀ value after, first session = .done value after →
      session.KeepsOwners after ∧ (next value).OutlastsFrom after) :
    (first >>= next).OutlastsFrom session := by
  intro extra moment halted
  rw [bind_apply] at halted ⊢
  have longer := itself.outcome extra session
  cases run : first session with
  | done value after =>
      obtain ⟨earlier, later⟩ := tail value after run
      rw [run] at halted longer
      rw [longer.ofDone]
      exact .after earlier (later extra moment halted)
  | raised signal after =>
      rw [run] at halted
      cases halted
  | halted early =>
      rw [run] at halted
      cases halted
      have outlasts := head extra moment run
      cases on : first (session.granted extra) with
      | done value between =>
          rw [on] at outlasts
          exact outlasts.goesOn (keeps extra value between on)
      | raised signal between =>
          rw [on] at outlasts
          exact outlasts
      | halted between =>
          rw [on] at outlasts
          exact outlasts

theorem attempt {action : Act α} {session : Session} (inner : action.OutlastsFrom session) :
    (Act.attempt action).OutlastsFrom session := by
  intro extra moment halted
  rw [attempt_session]
  exact inner extra moment (attempt_halted halted)

theorem congr {action other : Act α} {session start : Session}
    (same : ∀ budget, action { session with budget } = other { start with budget })
    (keeps : session.KeepsOwners start)
    (outlasts : ∀ budget, other.OutlastsFrom { start with budget }) :
    action.OutlastsFrom session := by
  intro extra moment halted
  have short : action session = other { start with budget := session.budget } :=
    same session.budget
  have long : action (session.granted extra) =
      other (({ start with budget := session.budget } : Session).granted extra) :=
    same _
  have begins : session.KeepsOwners { start with budget := session.budget } :=
    keeps.trans (.aside rfl rfl)
  rw [long]
  exact .after begins (outlasts _ extra moment (short ▸ halted))

end Act.OutlastsFrom

namespace Act.Outlasts

theorem pure (value : α) : (Pure.pure value : Act α).Outlasts :=
  ⟨.pure value, .pure value, fun _ _ _ impossible => (nomatch impossible)⟩

theorem raise (signal : Signal) : (Act.raise signal : Act α).Outlasts :=
  ⟨.raise signal, .raise signal, fun _ _ _ impossible => (nomatch impossible)⟩

theorem read {view : Session → α}
    (blind : ∀ session budget, view { session with budget } = view session) :
    (Act.read view).Outlasts :=
  ⟨.read blind, .read view, fun _ _ _ impossible => (nomatch impossible)⟩

theorem update {change : Session → Session}
    (blind : ∀ session budget, change { session with budget } = { change session with budget })
    (becomes : ∀ session : Session, session.Becomes (change session)) :
    (Act.update change).Outlasts :=
  ⟨.update blind, .update becomes, fun _ _ _ impossible => (nomatch impossible)⟩

theorem halt : (Act.halt : Act α).Outlasts := by
  refine ⟨.halt _, fun session => Session.Becomes.refl session, fun session extra moment run => ?_⟩
  cases run
  exact .here (.aside rfl rfl) (.aside rfl rfl)

theorem moment : Act.moment.Outlasts := by
  refine ⟨.moment, .moment, fun session extra moment halted => ?_⟩
  have aside : (Act.moment session).session.executor = session.executor ∧
      (Act.moment session).session.scheduler = session.scheduler := by
    unfold Act.moment
    split <;> exact ⟨rfl, rfl⟩
  have later : (Act.moment (session.granted extra)).session.executor = session.executor ∧
      (Act.moment (session.granted extra)).session.scheduler = session.scheduler := by
    unfold Act.moment
    split <;> exact ⟨rfl, rfl⟩
  rw [halted] at aside
  refine .here (.aside aside.1 aside.2) (.aside ?_ ?_)
  · exact later.1.trans aside.1.symm
  · exact later.2.trans aside.2.symm

theorem bind {first : Act α} {next : α → Act β} (head : first.Outlasts)
    (tail : ∀ value, (next value).Outlasts) : (first >>= next).Outlasts where
  itself := .bind head.itself fun value => (tail value).itself
  becomes := .bind head.becomes fun value => (tail value).becomes
  outlasts session := by
    refine .bind head.itself (head.outlasts session) ?_ ?_
    · exact fun _ value after _ => Session.Becomes.keepsOwners ((tail value).becomes after)
    · intro value after run
      have leads := head.becomes session
      rw [run] at leads
      exact ⟨Session.Becomes.keepsOwners leads, (tail value).outlasts after⟩

theorem attempt {action : Act α} (inner : action.Outlasts) : (Act.attempt action).Outlasts :=
  ⟨.attempt inner.itself, .attempt inner.becomes, fun session => .attempt (inner.outlasts session)⟩

theorem note (event : Event) : (Act.note event).Outlasts := by
  rw [note_eq]
  exact bind (update (fun _ _ => rfl) fun session => .aside rfl rfl) fun _ => moment

theorem register {task : Task} (fresh : task.Fresh) : (Act.register task).Outlasts := by
  rw [register_eq]
  refine bind (read fun _ _ => rfl) fun id => ?_
  refine bind (update (fun _ _ => rfl) fun session => .registered fresh session) fun _ => ?_
  refine bind (read fun _ _ => rfl) fun registered => ?_
  exact bind (note _) fun _ => pure id

theorem modifySite (site : BindingSite) {change : Scope → Scope}
    (keeps : ∀ scope, (change scope).id = scope.id) :
    (Act.update (Session.modifySite site change)).Outlasts :=
  ⟨Act.Extends.changing.modifySite site change, .update fun session => .siteChanged site keeps session,
    fun _ _ _ impossible => (nomatch impossible)⟩

theorem finalize (id : TaskId) : (Act.finalize id).Outlasts :=
  Act.FinalizeClosed.finalize
    { pure := pure ()
      bind := fun head tail => bind head fun _ => tail
      target := fun _ _ tail => bind (read fun _ _ => rfl) tail
      modifySite := fun site _ keeps => modifySite site keeps
      futureSiteGone := fun _ => note _
      receiverSiteGone := fun _ => note _
      scheduler := bind (read fun _ _ => rfl)
      publish := fun _ => update (fun _ _ => rfl) fun session => .published id _ session
      count := fun _ => update (fun _ _ => rfl) fun session => .counting _ session
      finalized := note _ }

theorem callEnding_attributed {scope : Scope} (new : scope.id = none) {session : Session}
    {outcome : Outcome Unit} {owners more : List (Option TaskId)}
    (attributed : session.Attributed owners)
    (leads : outcome.Leaves (session.enteringCall scope))
    (brackets : outcome.Brackets .statement (session.enteringCall scope))
    (inside : outcome.session.Attributed (owners ++ more)) :
    (callEnding session.executor outcome).session.Attributed (owners ++ more) := by
  cases outcome with
  | halted moment => exact inside
  | done value left =>
      exact attributed.returned (Session.Becomes.returned new leads brackets).orders brackets inside
  | raised signal left =>
      have returned := attributed.returned (Session.Becomes.returned new leads brackets).orders
        brackets inside
      cases signal <;> exact returned

theorem callEnding_halted {before : Executor} {outcome : Outcome Unit} {moment : Session}
    (halted : callEnding before outcome = .halted moment) : outcome = .halted moment := by
  cases outcome with
  | halted early =>
      cases halted
      rfl
  | done value left => cases halted
  | raised signal left => cases signal <;> cases halted

def insideCall (before : Executor) (scope : Scope) (body : Act Unit) : Act (Value × Executor) :=
  fun noted => callEnding before (body (noted.enteringCall scope))

theorem calling_apply {session : Session} (name : String) (scope : Scope) (body : Act Unit)
    (shallow : ¬ session.executor.settings.maxCallDepth ≤ session.executor.callDepth) :
    Act.calling name scope body session =
      (do
        Act.note (.called name session.executor.callDepth)
        insideCall session.executor scope body : Act (Value × Executor)) session := by
  unfold Act.calling Act.executor
  rw [bind_apply]
  dsimp only [Act.read]
  rw [if_neg shallow, bind_apply, bind_apply]
  cases Act.note (.called name session.executor.callDepth) session with
  | halted moment => rfl
  | raised signal left => rfl
  | done _ noted =>
      simp only [bind_apply, updateExecutor, Act.update, Act.attempt, insideCall]
      cases run : body (noted.enteringCall scope) with
      | done value left =>
          unfold Session.enteringCall at run
          rw [run]
          rfl
      | raised signal left =>
          unfold Session.enteringCall at run
          rw [run]
          cases signal <;> rfl
      | halted moment =>
          unfold Session.enteringCall at run
          rw [run]
          rfl

theorem insideCall_outlasts {scope : Scope} (new : scope.id = none) {body : Act Unit}
    (inner : body.Outlasts) (brackets : body.Brackets .statement) (noted : Session) :
    noted.KeepsOwners (insideCall noted.executor scope body noted).session ∧
      (insideCall noted.executor scope body).OutlastsFrom noted := by
  let start := noted.enteringCall scope
  have ends {owners more : List (Option TaskId)} (extra : Option Nat)
      (attributed : noted.Attributed owners)
      (left : (body (start.granted extra)).session.Attributed (owners ++ more)) :
      (insideCall noted.executor scope body (noted.granted extra)).session.Attributed
        (owners ++ more) := by
    have granted : (noted.granted extra).Attributed owners :=
      attributed.undisturbed (.ofScopes rfl rfl rfl) (.ofScheduler rfl rfl rfl)
    have ended := @callEnding_attributed scope new (noted.granted extra)
      (body (start.granted extra)) owners more granted (inner.becomes _) (brackets _) left
    exact ended
  constructor
  · intro owners attributed
    obtain ⟨more, left⟩ := (Session.KeepsOwners.called new noted).trans
      (Session.Becomes.keepsOwners (inner.becomes start)) owners attributed
    rw [← Session.granted_zero start] at left
    have ended := ends (some 0) attributed left
    rw [Session.granted_zero] at ended
    exact ⟨more, ended⟩
  · intro extra moment halted owners attributed
    have cut : body start = .halted moment := callEnding_halted halted
    have whole : noted.Outlasts moment (body (start.granted extra)).session :=
      .after (.called new noted) (inner.outlasts start extra moment cut)
    obtain ⟨more, rest, reached, left⟩ := whole owners attributed
    rw [List.append_assoc] at left
    have ended := ends extra attributed left
    rw [← List.append_assoc] at ended
    exact ⟨more, rest, reached, ended⟩

theorem calling (name : String) {scope : Scope} (new : scope.id = none) {body : Act Unit}
    (inner : body.Outlasts) (brackets : body.Brackets .statement) :
    (Act.calling name scope body).Outlasts where
  itself := Act.Extends.changing.calling name scope inner.itself
  becomes := .calling name new inner.becomes brackets
  outlasts session := by
    let called : Event := .called name session.executor.callDepth
    by_cases deep : session.executor.settings.maxCallDepth ≤ session.executor.callDepth
    · intro extra moment halted
      unfold Act.calling Act.executor at halted
      rw [bind_apply] at halted
      dsimp only [Act.read] at halted
      rw [if_pos deep] at halted
      cases halted
    · have inside {budget : Option Nat} {noted : Session}
          (ran : Act.note called { session with budget } = .done () noted) :
          noted.executor = session.executor :=
        (noted_of_done ran).executor
      have form (budget : Option Nat) : Act.calling name scope body { session with budget } =
          (do
            Act.note called
            insideCall session.executor scope body : Act (Value × Executor))
            { session with budget } :=
        calling_apply name scope body deep
      refine .congr form (.aside rfl rfl) fun budget => ?_
      refine .bind (note called).itself ((note called).outlasts _) ?_ ?_
      · intro extra _ noted ran
        rw [← inside ran]
        exact (insideCall_outlasts new inner brackets noted).1
      · intro _ noted ran
        have leads := (note called).becomes { session with budget }
        rw [ran] at leads
        refine ⟨Session.Becomes.keepsOwners leads, ?_⟩
        rw [← inside ran]
        exact (insideCall_outlasts new inner brackets noted).2

theorem awaiting (id : TaskId) {drive : Act Unit} (inner : drive.Outlasts) :
    (Act.awaiting id drive).Outlasts := by
  have mark (waiter : TaskId) (awaited : Option TaskId) :
      (Act.updateScheduler (Scheduler.modifyTask waiter fun task =>
        { task with waitingFor := awaited })).Outlasts :=
    update (fun _ _ => rfl) fun session => .awaitedBy (some waiter) awaited session
  have ends (current : Option TaskId) (outcome : Except Signal Unit) : Act.Outlasts (do
      Act.note (.awaitEnded id current)
      Act.ofAttempt outcome : Act Unit) := by
    refine bind (note _) fun _ => ?_
    cases outcome with
    | ok value => exact pure value
    | error signal => exact raise signal
  refine bind (read fun _ _ => rfl) fun executor => ?_
  refine bind (note _) fun _ => ?_
  cases executor.currentTask with
  | none => exact bind (attempt inner) (ends none)
  | some waiter =>
      refine bind (mark waiter (some id)) fun _ => ?_
      refine bind (attempt inner) fun outcome => ?_
      exact bind (mark waiter none) fun _ => ends (some waiter) outcome

end Act.Outlasts

/-! ### Steps and turns -/

theorem stepEnding_attributed {id : TaskId} {task : Task} {session : Session}
    {outcome : Outcome Unit} {owners more : List (Option TaskId)}
    (entering : session.Entering id task) (attributed : session.Attributed owners)
    (leads : outcome.Leaves (session.enteringTask id task))
    (brackets : outcome.Brackets .statement (session.enteringTask id task))
    (inside : outcome.session.Attributed (owners ++ more)) :
    (Interpreter.stepEnding id task session.executor outcome).session.Attributed
      (owners ++ more) := by
  have settled {left : Session} (leads : (session.enteringTask id task).Becomes left)
      (kept : (session.enteringTask id task).Kept .statement left)
      (inside : left.Attributed (owners ++ more)) {change : Task → Task}
      (spares : Task.Spares change) (scope : ∀ current, (change current).scope =
        some ((StepFrame.enter id task session.executor).1.scopeIn left.executor)) :
      ((left.leavingTask id task session.executor).onTask id change).Attributed
        (owners ++ more) := by
    refine attributed.stepped (Session.Becomes.settled entering leads kept spares scope).orders kept
      rfl rfl ?_ (fun _ => Session.settled_own kept scope) inside
    exact fun other different => Scheduler.task?_modifyTask_of_ne different _ _
  -- Finishing the task afterwards touches no scope.
  have completed {left : Session} (kept : (session.enteringTask id task).Kept .statement left)
      {change : Task → Task} (payload : Value)
      (rests : ((left.leavingTask id task session.executor).onTask id change).Attributed
        (owners ++ more)) :
      (((left.leavingTask id task session.executor).onTask id change).onTask id
        (Task.complete payload)).Attributed (owners ++ more) := by
    have idle : id ∉ (left.leavingTask id task session.executor).scheduler.active := by
      rw [(Session.Kept.leavingTask kept).active]
      exact entering.idle
    have leads := Session.Becomes.completed id payload
      ((left.leavingTask id task session.executor).onTask id change) idle
    refine rests.undisturbed leads.orders (.onTask ?_ id _)
    exact fun _ _ held => held
  cases outcome with
  | halted moment => exact inside
  | done value left =>
      unfold Interpreter.stepEnding
      dsimp only
      split
      · exact completed brackets .void
          (settled leads brackets inside (fun _ => ⟨rfl, rfl⟩) fun _ => rfl)
      · exact settled leads brackets inside (fun _ => ⟨rfl, rfl⟩) fun _ => rfl
  | raised signal left =>
      have faulted : (left.leavingTask id task session.executor).Attributed (owners ++ more) := by
        refine attributed.stepped (Session.Becomes.faulted entering leads brackets).orders brackets
          rfl rfl (fun _ _ => rfl) (fun _ => ?_) inside
        exact entering.faulted_own (leads.orders.saved _ List.mem_cons_self) brackets
      cases signal with
      | suspend fromLoop => exact settled leads brackets inside (fun _ => ⟨rfl, rfl⟩) fun _ => rfl
      | returning value =>
          exact completed brackets value
            (settled leads brackets inside (fun _ => ⟨rfl, rfl⟩) fun _ => rfl)
      | breakLoop => exact faulted
      | continueLoop => exact faulted
      | fault cause => exact faulted

theorem Interpreter.cycle_running (interpreter : Interpreter) {id : TaskId} {rest : List TaskId}
    {session : Session} (ids : session.scheduler.queue.ids = id :: rest)
    (running : id ∈ session.scheduler.active) :
    ∃ queue, (interpreter.cycle session).session.scheduler = { session.scheduler with queue } ∧
      (interpreter.cycle session).session.executor = session.executor := by
  have taken {other : TaskId} {remaining : Scheduler}
      (front : session.scheduler.dequeue? = some (other, remaining)) :
      remaining = { session.scheduler with queue := ⟨rest⟩ } ∧ remaining.isActive other = true := by
    obtain ⟨others, same, rfl⟩ := Scheduler.dequeue?_eq_some front
    rw [ids] at same
    cases same
    exact ⟨rfl, decide_eq_true running⟩
  have impossible {other : TaskId} {remaining : Scheduler} {goal : Prop}
      (front : session.scheduler.dequeue? = some (other, remaining))
      (idle : remaining.isActive other = false) : goal := by
    rw [(taken front).2] at idle
    cases idle
  refine interpreter.cycle_elim (motive := fun outcome => ∃ queue,
    outcome.session.scheduler = { session.scheduler with queue } ∧
      outcome.session.executor = session.executor) ?_ ?_ ?_ ?_ ?_ ?_ ?_
  · intro _
    exact ⟨session.scheduler.queue, rfl, rfl⟩
  · intro other remaining front moment noted
    refine ⟨⟨rest⟩, ?_, noted.executor⟩
    rw [Outcome.session, noted.scheduler, (taken front).1]
  · intro other remaining front _ popped noted after back
    have whole : ∃ queue, after.scheduler = { session.scheduler with queue } ∧
        after.executor = session.executor := by
      refine ⟨popped.scheduler.queue.push other, ?_, back.executor.trans noted.executor⟩
      rw [back.scheduler]
      change popped.scheduler.enqueue other = _
      rw [noted.scheduler, (taken front).1]
      rfl
    exact ⟨whole, whole, whole⟩
  · exact fun _ _ front idle => impossible front idle
  · exact fun _ _ front idle => impossible front idle
  · exact fun _ _ front idle => impossible front idle
  · exact fun _ _ front idle => impossible front idle

section Turns

variable {interpreter : Interpreter}
  (exec : ∀ path statement, (interpreter.exec path statement).Outlasts)
  (brackets : ∀ path statement, (interpreter.exec path statement).Brackets .statement)

include exec brackets

theorem stepping_outlasts {id : TaskId} {task : Task} (statement : Stmt) {session : Session}
    (entering : session.Entering id task) :
    (interpreter.stepping id task statement).OutlastsFrom session := by
  intro extra moment halted owners attributed
  let start := session.enteringTask id task
  have cut := interpreter.stepping_halted halted
  obtain ⟨more, rest, reached, left⟩ := Session.Outlasts.after
    (Session.KeepsOwners.entered entering) ((exec _ statement).outlasts start extra moment cut)
    owners attributed
  have granted : (session.granted extra).Attributed owners :=
    attributed.undisturbed (.ofScopes rfl rfl rfl) (.ofScheduler rfl rfl rfl)
  have enters : (session.granted extra).Entering id task := ⟨entering.idle, entering.found⟩
  rw [List.append_assoc] at left
  have leads := (exec [.item task.counter] statement).becomes (start.granted extra)
  have kept := brackets [.item task.counter] statement (start.granted extra)
  have ended := stepEnding_attributed enters granted leads kept left
  rw [← List.append_assoc] at ended
  exact ⟨more, rest, reached, ended⟩

/-- A step goes on as it did before, up to the moment at which its statement is announced, and then
as the statement does. -/
theorem step_outlasts {id : TaskId} {session : Session} (idle : id ∉ session.scheduler.active) :
    (interpreter.step id).OutlastsFrom session := by
  have becomes (path : Path) (statement : Stmt) := (exec path statement).becomes
  -- Only an unfinished task has anything recorded by its step.
  by_cases lives : session.scheduler.Unfinished id
  · -- With no moments left the step is halted where it first records anything.
    have cut {start : Session} {event : Event} {next : Act StepStatus}
        (same : interpreter.step id { session with budget := some 0 } =
          (do
            Act.note event
            next : Act StepStatus) { start with budget := some 0 }) :
        session.KeepsOwners start := by
      have stepped : (interpreter.step id { session with budget := some 0 }).Leaves
          { session with budget := some 0 } := step_becomes becomes brackets idle
      have halted : (do
          Act.note event
          next : Act StepStatus) { start with budget := some 0 } =
            .halted (({ start with budget := some 0 } : Session).recorded event) := rfl
      rw [same, halted] at stepped
      have begins : session.KeepsOwners { session with budget := some 0 } := .aside rfl rfl
      exact (begins.trans (Session.Becomes.keepsOwners stepped)).trans (.aside rfl rfl)
    cases interpreter.step_form id session with
    | told status start silent ends same =>
        intro extra moment halted
        rw [show interpreter.step id session = _ from same session.budget] at halted
        cases halted
    | noted status start event aside same =>
        refine .congr same (cut (same (some 0))) fun budget => ?_
        exact (Act.Outlasts.bind (.note event) fun _ => .pure status).outlasts _
    | runs task statement start event aside inPlace found same =>
        have enters {noted : Session} (executes : noted.scheduler = start.scheduler) :
            noted.Entering id task := by
          constructor
          · rw [executes, inPlace.active]
            exact idle
          · obtain ⟨current, known, unfinished⟩ := (inPlace.unfinished id).mpr lives
            rw [found] at known
            cases known
            exact ⟨Interpreter.stepCounted task, executes ▸ found, rfl, unfinished⟩
        refine .congr same (cut (same (some 0))) fun budget => ?_
        refine .bind (Act.Outlasts.note event).itself ((Act.Outlasts.note event).outlasts _) ?_ ?_
        · intro extra _ after ran
          exact Session.Becomes.keepsOwners
            (stepping_becomes becomes brackets statement (enters (Act.noted_of_done ran).scheduler))
        · intro _ after ran
          exact ⟨.aside (Act.noted_of_done ran).executor (Act.noted_of_done ran).scheduler,
            stepping_outlasts exec brackets statement (enters (Act.noted_of_done ran).scheduler)⟩
  · intro extra moment
    refine interpreter.step_elim (motive := fun outcome => outcome = .halted moment → _) ?_ ?_ ?_ ?_
    · intro _ impossible
      cases impossible
    · intro task found unfinished
      exact absurd ⟨task, found, unfinished⟩ lives
    · intro task found unfinished
      exact absurd ⟨task, found, unfinished⟩ lives
    · intro task found unfinished
      exact absurd ⟨task, found, unfinished⟩ lives

omit exec brackets in
theorem afterStep_outlasts (id : TaskId) (status : StepStatus) :
    (Interpreter.afterStep id status).Outlasts := by
  have requeue : (Interpreter.requeue id).Outlasts :=
    .bind (.update (fun _ _ => rfl) fun session =>
      .queued _ session.scheduler.statistics session) fun _ => .note _
  cases status with
  | done => exact .bind (.finalize id) fun _ => .pure _
  | pending => exact .bind requeue fun _ => .pure _
  | blocked => exact .bind requeue fun _ => .pure _

theorem stepped_outlasts {id : TaskId} {session : Session} (idle : id ∉ session.scheduler.active) :
    session.KeepsOwners ((interpreter.step id >>= Interpreter.afterStep id) session).session ∧
      (interpreter.step id >>= Interpreter.afterStep id).OutlastsFrom session := by
  have leads : (interpreter.step id session).Leaves session :=
    step_becomes (fun path statement => (exec path statement).becomes) brackets idle
  have ends (status : StepStatus) (after : Session) :
      after.KeepsOwners (Interpreter.afterStep id status after).session :=
    Session.Becomes.keepsOwners ((afterStep_outlasts id status).becomes after)
  have keeps {status : StepStatus} {after : Session}
      (ran : interpreter.step id session = .done status after) : session.KeepsOwners after := by
    rw [ran] at leads
    exact Session.Becomes.keepsOwners leads
  constructor
  · exact Act.bind_session (Session.Becomes.keepsOwners leads) fun status after _ keeps =>
      keeps.trans (ends status after)
  · refine .bind (Act.Extends.changing.step (fun path statement => (exec path statement).itself) id)
      (step_outlasts exec brackets idle) ?_ ?_
    · exact fun _ status after _ => ends status after
    · exact fun status after ran => ⟨keeps ran, (afterStep_outlasts id status).outlasts after⟩

theorem cycle_outlasts : interpreter.cycle.Outlasts where
  itself := Act.Extends.changing.cycle fun path statement => (exec path statement).itself
  becomes := cycle_becomes (fun path statement => (exec path statement).becomes) brackets
  outlasts session := by
    cases ids : session.scheduler.queue.ids with
    | nil =>
        intro extra moment halted
        rw [interpreter.cycle_empty ids] at halted
        cases halted
    | cons id rest =>
        by_cases running : id ∈ session.scheduler.active
        · intro extra moment halted
          obtain ⟨queue, scheduler, executor⟩ := interpreter.cycle_running ids running
          obtain ⟨last, scheduler', executor'⟩ :=
            @Interpreter.cycle_running interpreter id rest (session.granted extra) ids running
          rw [halted] at scheduler executor
          have moved {before after : Session} (same : after.executor = before.executor)
              (queue : ReadyQueue) (scheduler : after.scheduler = { before.scheduler with queue }) :
              before.KeepsOwners after := by
            apply Session.Becomes.keepsOwners
            exact .trans (.queued queue before.scheduler.statistics before) (.aside same scheduler)
          refine .here (moved executor queue scheduler) (moved ?_ last ?_)
          · exact executor'.trans executor.symm
          · rw [scheduler', show moment.scheduler = _ from scheduler]
            rfl
        · have begins : session.KeepsOwners (session.taking rest) := by
            apply Session.Becomes.keepsOwners
            exact .queued ⟨rest⟩ session.scheduler.statistics session
          have form (budget : Option Nat) := @Interpreter.cycle_taking interpreter
            { session with budget } id rest ids running
          have idle {budget : Option Nat} {after : Session}
              (ran : Act.note (.dequeued id) { session.taking rest with budget } = .done () after) :
              id ∉ after.scheduler.active := by
            rw [(Act.noted_of_done ran).scheduler]
            exact running
          refine .congr form begins fun budget => ?_
          refine .bind (Act.Outlasts.note _).itself ((Act.Outlasts.note _).outlasts _) ?_ ?_
          · exact fun extra _ after ran => (stepped_outlasts exec brackets (idle ran)).1
          · exact fun _ after ran =>
              ⟨.aside (Act.noted_of_done ran).executor (Act.noted_of_done ran).scheduler,
                (stepped_outlasts exec brackets (idle ran)).2⟩

end Turns

/-- Wherever an action is halted, the owners of the scopes outlast that moment. -/
theorem Deepens.outlasts {layer : Layer} {shallow deep : Act α}
    (deepens : Deepens layer shallow deep) : deep.Outlasts := by
  induction deepens with
  | halt => exact .halt
  | cut _ whole => exact whole
  | pure value => exact .pure value
  | fail cause => exact .raise _
  | raise signal => exact .raise signal
  | moment => exact .moment
  | read blind => exact .read blind
  | move moves => exact .update moves.blind moves.becomes
  | positions change =>
      exact .update (fun _ _ => rfl) fun session => .shown _ session.executor.output session
  | register fresh => exact .register fresh
  | finalize id => exact .finalize id
  | bind _ _ head tail => exact .bind head tail
  | attempt _ _ _ inner tail => exact .bind (.attempt inner) tail
  | lift _ inner => exact inner
  | calling name new body inner => exact .calling name new inner body.right.brackets
  | awaiting id _ inner => exact .awaiting id inner
  | cycle exec inner =>
      exact cycle_outlasts inner fun path statement => (exec path statement).brackets

/-! ### Errands -/

section Errands

variable (depth : Nat)

theorem loading_outlasts (program : Program) : (Act.load program).Outlasts := by
  refine .bind (.update (fun _ _ => rfl) fun session => ?_) fun _ =>
    .bind (.read fun _ _ => rfl) fun _ => .note _
  rw [Executor.load_eq]
  exact .declared _ _ session

theorem Session.KeepsOwners.redirected (id : TaskId) (site : BindingSite) (session : Session) :
    session.KeepsOwners
      { session with scheduler := session.scheduler.bindReceiver id site } := by
  refine .undisturbed (.onTask ?_ ?_ id session) (.onTask ?_ id session)
  · exact fun _ => rfl
  · exact fun _ => rfl
  · exact fun _ _ held => held

theorem undertake_extends (errand : Errand) :
    Act.Extends ((interpreter depth).undertake errand) ((interpreter depth).undertake errand) := by
  have itself := interpreter_deepens (Nat.le_refl depth)
  cases errand with
  | program program =>
      exact .bind (loading_outlasts program).itself fun _ => (itself.related.runLoaded program).extends
  | operation operation =>
      rcases itself.request operation with ⟨program, rfl⟩ | ⟨id, rfl⟩ | ⟨id, site, rfl⟩ | deepens
      · exact (loading_outlasts program).itself
      · have stepped := itself.step_extends id
        exact .bind stepped fun _ => .pure ()
      · exact .update fun _ _ => rfl
      · exact deepens.extends

theorem undertake_outlasts (errand : Errand) {session : Session}
    (idle : session.scheduler.active = []) :
    session.KeepsOwners ((interpreter depth).undertake errand session).session ∧
      ((interpreter depth).undertake errand).OutlastsFrom session := by
  have itself := interpreter_deepens (Nat.le_refl depth)
  have whole {action : Act Unit} (outlasts : action.Outlasts) :
      session.KeepsOwners (action session).session ∧ action.OutlastsFrom session :=
    ⟨Session.Becomes.keepsOwners (outlasts.becomes session), outlasts.outlasts session⟩
  cases errand with
  | program program =>
      exact whole (.bind (loading_outlasts program) fun _ => (itself.related.runLoaded program).outlasts)
  | operation operation =>
      rcases itself.request operation with ⟨program, rfl⟩ | ⟨id, rfl⟩ | ⟨id, site, rfl⟩ | deepens
      · exact whole (loading_outlasts program)
      · have exec (path : Path) (statement : Stmt) := (itself.exec path statement).outlasts
        have brackets (path : Path) (statement : Stmt) := (itself.exec path statement).brackets
        have absent : id ∉ session.scheduler.active := idle ▸ List.not_mem_nil
        have stepped := step_becomes (fun path statement => (exec path statement).becomes)
          brackets absent
        rcases request_becomes idle depth (.step id) with ⟨_, _, impossible⟩ | leads
        · cases impossible
        refine ⟨Session.Becomes.keepsOwners leads, ?_⟩
        refine .bind (Act.Extends.changing.step (fun path statement => (exec path statement).itself) id)
          (step_outlasts exec brackets absent) ?_ ?_
        · exact fun _ _ after _ => .aside rfl rfl
        · intro status after ran
          rw [ran] at stepped
          exact ⟨Session.Becomes.keepsOwners stepped, (Act.Outlasts.pure ()).outlasts after⟩
      · exact ⟨.redirected id site session, fun _ _ impossible => (nomatch impossible)⟩
      · exact whole deepens.outlasts

theorem undertakeAll_outlasts (errands : List Errand) {session : Session}
    (idle : session.scheduler.active = []) :
    session.KeepsOwners ((interpreter depth).undertakeAll errands session).session ∧
      ((interpreter depth).undertakeAll errands).OutlastsFrom session := by
  induction errands generalizing session with
  | nil => exact ⟨.aside rfl rfl, (Act.Outlasts.pure ()).outlasts session⟩
  | cons errand rest ih =>
      have attempted {start after : Session} {outcome : Except Signal Unit}
          (begins : start.scheduler.active = [])
          (ran : Act.attempt ((interpreter depth).undertake errand) start = .done outcome after) :
          start.KeepsOwners after ∧ after.scheduler.active = [] := by
        have keeps := (undertake_outlasts depth errand begins).1
        rw [← Act.attempt_session, ran] at keeps
        have kept := Act.Brackets.attempt (undertake_brackets depth errand) start
        rw [ran] at kept
        exact ⟨keeps, (Session.Kept.active kept).trans begins⟩
      obtain ⟨keeps, outlasts⟩ := undertake_outlasts depth errand idle
      constructor
      · rw [← Act.attempt_session] at keeps
        exact Act.bind_session keeps fun _ _ ran kept => kept.trans (ih (attempted idle ran).2).1
      · refine .bind (.attempt (undertake_extends depth errand)) (.attempt outlasts) ?_ ?_
        · intro extra outcome after ran
          have begins : (session.granted extra).scheduler.active = [] := idle
          exact (ih (attempted begins ran).2).1
        · intro outcome after ran
          obtain ⟨earlier, ends⟩ := attempted idle ran
          exact ⟨earlier, (ih ends).2⟩

theorem undertakeAll_extends (errands : List Errand) :
    Act.Extends ((interpreter depth).undertakeAll errands)
      ((interpreter depth).undertakeAll errands) := by
  induction errands with
  | nil => exact .pure ()
  | cons errand rest ih => exact .bind (.attempt (undertake_extends depth errand)) fun _ => ih

/-- Errands that were halted are gone on with when the session is granted more moments, and others
follow. -/
theorem undertakeAll_goesOn (earlier more : List Errand) {session : Session}
    (idle : session.scheduler.active = []) (extra : Option Nat) :
    session.Outlasts ((interpreter depth).undertakeAll earlier session).session
      ((interpreter depth).undertakeAll (earlier ++ more) (session.granted extra)).session := by
  have longer := (undertakeAll_extends depth earlier).outcome extra session
  have follows {extra : Option Nat} {after : Session}
      (ran : (interpreter depth).undertakeAll earlier (session.granted extra) = .done () after) :
      after.KeepsOwners ((interpreter depth).undertakeAll more after).session := by
    have kept := undertakeAll_brackets depth earlier (session.granted extra)
    rw [ran] at kept
    exact (undertakeAll_outlasts depth more ((Session.Kept.active kept).trans idle)).1
  obtain ⟨keeps, outlasts⟩ := undertakeAll_outlasts depth earlier idle
  rw [Interpreter.undertakeAll_append, Act.bind_apply]
  cases run : (interpreter depth).undertakeAll earlier session with
  | done _ after =>
      rw [run] at longer keeps
      rw [longer.ofDone]
      exact .here keeps ((after.granted_keepsOwners extra).trans (follows longer.ofDone))
  | raised signal after =>
      rw [run] at longer keeps
      rw [longer.ofRaised]
      exact .here keeps (after.granted_keepsOwners extra)
  | halted moment =>
      have outlasted := outlasts extra moment run
      cases on : (interpreter depth).undertakeAll earlier (session.granted extra) with
      | done _ between =>
          rw [on] at outlasted
          exact outlasted.goesOn (follows on)
      | raised signal between =>
          rw [on] at outlasted
          exact outlasted
      | halted between =>
          rw [on] at outlasted
          exact outlasted

end Errands

/-! ### Whole executions -/

theorem Session.attributed_start (settings : Settings) (clock : Clock) (budget : Option Nat) :
    { Session.start settings 0 with clock, budget }.Attributed [none] where
  orderly := by
    have orders : (Session.start settings 0).Orders
        { Session.start settings 0 with clock, budget } := .ofScopes rfl rfl rfl
    exact orders.orderly (Session.Reachable.start settings 0).orderly
  count := rfl
  saved _ _ held := nomatch held
  running := rfl

/-- The scopes of the session can be read with some owners. -/
def Session.Attributable (session : Session) : Prop :=
  ∃ owners, session.Attributed owners

theorem Session.Reachable.attributable {session : Session} (reachable : session.Reachable) :
    session.Attributable := by
  have keeps {before after : Session} (keepsOwners : before.KeepsOwners after) :
      before.Attributable → after.Attributable := by
    intro ⟨owners, attributed⟩
    obtain ⟨more, reached⟩ := keepsOwners owners attributed
    exact ⟨owners ++ more, reached⟩
  refine holds ?_ ?_ ?_ reachable
  · exact fun settings tick => ⟨[none], Session.attributed_start settings { tick } none⟩
  · exact fun _ _ becomes => keeps becomes.keepsOwners
  · exact fun session id site => keeps (.redirected id site session)

/-- The identities of scopes are unique, whatever has been asked for and however much of it has been
done, faults and steps within steps included. What they say of whom a scope belongs to is never
unsaid: of any two moments, the later one knows the owners that the earlier one knew. -/
theorem scopes_keep_their_owners :
    (∀ session : Session, session.Reachable → ∃ owners, session.ScopesApart owners) ∧
      ∀ (depth : Nat) (settings : Settings) (clock : Clock) (budget extra : Option Nat)
        (earlier more : List Errand),
        let start : Session := { Session.start settings 0 with clock, budget }
        let moment := ((interpreter depth).undertakeAll earlier start).session
        let late :=
          ((interpreter depth).undertakeAll (earlier ++ more) (start.granted extra)).session
        ∃ owners rest, moment.ScopesApart owners ∧ late.ScopesApart (owners ++ rest) := by
  constructor
  · intro session reachable
    obtain ⟨owners, attributed⟩ := reachable.attributable
    exact ⟨owners, attributed.scopesApart⟩
  · intro depth settings clock budget extra earlier more
    have start := Session.attributed_start settings clock budget
    -- The later run repeats the earlier one up to its moment and goes on from there.
    obtain ⟨owners, rest, reached, last⟩ := undertakeAll_goesOn depth earlier more rfl extra _ start
    exact ⟨_, rest, reached.scopesApart, last.scopesApart⟩

def lingering : FunctionDecl where
  name := "linger"
  params := []
  body := [.yield, .yield]
  isAsync := true
  owner := none

def putAside : Session :=
  let spawned := ((interpreter 0).request (.spawn lingering []) (.start {} 0)).session
  ((interpreter 6).request (.step ⟨0⟩) spawned).session

theorem scopes_keep_their_owners_putAside :
    putAside.Reachable ∧ putAside.scheduler.savedId? ⟨0⟩ = some ⟨1⟩ ∧
      ∃ owners, putAside.ScopesApart owners := by
  have reachable : putAside.Reachable :=
    ((Session.Reachable.start {} 0).requested rfl 0 (.spawn lingering [])).requested rfl 6
      (.step ⟨0⟩)
  exact ⟨reachable, by decide, scopes_keep_their_owners.1 putAside reachable⟩

end CooperativeTasks
