import CooperativeTasks.Proofs.Awaiting
import CooperativeTasks.Proofs.Bracketing
import CooperativeTasks.Proofs.Moments
import CooperativeTasks.Proofs.StepForms

set_option autoImplicit false

/-! Faults on their way out.

A fault that is raised in the step of a task ends that step, then the step inside which the turn of
that task was given, and so on, until nothing runs. On its way it is passed on as it is. No turn
that it ends puts its task back into the queue, and no other task is touched. -/

namespace CooperativeTasks

variable {α β σ : Type}

/-! ### Turns that fail -/

/-- A turn of the task begins, and its step is going to end in the fault. -/
structure Session.Failing (cause : Fault) (id : TaskId) (moment : Session) : Prop where
  taken : moment.journal.head? = some (.dequeued id)
  unqueued : id ∉ moment.scheduler.queue.ids
  idle : id ∉ moment.scheduler.active
  fails : ∃ depth after,
    (interpreter depth).step id (moment.granted none) = .raised (.fault cause) after

/-- No turn begins here. -/
def Session.Quiet (session : Session) : Prop :=
  ∀ id, session.journal.head? = some (.dequeued id) → session.scheduler.Unfinished id →
    id ∈ session.scheduler.queue.ids

theorem Session.Failing.unfinished {cause : Fault} {id : TaskId} {moment : Session}
    (failing : moment.Failing cause id) : moment.scheduler.Unfinished id := by
  obtain ⟨depth, after, raised⟩ := failing.fails
  rw [← Session.granted_scheduler none moment]
  revert raised
  refine (interpreter depth).step_elim (motive := fun outcome =>
    outcome = .raised (.fault cause) after → (moment.granted none).scheduler.Unfinished id) ?_ ?_ ?_ ?_
  · intro _ impossible
    cases impossible
  · intro task found unfinished _ _ _ after _
    exact ⟨nofun, nofun⟩
  · intro task found unfinished _ _
    exact ⟨task, found, unfinished⟩
  · intro task found unfinished _ _ _ _
    exact ⟨task, found, unfinished⟩

namespace Session.Quiet

theorem not_failing {session : Session} (quiet : session.Quiet) {cause : Fault} {id : TaskId} :
    ¬ session.Failing cause id :=
  fun failing => failing.unqueued (quiet id failing.taken failing.unfinished)

theorem ofHead {session : Session} {event : Event} {earlier : List Event}
    (head : session.journal = event :: earlier) (other : ∀ id, event ≠ .dequeued id) :
    session.Quiet := by
  intro id taken
  rw [head, List.head?_cons, Option.some.injEq] at taken
  exact absurd taken (other id)

theorem still {before after : Session} (quiet : before.Quiet)
    (journal : after.journal = before.journal)
    (queue : after.scheduler.queue = before.scheduler.queue)
    (unfinished : ∀ id, after.scheduler.Unfinished id → before.scheduler.Unfinished id) :
    after.Quiet := by
  intro id taken lives
  rw [journal] at taken
  rw [queue]
  exact quiet id taken (unfinished id lives)

theorem inPlace {before after : Session} (quiet : before.Quiet)
    (journal : after.journal = before.journal)
    (same : before.scheduler.InPlace after.scheduler) : after.Quiet :=
  quiet.still journal same.queue fun id => (same.unfinished id).mp

end Session.Quiet

/-- Code in which no turn begins. -/
def Act.Hushed (action : Act α) : Prop :=
  ∀ session : Session, session.Quiet → (action session).session.Quiet

namespace Act.Hushed

theorem pure (value : α) : (Pure.pure value : Act α).Hushed :=
  fun _ quiet => quiet

theorem raise (signal : Signal) : (Act.raise signal : Act α).Hushed :=
  fun _ quiet => quiet

theorem read (view : Session → α) : (Act.read view).Hushed :=
  fun _ quiet => quiet

theorem update {change : Session → Session}
    (journal : ∀ session, (change session).journal = session.journal)
    (inPlace : ∀ session : Session, session.scheduler.InPlace (change session).scheduler) :
    (Act.update change).Hushed :=
  fun session quiet => quiet.inPlace (journal session) (inPlace session)

theorem moment : Act.moment.Hushed := by
  intro session quiet
  unfold Act.moment
  split <;> exact quiet

theorem note {event : Event} (other : ∀ id, event ≠ .dequeued id) : (Act.note event).Hushed := by
  intro session _
  refine Act.note_elim (motive := fun outcome => outcome.session.Quiet) ?_ ?_
  · intro after noted
    exact .ofHead noted.journal other
  · intro after noted
    exact .ofHead noted.journal other

theorem bind {first : Act α} {next : α → Act β} (head : first.Hushed)
    (tail : ∀ value, (next value).Hushed) : (first >>= next).Hushed := by
  intro session quiet
  have start := head session quiet
  refine Act.bind_elim (motive := fun outcome => outcome.session.Quiet) ?_ ?_ ?_
  · intro value after run
    rw [run] at start
    exact tail value after start
  · intro signal after run
    rw [run] at start
    exact start
  · intro moment run
    rw [run] at start
    exact start

theorem move {change : Session → Session} (moves : Move change) : (Act.update change).Hushed := by
  intro session quiet
  have same : session.scheduler.InPlace (change session).scheduler := .ofAlike (moves.alike session)
  cases moves with
  | record event aside =>
      refine .ofHead rfl ?_
      rintro id rfl
      cases aside
  | _ => exact quiet.inPlace rfl same

theorem register (task : Task) : (Act.register task).Hushed := by
  intro session _
  refine Act.register_elim (motive := fun outcome => outcome.session.Quiet)
    fun autoYield after noted => ?_
  have quiet : after.Quiet := .ofHead noted.journal nofun
  exact ⟨quiet, quiet⟩

theorem modifySite {change : Scope → Scope} (keeps : ∀ scope, (change scope).id = scope.id)
    (site : BindingSite) : (Act.update (Session.modifySite site change)).Hushed := by
  refine update (fun session => ?_) fun session =>
    .ofAlike (.ofPublished (.modifySite keeps site session))
  unfold Session.modifySite
  split
  · rfl
  · split <;> rfl

theorem finalize (id : TaskId) : (Act.finalize id).Hushed :=
  Act.FinalizeClosed.finalize
    { pure := pure ()
      bind := fun head tail => bind head fun _ => tail
      target := fun _ _ tail => bind (read _) tail
      modifySite := fun site _ keeps => modifySite keeps site
      futureSiteGone := fun _ => note nofun
      receiverSiteGone := fun _ => note nofun
      scheduler := bind (read _)
      publish := fun _ => update (fun _ => rfl) fun session =>
        Scheduler.InPlace.modifyTask (by exact fun _ => rfl) id session.scheduler
      count := fun _ => update (fun _ => rfl) fun _ => ⟨rfl, rfl, rfl, rfl, fun _ => Iff.rfl⟩
      finalized := note nofun }

end Act.Hushed

/-! ### What a run that ends in a fault has passed through -/

/-- The fault that a run has ended in. -/
def Outcome.fault? : Outcome α → Option Fault
  | .raised (.fault cause) _ => some cause
  | _ => none

/-- The tasks whose steps a fault has ended on its way out of a run, innermost first, over the
stack at the bottom: those are the turns of the run that fail, and they all fail in that fault. -/
structure Act.Unwinds (action : Act α) (session : Session) (bottom above : List TaskId) : Prop where
  given : ∀ id below, id :: below <:+ above → ∃ cause moment,
    (action session).fault? = some cause ∧ action.Visits session moment ∧
      moment.scheduler.active = below ++ bottom ∧ moment.Failing cause id
  only : ∀ id cause moment, action.Visits session moment → moment.Failing cause id →
    (action session).fault? = some cause ∧
      ∃ below, id :: below <:+ above ∧ moment.scheduler.active = below ++ bottom
  lost : ∀ cause, (action session).fault? = some cause → (action session).session.Quiet ∧
    { (action session).session.scheduler with active := above ++ bottom }.Accounted True none

namespace Act.Unwinds

theorem calm {action : Act α} {session : Session} {bottom above : List TaskId}
    (unwinds : action.Unwinds session bottom above) (faultless : (action session).fault? = none) :
    above = [] := by
  cases above with
  | nil => rfl
  | cons id below =>
      obtain ⟨cause, _, fault, _⟩ := unwinds.given id below List.suffix_rfl
      rw [faultless] at fault
      cases fault

theorem after {action : Act α} {rest : Act α} {session between : Session}
    {bottom above : List TaskId} (unwinds : rest.Unwinds between bottom above)
    (whole : action session = rest between)
    (fails : ∀ id cause moment, action.Visits session moment → moment.Failing cause id →
      rest.Visits between moment)
    (visits : ∀ moment, rest.Visits between moment → action.Visits session moment) :
    action.Unwinds session bottom above := by
  refine ⟨?_, ?_, ?_⟩
  · intro id below under
    obtain ⟨cause, moment, fault, visited, placed⟩ := unwinds.given id below under
    rw [whole]
    exact ⟨cause, moment, fault, visits moment visited, placed⟩
  · intro id cause moment visited failing
    rw [whole]
    exact unwinds.only id cause moment (fails id cause moment visited failing) failing
  · rw [whole]
    exact unwinds.lost

theorem hushed {action : Act α} {session : Session} (bottom : List TaskId)
    (quiet : ∀ moment, action.Visits session moment → moment.Quiet)
    (lost : ∀ cause, (action session).fault? = some cause → (action session).session.Quiet ∧
      { (action session).session.scheduler with active := bottom }.Accounted True none) :
    action.Unwinds session bottom [] where
  given _ _ impossible := nomatch List.suffix_nil.mp impossible
  only _ _ moment visits failing := ((quiet moment visits).not_failing failing).elim
  lost := lost

theorem clear {action : Act α} {session : Session} (bottom : List TaskId)
    (faultless : (action session).fault? = none)
    (calm : ∀ id cause moment, action.Visits session moment → ¬ moment.Failing cause id) :
    action.Unwinds session bottom [] where
  given _ _ impossible := nomatch List.suffix_nil.mp impossible
  only id cause moment visited failing := absurd failing (calm id cause moment visited)
  lost _ fault := nomatch faultless.symm.trans fault

end Act.Unwinds

/-- The run is not limited, no turn begins, and all tasks are in their places. -/
structure Session.Poised (session : Session) : Prop where
  unlimited : session.budget = none
  quiet : session.Quiet
  accounted : session.scheduler.Accounted True none

/-- The run is not limited, and the turn of the task begins: it has been taken out of the queue, and
all other tasks are in their places. -/
structure Session.TurnBegins (id : TaskId) (session : Session) : Prop where
  unlimited : session.budget = none
  taken : session.journal.head? = some (.dequeued id)
  accounted : session.scheduler.Accounted True (some id)
  lives : session.scheduler.Unfinished id

/-- Code that a fault leaves as it should: the tasks whose steps it has ended are missing from the
queue, and nothing else is. Unless it may have faults of its `own`, there is such a step. -/
structure Act.Unwinding (own : Prop) (action : Act α) : Prop where
  itself : Act.Extends action action
  unwinds : ∀ session, session.Poised → (∃ moment, action session = .halted moment) ∨
    ∃ above, action.Unwinds session session.scheduler.active above ∧
      (action session).session.scheduler.active = session.scheduler.active ∧
      ((action session).fault? = none → (action session).session.Quiet ∧
        (action session).session.scheduler.Accounted True none) ∧
      ((∃ signal after, action session = .raised signal after) → own ∨ above ≠ [])

/-- Code that raises a fault again, and does nothing to tasks until then. -/
structure Act.Relapses (cause : Fault) (action : Act α) : Prop where
  hushed : action.Hushed
  raises : ∀ session, session.budget = none →
    ∃ after, action session = .raised (.fault cause) after ∧
      session.scheduler.InPlace after.scheduler

theorem Act.Rethrows.relapses {cause : Fault} {action : Act α} (rethrows : action.Rethrows cause) :
    action.Relapses cause where
  hushed session quiet := by
    rcases rethrows session with ⟨after, ended, abreast, _⟩ | ⟨_, moment, ended, abreast⟩
    · rw [ended]
      refine quiet.inPlace abreast.journal ?_
      rw [Outcome.session, abreast.scheduler]
      exact .refl _
    · rw [ended]
      refine quiet.inPlace abreast.journal ?_
      rw [Outcome.session, abreast.scheduler]
      exact .refl _
  raises session unlimited := by
    rcases rethrows session with ⟨after, ended, abreast, _⟩ | ⟨limited, _⟩
    · refine ⟨after, ended, ?_⟩
      rw [abreast.scheduler]
      exact .refl _
    · exact absurd unlimited limited

theorem Outcome.raised_of_fault? {outcome : Outcome α} {cause : Fault}
    (fault : outcome.fault? = some cause) : outcome = .raised (.fault cause) outcome.session := by
  cases outcome with
  | done value after => cases fault
  | halted moment => cases fault
  | raised signal after =>
      cases signal <;> cases fault
      rfl

theorem Act.Unwinds.relapse {action : Act α} {next : Except Signal α → Act β}
    {session mid : Session} {bottom above : List TaskId} {cause : Fault}
    (unwinds : action.Unwinds session bottom above) (itself : Act.Extends action action)
    (unlimited : session.budget = none) (raised : action session = .raised (.fault cause) mid)
    (relapses : (next (.error (.fault cause))).Relapses cause) :
    ∃ after, (Act.attempt action >>= next) session = .raised (.fault cause) after ∧
      mid.scheduler.InPlace after.scheduler ∧
      (Act.attempt action >>= next).Unwinds session bottom above := by
  have run : action session = .of mid (.error (.fault cause)) := raised
  have visits := Act.attempt_visits itself unlimited run next
  obtain ⟨after, again, inPlace⟩ :=
    relapses.raises mid (itself.unlimited (.error (.fault cause)) unlimited run)
  have whole := (Act.attempt_bind_of run next).trans again
  obtain ⟨quiet, accounted⟩ := unwinds.lost cause (by rw [raised]; rfl)
  rw [raised] at quiet accounted
  refine ⟨after, whole, inPlace, ?_, ?_, ?_⟩
  · intro id below under
    obtain ⟨other, moment, fault, visited, stack, failing⟩ := unwinds.given id below under
    rw [raised] at fault
    cases fault
    rw [whole]
    exact ⟨cause, moment, rfl, (visits moment).mpr (.inl visited), stack, failing⟩
  · intro id other moment visited failing
    rw [whole]
    rcases (visits moment).mp visited with earlier | ⟨budget, halted⟩
    · obtain ⟨same, placed⟩ := unwinds.only id other moment earlier failing
      rw [raised] at same
      exact ⟨same, placed⟩
    · have hushed := relapses.hushed (mid.limited budget) quiet
      rw [halted] at hushed
      exact (hushed.not_failing failing).elim
  · intro other _
    have calm := relapses.hushed mid quiet
    rw [again] at calm
    rw [whole]
    exact ⟨calm, accounted.transfer inPlace.queue inPlace.ids rfl inPlace.tasks inPlace.unfinished⟩

namespace Act.Unwinding

variable {own : Prop}

theorem hushed {action : Act α} (itself : Act.Extends action action) (hushed : action.Hushed)
    (keeps : ∀ session, session.scheduler.Accounted True none →
      (∀ moment, action session ≠ .halted moment) →
      (action session).session.scheduler.Accounted True none ∧
        (action session).session.scheduler.active = session.scheduler.active)
    (raises : (∃ session signal after, action session = .raised signal after) → own) :
    action.Unwinding own where
  itself := itself
  unwinds session poised := by
    rcases (action session).of_or_halted with ⟨result, after, run⟩ | halted
    · have ends (moment : Session) : action session ≠ .halted moment := by
        intro halted
        rw [run] at halted
        exact Outcome.halted_of halted.symm
      obtain ⟨accounted, active⟩ := keeps session poised.accounted ends
      have quiet := hushed session poised.quiet
      refine .inr ⟨[], .hushed _ ?_ fun cause _ => ⟨quiet, ?_⟩, active, fun _ => ⟨quiet, accounted⟩,
        fun ⟨signal, left, raised⟩ => .inl (raises ⟨session, signal, left, raised⟩)⟩
      · rintro moment ⟨budget, halted⟩
        have calm := hushed (session.limited budget) poised.quiet
        rw [halted] at calm
        exact calm
      · rw [← active]
        exact accounted
    · exact .inl halted

theorem pure (value : α) : (Pure.pure value : Act α).Unwinding own := by
  refine hushed (.pure value) (.pure value) (fun _ accounted _ => ⟨accounted, rfl⟩) ?_
  rintro ⟨session, signal, after, impossible⟩
  cases impossible

theorem raise (signal : Signal) : (Act.raise signal : Act α).Unwinding True :=
  hushed (.raise signal) (.raise signal) (fun _ accounted _ => ⟨accounted, rfl⟩) fun _ => trivial

theorem read {view : Session → α}
    (blind : ∀ session budget, view { session with budget } = view session) :
    (Act.read view).Unwinding own := by
  refine hushed (.read blind) (.read view) (fun _ accounted _ => ⟨accounted, rfl⟩) ?_
  rintro ⟨session, signal, after, impossible⟩
  cases impossible

theorem scheduler : Act.scheduler.Unwinding own :=
  read fun _ _ => rfl

theorem update {change : Session → Session}
    (blind : ∀ session budget, change { session with budget } = { change session with budget })
    (quiets : (Act.update change).Hushed)
    (inPlace : ∀ session : Session, session.scheduler.InPlace (change session).scheduler) :
    (Act.update change).Unwinding own := by
  refine hushed (.update blind) quiets (fun session accounted _ => ?_) ?_
  · exact ⟨accounted.inPlace (inPlace session), (inPlace session).active⟩
  · rintro ⟨session, signal, after, impossible⟩
    cases impossible

theorem updateExecutor (change : Executor → Executor) : (Act.updateExecutor change).Unwinding own :=
  update (fun _ _ => rfl) (.update (fun _ => rfl) fun _ => .refl _) fun _ => .refl _

theorem move {change : Session → Session} (moves : Move change) :
    (Act.update change).Unwinding own :=
  update moves.blind (.move moves) fun session => .ofAlike (moves.alike session)

theorem moment : Act.moment.Unwinding own := by
  refine hushed .moment .moment (fun session accounted _ => ?_) ?_
  · unfold Act.moment
    split <;> exact ⟨accounted, rfl⟩
  · rintro ⟨session, signal, after, impossible⟩
    unfold Act.moment at impossible
    split at impossible <;> cases impossible

theorem note {event : Event} (other : ∀ id, event ≠ .dequeued id) :
    (Act.note event).Unwinding own := by
  refine hushed (.note event) (.note other) (fun session accounted _ => ?_) ?_
  · refine Act.note_elim (motive := fun outcome => outcome.session.scheduler.Accounted True none ∧
      outcome.session.scheduler.active = session.scheduler.active) ?_ ?_
    · intro after noted
      rw [Outcome.session, noted.scheduler]
      exact ⟨accounted, rfl⟩
    · intro after noted
      rw [Outcome.session, noted.scheduler]
      exact ⟨accounted, rfl⟩
  · rintro ⟨session, signal, after, impossible⟩
    rcases Act.note_cases event session with ⟨left, _, run⟩ | ⟨left, _, run⟩
    · rw [run] at impossible
      cases impossible
    · rw [run] at impossible
      cases impossible

theorem register {task : Task} (fresh : task.Fresh) : (Act.register task).Unwinding own := by
  refine hushed (.register task) (.register task) (fun session accounted _ => ?_) ?_
  · refine Act.register_elim (motive := fun outcome => outcome.session.scheduler.Accounted True none ∧
      outcome.session.scheduler.active = session.scheduler.active) fun autoYield after noted => ?_
    have registered : after.scheduler.Accounted True none := by
      rw [noted.scheduler]
      exact accounted.register fresh
    have active : after.scheduler.active = session.scheduler.active := by
      rw [noted.scheduler]
      rfl
    exact ⟨⟨registered, active⟩, registered, active⟩
  · rintro ⟨session, signal, after, impossible⟩
    revert impossible
    exact Act.register_elim (motive := fun outcome => outcome = .raised signal after → own)
      fun autoYield left noted => ⟨nofun, nofun⟩

theorem finalize (id : TaskId) : (Act.finalize id).Unwinding own := by
  refine hushed (Act.Extends.changing.finalize id) (.finalize id) (fun session accounted _ => ?_) ?_
  · obtain ⟨after, published, ended⟩ := Act.Publishes.finalize id session
    have reached : (Act.finalize id session).session = after := by
      rcases ended with ended | ended <;> rw [ended] <;> rfl
    have alike := Scheduler.Alike.ofPublished published
    rw [reached]
    exact ⟨accounted.alike alike, alike.active⟩
  · rintro ⟨session, signal, left, impossible⟩
    obtain ⟨after, _, ended | ended⟩ := Act.Publishes.finalize id session
    · rw [ended] at impossible
      cases impossible
    · rw [ended] at impossible
      cases impossible

/-! ### Joined actions -/

theorem attempt {action : Act α} {next : Except Signal α → Act β} (head : action.Unwinding own)
    (tail : ∀ value, (next (.ok value)).Unwinding own)
    (handled : own → ∀ signal, (next (.error signal)).Unwinding own)
    (relapses : ∀ cause, (next (.error (.fault cause))).Relapses cause)
    (itself : ∀ outcome, Act.Extends (next outcome) (next outcome)) :
    (Act.attempt action >>= next).Unwinding own where
  itself := .bind (.attempt head.itself) itself
  unwinds session poised := by
    rcases head.unwinds session poised with ⟨moment, halted⟩ | ⟨above, unwinds, active, rests, lost⟩
    · refine .inl ⟨moment, ?_⟩
      rw [Act.attempt_bind, halted]
    -- A fault is only passed on. Any other end leaves no step ended, and what follows starts
    -- afresh.
    cases fault : (action session).fault? with
    | some cause =>
        have raised := Outcome.raised_of_fault? fault
        obtain ⟨after, whole, inPlace, unwinds⟩ :=
          unwinds.relapse head.itself poised.unlimited raised (relapses cause)
        refine .inr ⟨above, unwinds, ?_⟩
        rw [whole]
        exact ⟨inPlace.active.trans active, nofun, fun _ => lost ⟨_, _, raised⟩⟩
    | none =>
        obtain rfl := unwinds.calm fault
        obtain ⟨quiet, accounted⟩ := rests fault
        rcases (action session).of_or_halted with ⟨result, mid, run⟩ | ⟨moment, halted⟩
        · have goesOn : (next result).Unwinding own := by
            cases result with
            | ok value => exact tail value
            | error signal =>
                refine handled ?_ signal
                exact (lost ⟨signal, mid, run⟩).resolve_right fun nonempty => nonempty rfl
          have reached : (action session).session = mid := by
            rw [run]
            cases result <;> rfl
          rw [reached] at active quiet accounted
          have whole := Act.attempt_bind_of run next
          have visits := Act.attempt_visits head.itself poised.unlimited run next
          have still : mid.budget = none := head.itself.unlimited result poised.unlimited run
          rcases goesOn.unwinds mid ⟨still, quiet, accounted⟩ with
            ⟨moment, halted⟩ | ⟨above, unwinds', active', rests', lost'⟩
          · exact .inl ⟨moment, whole.trans halted⟩
          · rw [active] at unwinds' active'
            refine .inr ⟨above, unwinds'.after whole ?_ fun moment visited =>
              (visits moment).mpr (.inr visited), ?_⟩
            · intro id cause moment visited failing
              refine ((visits moment).mp visited).resolve_left fun earlier => ?_
              obtain ⟨impossible, _⟩ := unwinds.only id cause moment earlier failing
              rw [fault] at impossible
              cases impossible
            · rw [whole]
              exact ⟨active', rests', lost'⟩
        · refine .inl ⟨moment, ?_⟩
          rw [Act.attempt_bind, halted]

theorem bind {first : Act α} {next : α → Act β} (head : first.Unwinding own)
    (tail : ∀ value, (next value).Unwinding own) : (first >>= next).Unwinding own := by
  rw [Act.bind_eq_attempt]
  refine attempt head tail ?_ (fun cause => (Act.Rethrows.fail cause).relapses) ?_
  · intro owned signal
    obtain rfl := eq_true owned
    exact raise signal
  · intro outcome
    cases outcome with
    | ok value => exact (tail value).itself
    | error signal => exact .raise signal

theorem iterate {turns : Nat} {action : σ → Act (Option σ)}
    (inner : ∀ state, (action state).Unwinding own) (state : σ) :
    Act.Unwinding own (Act.iterate turns action state) :=
  Act.iterate_closed ⟨.halt _, fun session _ => .inl ⟨session, rfl⟩⟩ (pure ())
    (fun state _ tail => bind (inner state) tail) turns state

theorem attempting {action : Act α} {next : Except Signal α → Act β} (head : action.Unwinding True)
    (tail : ∀ outcome, (next outcome).Unwinding True)
    (relapses : ∀ cause, (next (.error (.fault cause))).Relapses cause) :
    (Act.attempt action >>= next).Unwinding True :=
  attempt head (fun value => tail (.ok value)) (fun _ signal => tail (.error signal)) relapses
    fun outcome => (tail outcome).itself

/-! ### Calls and awaits -/

theorem calling (name : String) (scope : Scope) {body : Act Unit} (inner : body.Unwinding True) :
    (Act.calling name scope body).Unwinding True := by
  refine bind (read fun _ _ => rfl) fun before => ?_
  dsimp only
  split
  · exact raise _
  · refine bind (note nofun) fun _ => ?_
    refine bind (updateExecutor _) fun _ => ?_
    refine attempting inner (fun outcome => ?_) fun cause => ?_
    · refine bind (read fun _ _ => rfl) fun left => ?_
      refine bind (updateExecutor _) fun _ => ?_
      split
      · exact pure _
      · exact pure _
      · exact raise _
    · have rethrows (left : Executor) : Act.Rethrows cause (do
          Act.updateExecutor (Executor.leaveCall before)
          Act.fail cause : Act (Value × Executor)) := .updateExecutor (.fail cause)
      exact Act.Rethrows.relapses fun session => rethrows session.executor session

theorem awaiting (id : TaskId) {drive : Act Unit} (inner : drive.Unwinding True) :
    (Act.awaiting id drive).Unwinding True := by
  have mark (waiter : TaskId) (awaited : Option TaskId) : Act.Unwinding True (Act.updateScheduler
      (Scheduler.modifyTask waiter fun task => { task with waitingFor := awaited })) :=
    move (.mark waiter (.wait awaited))
  have ends (current : Option TaskId) (outcome : Except Signal Unit) : Act.Unwinding True (do
      Act.note (.awaitEnded id current)
      Act.ofAttempt outcome : Act Unit) := by
    refine bind (note nofun) fun _ => ?_
    cases outcome with
    | ok value => exact pure value
    | error signal => exact raise signal
  have relapses (current : Option TaskId) (cause : Fault) : Act.Relapses cause (do
      Act.note (.awaitEnded id current)
      Act.ofAttempt (.error (.fault cause) : Except Signal Unit) : Act Unit) := by
    refine ⟨.bind (.note nofun) fun _ => .raise _, fun session unlimited => ?_⟩
    refine ⟨{ session with journal := .awaitEnded id current :: session.journal }, ?_, .refl _⟩
    rw [Act.bind_apply]
    unfold Act.note
    rw [Act.moment_unlimited (by exact unlimited)]
    rfl
  refine bind (read fun _ _ => rfl) fun executor => ?_
  refine bind (note nofun) fun _ => ?_
  cases executor.currentTask with
  | none =>
      exact attempting inner (ends none) (relapses none)
  | some waiter =>
      refine bind (mark waiter (some id)) fun _ => ?_
      have clears (outcome : Except Signal Unit) : Act.Unwinding True (do
          Act.updateScheduler (Scheduler.clearWait waiter)
          Act.note (.awaitEnded id (some waiter))
          Act.ofAttempt outcome : Act Unit) :=
        bind (mark waiter none) fun _ => ends (some waiter) outcome
      refine attempting inner clears fun cause => ?_
      have inPlace (session : Session) :
          session.scheduler.InPlace (session.scheduler.clearWait waiter) := by
        apply Scheduler.InPlace.modifyTask
        exact fun _ => rfl
      refine ⟨.bind (.move (.mark waiter (.wait none))) fun _ => (relapses _ cause).hushed,
        fun session unlimited => ?_⟩
      obtain ⟨after, raised, later⟩ := (relapses (some waiter) cause).raises
        { session with scheduler := session.scheduler.clearWait waiter } unlimited
      exact ⟨after, raised, (inPlace session).trans later⟩

end Act.Unwinding

/-! ### Steps and turns -/

theorem Session.unlimited_eq {session : Session} (unlimited : session.budget = none) :
    { session with budget := none } = session := by
  cases session
  cases unlimited
  rfl

theorem Outcome.fault?_of_raised {outcome : Outcome α} {signal : Signal} {after : Session}
    (raised : outcome = .raised signal after) {cause : Fault} (fault : outcome.fault? = some cause) :
    signal = .fault cause := by
  rw [raised] at fault
  cases signal <;> cases fault
  rfl

namespace Interpreter

theorem stepEnding_journal (id : TaskId) (task : Task) (before : Executor) (outcome : Outcome Unit) :
    (stepEnding id task before outcome).session.journal = outcome.session.journal := by
  cases outcome with
  | halted moment => rfl
  | done value left =>
      unfold stepEnding
      dsimp only
      split <;> rfl
  | raised signal left => cases signal <;> rfl

theorem stepEnding_fault {id : TaskId} {task : Task} {before : Executor} {outcome : Outcome Unit}
    {cause : Fault} (fault : outcome.fault? = some cause) :
    (stepEnding id task before outcome).fault? = some cause := by
  cases outcome with
  | halted moment => cases fault
  | done value left => cases fault
  | raised signal left =>
      cases signal <;> cases fault
      rfl

theorem stepEnding_leaves {id : TaskId} {task : Task} {before : Executor} {outcome : Outcome Unit}
    {cause : Fault} (fault : (stepEnding id task before outcome).fault? = some cause) :
    (stepEnding id task before outcome).session.scheduler = outcome.session.scheduler.abandoned := by
  rcases stepEnding_cases id task before outcome with
    ⟨moment, _, ended⟩ | ⟨signal, _, ended⟩ | ⟨status, change, after, _, _, _, ended, _⟩
  · rw [ended] at fault
    cases fault
  · rw [ended]
    rfl
  · rw [ended] at fault
    cases fault

theorem stepEnding_quiet {id : TaskId} {task : Task} {before : Executor} {outcome : Outcome Unit}
    {left : Session} (quiet : outcome.session.Quiet)
    (done : stepEnding id task before outcome = .done .done left) : left.Quiet := by
  have journal := stepEnding_journal id task before outcome
  rcases stepEnding_cases id task before outcome with
    ⟨moment, _, ended⟩ | ⟨signal, _, ended⟩ | ⟨status, change, after, ending, _, _, ended, settled⟩
  · rw [ended] at done
    cases done
  · rw [ended] at done
    cases done
  · rw [ended] at done journal
    cases done
    refine quiet.still journal (by rw [settled]; rfl) fun other lives => ?_
    rw [settled] at lives
    rcases ending.isFinished with ⟨_, finishes⟩ | ⟨goesOn, _⟩
    · by_cases same : other = id
      · subst other
        exact absurd lives (Scheduler.not_unfinished_complete id finishes _)
      · exact (Scheduler.unfinished_modifyTask_of_ne same _ _).mp lives
    · exact absurd rfl goesOn

variable {interpreter : Interpreter}
  (exec : ∀ path statement, (interpreter.exec path statement).Unwinding True)

include exec

theorem stepping_unwinds {id : TaskId} {session : Session} (unlimited : session.budget = none)
    (quiet : session.Quiet) (accounted : session.scheduler.Accounted True (some id))
    (lives : session.scheduler.Unfinished id) (task : Task) (statement : Stmt) :
    (∃ moment, interpreter.stepping id task statement session = .halted moment) ∨
      ∃ above, (interpreter.stepping id task statement).Unwinds session
          (id :: session.scheduler.active) above ∧
        ∀ left, interpreter.stepping id task statement session = .done .done left → left.Quiet := by
  obtain ⟨unqueued, idle⟩ := accounted.apart id rfl
  have poised : (session.enteringTask id task).Poised := by
    refine ⟨unlimited, quiet, ?_⟩
    exact accounted.enter lives (.inl rfl) idle (fun _ => unqueued) fun queued =>
      absurd queued unqueued
  have visits := interpreter.stepping_visits id task statement session
  rcases (exec [.item task.counter] statement).unwinds _ poised with
    ⟨moment, halted⟩ | ⟨above, unwinds, active, rests, _⟩
  · refine .inl ⟨moment, ?_⟩
    unfold stepping
    rw [halted]
    rfl
  · -- Whether the statement has faulted or not, the task itself is still missing from the queue.
    have leaves : (interpreter.exec [.item task.counter] statement
          (session.enteringTask id task)).session.Quiet ∧
        { (interpreter.exec [.item task.counter] statement
            (session.enteringTask id task)).session.scheduler with
          active := above ++ id :: session.scheduler.active }.Accounted True none := by
      cases fault : (interpreter.exec [.item task.counter] statement
          (session.enteringTask id task)).fault? with
      | some cause => exact unwinds.lost cause fault
      | none =>
          obtain rfl := unwinds.calm fault
          obtain ⟨calm, whole⟩ := rests fault
          refine ⟨calm, ?_⟩
          have same : id :: session.scheduler.active = _ := active.symm
          rw [List.nil_append, same]
          exact whole
    have journal := stepEnding_journal id task session.executor
      (interpreter.exec [.item task.counter] statement (session.enteringTask id task))
    refine .inr ⟨above, ⟨?_, ?_, ?_⟩, ?_⟩
    · intro other below under
      obtain ⟨cause, moment, fault, visited, stack, failing⟩ := unwinds.given other below under
      exact ⟨cause, moment, stepEnding_fault fault, (visits moment).mpr visited, stack, failing⟩
    · intro other cause moment visited failing
      obtain ⟨fault, placed⟩ := unwinds.only other cause moment ((visits moment).mp visited) failing
      exact ⟨stepEnding_fault fault, placed⟩
    · intro cause fault
      have left := stepEnding_leaves fault
      unfold stepping
      rw [left]
      refine ⟨leaves.1.still journal (by rw [left]; rfl) fun other lives => ?_, leaves.2⟩
      rw [left] at lives
      exact lives
    · exact fun left run => stepEnding_quiet leaves.1 run

theorem step_unwinds {id : TaskId} {session : Session} (begins : session.TurnBegins id) :
    (∃ moment, interpreter.step id session = .halted moment) ∨
      ∃ above, (interpreter.step id).Unwinds session (id :: session.scheduler.active) above ∧
        ∀ left, interpreter.step id session = .done .done left → left.Quiet := by
  obtain ⟨unlimited, taken, accounted, lives⟩ := begins
  have itself := Session.unlimited_eq unlimited
  cases interpreter.step_form id session with
  | told status start silent ends same =>
      have run := same none
      rw [itself] at run
      refine .inr ⟨[], .hushed _ ?_ ?_, ?_⟩
      · rintro moment ⟨budget, halted⟩
        rw [Session.limited, same] at halted
        cases halted
      · intro cause fault
        rw [run] at fault
        cases fault
      · intro left done other head unfinished
        rw [run] at done
        cases done
        -- The task that has been taken is over, and nothing has been recorded since.
        change start.journal.head? = _ at head
        rw [silent, taken, Option.some.injEq, Event.dequeued.injEq] at head
        subst head
        exact absurd unfinished (ends rfl)
  | noted status start event aside same =>
      have quiet {noted : Session} (journal : noted.journal = event :: start.journal) :
          noted.Quiet := by
        refine .ofHead journal ?_
        rintro other rfl
        cases aside
      have run := same none
      rw [itself, Act.bind_apply, Act.note_unlimited rfl] at run
      refine .inr ⟨[], .hushed _ ?_ ?_, ?_⟩
      · intro moment visited
        rw [Act.Visits.congr fun budget => same (some budget), Act.note_bind_visits] at visited
        rcases visited with rfl | ⟨budget, halted⟩
        · exact quiet rfl
        · cases halted
      · intro cause fault
        rw [run] at fault
        cases fault
      · intro left done
        rw [run] at done
        cases done
        exact quiet rfl
  | runs task statement start event aside inPlace _ same =>
      let noted := ({ start with budget := none } : Session).recorded event
      have quiet : noted.Quiet := by
        refine .ofHead rfl ?_
        rintro other rfl
        cases aside
      have run : interpreter.step id session = interpreter.stepping id task statement noted := by
        have ended := same none
        rw [itself, Act.bind_apply, Act.note_unlimited rfl] at ended
        exact ended
      have visits (moment : Session) : (interpreter.step id).Visits session moment ↔
          moment = noted.limited 0 ∨
            (interpreter.stepping id task statement).Visits noted moment := by
        rw [Act.Visits.congr fun budget => same (some budget)]
        exact Act.note_bind_visits event _ start moment
      have active : noted.scheduler.active = session.scheduler.active := inPlace.active
      rw [run, ← active]
      rcases stepping_unwinds exec rfl quiet (accounted.inPlace inPlace)
          ((inPlace.unfinished id).mpr lives) task statement with halted | ⟨above, unwinds, calm⟩
      · exact .inl halted
      · refine .inr ⟨above, unwinds.after run ?_ fun moment visited =>
          (visits moment).mpr (.inr visited), calm⟩
        intro other cause moment visited failing
        refine ((visits moment).mp visited).resolve_left ?_
        rintro rfl
        have cut : (noted.limited 0).Quiet := quiet
        exact cut.not_failing failing

end Interpreter

theorem step_unique {depth depth' : Nat} {id : TaskId} {session after after' : Session}
    {result result' : Except Signal StepStatus}
    (run : (interpreter depth).step id session = .of after result)
    (run' : (interpreter depth').step id session = .of after' result') :
    after = after' ∧ result = result' := by
  have deeper {shallow : Nat} (within : shallow ≤ max depth depth') {left : Session}
      {ending : Except Signal StepStatus}
      (ended : (interpreter shallow).step id session = .of left ending) :
      (interpreter (max depth depth')).step id session = .of left ending := by
    have longer := ((interpreter_deepens within).step_extends id).outcome (some 0) session
    rw [Session.granted_zero, ended] at longer
    cases ending with
    | ok status =>
        rw [longer.ofDone, Session.granted_zero]
        rfl
    | error signal =>
        rw [longer.ofRaised, Session.granted_zero]
        rfl
  have first := deeper (Nat.le_max_left ..) run
  rw [deeper (Nat.le_max_right ..) run'] at first
  obtain ⟨rfl, rfl⟩ := Outcome.of_inj first
  exact ⟨rfl, rfl⟩

theorem Interpreter.afterStep_quiet (id : TaskId) {status : StepStatus} {session : Session}
    (quiet : status = .done → session.Quiet) : (afterStep id status session).session.Quiet := by
  have requeued (value : Option (TaskId × StepStatus)) : ((do
      requeue id
      return value : Act (Option (TaskId × StepStatus))) session).session.Quiet := by
    refine Act.note_bind_elim (motive := fun outcome => outcome.session.Quiet) ?_ ?_
    · intro after noted
      exact .ofHead noted.journal nofun
    · intro after noted
      exact .ofHead noted.journal nofun
  cases status with
  | done => exact Act.Hushed.bind (.finalize id) (fun _ => .pure _) session (quiet rfl)
  | pending => exact requeued _
  | blocked => exact requeued _

theorem Interpreter.afterStep_calm (id : TaskId) (status : StepStatus) (session : Session)
    (signal : Signal) (after : Session) : afterStep id status session ≠ .raised signal after := by
  have requeued (value : Option (TaskId × StepStatus)) : (do
      requeue id
      return value : Act (Option (TaskId × StepStatus))) session ≠ .raised signal after :=
    Act.note_bind_elim (motive := fun outcome => outcome ≠ .raised signal after) (fun _ _ => nofun)
      fun _ _ => nofun
  cases status with
  | done =>
      intro impossible
      obtain ⟨left, _, ended | ended⟩ := Act.Publishes.finalize id session
      · change (Act.finalize id >>= fun _ => _) session = _ at impossible
        rw [Act.bind_apply, ended] at impossible
        cases impossible
      · change (Act.finalize id >>= fun _ => _) session = _ at impossible
        rw [Act.bind_apply, ended] at impossible
        cases impossible
  | pending => exact requeued _
  | blocked => exact requeued _

/-- A turn passes on the fault that its step has ended in, and does no more then. A turn whose step
has not ended in a fault ends in none, and no turn has failed inside it. -/
theorem turn_unwinds {interpreter : Interpreter}
    (itself : ∀ path statement, Act.Extends (interpreter.exec path statement)
      (interpreter.exec path statement))
    (exec : ∀ path statement, (interpreter.exec path statement).Unwinding True)
    {id : TaskId} {popped : Session} (begins : popped.TurnBegins id) :
    (∃ moment, (interpreter.step id >>= Interpreter.afterStep id) popped = .halted moment) ∨
    (∃ cause left above, interpreter.step id popped = .raised (.fault cause) left ∧
      (interpreter.step id >>= Interpreter.afterStep id) popped = .raised (.fault cause) left ∧
      (interpreter.step id).Unwinds popped (id :: popped.scheduler.active) above ∧
      ∀ moment, (interpreter.step id >>= Interpreter.afterStep id).Visits popped moment ↔
        (interpreter.step id).Visits popped moment) ∨
    ∃ status left value after, interpreter.step id popped = .done status left ∧
      (interpreter.step id >>= Interpreter.afterStep id) popped = .done value after ∧ after.Quiet ∧
      ∀ other cause moment,
        (interpreter.step id >>= Interpreter.afterStep id).Visits popped moment →
          ¬ moment.Failing cause other := by
  have goesOn := Act.Extends.changing.step itself id
  have unlimited := begins.unlimited
  -- What follows the step raises nothing and begins no turn, so all is up to the step.
  rcases Interpreter.step_unwinds exec begins with
    ⟨moment, halted⟩ | ⟨above, unwinds, ends⟩
  · refine .inl ⟨moment, ?_⟩
    rw [Act.bind_apply, halted]
  · have faults := interpreter.step_raises_faults id popped
    cases run : interpreter.step id popped with
    | halted moment =>
        refine .inl ⟨moment, ?_⟩
        rw [Act.bind_apply, run]
    | raised signal left =>
        rw [run] at faults
        obtain ⟨cause, rfl⟩ := faults
        refine .inr (.inl ⟨cause, left, above, rfl, ?_, unwinds,
          Act.bind_visits_raised goesOn unlimited run _⟩)
        rw [Act.bind_apply, run]
    | done status left =>
        have quiet : status = .done → left.Quiet := by
          rintro rfl
          exact ends left run
        have whole : (interpreter.step id >>= Interpreter.afterStep id) popped =
            Interpreter.afterStep id status left := by
          rw [Act.bind_apply, run]
        have visits := Act.bind_visits goesOn unlimited run (Interpreter.afterStep id)
        have calm := Interpreter.afterStep_quiet id quiet
        cases ended : Interpreter.afterStep id status left with
        | halted moment => exact .inl ⟨moment, whole.trans ended⟩
        | raised signal after =>
            exact absurd ended (Interpreter.afterStep_calm id status left signal after)
        | done value after =>
            rw [ended] at whole calm
            refine .inr (.inr ⟨status, left, value, after, rfl, whole, calm, ?_⟩)
            intro other cause moment visited failing
            -- The turn that fails would begin in the step, or after it where the journal rules that
            -- out.
            rcases (visits moment).mp visited with earlier | ⟨budget, halted⟩
            · obtain ⟨impossible, _⟩ := unwinds.only other cause moment earlier failing
              rw [run] at impossible
              cases impossible
            · have hushed : (Interpreter.afterStep id status (left.limited budget)).session.Quiet :=
                Interpreter.afterStep_quiet id quiet
              rw [halted] at hushed
              exact hushed.not_failing failing

namespace Session.TurnBegins

variable {id : TaskId} {popped left : Session} {cause : Fault} {depth : Nat}

theorem granted_limited (begins : popped.TurnBegins id) :
    (popped.limited 0).granted none = popped :=
  Session.unlimited_eq begins.unlimited

theorem failing (begins : popped.TurnBegins id)
    (stepped : (interpreter depth).step id popped = .raised (.fault cause) left) :
    (popped.limited 0).Failing cause id := by
  obtain ⟨unqueued, idle⟩ := begins.accounted.apart id rfl
  refine ⟨begins.taken, unqueued, idle, depth, left, ?_⟩
  rw [begins.granted_limited]
  exact stepped

theorem of_failing (begins : popped.TurnBegins id) {other : TaskId}
    (failing : (popped.limited 0).Failing cause other) {result : Except Signal StepStatus}
    (stepped : (interpreter depth).step id popped = .of left result) :
    other = id ∧ result = .error (.fault cause) := by
  obtain ⟨taken, _, _, depth', after, raised⟩ := failing
  obtain rfl : id = other :=
    Event.dequeued.inj (Option.some.inj (begins.taken.symm.trans taken))
  rw [begins.granted_limited] at raised
  have ended : (interpreter depth').step id popped = .of after (.error (.fault cause)) := raised
  exact ⟨rfl, (step_unique stepped ended).2⟩

theorem unwinds (begins : popped.TurnBegins id) {action : Act α} {session : Session}
    {above : List TaskId}
    (stepped : (interpreter depth).step id popped = .raised (.fault cause) left)
    (whole : action session = .raised (.fault cause) left)
    (visits : ∀ moment, action.Visits session moment ↔
      moment = popped.limited 0 ∨ ((interpreter depth).step id).Visits popped moment)
    (inside : ((interpreter depth).step id).Unwinds popped (id :: popped.scheduler.active) above) :
    action.Unwinds session popped.scheduler.active (above ++ [id]) := by
  refine ⟨?_, ?_, ?_⟩
  · intro other below under
    rw [whole]
    obtain ⟨inner, same, within⟩ :=
      (List.suffix_concat_iff.mp under).resolve_left (List.cons_ne_nil other below)
    cases inner with
    | nil =>
        obtain ⟨rfl, rfl⟩ := List.cons.inj same
        exact ⟨cause, _, rfl, (visits _).mpr (.inl rfl), rfl, begins.failing stepped⟩
    | cons first inner =>
        obtain ⟨rfl, rfl⟩ : other = first ∧ below = inner ++ [id] := List.cons.inj same
        obtain ⟨cause', moment, fault, visited, stack, failing⟩ := inside.given other inner within
        rw [stepped] at fault
        cases fault
        refine ⟨cause, moment, rfl, (visits moment).mpr (.inr visited), ?_, failing⟩
        rw [List.append_assoc]
        exact stack
  · intro other cause' moment visited failing
    rw [whole]
    rcases (visits moment).mp visited with rfl | later
    · have step : (interpreter depth).step id popped = .of left (.error (.fault cause)) := stepped
      obtain ⟨rfl, same⟩ := begins.of_failing failing step
      cases same
      exact ⟨rfl, [], List.suffix_append above _, rfl⟩
    · obtain ⟨fault, below, under, stack⟩ := inside.only other cause' moment later failing
      rw [stepped] at fault
      cases fault
      refine ⟨rfl, below ++ [id], ?_, ?_⟩
      · exact List.suffix_concat_iff.mpr (.inr ⟨other :: below, rfl, under⟩)
      · rw [List.append_assoc]
        exact stack
  · intro other _
    have lost := inside.lost cause (by rw [stepped]; rfl)
    rw [stepped] at lost
    rw [whole, List.append_assoc]
    exact lost

end Session.TurnBegins

namespace Interpreter

theorem cycle_begins (interpreter : Interpreter) {session : Session} (poised : session.Poised)
    {id : TaskId} {rest : List TaskId} (ids : session.scheduler.queue.ids = id :: rest) :
    ∃ popped : Session, popped.TurnBegins id ∧
      popped.scheduler.active = session.scheduler.active ∧
      interpreter.cycle session = (interpreter.step id >>= afterStep id) popped ∧
      ∀ moment, interpreter.cycle.Visits session moment ↔
        moment = popped.limited 0 ∨
          (interpreter.step id >>= afterStep id).Visits popped moment := by
  have queued : id ∈ session.scheduler.queue.ids := by
    rw [ids]
    exact List.mem_cons_self
  obtain ⟨lives, idle⟩ := poised.accounted.exact trivial id queued
  refine ⟨(session.taking rest).recorded (.dequeued id), ⟨poised.unlimited, rfl, ?_, lives⟩, rfl, ?_,
    fun moment => ?_⟩
  · exact poised.accounted.pop ids (.inl ⟨rfl, idle⟩)
  · rw [interpreter.cycle_taking ids idle, Act.bind_apply,
      Act.note_unlimited (by exact poised.unlimited)]
  · refine Iff.trans ?_ (Act.note_bind_visits (.dequeued id)
      (fun _ => interpreter.step id >>= afterStep id) (session.taking rest) moment)
    exact Act.Visits.congr fun budget => interpreter.cycle_taking ids idle

end Interpreter

theorem cycle_unwinding {own : Prop} {depth : Nat}
    (deepens : ∀ path statement, Deepens .statement ((interpreter depth).exec path statement)
      ((interpreter depth).exec path statement))
    (exec : ∀ path statement, ((interpreter depth).exec path statement).Unwinding True) :
    (interpreter depth).cycle.Unwinding own where
  itself := (Deepens.cycle deepens).extends
  unwinds session poised := by
    have brackets := (Deepens.cycle deepens).brackets session
    cases ids : session.scheduler.queue.ids with
    | nil =>
        have run := (interpreter depth).cycle_empty ids
        refine .inr ⟨[], .clear _ (by rw [run]; rfl) ?_, ?_⟩
        · rintro id cause moment ⟨budget, halted⟩
          have ended : (interpreter depth).cycle (session.limited budget) = .done none _ :=
            (interpreter depth).cycle_empty ids
          rw [ended] at halted
          cases halted
        · rw [run]
          refine ⟨rfl, fun _ => ⟨poised.quiet, poised.accounted⟩, ?_⟩
          rintro ⟨signal, after, impossible⟩
          cases impossible
    | cons id rest =>
        obtain ⟨popped, begins, active, run, visits⟩ := (interpreter depth).cycle_begins poised ids
        rcases turn_unwinds (fun path statement => (deepens path statement).extends) exec begins with
          ⟨moment, halted⟩ | ⟨cause, left, above, stepped, ended, inside, sees⟩ |
          ⟨status, left, value, after, stepped, ended, quiet, calm⟩
        · exact .inl ⟨moment, run.trans halted⟩
        · have whole := run.trans ended
          simp only [sees] at visits
          have unwinds := begins.unwinds stepped whole visits inside
          rw [whole] at brackets
          rw [active] at unwinds
          refine .inr ⟨above ++ [id], unwinds, ?_⟩
          rw [whole]
          refine ⟨brackets.active, fun calm => ?_, fun _ => .inr ?_⟩
          · cases calm
          · exact List.append_ne_nil_of_right_ne_nil above (List.cons_ne_nil id [])
        · have whole := run.trans ended
          -- A turn that has come to its end leaves the tasks accounted for, as every such turn
          -- does.
          have keeps := (RunningTasks.accounts_upholds True).keeps (Deepens.cycle deepens)
            ⟨session.scheduler.active, session.scheduler.queue.ids⟩
          have rests := (keeps.done ⟨poised.accounted, rfl, fun _ _ => Iff.rfl⟩ whole).ok
          refine .inr ⟨[], .clear _ (by rw [whole]; rfl) ?_, ?_⟩
          · intro other cause moment visited failing
            rcases (visits moment).mp visited with rfl | later
            · have step : (interpreter depth).step id popped = .of left (.ok status) := stepped
              cases (begins.of_failing failing step).2
            · exact calm other cause moment later failing
          · rw [whole]
            refine ⟨rests.active, fun _ => ⟨quiet, rests.accounted⟩, ?_⟩
            rintro ⟨signal, left, impossible⟩
            cases impossible

/-- Whatever an interpreter does, a fault leaves it as it should. -/
theorem Deepens.unwinding {layer : Layer} {shallow deep : Act α}
    (deepens : Deepens layer shallow deep) : deep.Unwinding True := by
  induction deepens with
  | halt => exact ⟨.halt _, fun session _ => .inl ⟨session, rfl⟩⟩
  | cut _ whole => exact whole
  | pure value => exact .pure value
  | fail cause => exact .raise _
  | raise signal => exact .raise signal
  | moment => exact .moment
  | read blind => exact .read blind
  | move moves => exact .move moves
  | positions change => exact .updateExecutor _
  | register fresh => exact .register fresh
  | finalize id => exact .finalize id
  | bind _ _ head tail => exact .bind head tail
  | attempt _ _ rethrows inner tail =>
      exact .attempting inner tail fun cause => (rethrows cause).relapses
  | lift _ inner => exact inner
  | calling name _ _ inner => exact .calling name _ inner
  | awaiting id _ inner => exact .awaiting id inner
  | cycle exec inner => exact cycle_unwinding (fun path statement => (exec path statement).right) inner

end CooperativeTasks
