import CooperativeTasks.Proofs.Extension

set_option autoImplicit false

/-! Rules for what holds of the scheduler along a run.

A watch says what a run may do to the scheduler between its start and any later session, and
what is to hold of a moment in view of how the run ends that goes on from there. The rules
follow the ways in which actions are joined, and the brackets of calls and awaits. -/

namespace CooperativeTasks

variable {α β ι : Type}

/-- A run without a limit that has ended in a fault. -/
def Outcome.Faulted (outcome : Outcome α) : Prop :=
  ∃ cause after, outcome = .raised (.fault cause) after ∧ after.budget = none

/-- The way in which an action has ended, if it has. -/
def Outcome.result? : Outcome α → Option (Except Signal α)
  | .done value _ => some (.ok value)
  | .raised signal _ => some (.error signal)
  | .halted _ => none

structure Watch where
  /-- What the run that goes on is granted more than the one that is halted. -/
  extra : Option Nat
  /-- Nothing more is asked of a run after a fault. -/
  excuses : Prop
  Along : Scheduler → Scheduler → Prop
  Moment : Session → Prop
  Sees : Session → {α : Type} → Outcome α → Prop
  refl : ∀ scheduler, Along scheduler scheduler
  trans : ∀ {first second third}, Along first second → Along second third → Along first third
  now : ∀ {moment : Session} {α : Type} {outcome : Outcome α}, Moment moment →
    Along moment.scheduler outcome.session.scheduler → Sees moment outcome
  later : ∀ {moment after : Session} {α β : Type} {value : α} {outcome : Outcome β},
    Sees moment (.done value after) → Along after.scheduler outcome.session.scheduler →
      Sees moment outcome
  handled : ∀ {moment after : Session} {α β : Type} {signal : Signal} {outcome : Outcome β},
    Sees moment (.raised signal after : Outcome α) →
      Along after.scheduler outcome.session.scheduler →
      (excuses → ∀ cause, signal = .fault cause → after.budget = none → outcome.Faulted) →
        Sees moment outcome
  halted : ∀ {moment after : Session} {α β : Type},
    Sees moment (.halted after : Outcome α) → Sees moment (.halted after : Outcome β)
  excused : excuses → extra = none ∧ (∀ before after, Along before after) ∧
    ∀ moment {α : Type} (outcome : Outcome α), outcome.Faulted → Sees moment outcome

namespace Watch

variable (watch : Watch)

/-- From a scheduler that passes `pre`, the second action ends as `post` says. All that happens
on the way is as the watch demands, also of the moments at which the first action is halted. -/
structure Leads (pre : Scheduler → Prop) (short long : Act α)
    (post : Except Signal α → Scheduler → Prop) : Prop where
  goesOn : Act.Extends short long
  along : ∀ session, pre session.scheduler →
    watch.Along session.scheduler (long session).session.scheduler
  ended : ∀ session, pre session.scheduler → ∀ result, (long session).result? = some result →
    post result (long session).session.scheduler
  sees : ∀ session moment, pre session.scheduler → short session = .halted moment →
    watch.Sees moment (long (session.granted watch.extra))

namespace Leads

variable {watch} {pre : Scheduler → Prop} {post : Except Signal α → Scheduler → Prop}

theorem weaken {pre' : Scheduler → Prop} {post' : Except Signal α → Scheduler → Prop}
    {short long : Act α} (leads : watch.Leads pre short long post)
    (before : ∀ scheduler, pre' scheduler → pre scheduler)
    (after : ∀ result scheduler, post result scheduler → post' result scheduler) :
    watch.Leads pre' short long post' where
  goesOn := leads.goesOn
  along session holds := leads.along session (before _ holds)
  ended session holds result run := after _ _ (leads.ended session (before _ holds) result run)
  sees session moment holds run := leads.sees session moment (before _ holds) run

theorem pure {value : α} (after : ∀ scheduler, pre scheduler → post (.ok value) scheduler) :
    watch.Leads pre (Pure.pure value) (Pure.pure value) post where
  goesOn := .pure value
  along session _ := watch.refl _
  ended session holds result run := by
    cases run
    exact after _ holds
  sees session moment _ run := nomatch run

theorem raise {signal : Signal}
    (after : ∀ scheduler, pre scheduler → post (.error signal) scheduler) :
    watch.Leads pre (Act.raise signal) (Act.raise signal) post where
  goesOn := .raise signal
  along session _ := watch.refl _
  ended session holds result run := by
    cases run
    exact after _ holds
  sees session moment _ run := nomatch run

theorem done {short long : Act α} (leads : watch.Leads pre short long post) {session : Session}
    {value : α} {after : Session} (holds : pre session.scheduler)
    (run : long session = .done value after) : post (.ok value) after.scheduler := by
  have ended := leads.ended session holds (.ok value)
  rw [run] at ended
  exact ended rfl

theorem raised {short long : Act α} (leads : watch.Leads pre short long post) {session : Session}
    {signal : Signal} {after : Session} (holds : pre session.scheduler)
    (run : long session = .raised signal after) : post (.error signal) after.scheduler := by
  have ended := leads.ended session holds (.error signal)
  rw [run] at ended
  exact ended rfl

theorem assuming {short long : Act α} (goesOn : Act.Extends short long)
    (leads : ∀ scheduler, pre scheduler → watch.Leads pre short long post) :
    watch.Leads pre short long post where
  goesOn := goesOn
  along session holds := (leads _ holds).along session holds
  ended session holds := (leads _ holds).ended session holds
  sees session moment holds run := (leads _ holds).sees session moment holds run

theorem attempt {mid : Except Signal α → Scheduler → Prop}
    {post : Except Signal β → Scheduler → Prop} {action action' : Act α}
    {next next' : Except Signal α → Act β} (head : watch.Leads pre action action' mid)
    (tail : ∀ result, watch.Leads (mid result) (next result) (next' result) post)
    (relays : watch.excuses → ∀ cause, (next' (.error (.fault cause))).Relays) :
    watch.Leads pre (Act.attempt action >>= next) (Act.attempt action' >>= next') post where
  goesOn := .bind (.attempt head.goesOn) fun result => (tail result).goesOn
  along session holds := by
    have start := head.along session holds
    rw [Act.attempt_bind]
    cases run : action' session with
    | done value after =>
        rw [run] at start
        exact watch.trans start ((tail _).along after (head.done holds run))
    | raised signal after =>
        rw [run] at start
        exact watch.trans start ((tail _).along after (head.raised holds run))
    | halted moment =>
        rw [run] at start
        exact start
  ended session holds result ended := by
    rw [Act.attempt_bind] at ended ⊢
    cases run : action' session with
    | done value after =>
        rw [run] at ended
        exact (tail _).ended after (head.done holds run) result ended
    | raised signal after =>
        rw [run] at ended
        exact (tail _).ended after (head.raised holds run) result ended
    | halted moment =>
        rw [run] at ended
        cases ended
  sees session moment holds ended := by
    -- The first action is looked at twice: as it is halted, and as it goes on with more moments.
    have same := head.goesOn.outcome (some 0) session
    have longer := head.goesOn.outcome watch.extra session
    rw [Session.granted_zero] at same
    rw [Act.attempt_bind] at ended ⊢
    generalize first : action session = outcome at ended same longer
    generalize reached : action' session = outcome' at same
    generalize continued : action' (session.granted watch.extra) = outcome'' at longer
    cases same with
    | done value after =>
        rw [Session.granted_zero] at reached
        cases longer
        exact (tail _).sees after moment (head.done holds reached) ended
    | raised signal after =>
        rw [Session.granted_zero] at reached
        cases longer
        exact (tail _).sees after moment (head.raised holds reached) ended
    | halted early _ =>
        cases ended
        have granted : pre (session.granted watch.extra).scheduler := holds
        have seen := head.sees session moment holds first
        rw [continued] at seen
        cases outcome'' with
        | done value left =>
            exact watch.later seen ((tail _).along left (head.done granted continued))
        | raised signal left =>
            refine watch.handled seen ((tail _).along left (head.raised granted continued)) ?_
            intro excuses cause same unlimited
            subst signal
            rcases relays excuses cause left with ⟨cause', after, again, still⟩ | ⟨limited, _⟩
            · exact ⟨cause', after, again, still unlimited⟩
            · exact absurd unlimited limited
        | halted left => exact watch.halted seen

theorem bind {mid : Except Signal α → Scheduler → Prop} {post : Except Signal β → Scheduler → Prop}
    {first first' : Act α} {next next' : α → Act β} (head : watch.Leads pre first first' mid)
    (tail : ∀ value, watch.Leads (mid (.ok value)) (next value) (next' value) post)
    (passes : ∀ signal scheduler, mid (.error signal) scheduler → post (.error signal) scheduler) :
    watch.Leads pre (first >>= next) (first' >>= next') post := by
  rw [Act.bind_eq_attempt first, Act.bind_eq_attempt first']
  refine attempt head ?_ ?_
  · intro result
    cases result with
    | ok value => exact tail value
    | error signal => exact raise (passes signal)
  · intro _ cause
    exact (Act.Rethrows.fail cause).relays

theorem cut {long : Act α} (whole : watch.Leads pre long long post)
    (here : ∀ session, pre session.scheduler → watch.Moment session) :
    watch.Leads pre Act.halt long post where
  goesOn := .halt long
  along := whole.along
  ended := whole.ended
  sees session moment holds run := by
    cases run
    exact watch.now (here session holds) (whole.along (session.granted watch.extra) holds)

theorem halt (here : ∀ session, pre session.scheduler → watch.Moment session) :
    watch.Leads pre (Act.halt : Act α) Act.halt post where
  goesOn := .halt _
  along session _ := watch.refl _
  ended session _ result run := nomatch run
  sees session moment holds run := by
    cases run
    exact watch.now (here session holds) (watch.refl _)

/-! ### Reading, writing and recording -/

theorem read {view : Session → α} {post : Except Signal β → Scheduler → Prop}
    {next next' : α → Act β}
    (blind : ∀ session budget, view { session with budget } = view session)
    (tail : ∀ value, watch.Leads pre (next value) (next' value) post) :
    watch.Leads pre (Act.read view >>= next) (Act.read view >>= next') post where
  goesOn := .bind (.read blind) fun value => (tail value).goesOn
  along session holds := (tail (view session)).along session holds
  ended session holds := (tail (view session)).ended session holds
  sees session moment holds run := by
    have same : view (session.granted watch.extra) = view session := blind session _
    change watch.Sees moment (next' (view (session.granted watch.extra)) _)
    rw [same]
    exact (tail (view session)).sees session moment holds run

theorem scheduler {post : Except Signal β → Scheduler → Prop} {next next' : Scheduler → Act β}
    (tail : ∀ current, watch.Leads (fun scheduler => scheduler = current ∧ pre scheduler)
      (next current) (next' current) post) :
    watch.Leads pre (Act.scheduler >>= next) (Act.scheduler >>= next') post where
  goesOn := .bind .scheduler fun current => (tail current).goesOn
  along session holds := (tail session.scheduler).along session ⟨rfl, holds⟩
  ended session holds := (tail session.scheduler).ended session ⟨rfl, holds⟩
  sees session moment holds run :=
    (tail session.scheduler).sees session moment ⟨rfl, holds⟩ run

theorem update {change : Session → Session} {mid : Scheduler → Prop}
    {post : Except Signal β → Scheduler → Prop} {next next' : Unit → Act β}
    (blind : ∀ session budget, change { session with budget } = { change session with budget })
    (changes : ∀ session, pre session.scheduler →
      mid (change session).scheduler ∧
        watch.Along session.scheduler (change session).scheduler)
    (tail : watch.Leads mid (next ()) (next' ()) post) :
    watch.Leads pre (Act.update change >>= next) (Act.update change >>= next') post where
  goesOn := .bind (.update blind) fun _ => tail.goesOn
  along session holds :=
    watch.trans (changes session holds).2 (tail.along _ (changes session holds).1)
  ended session holds := tail.ended _ (changes session holds).1
  sees session moment holds run := by
    change watch.Sees moment (next' () (change (session.granted watch.extra)))
    rw [Session.granted_change blind]
    exact tail.sees _ moment (changes session holds).1 run

theorem updateExecutor {change : Executor → Executor} {post : Except Signal β → Scheduler → Prop}
    {next next' : Unit → Act β} (tail : watch.Leads pre (next ()) (next' ()) post) :
    watch.Leads pre (Act.updateExecutor change >>= next) (Act.updateExecutor change >>= next') post :=
  .update (fun _ _ => rfl) (fun _ holds => ⟨holds, watch.refl _⟩) tail

theorem updateScheduler {change : Scheduler → Scheduler} (mid : Scheduler → Prop)
    {post : Except Signal β → Scheduler → Prop} {next next' : Unit → Act β}
    (changes : ∀ scheduler, pre scheduler →
      mid (change scheduler) ∧ watch.Along scheduler (change scheduler))
    (tail : watch.Leads mid (next ()) (next' ()) post) :
    watch.Leads pre (Act.updateScheduler change >>= next)
      (Act.updateScheduler change >>= next') post :=
  .update (fun _ _ => rfl) (fun session holds => changes session.scheduler holds) tail

theorem readClock {post : Except Signal β → Scheduler → Prop} {next next' : Nat → Act β}
    (tail : ∀ now, watch.Leads pre (next now) (next' now) post) :
    watch.Leads pre (Act.readClock >>= next) (Act.readClock >>= next') post where
  goesOn := .bind Act.Extends.changing.readClock fun now => (tail now).goesOn
  along session holds := (tail session.clock.now).along session.ticked holds
  ended session holds := (tail session.clock.now).ended session.ticked holds
  sees session moment holds run := (tail session.clock.now).sees session.ticked moment holds run

theorem pausing {pause : Act Unit} (goesOn : Act.Extends pause pause)
    (pauses : ∀ session, ∃ after, after.scheduler = session.scheduler ∧
      (pause session = .done () after ∨
        pause session = .halted after ∧ (pre session.scheduler → watch.Moment after))) :
    watch.Leads pre pause pause fun result scheduler => result = .ok () ∧ pre scheduler where
  goesOn := goesOn
  along session holds := by
    obtain ⟨after, same, run | ⟨run, _⟩⟩ := pauses session
    · rw [run, Outcome.session, same]
      exact watch.refl _
    · rw [run, Outcome.session, same]
      exact watch.refl _
  ended session holds result ended := by
    obtain ⟨after, same, run | ⟨run, _⟩⟩ := pauses session
    · rw [run] at ended ⊢
      cases ended
      rw [Outcome.session, same]
      exact ⟨rfl, holds⟩
    · rw [run] at ended
      cases ended
  sees session moment holds ended := by
    obtain ⟨after, same, run | ⟨run, here⟩⟩ := pauses session
    · rw [run] at ended
      cases ended
    · rw [run] at ended
      cases ended
      refine watch.now (here holds) ?_
      obtain ⟨later, unchanged, goes | ⟨stops, _⟩⟩ := pauses (session.granted watch.extra)
      · rw [goes, Outcome.session, same, unchanged]
        exact watch.refl _
      · rw [stops, Outcome.session, same, unchanged]
        exact watch.refl _

theorem moment (here : ∀ session, pre session.scheduler → watch.Moment session) :
    watch.Leads pre Act.moment Act.moment fun result scheduler => result = .ok () ∧ pre scheduler := by
  refine pausing .moment ?_
  intro session
  unfold Act.moment
  split
  · exact ⟨session, rfl, .inl rfl⟩
  · exact ⟨session, rfl, .inr ⟨rfl, here session⟩⟩
  · rename_i left _
    exact ⟨{ session with budget := some left }, rfl, .inl rfl⟩

theorem noting {event : Event}
    (here : ∀ session, pre session.scheduler → session.journal.head? = some event →
      watch.Moment session) :
    watch.Leads pre (Act.note event) (Act.note event)
      fun result scheduler => result = .ok () ∧ pre scheduler := by
  refine pausing (.note event) ?_
  intro session
  rcases Act.note_cases event session with ⟨after, noted, run⟩ | ⟨moment, noted, run⟩
  · exact ⟨after, noted.scheduler, .inl run⟩
  · refine ⟨moment, noted.scheduler, .inr ⟨run, fun holds => ?_⟩⟩
    apply here
    · rw [noted.scheduler]
      exact holds
    · rw [noted.journal]
      rfl

theorem note {event : Event} {post : Except Signal β → Scheduler → Prop} {next next' : Unit → Act β}
    (here : ∀ session, pre session.scheduler → session.journal.head? = some event →
      watch.Moment session)
    (tail : watch.Leads pre (next ()) (next' ()) post) :
    watch.Leads pre (Act.note event >>= next) (Act.note event >>= next') post := by
  refine bind (noting here) (fun _ => ?_) ?_
  · exact tail.weaken (fun _ holds => holds.2) fun _ _ ended => ended
  · intro signal scheduler impossible
    exact nomatch impossible.1

end Leads

/-! ### Keeping an invariant -/

/-- The invariant holds again at the end, except after faults where those are excused. -/
def Kept (invariant : Scheduler → Prop) (result : Except Signal α) (scheduler : Scheduler) : Prop :=
  (watch.excuses ∧ ∃ cause, result = .error (.fault cause)) ∨ invariant scheduler

def Keeps (invariant : Scheduler → Prop) (short long : Act α) : Prop :=
  watch.Leads invariant short long (watch.Kept invariant)

variable {watch} {invariant : Scheduler → Prop}

theorem Kept.ok {value : α} {scheduler : Scheduler} (kept : watch.Kept invariant (.ok value) scheduler) :
    invariant scheduler := by
  rcases kept with ⟨_, cause, impossible⟩ | holds
  · cases impossible
  · exact holds

theorem Kept.error {signal : Signal} {scheduler : Scheduler}
    (kept : watch.Kept invariant (.error signal : Except Signal α) scheduler) :
    watch.Kept invariant (.error signal : Except Signal β) scheduler := by
  rcases kept with ⟨excuses, cause, fault⟩ | holds
  · cases fault
    exact .inl ⟨excuses, cause, rfl⟩
  · exact .inr holds

theorem Leads.relayed {short long : Act α} (excuses : watch.excuses) (relays : long.Relays)
    (goesOn : Act.Extends short long) :
    watch.Leads (fun _ => True) short long (watch.Kept invariant) where
  goesOn := goesOn
  along session _ := (watch.excused excuses).2.1 _ _
  ended session _ result run := by
    rcases relays session with ⟨cause, left, ended, _⟩ | ⟨_, moment, ended⟩
    · rw [ended] at run
      cases run
      exact .inl ⟨excuses, cause, rfl⟩
    · rw [ended] at run
      cases run
  sees session moment _ _ := by
    obtain ⟨without, _, faulted⟩ := watch.excused excuses
    have unlimited : (session.granted watch.extra).budget = none := by
      rw [without]
      rfl
    apply faulted
    rcases relays (session.granted watch.extra) with ⟨cause, left, ended, still⟩ | ⟨limited, _⟩
    · exact ⟨cause, left, ended, still unlimited⟩
    · exact absurd unlimited limited

namespace Keeps

theorem bind {first first' : Act α} {next next' : α → Act β}
    (head : watch.Keeps invariant first first')
    (tail : ∀ value, watch.Keeps invariant (next value) (next' value)) :
    watch.Keeps invariant (first >>= next) (first' >>= next') := by
  refine Leads.bind head (fun value => ?_) ?_
  · exact (tail value).weaken (fun _ kept => kept.ok) fun _ _ ended => ended
  · intro signal scheduler kept
    exact kept.error

theorem attempt {action action' : Act α} {next next' : Except Signal α → Act β}
    (head : watch.Keeps invariant action action')
    (tail : ∀ result, watch.Keeps invariant (next result) (next' result))
    (relays : ∀ cause, (next' (.error (.fault cause))).Relays) :
    watch.Keeps invariant (Act.attempt action >>= next) (Act.attempt action' >>= next') := by
  refine Leads.attempt head (fun result => ?_) fun _ => relays
  -- After an excused fault the invariant is gone, and only the fault itself goes on.
  by_cases fault : watch.excuses ∧ ∃ cause, result = .error (.fault cause)
  · obtain ⟨excuses, cause, rfl⟩ := fault
    exact (Leads.relayed excuses (relays cause) (tail _).goesOn).weaken (fun _ _ => trivial)
      fun _ _ ended => ended
  · refine (tail result).weaken ?_ fun _ _ ended => ended
    intro scheduler kept
    exact kept.resolve_left fault

theorem pure (value : α) : watch.Keeps invariant (Pure.pure value) (Pure.pure value) :=
  Leads.pure fun _ holds => .inr holds

theorem raise (signal : Signal) :
    watch.Keeps invariant (Act.raise signal : Act α) (Act.raise signal) :=
  Leads.raise fun _ holds => .inr holds

theorem read {view : Session → α}
    (blind : ∀ session budget, view { session with budget } = view session) :
    watch.Keeps invariant (Act.read view) (Act.read view) where
  goesOn := .read blind
  along session _ := watch.refl _
  ended session holds result run := by
    cases run
    exact .inr holds
  sees session moment _ run := nomatch run

theorem update {change : Session → Session}
    (blind : ∀ session budget, change { session with budget } = { change session with budget })
    (changes : ∀ session, invariant session.scheduler →
      invariant (change session).scheduler ∧
        watch.Along session.scheduler (change session).scheduler) :
    watch.Keeps invariant (Act.update change) (Act.update change) where
  goesOn := .update blind
  along session holds := (changes session holds).2
  ended session holds result run := by
    cases run
    exact .inr (changes session holds).1
  sees session moment _ run := nomatch run

theorem calling (here : ∀ session, invariant session.scheduler → watch.Moment session)
    (name : String) (scope : Scope) {body body' : Act Unit}
    (inner : watch.Keeps invariant body body') :
    watch.Keeps invariant (Act.calling name scope body) (Act.calling name scope body') := by
  refine Leads.read (fun _ _ => rfl) fun before => ?_
  dsimp only
  split
  · exact raise _
  · refine Leads.note (fun session holds _ => here session holds) ?_
    refine Leads.updateExecutor ?_
    refine attempt inner (fun outcome => ?_) fun cause => ?_
    · refine Leads.read (fun _ _ => rfl) fun left => ?_
      refine Leads.updateExecutor ?_
      split
      · exact pure _
      · exact pure _
      · exact raise _
    · have relays : Act.Relays (do
          Act.updateExecutor (Executor.leaveCall before)
          Act.fail cause : Act (Value × Executor)) :=
        Act.Rethrows.relays (.updateExecutor (.fail cause))
      exact relays

theorem awaiting (here : ∀ session, invariant session.scheduler → watch.Moment session)
    (marked : ∀ waiter awaited scheduler, invariant scheduler →
      invariant (scheduler.modifyTask waiter fun task => { task with waitingFor := awaited }) ∧
        watch.Along scheduler
          (scheduler.modifyTask waiter fun task => { task with waitingFor := awaited }))
    (id : TaskId) {drive drive' : Act Unit} (inner : watch.Keeps invariant drive drive') :
    watch.Keeps invariant (Act.awaiting id drive) (Act.awaiting id drive') := by
  have ending (current : Option TaskId) (outcome : Except Signal Unit) :
      watch.Keeps invariant
        (do
          Act.note (.awaitEnded id current)
          Act.ofAttempt outcome)
        (do
          Act.note (.awaitEnded id current)
          Act.ofAttempt outcome) := by
    refine Leads.note (fun session holds _ => here session holds) ?_
    cases outcome with
    | ok value => exact pure value
    | error signal => exact raise signal
  have relays (current : Option TaskId) (cause : Fault) :
      Act.Relays (do
        Act.note (.awaitEnded id current)
        Act.ofAttempt (.error (.fault cause) : Except Signal Unit)) :=
    fun session => (Act.Rethrows.moment (.fail cause)).relays
      { session with journal := .awaitEnded id current :: session.journal }
  refine Leads.read (fun _ _ => rfl) fun executor => ?_
  refine Leads.note (fun session holds _ => here session holds) ?_
  cases executor.currentTask with
  | none => exact attempt inner (ending none) (relays none)
  | some waiter =>
      refine Leads.updateScheduler _ (marked waiter (some id)) ?_
      refine attempt inner (fun outcome => ?_) fun cause => ?_
      · exact Leads.updateScheduler _ (marked waiter none) (ending (some waiter) outcome)
      · exact .update (fun _ => rfl) (relays (some waiter) cause)

end Keeps

end Watch

end CooperativeTasks
