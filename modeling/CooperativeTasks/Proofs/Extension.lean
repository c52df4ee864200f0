import CooperativeTasks.Proofs.Changes

set_option autoImplicit false

/-! More depth and more moments do not change what an action does.

An action that comes to its end within a budget comes to the same end when it is granted more
moments, and when the interpreter is a deeper one. -/

namespace CooperativeTasks

variable {α β : Type}

/-- The session with so many moments more, or without any limit. -/
def Session.granted (extra : Option Nat) (session : Session) : Session :=
  { session with
    budget :=
      match extra with
      | none => none
      | some more => session.budget.map (· + more) }

@[simp] theorem Session.granted_zero (session : Session) : session.granted (some 0) = session := by
  cases session with
  | mk executor scheduler clock journal budget => cases budget <;> rfl

@[simp] theorem Session.granted_scheduler (extra : Option Nat) (session : Session) :
    (session.granted extra).scheduler = session.scheduler :=
  rfl

/-- What a longer or deeper run makes of the outcome of a shorter one. -/
inductive Outcome.Extends (extra : Option Nat) : Outcome α → Outcome α → Prop where
  | done (value : α) (after : Session) :
      Extends extra (.done value after) (.done value (after.granted extra))
  | raised (signal : Signal) (after : Session) :
      Extends extra (.raised signal after) (.raised signal (after.granted extra))
  | halted (moment : Session) (outcome : Outcome α) : Extends extra (.halted moment) outcome

theorem Outcome.Extends.ofDone {extra : Option Nat} {value : α} {after : Session}
    {outcome : Outcome α} (longer : (Outcome.done value after).Extends extra outcome) :
    outcome = .done value (after.granted extra) := by
  cases longer
  rfl

theorem Outcome.Extends.ofRaised {extra : Option Nat} {signal : Signal} {after : Session}
    {outcome : Outcome α} (longer : (Outcome.raised signal after).Extends extra outcome) :
    outcome = .raised signal (after.granted extra) := by
  cases longer
  rfl

/-- The second action is put together like the first, of pieces that look at the budget only to let
moments pass, and goes on where the first is halted. -/
inductive Act.Extends : {α : Type} → Act α → Act α → Prop where
  | pure {α : Type} (value : α) : Extends (Pure.pure value) (Pure.pure value)
  | raise {α : Type} (signal : Signal) : Extends (Act.raise signal : Act α) (Act.raise signal)
  | halt {α : Type} (action : Act α) : Extends Act.halt action
  | read {α : Type} {view : Session → α}
      (blind : ∀ session budget, view { session with budget } = view session) :
      Extends (Act.read view) (Act.read view)
  | update {change : Session → Session}
      (blind : ∀ session budget, change { session with budget } = { change session with budget }) :
      Extends (Act.update change) (Act.update change)
  | moment : Extends Act.moment Act.moment
  | bind {α β : Type} {first first' : Act α} {next next' : α → Act β} (head : Extends first first')
      (tail : ∀ value, Extends (next value) (next' value)) :
      Extends (first >>= next) (first' >>= next')
  | attempt {α : Type} {action action' : Act α} (inner : Extends action action') :
      Extends (Act.attempt action) (Act.attempt action')

theorem Session.granted_change {change : Session → Session}
    (blind : ∀ session budget, change { session with budget } = { change session with budget })
    (extra : Option Nat) (session : Session) :
    change (session.granted extra) = (change session).granted extra := by
  have kept : (change session).budget = session.budget :=
    (congrArg Session.budget (blind session session.budget) :)
  unfold granted
  rw [blind, kept]

theorem Outcome.Extends.moment (extra : Option Nat) (session : Session) :
    (Act.moment session).Extends extra (Act.moment (session.granted extra)) := by
  cases left : session.budget with
  | none =>
      have unlimited : (session.granted extra).budget = none := by
        cases extra <;> simp [Session.granted, left]
      simp only [Act.moment, left, unlimited]
      exact .done () session
  | some budget =>
      cases budget with
      | zero =>
          simp only [Act.moment, left]
          exact .halted session _
      | succ budget =>
          cases extra with
          | none =>
              simp only [Act.moment, left, Session.granted]
              exact .done () { session with budget := some budget }
          | some more =>
              simp only [Act.moment, left, Session.granted, Option.map_some, Nat.add_right_comm]
              exact .done () { session with budget := some budget }

namespace Act.Extends

theorem outcome {short long : Act α} (longer : Act.Extends short long) (extra : Option Nat)
    (session : Session) : (short session).Extends extra (long (session.granted extra)) := by
  induction longer generalizing session with
  | pure value => exact .done value session
  | raise signal => exact .raised signal session
  | halt action => exact .halted session _
  | @read α view blind =>
      have same : view (session.granted extra) = view session := blind session _
      unfold Act.read
      rw [same]
      exact .done _ session
  | @update change blind =>
      unfold Act.update
      rw [Session.granted_change blind]
      exact .done () (change session)
  | moment => exact .moment extra session
  | @bind _ _ first first' next next' _ _ head tail =>
      have start := head session
      rw [bind_apply, bind_apply]
      generalize first session = outcome at start
      generalize first' (session.granted extra) = outcome' at start
      cases start with
      | done value after => exact tail value after
      | raised signal after => exact .raised signal after
      | halted moment _ => exact .halted moment _
  | @attempt _ action action' _ inner =>
      have start := inner session
      unfold Act.attempt
      generalize action session = outcome at start
      generalize action' (session.granted extra) = outcome' at start
      cases start with
      | done value after => exact .done _ after
      | raised signal after => exact .done _ after
      | halted moment _ => exact .halted moment _

theorem executor : Act.Extends Act.executor Act.executor :=
  .read fun _ _ => rfl

theorem scheduler : Act.Extends Act.scheduler Act.scheduler :=
  .read fun _ _ => rfl

theorem updateScheduler (change : Scheduler → Scheduler) :
    Act.Extends (Act.updateScheduler change) (Act.updateScheduler change) :=
  .update fun _ _ => rfl

theorem note (event : Event) : Act.Extends (Act.note event) (Act.note event) := by
  rw [note_eq]
  exact .bind (.update fun _ _ => rfl) fun _ => .moment

theorem register (task : Task) : Act.Extends (Act.register task) (Act.register task) := by
  rw [register_eq]
  refine .bind (.read fun _ _ => rfl) fun id => ?_
  refine .bind (.update fun _ _ => rfl) fun _ => ?_
  refine .bind .scheduler fun registered => ?_
  exact .bind (.note _) fun _ => .pure id

theorem changing : Act.Changing @Act.Extends where
  pure := .pure
  raise := .raise
  moment := .moment
  read := .read
  update blind _ := .update blind
  bind := .bind
  attempt := .attempt

end Act.Extends

theorem Move.blind {change : Session → Session} (moves : Move change) (session : Session)
    (budget : Option Nat) : change { session with budget } = { change session with budget } := by
  cases moves <;> rfl

theorem Deepens.extends {layer : Layer} {short long : Act α} (deepens : Deepens layer short long) :
    Act.Extends short long := by
  induction deepens with
  | halt => exact .halt _
  | cut _ _ => exact .halt _
  | pure value => exact .pure value
  | fail cause => exact .raise _
  | raise signal => exact .raise signal
  | moment => exact .moment
  | read blind => exact .read blind
  | move moves => exact .update moves.blind
  | positions change => exact Act.Extends.changing.updateExecutor _
  | register _ => exact .register _
  | finalize id => exact Act.Extends.changing.finalize id
  | bind _ _ head tail => exact .bind head tail
  | attempt _ _ _ inner tail => exact .bind (.attempt inner) tail
  | lift _ inner => exact inner
  | calling name _ _ inner => exact Act.Extends.changing.calling name _ inner
  | awaiting id _ inner => exact Act.Extends.changing.awaiting id inner
  | cycle _ exec => exact Act.Extends.changing.cycle exec

theorem Interpreter.DeepensTo.step_extends {short long : Interpreter}
    (deepens : short.DeepensTo long) (id : TaskId) : Act.Extends (short.step id) (long.step id) :=
  Act.Extends.changing.step (fun path statement => (deepens.exec path statement).extends) id

theorem Act.Extends.unlimited {action : Act α} (itself : Act.Extends action action)
    {session after : Session} (result : Except Signal α) (unlimited : session.budget = none)
    (ended : action session = .of after result) : after.budget = none := by
  have same : session.granted none = session := by
    cases session
    cases unlimited
    rfl
  have longer := itself.outcome none session
  rw [same, ended] at longer
  cases result with
  | ok value => exact congrArg (fun outcome => outcome.session.budget) longer.ofDone
  | error signal => exact congrArg (fun outcome => outcome.session.budget) longer.ofRaised

theorem Act.moment_unlimited {session : Session} (unlimited : session.budget = none) :
    Act.moment session = .done () session := by
  unfold Act.moment
  rw [unlimited]

def Session.recorded (event : Event) (session : Session) : Session :=
  { session with journal := event :: session.journal }

theorem Act.note_unlimited {session : Session} (unlimited : session.budget = none) (event : Event) :
    Act.note event session = .done () (session.recorded event) :=
  @Act.moment_unlimited (session.recorded event) unlimited

theorem Act.register_unlimited {session : Session} (unlimited : session.budget = none)
    (task : Task) :
    Act.register task session =
      .done session.scheduler.ids.next ((session.registering task).recorded
        (.registered session.scheduler.ids.next task.name
          (((session.registering task).scheduler.task? session.scheduler.ids.next).any
            Task.autoYield))) := by
  rw [register_eq]
  change (note _ >>= _ : Act TaskId) (session.registering task) = _
  exact bind_of_done (@note_unlimited (session.registering task) unlimited _)

end CooperativeTasks
