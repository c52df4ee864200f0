import CooperativeTasks.Proofs.Extension

set_option autoImplicit false

/-! The moments of a run.

A run that comes to its end takes a number of moments. With fewer of them it is halted on its way,
with more it has the rest left over. So the moments of actions that are joined are the moments of
the first and, after them, those of the second. -/

namespace CooperativeTasks

variable {α β : Type}

def Session.limited (budget : Nat) (session : Session) : Session :=
  { session with budget := some budget }

theorem Session.granted_limited (budget more : Nat) (session : Session) :
    (session.limited budget).granted (some more) = session.limited (budget + more) :=
  rfl

/-- The session is one of those that the run goes through. -/
def Act.Visits (action : Act α) (session moment : Session) : Prop :=
  ∃ budget, action (session.limited budget) = .halted moment

/-! ### How long a run takes -/

namespace Act.Extends

theorem left {short long : Act α} (longer : Act.Extends short long) : Act.Extends short short := by
  induction longer with
  | pure value => exact .pure value
  | raise signal => exact .raise signal
  | halt action => exact .halt _
  | read blind => exact .read blind
  | update blind => exact .update blind
  | moment => exact .moment
  | bind _ _ head tail => exact .bind head tail
  | attempt _ inner => exact .attempt inner

theorem granted {action : Act α} (itself : Act.Extends action action) {session after : Session}
    {result : Except Signal α} (ended : action session = .of after result) (extra : Option Nat) :
    action (session.granted extra) = .of (after.granted extra) result := by
  have longer := itself.outcome extra session
  rw [ended] at longer
  cases result with
  | ok value => exact longer.ofDone
  | error signal => exact longer.ofRaised

theorem lasts {short long : Act α} (longer : Act.Extends short long) {session after : Session}
    {result : Except Signal α} (unlimited : session.budget = none)
    (ended : short session = .of after result) :
    ∃ cost, short (session.limited cost) = .of (after.limited 0) result := by
  -- On how the action is put together: the costs of what is joined add up.
  induction longer generalizing session after with
  | pure value =>
      obtain ⟨rfl, rfl⟩ := Outcome.done_of ended
      exact ⟨0, rfl⟩
  | raise signal =>
      obtain ⟨rfl, rfl⟩ := Outcome.raised_of ended
      exact ⟨0, rfl⟩
  | halt action => exact (Outcome.halted_of ended).elim
  | @read _ view blind =>
      obtain ⟨rfl, rfl⟩ := Outcome.done_of ended
      have same : view (session.limited 0) = view session := blind session (some 0)
      refine ⟨0, ?_⟩
      unfold Act.read
      rw [same]
      rfl
  | @update change blind =>
      obtain ⟨rfl, rfl⟩ := Outcome.done_of ended
      have same : change (session.limited 0) = (change session).limited 0 := blind session (some 0)
      refine ⟨0, ?_⟩
      unfold Act.update
      rw [same]
      rfl
  | moment =>
      rw [Act.moment_unlimited unlimited] at ended
      obtain ⟨rfl, rfl⟩ := Outcome.done_of ended
      exact ⟨1, rfl⟩
  | @bind _ _ first _ next _ head _ starts goesOn =>
      rw [bind_apply] at ended
      rcases (first session).of_or_halted with ⟨result', mid, run⟩ | ⟨moment, run⟩
      · rw [run] at ended
        obtain ⟨cost, spent⟩ := starts unlimited run
        cases result' with
        | ok value =>
            have still : mid.budget = none := head.left.unlimited _ unlimited run
            obtain ⟨more, rest⟩ := goesOn value still ended
            -- With what the rest costs on top, the first action ends with just that much left.
            have through := head.left.granted spent (some more)
            rw [Session.granted_limited, Session.granted_limited, Nat.zero_add] at through
            refine ⟨cost + more, ?_⟩
            rw [bind_apply, through]
            exact rest
        | error signal =>
            obtain ⟨rfl, rfl⟩ := Outcome.raised_of ended
            refine ⟨cost, ?_⟩
            rw [bind_apply, spent]
            rfl
      · rw [run] at ended
        exact (Outcome.halted_of ended).elim
  | @attempt _ action _ _ inner =>
      rcases (action session).of_or_halted with ⟨result', mid, run⟩ | ⟨moment, run⟩
      · rw [attempt_of run] at ended
        obtain ⟨rfl, rfl⟩ := Outcome.done_of ended
        obtain ⟨cost, spent⟩ := inner unlimited run
        exact ⟨cost, attempt_of spent⟩
      · unfold Act.attempt at ended
        rw [run] at ended
        exact (Outcome.halted_of ended).elim

/-- A run takes a number of moments, and with any fewer it is halted. -/
theorem takes {action : Act α} (itself : Act.Extends action action) {session after : Session}
    {result : Except Signal α} (unlimited : session.budget = none)
    (ended : action session = .of after result) :
    ∃ cost, (∀ more, action (session.limited (cost + more)) = .of (after.limited more) result) ∧
      ∀ less, less < cost → ∃ moment, action (session.limited less) = .halted moment := by
  obtain ⟨cost, spent⟩ := itself.lasts unlimited ended
  refine ⟨cost, fun more => ?_, fun less fewer => ?_⟩
  · have through := itself.granted spent (some more)
    rw [Session.granted_limited, Session.granted_limited, Nat.zero_add] at through
    exact through
  · rcases (action (session.limited less)).of_or_halted with ⟨early, mid, run⟩ | halted
    · -- Had it come to an end with less, it would have something left over with the whole.
      have through := itself.granted run (some (cost - less))
      rw [Session.granted_limited, Nat.add_sub_cancel' (Nat.le_of_lt fewer), spent] at through
      have rest : some 0 = mid.budget.map (· + (cost - less)) :=
        congrArg Session.budget (Outcome.of_inj through).1
      cases budget : mid.budget with
      | none =>
          rw [budget] at rest
          cases rest
      | some spare =>
          rw [budget, Option.map_some, Option.some.injEq] at rest
          omega
    · exact halted

/-- A run that comes to its end within a budget takes a part of it and leaves the rest. -/
theorem divides {action : Act α} (itself : Act.Extends action action) {session after : Session}
    {result : Except Signal α} {budget : Nat}
    (ended : action (session.limited budget) = .of after result) :
    ∃ cost rest, budget = cost + rest ∧ after = after.limited rest ∧
      ∀ more, action (session.limited (cost + more)) = .of (after.limited more) result := by
  obtain ⟨cost, enough, short⟩ := itself.takes rfl (itself.granted ended none)
  have within : cost ≤ budget := by
    refine Nat.le_of_not_lt fun fewer => ?_
    obtain ⟨early, cut⟩ := short budget fewer
    exact Outcome.halted_of (cut.symm.trans ended)
  obtain ⟨rest, rfl⟩ := Nat.exists_eq_add_of_le within
  exact ⟨cost, rest, rfl, (Outcome.of_inj (ended.symm.trans (enough rest))).1, enough⟩

end Act.Extends

/-! ### Executions within a run -/

/-- When so many moments have passed, the run is at the beginning of an execution, and it goes
through the moments of that from there on. -/
def Act.Executes (action : Act α) (session : Session) (begun : Nat) (execution : Act Unit)
    (start : Session) : Prop :=
  ∀ more moment, execution (start.limited more) = .halted moment →
    action (session.limited (begun + more)) = .halted moment

namespace Act.Executes

variable {session start : Session} {begun : Nat} {execution : Act Unit}

theorem refl (execution : Act Unit) (session : Session) :
    execution.Executes session 0 execution session := by
  intro more moment cut
  rw [Nat.zero_add]
  exact cut

theorem attempt {action : Act α} (inner : action.Executes session begun execution start) :
    (Act.attempt action).Executes session begun execution start := by
  intro more moment cut
  unfold Act.attempt
  rw [inner more moment cut]

theorem bind {first : Act α} (inner : first.Executes session begun execution start)
    (next : α → Act β) : (first >>= next).Executes session begun execution start :=
  fun more moment cut => bind_of_halted (inner more moment cut)

theorem after {first : Act α} {next : α → Act β} {value : α} {mid : Session} {cost : Nat}
    (ended : ∀ more, first (session.limited (cost + more)) = .done value (mid.limited more))
    (inner : (next value).Executes mid begun execution start) :
    (first >>= next).Executes session (cost + begun) execution start := by
  intro more moment cut
  rw [Nat.add_assoc, bind_of_done (ended (begun + more))]
  exact inner more moment cut

end Act.Executes

/-! ### The moments of actions that are joined -/

namespace Act

variable {action : Act α} {session mid : Session} {result : Except Signal α}

theorem attempt_visits (itself : Act.Extends action action) (unlimited : session.budget = none)
    (ended : action session = .of mid result) (next : Except Signal α → Act β) (moment : Session) :
    (attempt action >>= next).Visits session moment ↔
      action.Visits session moment ∨ (next result).Visits mid moment := by
  obtain ⟨cost, enough, short⟩ := itself.takes unlimited ended
  constructor
  · rintro ⟨budget, halted⟩
    by_cases fewer : budget < cost
    · obtain ⟨early, cut⟩ := short budget fewer
      rw [attempt_bind, cut] at halted
      cases halted
      exact .inl ⟨budget, cut⟩
    · have through := enough (budget - cost)
      rw [Nat.add_sub_cancel' (Nat.le_of_not_lt fewer)] at through
      rw [attempt_bind_of through] at halted
      exact .inr ⟨_, halted⟩
  · rintro (⟨budget, cut⟩ | ⟨more, halted⟩)
    · refine ⟨budget, ?_⟩
      rw [attempt_bind, cut]
    · refine ⟨cost + more, ?_⟩
      rw [attempt_bind_of (enough more)]
      exact halted

theorem bind_visits {first : Act α} {value : α} (itself : Act.Extends first first)
    (unlimited : session.budget = none) (ended : first session = .done value mid)
    (next : α → Act β) (moment : Session) :
    (first >>= next).Visits session moment ↔
      first.Visits session moment ∨ (next value).Visits mid moment := by
  have run : first session = .of mid (.ok value) := ended
  rw [bind_eq_attempt]
  exact attempt_visits itself unlimited run _ moment

theorem bind_visits_raised {first : Act α} {signal : Signal} (itself : Act.Extends first first)
    (unlimited : session.budget = none) (ended : first session = .raised signal mid)
    (next : α → Act β) (moment : Session) :
    (first >>= next).Visits session moment ↔ first.Visits session moment := by
  have run : first session = .of mid (.error signal) := ended
  rw [bind_eq_attempt, attempt_visits itself unlimited run]
  constructor
  · rintro (visited | ⟨budget, impossible⟩)
    · exact visited
    · cases impossible
  · exact .inl

theorem Visits.congr {other : Act α} {session other' moment : Session}
    (same : ∀ budget, action (session.limited budget) = other (other'.limited budget)) :
    action.Visits session moment ↔ other.Visits other' moment := by
  unfold Visits
  simp only [same]

end Act

theorem Act.note_bind_visits (event : Event) (next : Unit → Act β) (session moment : Session) :
    (Act.note event >>= next).Visits session moment ↔
      moment = (session.recorded event).limited 0 ∨ (next ()).Visits (session.recorded event) moment := by
  constructor
  · rintro ⟨budget, halted⟩
    cases budget with
    | zero =>
        cases halted
        exact .inl rfl
    | succ budget => exact .inr ⟨budget, halted⟩
  · rintro (rfl | ⟨budget, halted⟩)
    · exact ⟨0, rfl⟩
    · exact ⟨budget + 1, halted⟩

theorem Interpreter.stepping_visits (interpreter : Interpreter) (id : TaskId) (task : Task)
    (statement : Stmt) (session moment : Session) :
    (interpreter.stepping id task statement).Visits session moment ↔
      (interpreter.exec [.item task.counter] statement).Visits (session.enteringTask id task)
        moment := by
  constructor
  · rintro ⟨budget, halted⟩
    exact ⟨budget, interpreter.stepping_halted halted⟩
  · rintro ⟨budget, halted⟩
    have inside : interpreter.exec [.item task.counter] statement
        ((session.limited budget).enteringTask id task) = .halted moment := halted
    refine ⟨budget, ?_⟩
    unfold stepping
    rw [inside]
    rfl

end CooperativeTasks
