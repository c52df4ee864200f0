import CooperativeTasks.Proofs.Lasting
import CooperativeTasks.Proofs.Transparency

set_option autoImplicit false

/-! Turns of a task whose body does not come to an end.

A plain body that is halted when it is executed in one go, however deep it may go, is not brought to
its end in any number of turns as the only task. The statements before the one that does not end are
followed as far as they go. -/

namespace CooperativeTasks

namespace Interpreter

/-- So many turns do not bring the only task to its end, be it that one of them is halted. -/
inductive Drags (interpreter : Interpreter) : Nat → Session → Prop where
  | begun (session : Session) : Drags interpreter 0 session
  | halted {count : Nat} {session moment : Session}
      (unfinished : session.scheduler.isFinished onlyTask = false)
      (turns : interpreter.turn [] session = .halted moment) : Drags interpreter count session
  | turn {count : Nat} {session after : Session}
      (unfinished : session.scheduler.isFinished onlyTask = false)
      (turns : interpreter.turn [] session = .done (some []) after)
      (drags : Drags interpreter count after) : Drags interpreter (count + 1) session

theorem Drags.after {interpreter : Interpreter} {count : Nat} {session after : Session}
    (unfinished : session.scheduler.isFinished onlyTask = false)
    (turns : interpreter.turn [] session = .done (some []) after)
    (drags : ∀ fewer, fewer + 1 = count → interpreter.Drags fewer after) :
    interpreter.Drags count session := by
  cases count with
  | zero => exact .begun session
  | succ count => exact .turn unfinished turns (drags count rfl)

theorem Turning.halts {interpreter : Interpreter} {function : FunctionDecl}
    {receiver : Option Receiver} {height index : Nat} {statement : Stmt} {task : Task}
    {session start moment : Session}
    (turning : interpreter.Turning function receiver height index statement task session start)
    (run : interpreter.exec [.item index] statement start = .halted moment) :
    ∃ moment', interpreter.turn [] session = .halted moment' := by
  refine ⟨moment, ?_⟩
  rw [turning.turns, run]
  rfl

end Interpreter

section

open Interpreter

variable {depth deep height index : Nat} {function : FunctionDecl} {receiver : Option Receiver}
  {statement : Stmt} {rest : List Stmt}

theorem statement_drags (here : function.body.drop index = statement :: rest)
    {goal : Nat → Session → Outcome Unit → Prop} {count : Nat} {start : Session}
    {outcome : Outcome Unit}
    (pends : ((interpreter depth).statementSegment [.item index] statement).Pends goal count start
      outcome)
    (met : ∀ fewer ≤ count, ∀ start task session,
      goal fewer start ((interpreter depth).exec [.item index] statement start) → start.InTask →
      Waiting [] function.body index start.executor.positions →
      (interpreter depth).Turning function receiver height index statement task session start →
        (interpreter depth).Drags fewer session)
    (run : (interpreter depth).exec [.item index] statement start = outcome) (inTask : start.InTask)
    (waiting : Waiting [] function.body index start.executor.positions) {task : Task}
    {session : Session}
    (turning :
      (interpreter depth).Turning function receiver height index statement task session start) :
    (interpreter depth).Drags count session := by
  induction pends generalizing task session with
  | met reached =>
      rw [← run] at reached
      exact met _ (Nat.le_refl _) _ task session reached inTask waiting turning
  | halted count start moment =>
      obtain ⟨moment, turns⟩ := turning.halts run
      exact .halted turning.parked.unfinished turns
  | @suspended count start after runs rests resumes ih =>
      obtain ⟨next, resting, resumed, turns, again, resumes, inside, waits⟩ :=
        turning_again here runs run inTask waiting turning
      refine .after turning.parked.unfinished turns fun fewer one => ?_
      refine ih fewer one resumed resumes ?_ rfl inside waits again
      intro least less
      exact met least (by omega)

/-- From a turn in which the only task comes to the rest of its body, no number of turns leads to its
end if that rest is halted in one go. -/
theorem body_drags {limit : Nat} (enough : (limit + 1) * (depth + 1) ≤ deep)
    (plain : arePlain rest = true) (here : function.body.drop index = rest)
    {alone stopped moment : Session} (starts : ListStarts [] function.body alone stopped)
    {task : Task} {session : Session}
    (parked : Resting function receiver height stopped.executor task session)
    (counter : task.counter = index)
    (halted : (interpreter deep).execFrom (.of [] function.body) [] index rest alone =
      .halted moment) {count : Nat} (bounded : count ≤ limit) :
    (interpreter depth).Drags count session := by
  have deeper : depth ≤ deep :=
    Nat.le_trans (Nat.le_trans (Nat.le_succ depth) (Nat.le_mul_of_pos_left _ limit.succ_pos)) enough
  -- On the statements that are left. One that breaks off ends the whole body, which is not halted
  -- then.
  induction rest generalizing index alone stopped task session count with
  | nil => cases halted
  | cons statement rest ih =>
      have present := ne_nil_of_drop here
      have next := drop_succ_of_drop here
      simp only [arePlain, Bool.and_eq_true] at plain
      obtain ⟨start, enters, turning⟩ := turning_of_parked (interpreter depth) here parked counter
      have entered : ListStarts [] function.body alone start :=
        starts.of_executor enters turning.underway.budget
      have head := @ListStarts.head (interpreter depth) _ _ index _ _ entered present statement
      have waiting : Waiting [] function.body index start.executor.positions :=
        entered.waiting present
      have deepens := (interpreter_deepens deeper).exec [.item index] statement
      rw [execFrom_cons] at halted
      cases run : (interpreter deep).exec [.item index] statement alone with
      | halted moment =>
          have lasts := interpreter_lasting enough [.item index] statement plain.1 alone start head
            moment run count bounded
          exact statement_drags here lasts (fun _ _ _ _ _ reached => reached.elim) rfl entered.inTask
            waiting turning
      | raised signal middle =>
          obtain ⟨calm, -⟩ := @Segment.Follows.pends _ _ _ _ _
            (interpreter_settling deep [.item index] statement plain.1) deepens.extends
            deepens.extends _ _ _ head (.error signal) run count
          rw [run, listEnding_broken] at halted
          · cases halted
          · intro fromLoop same
            exact calm.goesOn fromLoop (by rw [same])
      | done value middle =>
          rw [run] at halted
          obtain ⟨calm, pends⟩ := @Segment.Follows.pends _ _ _ _ _
            (interpreter_settling deep [.item index] statement plain.1) deepens.extends
            deepens.extends _ _ _ head (.ok ()) run count
          have more : ¬ function.body.length ≤ index + 1 := by
            intro last
            obtain rfl : rest = [] := by
              rw [← next]
              exact List.drop_eq_nil_of_le last
            cases halted
          refine statement_drags here pends ?_ rfl entered.inTask waiting turning
          intro fewer below start task session ended inTask waits turning
          obtain ⟨after, completes, beside, runs, clean⟩ := ended
          have goesOn : ListStarts [] function.body middle after := by
            refine waits.starts present calm.alone ?_ (runs.inTask inTask) beside runs clean
            intro mark within
            exact (calm.reads mark).trans (starts.cleanAlone mark within)
          obtain ⟨later, resting, turns, parked, counter⟩ : ∃ later resting,
              (interpreter depth).turn [] session = .done (some []) later ∧
              Resting function receiver height after.executor resting later ∧
              resting.counter = index + 1 := by
            generalize ended : (interpreter depth).exec [.item index] statement start = outcome
              at completes
            cases completes with
            | done => exact turning.advances (@ran_of_runs _ _ _ _ _ _ runs (.ok ()) ended) ended more
            | yielded allowed =>
                exact turning.suspends (@ran_of_runs _ _ _ _ _ _ runs (.error _) ended) ended
          refine .after turning.parked.unfinished turns fun least one => ?_
          exact ih plain.2 next goesOn parked counter halted (by omega)

end

end CooperativeTasks
