import CooperativeTasks.Proofs.Reachability
import CooperativeTasks.Proofs.Stitching

set_option autoImplicit false

/-! The modes of tasks.

Whether the loops of a task suspend by themselves is settled when it is registered, by a look at its
body, and never changes. -/

namespace CooperativeTasks

variable {α : Type}

/-- The loops of every task suspend by themselves exactly if its body has no yield, as was settled
when the task was registered. -/
def Scheduler.ModesRegistered (scheduler : Scheduler) : Prop :=
  ∀ id terms, scheduler.terms? id = some terms →
    terms.autoYield = terms.body.any fun function => !function.hasYield

namespace Scheduler.ModesRegistered

variable {scheduler : Scheduler} (modes : scheduler.ModesRegistered)

include modes

theorem ofSame {after : Scheduler} (same : ∀ id, after.terms? id = scheduler.terms? id) :
    after.ModesRegistered := by
  intro id terms found
  rw [same] at found
  exact modes id terms found

theorem register {task : Task} (fresh : task.Fresh) :
    (scheduler.register task).2.ModesRegistered := by
  intro id terms found
  rw [terms?_register fresh] at found
  split at found
  · cases found
    rfl
  · exact modes id terms found

theorem bindFuture (id : TaskId) (site : BindingSite) :
    (scheduler.bindFuture id site).ModesRegistered := by
  intro other terms found
  rw [terms?_bindFuture] at found
  split at found
  · obtain ⟨before, known, rfl⟩ := Option.map_eq_some_iff.mp found
    exact modes id before known
  · exact modes other terms found

theorem heldAt (pinned : Option BindingSite) (value : Value) :
    (scheduler.heldAt pinned value).ModesRegistered := by
  rcases heldAt_cases pinned value scheduler with same | ⟨id, site, _, _, same⟩
  · rw [same]
    exact modes
  · rw [same]
    exact modes.bindFuture id site

end Scheduler.ModesRegistered

theorem Act.bind_modesRegistered {β : Type} {first : Act α} {next : α → Act β} {session : Session}
    (head : (first session).session.scheduler.ModesRegistered)
    (tail : ∀ value after, after.scheduler.ModesRegistered →
      (next value after).session.scheduler.ModesRegistered) :
    ((first >>= next) session).session.scheduler.ModesRegistered :=
  Act.bind_session (motive := fun after => after.scheduler.ModesRegistered) head
    fun value after _ => tail value after

/-- However a run ends, and wherever it is halted, tasks have the modes they were registered
with. -/
theorem Act.Stitched.modesRegistered {action : Act α} (stitched : action.Stitched)
    (session : Session) (modes : session.scheduler.ModesRegistered) :
    (action session).session.scheduler.ModesRegistered := by
  have passes (start : Session) (holds : start.scheduler.ModesRegistered) :
      (Act.moment start).session.scheduler.ModesRegistered := by
    unfold Act.moment
    split <;> exact holds
  induction stitched generalizing session with
  | halt => exact modes
  | pure value => exact modes
  | raise signal => exact modes
  | read _ => exact modes
  | moment => exact passes session modes
  | update _ keeps => exact modes.ofSame (keeps session)
  | enlist fresh => exact modes.register fresh
  | @stores statement _ _ _ stores depth path _ evaluates =>
      obtain ⟨store, performs, stored⟩ := Interpreter.perform_stores stores (interpreter depth) path
      refine Act.bind_modesRegistered (passes session modes) fun _ begun starts => ?_
      have performed :
          ((interpreter depth).perform path statement begun).session.scheduler.ModesRegistered := by
        rw [performs]
        refine Act.bind_modesRegistered (evaluates begun starts) fun value evaluated holds => ?_
        obtain ⟨result, ended⟩ := stored value evaluated
        rw [ended]
        cases result <;> exact holds.heldAt _ value
      rw [← Act.attempt_session] at performed
      refine Act.bind_modesRegistered performed fun outcome left holds => ?_
      refine Act.bind_modesRegistered (passes left holds) fun _ after ends => ?_
      cases outcome <;> exact ends
  | bind _ _ head tail =>
      exact Act.bind_modesRegistered (head session modes) fun value after => tail value after
  | attempt _ inner =>
      rw [Act.attempt_session]
      exact inner session modes

theorem request_modesRegistered (depth : Nat) (operation : Operation) (session : Session)
    (modes : session.scheduler.ModesRegistered) :
    ((interpreter depth).request operation session).session.scheduler.ModesRegistered := by
  have stitched := interpreter_stitched depth
  have changing := Act.Stitched.changing
  have whole {action : Act Unit} (sewn : action.Stitched) := sewn.modesRegistered session modes
  cases operation with
  | load program =>
      refine whole (.bind (changing.updateExecutor _) fun _ => ?_)
      exact .bind changing.executor fun _ => changing.note _
  | execute path statement => exact whole (stitched.exec path statement)
  | register task fresh => exact whole (.bind (.register fresh) fun _ => .pure ())
  | spawn function args =>
      exact whole (.bind (.register (.ofFunction function args)) fun _ => .pure ())
  | spawnTimer millis => exact whole (.bind (stitched.spawnTimer millis) fun _ => .pure ())
  | sleep id millis => exact whole (changing.sleepTask id millis)
  | timeout id millis => exact whole (changing.setTimeout id millis)
  | waitOn id awaited => exact whole (changing.modifyTask id fun _ => rfl)
  | clearWait id => exact whole (changing.modifyTask id fun _ => rfl)
  | bindFuture id site => exact modes.bindFuture id site
  | bindReceiver id site => exact whole (changing.modifyTask id fun _ => rfl)
  | finalize id => exact whole (changing.finalize id)
  | step id => exact whole (.bind (step_stitched depth id) fun _ => .pure ())
  | cycle => exact whole stitched.runOneCycle
  | run => exact whole stitched.run
  | runUntilComplete id => exact whole (stitched.runUntilComplete id)
  | pass nanos => exact modes
  | runThrough passing =>
      have passes (nanos : Nat) : (Act.advanceClock nanos).Stitched :=
        changing.update (fun _ _ => rfl) fun _ _ => rfl
      exact whole (stitched.runThrough passes passing)

theorem Session.Reachable.modesRegistered {session : Session} (reachable : session.Reachable) :
    session.scheduler.ModesRegistered := by
  induction reachable with
  | start settings tick => exact fun _ _ impossible => nomatch impossible
  | limited _ budget ih => exact ih
  | later _ nanos ih => exact ih
  | positioned _ positions ih => exact ih
  | globalSet _ name value ih => exact ih
  | requested _ _ depth operation ih => exact request_modesRegistered depth operation _ ih
  | evaluated _ depth expr ih =>
      exact ((interpreter_stitched depth).eval expr).modesRegistered _ ih
  | executed _ depth path statement ih =>
      exact ((interpreter_stitched depth).exec path statement).modesRegistered _ ih

end CooperativeTasks
