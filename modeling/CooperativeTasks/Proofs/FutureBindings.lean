import CooperativeTasks.Proofs.StoredFutures

set_option autoImplicit false

/-! Where the future of a task goes.

A `let` or an assignment that is given the future of an unfinished task binds it to the variable
that it is stored in. Whatever the variable is given later, the future stays bound to it until another
such statement stores it elsewhere, and when the task is finalized its future is written over what the
variable holds by then. -/

namespace CooperativeTasks

variable {α β : Type}

/-! ### From one moment to the next -/

/-- What comes at the next moment, or at the end if no moment is left until then: the future of the
task goes where it went before, or it has just been stored. -/
inductive Outcome.Follows (id : TaskId) (before : Option BindingSite)
    (given : Session → BindingSite → Prop) : Outcome α → Prop where
  | done {value : α} {after : Session} (spent : after.budget = some 0)
      (same : after.scheduler.futureSite? id = before) : Follows id before given (.done value after)
  | raised {signal : Signal} {after : Session} (spent : after.budget = some 0)
      (same : after.scheduler.futureSite? id = before) :
      Follows id before given (.raised signal after)
  | halted {moment : Session} (same : moment.scheduler.futureSite? id = before) :
      Follows id before given (.halted moment)
  | stored {moment : Session} {site : BindingSite} (stored : moment.FutureStored id site)
      (gives : given moment site) : Follows id before given (.halted moment)

theorem Outcome.Follows.imp {id : TaskId} {before : Option BindingSite}
    {given given' : Session → BindingSite → Prop} {outcome : Outcome α}
    (followed : outcome.Follows id before given)
    (implies : ∀ moment site, given moment site → given' moment site) :
    outcome.Follows id before given' := by
  cases followed with
  | done spent same => exact .done spent same
  | raised spent same => exact .raised spent same
  | halted same => exact .halted same
  | stored stored gives => exact .stored stored (implies _ _ gives)

/-- The future of a task goes where it went, up to the first moment and from every moment up to the
next, unless a statement gives it to another variable right before. -/
structure Act.Paced (id : TaskId) (action : Act α) : Prop where
  itself : Act.Extends action action
  begins : ∀ session, (action (session.limited 0)).Follows id (session.scheduler.futureSite? id)
    (action.GivesFuture id session 0)
  continues : ∀ session passed moment, action (session.limited passed) = .halted moment →
    (action (session.limited (passed + 1))).Follows id (moment.scheduler.futureSite? id)
      (action.GivesFuture id session (passed + 1))

namespace Act.Paced

variable {id : TaskId}

theorem ofDone {action : Act α} (itself : Act.Extends action action) {value : Session → α}
    {change : Session → Session}
    (ends : ∀ session, action session = .done (value session) (change session))
    (budget : ∀ session, (change session).budget = session.budget)
    (same : ∀ session, (change session).scheduler.futureSite? id =
      session.scheduler.futureSite? id) : action.Paced id where
  itself := itself
  begins session := by
    rw [ends]
    exact .done (budget _) (same _)
  continues session passed moment halted := by
    rw [ends] at halted
    cases halted

theorem raise (signal : Signal) : (Act.raise signal : Act α).Paced id where
  itself := .raise signal
  begins _ := .raised rfl rfl
  continues _ _ _ halted := by cases halted

theorem halt : (Act.halt : Act α).Paced id where
  itself := .halt _
  begins _ := .halted rfl
  continues _ _ _ halted := by
    cases halted
    exact .halted rfl

theorem moment : Act.moment.Paced id where
  itself := .moment
  begins _ := .halted rfl
  continues session passed moment halted := by
    cases passed with
    | zero =>
        cases halted
        exact .done rfl rfl
    | succ passed => cases halted

theorem follows_bind {first : Act α} {next : α → Act β} {before : Option BindingSite}
    {session : Session} {passed : Nat} (itself : Act.Extends first first)
    (followed : (first (session.limited passed)).Follows id before
      (first.GivesFuture id session passed)) (tail : ∀ value, (next value).Paced id) :
    ((first >>= next) (session.limited passed)).Follows id before
      ((first >>= next).GivesFuture id session passed) := by
  generalize run : first (session.limited passed) = outcome at followed
  cases followed with
  | @done value after spent same =>
      have ended : first (session.limited passed) = .of after (.ok value) := run
      have whole : after.limited 0 = after := by
        unfold Session.limited
        rw [← spent]
      have through (more : Nat) :
          first (session.limited (passed + more)) = .done value (after.limited more) := by
        have longer := itself.granted ended (some more)
        rw [← whole, Session.granted_limited, Session.granted_limited, Nat.zero_add] at longer
        exact longer
      have begins := (tail value).begins after
      rw [bind_of_done run, ← same]
      rw [whole] at begins
      exact begins.imp fun moment site given => .after through given
  | raised spent same =>
      rw [bind_of_raised run]
      exact .raised spent same
  | halted same =>
      rw [bind_of_halted run]
      exact .halted same
  | stored stored given =>
      rw [bind_of_halted run]
      exact .stored stored (given.bind next)

theorem bind {first : Act α} {next : α → Act β} (head : first.Paced id)
    (tail : ∀ value, (next value).Paced id) : (first >>= next).Paced id where
  itself := .bind head.itself fun value => (tail value).itself
  begins session := follows_bind head.itself (head.begins session) tail
  continues session passed moment halted := by
    cases run : first (session.limited passed) with
    | done value mid =>
        rw [bind_of_done run] at halted
        have ended : first (session.limited passed) = .of mid (.ok value) := run
        obtain ⟨cost, rest, rfl, left, enough⟩ := head.itself.divides ended
        rw [left] at halted
        have later := (tail value).continues mid rest moment halted
        rw [Nat.add_assoc, bind_of_done (enough (rest + 1))]
        exact later.imp fun moment site given => .after enough given
    | raised signal mid =>
        rw [bind_of_raised run] at halted
        cases halted
    | halted cut =>
        rw [bind_of_halted run] at halted
        cases halted
        exact follows_bind head.itself (head.continues session passed moment run) tail

theorem attempt {action : Act α} (inner : action.Paced id) : (Act.attempt action).Paced id := by
  have passes {before : Option BindingSite} {session : Session} {passed : Nat}
      (followed : (action (session.limited passed)).Follows id before
        (action.GivesFuture id session passed)) :
      (Act.attempt action (session.limited passed)).Follows id before
        ((Act.attempt action).GivesFuture id session passed) := by
    generalize run : action (session.limited passed) = outcome at followed
    unfold Act.attempt
    rw [run]
    cases followed with
    | done spent same => exact .done spent same
    | raised spent same => exact .done spent same
    | halted same => exact .halted same
    | stored stored given => exact .stored stored given.attempt
  refine ⟨.attempt inner.itself, fun session => ?_, fun session passed moment halted => ?_⟩
  · exact passes (inner.begins session)
  · exact passes (inner.continues session passed moment (attempt_halted halted))

theorem follows_ending {before : Option BindingSite} {given : Session → BindingSite → Prop}
    {session : Session} (single : session.budget = some 1)
    (same : session.scheduler.futureSite? id = before) (outcome : Except Signal α) :
    (Act.ending outcome session).Follows id before given := by
  have passes : Act.moment session = .done () { session with budget := some 0 } := by
    unfold Act.moment
    rw [single]
  have ended : Act.ending outcome session = Act.ofAttempt outcome { session with budget := some 0 } :=
    bind_of_done passes
  rw [ended]
  cases outcome with
  | ok value => exact .done rfl same
  | error signal => exact .raised rfl same

section Storing

variable {statement : Stmt} {expr : Expr} {pinned : Executor → Option BindingSite}
  {write : Value → ScopeStack → ScopeStack} (stores : statement.Stores expr pinned write)
  (depth : Nat) (path : Path)

include stores

theorem follows_storing {before : Option BindingSite} {session : Session} {passed : Nat}
    (followed : ((interpreter depth).eval expr (session.limited passed)).Follows id before
      (((interpreter depth).eval expr).GivesFuture id session passed)) :
    ((interpreter depth).execStmt path statement (session.limited (passed + 1))).Follows id before
      (((interpreter depth).execStmt path statement).GivesFuture id session (passed + 1)) := by
  generalize run : (interpreter depth).eval expr (session.limited passed) = outcome at followed
  cases followed with
  | @done value evaluated spent same =>
      have ended : (interpreter depth).eval expr (session.limited passed) =
        .of evaluated (.ok value) := run
      obtain ⟨outcome, executed⟩ := Interpreter.execStmt_evaluated stores path ended
      rw [ending_spent (by exact spent)] at executed
      rw [executed]
      rcases evaluated.storing_cases (stores.storesIn value) id with
        kept | ⟨site, names, points, stored⟩
      · exact .halted (kept.trans same)
      · refine .stored stored ?_
        rw [← Nat.zero_add (passed + 1)]
        exact .intro (.refl _ session) executed (.intro stores run names points)
  | @raised signal evaluated spent same =>
      have ended : (interpreter depth).eval expr (session.limited passed) =
        .of evaluated (.error signal) := run
      obtain ⟨outcome, executed⟩ := Interpreter.execStmt_evaluated stores path ended
      rw [executed, ending_spent (by exact spent)]
      exact .halted same
  | halted same =>
      rw [Interpreter.execStmt_halted stores path run]
      exact .halted same
  | stored stored given =>
      obtain ⟨store, performs, _⟩ := Interpreter.perform_stores stores (interpreter depth) path
      have performed := given.bind store
      rw [← performs] at performed
      have starts (more : Nat) :
          Act.moment (session.limited (1 + more)) = .done () (session.limited more) := by
        rw [Nat.add_comm]
        rfl
      rw [Interpreter.execStmt_halted stores path run, Nat.add_comm passed 1]
      exact .stored stored (.after starts (performed.attempt.bind _))

theorem storing (inner : ((interpreter depth).eval expr).Paced id) :
    ((interpreter depth).execStmt path statement).Paced id where
  itself := ((interpreter_deepens (Nat.le_refl (depth + 1))).exec path statement).extends
  begins _ := .halted rfl
  continues session passed moment halted := by
    cases passed with
    | zero =>
        have start : moment = session.limited 0 := by
          cases halted
          rfl
        rw [start]
        exact follows_storing stores depth path (inner.begins session)
    | succ passed =>
        rcases ((interpreter depth).eval expr (session.limited passed)).of_or_halted with
          ⟨result, evaluated, run⟩ | ⟨cut, run⟩
        · obtain ⟨outcome, executed⟩ := Interpreter.execStmt_evaluated stores path run
          rw [executed] at halted
          obtain ⟨spent, rfl⟩ := ending_halted halted
          have longer := inner.itself.granted run (some 1)
          rw [Session.granted_limited] at longer
          obtain ⟨outcome', executed'⟩ := Interpreter.execStmt_evaluated stores path longer
          rw [Session.storingResult_granted] at executed'
          have single : ((evaluated.storingResult pinned write result).granted (some 1)).budget =
              some 1 := by
            unfold Session.granted
            rw [spent]
            rfl
          rw [executed']
          exact follows_ending single rfl outcome'
        · rw [Interpreter.execStmt_halted stores path run] at halted
          cases halted
          exact follows_storing stores depth path (inner.continues session passed moment run)

end Storing

end Act.Paced

/-- The future of a task goes from moment to moment like this in everything that is done. -/
theorem Act.Stitched.paced {action : Act α} (stitched : action.Stitched) (id : TaskId) :
    action.Paced id := by
  -- On the pieces: only those that store a value send a future anywhere.
  induction stitched with
  | halt => exact .halt
  | pure value => exact .ofDone (.pure value) (fun _ => rfl) (fun _ => rfl) fun _ => rfl
  | raise signal => exact .raise signal
  | moment => exact .moment
  | read blind => exact .ofDone (.read blind) (fun _ => rfl) (fun _ => rfl) fun _ => rfl
  | @update change blind keeps =>
      refine .ofDone (.update blind) (fun _ => rfl) (fun session => ?_) fun session => ?_
      · exact (congrArg Session.budget (blind session session.budget) :)
      · exact Scheduler.futureSite?_congr (keeps session id)
  | @enlist task fresh =>
      refine .ofDone (.updateScheduler _) (fun _ => rfl) (fun _ => rfl) fun session => ?_
      exact Scheduler.futureSite?_register fresh id session.scheduler
  | stores stores depth path _ inner => exact .storing stores depth path inner
  | bind _ _ head tail => exact .bind head tail
  | attempt _ inner => exact .attempt inner

/-! ### From one moment to any later one -/

namespace Act

/-- The session that a run has come to when so many moments have passed, or at its end before. -/
def reached (action : Act α) (session : Session) (moments : Nat) : Session :=
  (action (session.limited moments)).session

/-- At the moment at which a run is halted, a `let` or an assignment has stored the future of the
task where it still goes to when more moments have passed. -/
structure StoresFor (action : Act α) (id : TaskId) (session : Session) (passed last : Nat)
    (moment : Session) (site : BindingSite) : Prop where
  halted : action (session.limited passed) = .halted moment
  given : action.GivesFuture id session passed moment site
  stored : moment.FutureStored id site
  stays : (action.reached session last).scheduler.futureSite? id = some site

/-- All along a run the future of a task goes where it went, up to a moment at which it is stored,
and then where it has been stored. -/
structure KeepsFuture (action : Act α) (id : TaskId) : Prop where
  fromStart : ∀ session last,
    (action.reached session last).scheduler.futureSite? id = session.scheduler.futureSite? id ∨
      ∃ passed moment site, passed ≤ last ∧ action.StoresFor id session passed last moment site
  onwards : ∀ session first last, first ≤ last →
    (action.reached session last).scheduler.futureSite? id =
        (action.reached session first).scheduler.futureSite? id ∨
      ∃ passed moment site, first < passed ∧ passed ≤ last ∧
        action.StoresFor id session passed last moment site

namespace Paced

variable {id : TaskId} {action : Act α}

theorem reached_of_follows {before : Option BindingSite} {session : Session} {moments : Nat}
    (followed : (action (session.limited moments)).Follows id before
      (action.GivesFuture id session moments)) :
    (action.reached session moments).scheduler.futureSite? id = before ∨
      ∃ moment site, action.StoresFor id session moments moments moment site := by
  unfold reached
  generalize ended : action (session.limited moments) = outcome at followed
  cases followed with
  | done _ same => exact .inl same
  | raised _ same => exact .inl same
  | halted same => exact .inl same
  | @stored moment site stored given =>
      refine .inr ⟨moment, site, ended, given, stored, ?_⟩
      unfold reached
      rw [ended]
      exact stored.bound

variable (paced : action.Paced id)

include paced

theorem reached_succ (session : Session) (moments : Nat) :
    (action.reached session (moments + 1)).scheduler.futureSite? id =
        (action.reached session moments).scheduler.futureSite? id ∨
      ∃ moment site, action.StoresFor id session (moments + 1) (moments + 1) moment site := by
  rcases (action (session.limited moments)).of_or_halted with ⟨result, after, run⟩ | ⟨before, run⟩
  · have longer := paced.itself.granted run (some 1)
    rw [Session.granted_limited] at longer
    left
    unfold reached
    rw [run, longer]
    cases result <;> rfl
  · have here : action.reached session moments = before := by
      unfold reached
      rw [run]
      rfl
    rw [here]
    exact reached_of_follows (paced.continues session moments before run)

theorem keepsFuture : action.KeepsFuture id := by
  have onwards (session : Session) (first more : Nat) :
      (action.reached session (first + more)).scheduler.futureSite? id =
          (action.reached session first).scheduler.futureSite? id ∨
        ∃ passed moment site, first < passed ∧ passed ≤ first + more ∧
          action.StoresFor id session passed (first + more) moment site := by
    induction more with
    | zero => exact .inl rfl
    | succ more ih =>
        rcases paced.reached_succ session (first + more) with same | ⟨moment, site, stores⟩
        · rw [← Nat.add_assoc, same]
          rcases ih with kept | ⟨passed, moment, site, later, within, stores⟩
          · exact .inl kept
          · exact .inr ⟨passed, moment, site, later, Nat.le_succ_of_le within, stores.halted,
              stores.given, stores.stored, same.trans stores.stays⟩
        · exact .inr ⟨first + more + 1, moment, site, by omega, Nat.le_refl _, stores⟩
  constructor
  · intro session last
    have along := onwards session 0 last
    rw [Nat.zero_add] at along
    rcases along with kept | ⟨passed, moment, site, _, within, stores⟩
    · rcases reached_of_follows (paced.begins session) with same | ⟨moment, site, stores⟩
      · exact .inl (kept.trans same)
      · exact .inr ⟨0, moment, site, Nat.zero_le last, stores.halted, stores.given, stores.stored,
          kept.trans stores.stays⟩
    · exact .inr ⟨passed, moment, site, within, stores⟩
  · intro session first last ordered
    have along := onwards session first (last - first)
    rwa [Nat.add_sub_cancel' ordered] at along

end Paced

end Act

/-! ### Binding and publishing -/

namespace Interpreter

variable {interpreter : Interpreter} {session evaluated : Session} {expr : Expr} {value : Value}
  {id : TaskId} {task : Task} {site : BindingSite}

/-- The future of an unfinished task is bound to the variable that it is stored in. -/
theorem perform_stores_future {statement : Stmt} {pinned : Executor → Option BindingSite}
    {write : Value → ScopeStack → ScopeStack} (stores : statement.Stores expr pinned write)
    (path : Path) (evaluates : interpreter.eval expr session = .done value evaluated)
    (names : Future.taskOf? value = some id) (found : evaluated.scheduler.task? id = some task)
    (unfinished : task.isFinished = false) (points : pinned evaluated.executor = some site) :
    (interpreter.perform path statement session).session.FutureStored id site := by
  obtain ⟨store, performs, stored⟩ := perform_stores stores interpreter path
  obtain ⟨result, ended⟩ := stored value evaluated
  have after : (interpreter.perform path statement session).session =
      evaluated.storing (pinned evaluated.executor) value (write value) := by
    rw [performs, Act.bind_of_done evaluates, ended]
    cases result <;> rfl
  rw [after]
  exact evaluated.storing_future (stores.storesIn value) id names points found unfinished

end Interpreter

/-- The future of a finished task has been published. It stands in the variable to which it is
bound, if there still is one, whatever that held before. Apart from what the instance of the task
has been written over, no other name at any spot has another value. -/
structure Session.FuturePublished (id : TaskId) (task : Task) (before after : Session) : Prop where
  overwritten : ∀ site spot, before.scheduler.futureSite? id = some site →
    before.spot? site = some spot → before.receiverReport? task spot site.name = none →
    after.bound? spot site.name =
      (before.bound? spot site.name).map fun _ => task.future.toValue (some id)
  untouched : ∀ spot name, before.receiverReport? task spot name = none →
    (∀ site, before.scheduler.futureSite? id = some site → before.spot? site = some spot →
      site.name ≠ name) →
    after.bound? spot name = before.bound? spot name

theorem finalize_publishes {session : Session} {id : TaskId} {task : Task}
    (unlimited : session.budget = none) (found : session.scheduler.task? id = some task)
    (finished : task.isFinished = true) (unpublished : task.isPublished = false) :
    ∃ after, Act.finalize id session = .done () after ∧
      session.FuturePublished id task after := by
  obtain ⟨after, ran, finalized⟩ := finalize_finalizes unlimited found finished unpublished
  have goes : session.scheduler.futureSite? id = task.futureSite := by
    unfold Scheduler.futureSite?
    rw [found]
    rfl
  refine ⟨after, ran, ?_, ?_⟩
  · intro site spot bound points alone
    exact finalized.future site spot (goes.symm.trans bound) points alone
  · intro spot name alone elsewhere
    have silent : session.futureReport? id task spot name = none := by
      refine Option.bind_eq_none_iff.mpr fun site bound => ?_
      unfold Session.written?
      split
      · rename_i points
        have other := elsewhere site (goes.trans bound) points
        simp [Bindings.get?, other]
      · rfl
    have kept := finalized.overwritten.bound spot name
    rw [alone, silent] at kept
    rw [kept]
    unfold Session.bound?
    rw [Session.scopeAt?_reporting]
    cases (session.scopeAt? spot).bind (Scope.get? name) <;> rfl

/-- The future of an unfinished task is bound by a `let` to the variable that this defines, and by
an assignment to the one that this overwrites. Whatever a program, a step or a statement does after
that, the future goes there until it comes to a `let` or an assignment that stores it elsewhere,
which then is where it goes. And what the variable has been given in the meantime is overwritten when
the task is finalized, while no other variable is, unless the instance of the task is written
there. -/
theorem futures_go_where_stored_last (depth : Nat) (id : TaskId) :
    (∀ path name expr session value evaluated task site,
      (interpreter depth).eval expr session = .done value evaluated →
      Future.taskOf? value = some id → evaluated.scheduler.task? id = some task →
      task.isFinished = false → evaluated.executor.localSite? name = some site →
      ((interpreter depth).perform path (.letVar name expr) session).session.FutureStored id site) ∧
    (∀ path target expr session value evaluated task site,
      (interpreter depth).eval expr session = .done value evaluated →
      Future.taskOf? value = some id → evaluated.scheduler.task? id = some task →
      task.isFinished = false → evaluated.executor.site? target = some site →
      ((interpreter depth).perform path (.assign target expr) session).session.FutureStored id
        site) ∧
    (∀ program, ((interpreter depth).runProgram program).KeepsFuture id) ∧
    (∀ other, ((interpreter depth).step other).KeepsFuture id) ∧
    (∀ path statement, ((interpreter depth).exec path statement).KeepsFuture id) ∧
    ∀ session task, session.budget = none → session.scheduler.task? id = some task →
      task.isFinished = true → task.isPublished = false →
      ∃ after, Act.finalize id session = .done () after ∧
        session.FuturePublished id task after := by
  have stitched := interpreter_stitched depth
  refine ⟨?_, ?_, fun program => ?_, fun other => ?_, fun path statement => ?_, ?_⟩
  · intro path name expr session value evaluated task site evaluates names found unfinished points
    exact Interpreter.perform_stores_future (.letVar name expr) path evaluates names found unfinished
      points
  · intro path target expr session value evaluated task site evaluates names found unfinished points
    exact Interpreter.perform_stores_future (.assign target expr) path evaluates names found
      unfinished points
  · exact ((runProgram_stitched depth program).paced id).keepsFuture
  · exact ((step_stitched depth other).paced id).keepsFuture
  · exact ((stitched.exec path statement).paced id).keepsFuture
  · exact fun session task unlimited found finished unpublished =>
      finalize_publishes unlimited found finished unpublished

def answering : Program where
  structs := []
  main := []
  functions :=
    [{ name := "answer", params := [], body := [.returning (some (.lit (.int 1)))],
       isAsync := true, owner := none }]

def loadedAnswering : Session := ((interpreter 0).request (.load answering) (.start {} 0)).session

def holdingAnswer : Session :=
  ((interpreter 3).exec [] (.letVar "f" (.call "answer" [])) loadedAnswering).session

/-- The session in which the variable has been given a number, and then the task has finished. -/
def reassigned : Session :=
  let assigned := ((interpreter 2).exec [] (.assign "f" (.lit (.int 5))) holdingAnswer).session
  ((interpreter 5).request (.step ⟨0⟩) assigned).session

theorem futures_go_where_stored_last_reassigned :
    ∃ task after,
      ((interpreter 2).perform [] (.letVar "f" (.call "answer" []))
        loadedAnswering).session.FutureStored ⟨0⟩ ⟨"f", ⟨0⟩, none⟩ ∧
      ((interpreter 2).perform [] (.assign "f" (.var "f")) holdingAnswer).session.FutureStored ⟨0⟩
        ⟨"f", ⟨0⟩, none⟩ ∧
      ((interpreter 2).exec [] (.assign "f" (.lit (.int 5)))).KeepsFuture ⟨0⟩ ∧
      reassigned.bound? (.live 0) "f" = some (.int 5) ∧
      reassigned.scheduler.task? ⟨0⟩ = some task ∧
      Act.finalize ⟨0⟩ reassigned = .done () after ∧
      after.bound? (.live 0) "f" = some (task.future.toValue (some ⟨0⟩)) := by
  obtain ⟨lets, assigns, _, _, statements, finalizes⟩ := futures_go_where_stored_last 2 ⟨0⟩
  have stored := lets [] "f" (.call "answer" []) loadedAnswering (Future.pending.toValue (some ⟨0⟩))
    _ _ ⟨"f", ⟨0⟩, none⟩ rfl rfl rfl rfl rfl
  have again := assigns [] "f" (.var "f") holdingAnswer (Future.pending.toValue (some ⟨0⟩)) _ _
    ⟨"f", ⟨0⟩, none⟩ rfl rfl rfl rfl rfl
  obtain ⟨task, found, finished, unpublished, bound, alone⟩ :
      ∃ task, reassigned.scheduler.task? ⟨0⟩ = some task ∧ task.isFinished = true ∧
        task.isPublished = false ∧
        reassigned.scheduler.futureSite? ⟨0⟩ = some ⟨"f", ⟨0⟩, none⟩ ∧
        reassigned.receiverReport? task (.live 0) "f" = none :=
    ⟨_, rfl, rfl, rfl, rfl, rfl⟩
  obtain ⟨after, ran, published⟩ := finalizes reassigned task rfl found finished unpublished
  exact ⟨task, after, stored, again, statements [] _, rfl, found, ran,
    published.overwritten ⟨"f", ⟨0⟩, none⟩ (.live 0) bound rfl alone⟩

/-- A variable is not spared for having been given another value since the future was bound to
it. -/
theorem finalizing_spares_no_later_value :
    ¬ ∀ (depth : Nat) (name : String) (future other : Expr) (start held given ended after : Session)
      (id : TaskId) (site : BindingSite) (spot : Spot) (value : Value),
      start.Reachable →
      (interpreter depth).exec [] (.letVar name future) start = .done () held →
      held.FutureStored id site →
      (interpreter depth).exec [] (.assign name other) held = .done () given →
      given.spot? site = some spot → given.bound? spot name = some value →
      Future.taskOf? value ≠ some id →
      (interpreter depth).step id given = .done .done ended →
      Act.finalize id ended = .done () after →
      after.bound? spot name = some value := by
  intro spared
  have reachable : loadedAnswering.Reachable :=
    (Session.Reachable.start {} 0).requested rfl 0 (.load answering)
  have kept := spared 4 "f" (.call "answer" []) (.lit (.int 5)) loadedAnswering _ _ _ _ ⟨0⟩
    ⟨"f", ⟨0⟩, none⟩ (.live 0) (.int 5) reachable rfl
    ⟨rfl, rfl, Future.pending.toValue (some ⟨0⟩), rfl, rfl⟩ rfl rfl rfl
    (fun impossible => nomatch impossible) rfl rfl
  exact nomatch kept

end CooperativeTasks
