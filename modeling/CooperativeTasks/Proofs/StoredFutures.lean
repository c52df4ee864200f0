import CooperativeTasks.Proofs.Assignments
import CooperativeTasks.Proofs.MethodScopes
import CooperativeTasks.Proofs.Moments
import CooperativeTasks.Proofs.Stitching

set_option autoImplicit false

/-! Statements that store a future.

A `let` stores a value in the variable that it defines, an assignment in the one that it overwrites.
Either of them, given the future of an unfinished task, binds that to the variable; and a run in which
this happens comes to the statement at some moment, goes through the moments of the statement, and has
the future stored at the last of them. -/

namespace CooperativeTasks

variable {α β : Type}

/-! ### The innermost binding of a name -/

namespace ScopeStack

section

variable {name : String} {value : Value} {stack : ScopeStack}

theorem frameOf?_define :
    (stack.define name value).frameOf? name = stack.current.id ∧
      (stack.define name value).lookup? name = some value := by
  have here (scope : Scope) : (scope.define name value).get? name = some value :=
    Bindings.get?_insert_self name value scope.bindings
  have binds (scope : Scope) : (scope.define name value).contains name = true := by
    unfold Scope.contains Bindings.contains
    exact congrArg Option.isSome (here scope)
  obtain ⟨global, inner, nextId⟩ := stack
  cases inner with
  | nil =>
      constructor
      · unfold frameOf?
        exact congrArg (Option.bind · Scope.id) (List.find?_cons_of_pos (binds global))
      · exact lookup?_of_current (here global)
  | cons innermost rest =>
      constructor
      · unfold frameOf?
        exact congrArg (Option.bind · Scope.id) (List.find?_cons_of_pos (binds innermost))
      · exact lookup?_of_current (here innermost)

theorem frameOf?_congr {other : ScopeStack}
    (same : other.frames.map Scope.outline = stack.frames.map Scope.outline) (name : String) :
    other.frameOf? name = stack.frameOf? name := by
  have told (scopes : List Scope) : (scopes.find? (Scope.contains name)).bind Scope.id =
      ((scopes.map Scope.outline).find? fun outline => decide (name ∈ outline.2)).bind
        Prod.fst := by
    have binds : Scope.contains name =
        (fun outline : Option ScopeId × List String => decide (name ∈ outline.2)) ∘
          Scope.outline := by
      funext scope
      rw [Bool.eq_iff_iff, Function.comp_apply, decide_eq_true_iff]
      exact Bindings.contains_iff
    rw [List.find?_map, ← binds]
    cases scopes.find? (Scope.contains name) <;> rfl
  unfold frameOf?
  rw [told, told, same]

theorem lookup?_of_frameOf? {frame : ScopeId} (pinned : stack.frameOf? name = some frame) :
    ∃ old, stack.lookup? name = some old := by
  obtain ⟨scope, found, _⟩ := Option.bind_eq_some_iff.mp pinned
  have holds := List.find?_some found
  refine Option.isSome_iff_exists.mp (List.findSome?_isSome_iff.mpr ?_)
  exact ⟨scope, List.mem_of_find?_eq_some found, holds⟩

theorem lookup?_writePlace_self {old : Value} (bound : stack.lookup? name = some old)
    (value : Value) : (stack.writePlace name value).1.lookup? name = some value := by
  have entry := @lookup?_assignExisting_self stack name value old bound
  rw [writePlace_eq]
  dsimp only
  cases path : (Place.ofName name).path with
  | nil => exact entry
  | cons field rest =>
      have apart : (Place.ofName name).base ≠ name := (Place.base_ne (by simp [path])).symm
      dsimp only
      split
      · exact entry
      · split
        · rw [lookup?_assignExisting, entry]
          simp [apart]
        · exact entry

end

end ScopeStack

/-! ### Storing a future -/

namespace Scheduler

/-- The variable that the future of a task goes to. -/
def futureSite? (id : TaskId) (scheduler : Scheduler) : Option BindingSite :=
  (scheduler.task? id).bind Task.futureSite

theorem futureSite?_eq (id : TaskId) (scheduler : Scheduler) :
    scheduler.futureSite? id = (scheduler.terms? id).bind Task.Terms.futureSite := by
  unfold futureSite? terms?
  cases scheduler.task? id <;> rfl

theorem futureSite?_congr {before after : Scheduler} {id : TaskId}
    (same : after.terms? id = before.terms? id) : after.futureSite? id = before.futureSite? id := by
  rw [futureSite?_eq, futureSite?_eq, same]

theorem futureSite?_register {task : Task} (fresh : task.Fresh) (id : TaskId)
    (scheduler : Scheduler) :
    (scheduler.register task).2.futureSite? id = scheduler.futureSite? id := by
  rw [futureSite?_eq, futureSite?_eq, terms?_register fresh]
  split
  · rename_i next
    unfold terms? task?
    rw [next, List.getElem?_eq_none (Nat.le_refl _)]
    rfl
  · rfl

theorem futureSite?_bindFuture (id other : TaskId) (site : BindingSite) (scheduler : Scheduler) :
    (scheduler.bindFuture id site).futureSite? other =
      if other = id then (scheduler.task? id).map fun _ => site
      else scheduler.futureSite? other := by
  unfold futureSite? bindFuture
  by_cases same : other = id
  · subst other
    rw [if_pos rfl, task?_modifyTask_self]
    cases scheduler.task? id <;> rfl
  · rw [if_neg same, task?_modifyTask_of_ne same]

theorem futureSite?_heldAt (id : TaskId) (pinned : Option BindingSite) (value : Value)
    (scheduler : Scheduler) :
    (scheduler.heldAt pinned value).futureSite? id = scheduler.futureSite? id ∨
      ∃ site, Future.taskOf? value = some id ∧ pinned = some site ∧
        (scheduler.heldAt pinned value).futureSite? id = some site := by
  rcases heldAt_cases pinned value scheduler with same | ⟨other, site, names, points, same⟩
  · exact .inl (congrArg _ same)
  · rw [same, futureSite?_bindFuture]
    by_cases own : id = other
    · subst own
      cases known : scheduler.task? id with
      | none =>
          refine .inl ?_
          unfold futureSite?
          rw [known, if_pos rfl]
          rfl
      | some task => exact .inr ⟨site, names, points, if_pos rfl⟩
    · exact .inl (if_neg own)

end Scheduler

/-- The future of a task stands in the variable to which it is bound, which is the innermost one of
its name. -/
structure Session.FutureStored (id : TaskId) (site : BindingSite) (session : Session) : Prop where
  bound : session.scheduler.futureSite? id = some site
  innermost : session.executor.site? site.name = some site
  held : ∃ value, session.executor.scopes.lookup? site.name = some value ∧
    Future.taskOf? value = some id

/-- What stores a value puts it in the variable that it pins. -/
def StoresIn (pinned : Executor → Option BindingSite) (value : Value)
    (write : ScopeStack → ScopeStack) : Prop :=
  ∀ executor site, pinned executor = some site →
    ({ executor with scopes := write executor.scopes } : Executor).site? site.name = some site ∧
      (write executor.scopes).lookup? site.name = some value

theorem storesIn_define (name : String) (value : Value) :
    StoresIn (Executor.localSite? name) value (ScopeStack.define name value) := by
  intro executor site points
  obtain ⟨frame, current, rfl⟩ := Option.map_eq_some_iff.mp points
  obtain ⟨innermost, held⟩ := @ScopeStack.frameOf?_define name value executor.scopes
  refine ⟨?_, held⟩
  change ((executor.scopes.define name value).frameOf? name).map _ = _
  rw [innermost, current]
  rfl

theorem storesIn_writePlace (target : String) (value : Value) :
    StoresIn (Executor.site? target) value fun scopes => (scopes.writePlace target value).1 := by
  intro executor site points
  obtain ⟨frame, innermost, rfl⟩ := Option.map_eq_some_iff.mp points
  obtain ⟨old, bound⟩ := ScopeStack.lookup?_of_frameOf? innermost
  refine ⟨?_, ScopeStack.lookup?_writePlace_self bound value⟩
  change ((executor.scopes.writePlace target value).1.frameOf? target).map _ = _
  rw [ScopeStack.frameOf?_congr (ScopeStack.outlines_writePlace target value executor.scopes),
    innermost]
  rfl

theorem Stmt.Stores.storesIn {statement : Stmt} {expr : Expr}
    {pinned : Executor → Option BindingSite} {write : Value → ScopeStack → ScopeStack}
    (stores : statement.Stores expr pinned write) (value : Value) :
    StoresIn pinned value (write value) := by
  cases stores with
  | letVar name => exact storesIn_define name value
  | assign target => exact storesIn_writePlace target value

section Storing

variable {pinned : Executor → Option BindingSite} {value : Value} {write : ScopeStack → ScopeStack}
  (stores : StoresIn pinned value write) (id : TaskId) (session : Session)

include stores

/-- A value that is stored is no future of the task, or it is stored where the future then goes. -/
theorem Session.storing_cases :
    (session.storing (pinned session.executor) value write).scheduler.futureSite? id =
        session.scheduler.futureSite? id ∨
      ∃ site, Future.taskOf? value = some id ∧ pinned session.executor = some site ∧
        (session.storing (pinned session.executor) value write).FutureStored id site := by
  rcases session.scheduler.futureSite?_heldAt id (pinned session.executor) value with
    same | ⟨site, names, points, bound⟩
  · exact .inl same
  · obtain ⟨innermost, held⟩ := stores session.executor site points
    exact .inr ⟨site, names, points, bound, innermost, value, held, names⟩

/-- The future of an unfinished task is bound where it is stored. -/
theorem Session.storing_future {site : BindingSite} {task : Task}
    (names : Future.taskOf? value = some id) (points : pinned session.executor = some site)
    (found : session.scheduler.task? id = some task) (unfinished : task.isFinished = false) :
    (session.storing (pinned session.executor) value write).FutureStored id site := by
  -- The task is unfinished, so that it is told of the site.
  have bindsIt : session.scheduler.heldAt (pinned session.executor) value =
      session.scheduler.bindFuture id site := by
    have open' : session.scheduler.isFinished id = false := by
      unfold Scheduler.isFinished
      rw [found]
      exact unfinished
    unfold Scheduler.heldAt
    rw [names, points]
    dsimp only
    rw [open', if_neg Bool.false_ne_true]
  obtain ⟨innermost, held⟩ := stores session.executor site points
  refine ⟨?_, innermost, value, held, names⟩
  change (session.scheduler.heldAt (pinned session.executor) value).futureSite? id = _
  rw [bindsIt, Scheduler.futureSite?_bindFuture, if_pos rfl, found]
  rfl

end Storing

/-! ### Statements that store a future -/

/-- From the session on, the expression of the statement evaluates to the future of the task, and
the statement gives that to the variable at the site. -/
inductive Stmt.Gives (depth : Nat) (id : TaskId) (site : BindingSite) (statement : Stmt)
    (start : Session) : Session → Prop where
  | intro {expr : Expr} {pinned : Executor → Option BindingSite}
      {write : Value → ScopeStack → ScopeStack} {value : Value} {evaluated : Session}
      (stores : statement.Stores expr pinned write)
      (evaluates : (interpreter depth).eval expr start = .done value evaluated)
      (names : Future.taskOf? value = some id) (points : pinned evaluated.executor = some site) :
      Gives depth id site statement start
        (evaluated.storing (pinned evaluated.executor) value (write value))

/-- When so many moments have passed, the run is at the last moment of a `let` or an assignment that
gives the future of the task to the variable at the site. After the first `begun` of them it had
come to that statement. -/
inductive Act.GivesFuture (action : Act α) (id : TaskId) (session : Session) :
    Nat → Session → BindingSite → Prop where
  | intro {depth : Nat} {path : Path} {statement : Stmt} {begun cost : Nat}
      {start moment : Session} {site : BindingSite}
      (comes : action.Executes session begun ((interpreter (depth + 1)).exec path statement) start)
      (ends : (interpreter (depth + 1)).exec path statement (start.limited (cost + 1)) =
        .halted moment)
      (gives : statement.Gives depth id site (start.limited cost) moment) :
      GivesFuture action id session (begun + (cost + 1)) moment site

namespace Act.GivesFuture

variable {id : TaskId} {session moment : Session} {passed : Nat} {site : BindingSite}

theorem attempt {action : Act α} (given : action.GivesFuture id session passed moment site) :
    (Act.attempt action).GivesFuture id session passed moment site := by
  cases given with
  | intro comes ends gives => exact .intro comes.attempt ends gives

theorem bind {first : Act α} (given : first.GivesFuture id session passed moment site)
    (next : α → Act β) : (first >>= next).GivesFuture id session passed moment site := by
  cases given with
  | intro comes ends gives => exact .intro (comes.bind next) ends gives

theorem after {first : Act α} {next : α → Act β} {value : α} {mid : Session} {cost : Nat}
    (ended : ∀ more, first (session.limited (cost + more)) = .done value (mid.limited more))
    (given : (next value).GivesFuture id mid passed moment site) :
    (first >>= next).GivesFuture id session (cost + passed) moment site := by
  cases given with
  | intro comes ends gives =>
      rw [← Nat.add_assoc]
      exact .intro (comes.after ended) ends gives

end Act.GivesFuture

/-- The last moment of an action, and the outcome after it. -/
def Act.ending (outcome : Except Signal α) : Act α := do
  Act.moment
  Act.ofAttempt outcome

namespace Act

theorem ending_spent {session : Session} (spent : session.budget = some 0)
    (outcome : Except Signal α) : Act.ending outcome session = .halted session := by
  have halts : Act.moment session = .halted session := by
    unfold Act.moment
    rw [spent]
  exact bind_of_halted halts

theorem ending_halted {session moment : Session} {outcome : Except Signal α}
    (halted : Act.ending outcome session = .halted moment) :
    session.budget = some 0 ∧ moment = session := by
  have ends (left : Session) : Act.ofAttempt outcome left ≠ .halted moment := by
    cases outcome <;> exact fun impossible => nomatch impossible
  unfold Act.ending at halted
  rw [bind_apply] at halted
  unfold Act.moment at halted
  cases budget : session.budget with
  | none =>
      rw [budget] at halted
      exact absurd halted (ends _)
  | some left =>
      rw [budget] at halted
      cases left with
      | zero =>
          cases halted
          exact ⟨rfl, rfl⟩
      | succ left => exact absurd halted (ends _)

end Act

/-- The session after an expression has been evaluated and its value, if there is one, been
stored. -/
def Session.storingResult (pinned : Executor → Option BindingSite)
    (write : Value → ScopeStack → ScopeStack) (result : Except Signal Value) (session : Session) :
    Session :=
  match result with
  | .ok value => session.storing (pinned session.executor) value (write value)
  | .error _ => session

theorem Session.storingResult_granted (pinned : Executor → Option BindingSite)
    (write : Value → ScopeStack → ScopeStack) (result : Except Signal Value) (session : Session)
    (extra : Option Nat) :
    (session.granted extra).storingResult pinned write result =
      (session.storingResult pinned write result).granted extra := by
  cases result <;> rfl

section Statements

variable {statement : Stmt} {expr : Expr} {pinned : Executor → Option BindingSite}
  {write : Value → ScopeStack → ScopeStack} (stores : statement.Stores expr pinned write)
  {interpreter : Interpreter} (path : Path) {session : Session} {budget : Nat}

include stores

theorem Interpreter.execStmt_halted {moment : Session}
    (run : interpreter.eval expr (session.limited budget) = .halted moment) :
    interpreter.execStmt path statement (session.limited (budget + 1)) = .halted moment := by
  obtain ⟨store, performs, _⟩ := perform_stores stores interpreter path
  have cut : interpreter.perform path statement (session.limited budget) = .halted moment := by
    rw [performs]
    exact Act.bind_of_halted run
  change (Act.attempt (interpreter.perform path statement) >>= Act.ending) (session.limited budget) = _
  rw [Act.attempt_bind, cut]

theorem Interpreter.execStmt_evaluated {evaluated : Session} {result : Except Signal Value}
    (run : interpreter.eval expr (session.limited budget) = .of evaluated result) :
    ∃ outcome, interpreter.execStmt path statement (session.limited (budget + 1)) =
      Act.ending outcome (evaluated.storingResult pinned write result) := by
  obtain ⟨store, performs, stored⟩ := perform_stores stores interpreter path
  have performed : ∃ outcome, interpreter.perform path statement (session.limited budget) =
      .of (evaluated.storingResult pinned write result) outcome := by
    rw [performs]
    cases result with
    | ok value =>
        obtain ⟨outcome, ends⟩ := stored value evaluated
        exact ⟨outcome, (Act.bind_of_done run).trans ends⟩
    | error signal => exact ⟨.error signal, Act.bind_of_raised run⟩
  obtain ⟨outcome, ended⟩ := performed
  exact ⟨outcome, Act.attempt_bind_of ended Act.ending⟩

end Statements

end CooperativeTasks
