import CooperativeTasks.Proofs.VeiledTurns

set_option autoImplicit false

/-! Steps that keep to their own scopes.

A step that resolves no name in the scopes below its own cannot tell whether they are there. It ends as
it does when it is driven from the top level, leaves its task, all other tasks that are not running and
the globals the same, and does not touch the scopes below, unless a task reports to one of them. -/

namespace CooperativeTasks

open Session (Veiled)

variable {α : Type} {veil : Veil}

theorem Session.Veiled.twinning (inside : 0 < veil.height) :
    Session.Twinning (fun _ => True) (Veiled veil) where
  unlimited veiled := veiled.unlimited
  positions veiled := (veiled.context inside).2.2
  positioned veiled change :=
    { veiled with
      context := fun _ =>
        ⟨(veiled.context inside).1, (veiled.context inside).2.1,
          congrArg change (veiled.context inside).2.2⟩ }
  recorded veiled _ _ := { veiled with }
  removed veiled name _ :=
    { veiled with scopes := veiled.scopes.modifyCurrent inside (Scope.remove_id name) }

theorem veiled_heed {test : ScopeStack → Bool} {good : α → Prop} {next next' : Act α}
    (tail : ∀ first second, Veiled veil first second → test first.executor.scopes = true →
      Outcome.Mirrored (Veiled veil) good (next first) (next' second)) :
    Act.Mirrors (Veiled veil) good (Act.heed test >>= fun _ => next) next' := by
  intro first second veiled
  change Outcome.Mirrored _ _
    (((if test first.executor.scopes = true then pure () else Act.halt : Act Unit) >>= fun _ => next)
      first) (next' second)
  by_cases passes : test first.executor.scopes = true
  · rw [if_pos passes]
    exact tail first second veiled passes
  · rw [if_neg passes]
    exact .halted

theorem veiled_readPlace (name : String) :
    Act.MirrorsAll (Veiled veil)
      (Act.heed (ScopeStack.readsOver veil.scopes.length name) >>= fun _ => Act.readPlace name)
      (Act.readPlace name) := by
  refine veiled_heed fun first second veiled reads => ?_
  change Outcome.Mirrored _ _ (Act.ofExcept (first.executor.scopes.readPlace name) first)
    (Act.ofExcept (second.executor.scopes.readPlace name) second)
  rw [veiled.scopes.readPlace reads]
  exact Act.Mirrors.ofExcept (fun _ _ => trivial) first second veiled

theorem veiled_writePlace {first second : Session} (veiled : Veiled veil first second) {name : String}
    {value : Value}
    (writes : first.executor.scopes.writesOver veil.scopes.length name = true) :
    Outcome.Mirrored (Veiled veil) (fun _ => True) (Act.writePlace name value first)
      (Act.writePlace name value second) := by
  obtain ⟨same, covers⟩ := veiled.scopes.writePlace writes value
  have written := veiled.onScopes covers
  change Outcome.Mirrored _ _ (Act.ofExcept (first.executor.scopes.writePlace name value).2 _)
    (Act.ofExcept (second.executor.scopes.writePlace name value).2 _)
  rw [same]
  exact Act.Mirrors.ofExcept (fun _ _ => trivial) _ _ written

theorem veiled_writeInstance {first second : Session} (veiled : Veiled veil first second)
    {receiver : String} {updated : Value}
    (puts : first.executor.scopes.putsOver veil.scopes.length receiver updated = true) :
    Outcome.Mirrored (Veiled veil) (fun _ => True) (Act.writeInstance receiver updated first)
      (Act.writeInstance receiver updated second) := by
  obtain ⟨same, covers⟩ := veiled.scopes.putInstance puts
  have written := veiled.onScopes covers
  let put (session : Session) :=
    (session.executor.scopes.assignMembers receiver (updated.fields?.getD [])).writePlace receiver updated
  change Outcome.Mirrored _ _ (Act.ofExcept (put first).2 _) (Act.ofExcept (put second).2 _)
  rw [show (put second).2 = (put first).2 from same]
  exact Act.Mirrors.ofExcept (fun _ _ => trivial) _ _ written

section Pinning

variable {first second : Session} (veiled : Veiled veil first second) (inside : 0 < veil.height)
  {name : String}

include veiled inside

theorem Session.Veiled.site?
    (passes : first.executor.scopes.passesOver veil.scopes.length name = true) :
    second.executor.site? name = first.executor.site? name ∧
      ∀ site, first.executor.site? name = some site → some site.frame ∉ veil.ids := by
  constructor
  · unfold Executor.site? Executor.siteIn
    rw [veiled.scopes.frameOf? passes, (veiled.context inside).1]
  · intro site pinned
    obtain ⟨frame, found, rfl⟩ := Option.map_eq_some_iff.mp pinned
    exact veiled.scopes.frameOf?_apart passes found

theorem Session.Veiled.localSite? :
    second.executor.localSite? name = first.executor.localSite? name ∧
      ∀ site, first.executor.localSite? name = some site → some site.frame ∉ veil.ids := by
  constructor
  · unfold Executor.localSite? Executor.siteIn
    rw [veiled.scopes.current inside, (veiled.context inside).1]
  · intro site pinned
    obtain ⟨frame, found, rfl⟩ := Option.map_eq_some_iff.mp pinned
    have apart := veiled.scopes.current_apart inside
    rw [found] at apart
    exact apart

end Pinning

/-! ### Registering tasks -/

theorem veiled_register {task : Task} (scopeless : task.scope = none)
    (reports : ∀ frame, task.ReportsTo frame → some frame ∉ veil.ids) :
    Act.MirrorsAll (Veiled veil) (Act.register task) (Act.register task) := by
  rw [Act.register_eq]
  have next : Act.MirrorsAll (Veiled veil) (Act.read fun session => session.scheduler.ids.next)
      (Act.read fun session => session.scheduler.ids.next) :=
    .read fun first second veiled => ⟨by rw [veiled.scheduler.ids], trivial⟩
  refine .bind next fun id _ => ?_
  refine .bind (.update fun first second veiled => ?_) fun _ _ => ?_
  · exact veiled.onScheduler (veiled.scheduler.registers scopeless reports).2
  · refine .scheduler fun first second veiled => ?_
    exact .bind (veiled_note _ _) fun _ _ => .pure trivial

theorem Task.not_reportsTo_ofFunction (function : FunctionDecl) (args : List Value) (frame : ScopeId) :
    ¬ (Task.ofFunction function args).ReportsTo frame := by
  rintro ⟨_, site, _, bound | bound⟩
  · cases bound
  · cases bound

theorem veiled_mark {change : Task → Task} (marks : TaskMark change)
    (reports : ∀ task frame, (change task).ReportsTo frame →
      task.ReportsTo frame ∨ some frame ∉ veil.ids) (id : TaskId) :
    Act.MirrorsAll (Veiled veil) (Act.updateScheduler (Scheduler.modifyTask id change))
      (Act.updateScheduler (Scheduler.modifyTask id change)) := by
  refine veiled_schedule fun _ _ alike => alike.mark id ?_ ?_ ?_ reports
  · cases marks <;> exact fun _ => rfl
  · cases marks <;> exact fun _ => rfl
  · cases marks <;> exact fun _ => rfl

theorem veiled_setTimeout (id : TaskId) (millis : Nat) :
    Act.MirrorsAll (Veiled veil) (Act.setTimeout id millis) (Act.setTimeout id millis) := by
  refine .bind veiled_readClock fun now _ => ?_
  refine .scheduler fun first second veiled => ?_
  rw [veiled.scheduler.view Option.isSome (fun _ => rfl)]
  split
  · exact .bind (veiled_mark (.timeout _) (fun _ _ reported => .inl reported) id) fun _ _ =>
      veiled_note _ _
  · exact .pure trivial

theorem veiled_sleepTask (id : TaskId) (millis : Nat) :
    Act.MirrorsAll (Veiled veil) (Act.sleepTask id millis) (Act.sleepTask id millis) := by
  refine .bind veiled_readClock fun now _ => ?_
  refine .scheduler fun first second veiled => ?_
  rw [veiled.scheduler.view Option.isSome (fun _ => rfl)]
  split
  · exact .bind (veiled_mark (.sleep _) (fun _ _ reported => .inl reported) id) fun _ _ =>
      veiled_note _ _
  · exact .pure trivial

theorem veiled_spawnTimer (millis : Nat) :
    Act.MirrorsAll (Veiled veil) (Act.spawnTimer millis) (Act.spawnTimer millis) := by
  refine .bind (veiled_register rfl ?_) fun id _ => ?_
  · rintro frame ⟨_, site, _, bound | bound⟩
    · cases bound
    · cases bound
  · exact .bind (veiled_sleepTask id millis) fun _ _ => .pure trivial

theorem veiled_futureValue (id : TaskId) :
    Act.MirrorsAll (Veiled veil) (Act.futureValue id) (Act.futureValue id) := by
  refine .scheduler fun first second veiled => ?_
  have same : second.scheduler.futureValue? id = first.scheduler.futureValue? id :=
    veiled.scheduler.view (Option.map fun task => task.future.toValue (some id)) (fun _ => rfl) id
  rw [same]
  split
  · exact .pure trivial
  · exact .fail _

theorem veiled_slotOf (id : TaskId) :
    Act.MirrorsAll (Veiled veil) (Interpreter.slotOf id) (Interpreter.slotOf id) := by
  refine .scheduler fun first second veiled => ?_
  cases found : first.scheduler.task? id with
  | none =>
      rw [veiled.scheduler.unknown found]
      exact .fail _
  | some one =>
      obtain ⟨other, known, resembles⟩ := veiled.scheduler.tasks id one found
      have slots : other.bare.future = one.bare.future := congrArg Task.future resembles.bare
      rw [known]
      dsimp only
      rw [show other.future = one.future from slots]
      split
      · exact .pure trivial
      · exact .fail _

theorem veiled_bindFutureTo {first second : Session} (veiled : Veiled veil first second)
    {site : Executor → Option BindingSite} (same : site second.executor = site first.executor)
    (apart : ∀ pinned, site first.executor = some pinned → some pinned.frame ∉ veil.ids)
    (value : Value) :
    Outcome.Mirrored
      (fun after after' => Veiled veil after after' ∧ after.executor.scopes = first.executor.scopes)
      (fun _ => True) (Interpreter.bindFutureTo site value first)
      (Interpreter.bindFutureTo site value second) := by
  have nothing : Outcome.Mirrored
      (fun after after' => Veiled veil after after' ∧ after.executor.scopes = first.executor.scopes)
      (fun _ => True) ((pure () : Act Unit) first) ((pure () : Act Unit) second) :=
    .done trivial ⟨veiled, rfl⟩
  unfold Interpreter.bindFutureTo
  cases Future.taskOf? value with
  | none => exact nothing
  | some id =>
      dsimp only
      rw [Act.scheduler_bind, Act.scheduler_bind, veiled.scheduler.isFinished]
      split
      · exact nothing
      · rw [Act.executor_bind, Act.executor_bind, same]
        cases pinned : site first.executor with
        | none => exact nothing
        | some site =>
            refine .done trivial ⟨veiled.onScheduler ?_, rfl⟩
            apply veiled.scheduler.mark id
            · exact fun _ => rfl
            · exact fun _ => rfl
            · exact fun _ => rfl
            · rintro task frame ⟨unpublished, other, rfl, bound | bound⟩
              · cases bound
                exact .inr (apart site pinned)
              · exact .inl ⟨unpublished, other, rfl, .inr bound⟩

/-! ### Expressions -/

theorem veiled_ofExcept (result : Except Fault α) :
    Act.MirrorsAll (Veiled veil) (Act.ofExcept result) (Act.ofExcept result) :=
  .ofExcept fun _ _ => trivial

theorem veiled_functionNamed (name : String) :
    Act.MirrorsAll (Veiled veil) (Interpreter.functionNamed name)
      (Interpreter.functionNamed name) := by
  refine .executor fun first second veiled => ?_
  rw [veiled.functions]
  split
  · exact .pure trivial
  · exact .fail _

/-- The first interpreter comes to what the second comes to where the covered scopes are not there. -/
structure Interpreter.Follows (covered : Nat) (shallow deep : Interpreter) : Prop where
  eval : ∀ veil : Veil, veil.scopes.length = covered → 0 < veil.height → ∀ expr,
    Act.MirrorsAll (Veiled veil) (shallow.eval expr) (deep.eval expr)
  exec : ∀ veil : Veil, veil.scopes.length = covered → 0 < veil.height → ∀ path statement,
    Act.MirrorsAll (Veiled veil) (shallow.exec path statement) (deep.exec path statement)
  turns : shallow.turns ≤ deep.turns

namespace Interpreter.Follows

variable {covered : Nat} {shallow deep : Interpreter} (follows : shallow.Follows covered deep)
  (counted : veil.scopes.length = covered)

include follows counted

theorem inTask (id : TaskId) (path : Path) (statement : Stmt) :
    Act.MirrorsAll (Veiled (veil.entered id)) (shallow.exec path statement)
      (deep.exec path statement) :=
  follows.exec (veil.entered id) counted (Nat.succ_pos _) path statement

theorem runOneCycle : Act.MirrorsAll (Veiled veil) shallow.runOneCycle deep.runOneCycle :=
  veiled_runOneCycle (follows.inTask counted)

variable (inside : 0 < veil.height)

include inside

theorem execBlock (path : Path) (statements : List Stmt) :
    Act.MirrorsAll (Veiled veil) (shallow.execBlock path statements) (deep.execBlock path statements) :=
  (Veiled.twinning inside).execBlock (fun statement _ path =>
    follows.exec veil counted inside path statement) path

omit inside in
theorem callSync (function : FunctionDecl) (args : List Value) (receiver : Option Value) :
    Act.MirrorsAll (Veiled veil) (shallow.callSync function args receiver)
      (deep.callSync function args receiver) := by
  have counted' : veil.called.scopes.length = covered := counted
  have inside' : 0 < veil.called.height := Nat.succ_pos _
  have body := follows.execBlock counted' inside' [] function.body
  have new : (callScope function args receiver).id = none := rfl
  refine .executor fun before before' outside => ?_
  dsimp only
  rw [outside.settings, outside.callDepth]
  split
  · exact .fail _
  · refine .bind (veiled_note _ _) fun _ _ => ?_
    intro first second veiled
    have ran := body _ _ (veiled.enteringCall new)
    rw [Act.updateExecutor, Act.update_bind, Act.attempt_bind, Act.updateExecutor, Act.update_bind,
      Act.attempt_bind]
    unfold Session.enteringCall at ran
    generalize shallow.execBlock [] function.body _ = outcome at ran
    generalize deep.execBlock [] function.body _ = outcome' at ran
    cases ran with
    | @done value left left' _ inner =>
        change Outcome.Mirrored _ _
          (.done (Value.void, receiver.map fun _ => left.executor.scopes.current.instanceValue)
            (left.leavingCall before.executor))
          (.done (Value.void, receiver.map fun _ => left'.executor.scopes.current.instanceValue)
            (left'.leavingCall before'.executor))
        rw [inner.scopes.current inside']
        exact .done trivial (outside.leavingCall inner)
    | @raised signal left left' inner =>
        have ended := outside.leavingCall inner
        cases signal with
        | returning value =>
            change Outcome.Mirrored _ _
              (.done (value, receiver.map fun _ => left.executor.scopes.current.instanceValue)
                (left.leavingCall before.executor))
              (.done (value, receiver.map fun _ => left'.executor.scopes.current.instanceValue)
                (left'.leavingCall before'.executor))
            rw [inner.scopes.current inside']
            exact .done trivial ended
        | suspend fromLoop => exact .raised ended
        | breakLoop => exact .raised ended
        | continueLoop => exact .raised ended
        | fault cause => exact .raised ended
    | halted => exact .halted

theorem evalAll (exprs : List Expr) :
    Act.MirrorsAll (Veiled veil) (shallow.evalAll exprs) (deep.evalAll exprs) :=
  mirrors_evalAll fun expr _ => follows.eval veil counted inside expr

theorem evalMillis (expr : Expr) :
    Act.MirrorsAll (Veiled veil) (shallow.evalMillis expr) (deep.evalMillis expr) :=
  .bind (follows.eval veil counted inside expr) fun _ _ => .ofExcept fun _ _ => trivial

theorem callFunction (name : String) (args : List Expr) :
    Act.MirrorsAll (Veiled veil) (shallow.callFunction name args) (deep.callFunction name args) := by
  refine .bind (veiled_functionNamed name) fun function _ => ?_
  refine .bind (follows.evalAll counted inside args) fun values _ => ?_
  refine .bind (veiled_ofExcept _) fun _ _ => ?_
  split
  · refine .bind (veiled_register rfl fun frame reported => ?_) fun id _ => veiled_futureValue id
    exact absurd reported (Task.not_reportsTo_ofFunction function values frame)
  · exact .bind (follows.callSync counted function values none) fun _ _ => .pure trivial

theorem callMethod (receiver method : String) (args : List Expr) :
    Act.MirrorsAll (Veiled veil) (shallow.callMethodHeeding covered receiver method args)
      (deep.callMethod receiver method args) := by
  subst covered
  unfold callMethodHeeding
  rw [← Act.bind_assoc]
  refine .bind (veiled_readPlace receiver) fun target _ => ?_
  cases target with
  | struct typeName fields =>
      refine .bind (veiled_functionNamed _) fun function _ => ?_
      refine .bind (follows.evalAll rfl inside args) fun values _ => ?_
      refine .bind (veiled_ofExcept _) fun _ _ => ?_
      split
      · refine veiled_heed fun first second veiled passes => ?_
        obtain ⟨same, apart⟩ := veiled.site? inside passes
        rw [Act.executor_bind, Act.executor_bind, same]
        refine Act.Mirrors.bind (veiled_register rfl ?_) (fun id _ => veiled_futureValue id) first
          second veiled
        rintro frame ⟨_, site, rfl, bound | bound⟩
        · cases bound
        · exact apart site bound
      · refine .bind (follows.callSync rfl function values _) fun returned _ => ?_
        obtain ⟨value, updated⟩ := returned
        cases updated with
        | none => exact .pure trivial
        | some instanceValue =>
            refine veiled_heed fun first second veiled puts => ?_
            exact (veiled_writeInstance veiled puts).bind (fun _ _ after => after)
              fun _ _ _ _ after => .done trivial after
  | _ => exact .fail _

theorem awaitTask (id : TaskId) :
    Act.MirrorsAll (Veiled veil) (shallow.awaitTask id) (deep.awaitTask id) := by
  have drive : Act.MirrorsAll (Veiled veil) (shallow.runUntilComplete id) (deep.runUntilComplete id) :=
    veiled_runUntilComplete (follows.inTask counted) follows.turns id
  refine .executor fun first second veiled => ?_
  dsimp only
  rw [(veiled.context inside).1]
  refine .bind (veiled_note _ _) fun _ _ => ?_
  cases first.executor.currentTask with
  | none =>
      refine .attempt drive fun outcome => ?_
      exact .bind (veiled_note _ _) fun _ _ => .ofAttempt outcome
  | some waiter =>
      have waits (awaited : Option TaskId) :=
        @veiled_mark veil _ (.wait awaited) (fun _ _ reported => .inl reported) waiter
      refine .bind (waits (some id)) fun _ _ => ?_
      refine .attempt drive fun outcome => ?_
      refine .bind (waits none) fun _ _ => ?_
      exact .bind (veiled_note _ _) fun _ _ => .ofAttempt outcome

theorem awaitFuture (future : Value) :
    Act.MirrorsAll (Veiled veil) (shallow.awaitFuture future) (deep.awaitFuture future) := by
  unfold Interpreter.awaitFuture
  split
  · split
    · exact .pure trivial
    · exact .fail _
  · rename_i id _
    refine .scheduler fun first second veiled => ?_
    cases found : first.scheduler.task? id with
    | none =>
        rw [veiled.scheduler.unknown found]
        exact .fail _
    | some one =>
        obtain ⟨other, known, resembles⟩ := veiled.scheduler.tasks id one found
        have ended : other.bare.isFinished = one.bare.isFinished :=
          congrArg Task.isFinished resembles.bare
        rw [known]
        dsimp only
        rw [show other.isFinished = one.isFinished from ended]
        split
        · exact .bind (follows.awaitTask counted inside id) fun _ _ => veiled_slotOf id
        · exact veiled_slotOf id

theorem evalTimeout (future millis : Expr) :
    Act.MirrorsAll (Veiled veil) (shallow.evalTimeout future millis)
      (deep.evalTimeout future millis) := by
  refine .bind (follows.eval veil counted inside future) fun target _ => ?_
  split
  · exact .fail _
  · rename_i id _
    refine .scheduler fun first second veiled => ?_
    rw [veiled.scheduler.view Option.isNone (fun _ => rfl)]
    split
    · exact .fail _
    · refine .bind (follows.evalMillis counted inside millis) fun duration _ => ?_
      exact .bind (veiled_setTimeout id duration) fun _ _ => .pure trivial

theorem evalExpr (expr : Expr) :
    Act.MirrorsAll (Veiled veil) (shallow.evalHeeding covered expr) (deep.evalExpr expr) := by
  cases expr with
  | lit value => exact .pure trivial
  | var name => exact counted ▸ veiled_readPlace name
  | field base name =>
      exact .bind (follows.eval veil counted inside base) fun _ _ => .ofExcept fun _ _ => trivial
  | binary operator left right =>
      have eval := follows.eval veil counted inside
      exact mirrors_evalBinary (eval left) (eval right) operator
  | unary operator operand =>
      exact .bind (follows.eval veil counted inside operand) fun _ _ => .ofExcept fun _ _ => trivial
  | structLit typeName fields =>
      refine .bind (mirrors_evalFields fun field _ => ?_) fun given _ => ?_
      · exact follows.eval veil counted inside field.2
      refine .executor fun first second veiled => ?_
      rw [veiled.structs]
      exact .ofExcept fun _ _ => trivial
  | call name args => exact follows.callFunction counted inside name args
  | methodCall receiver method args => exact follows.callMethod counted inside receiver method args
  | await future =>
      refine .bind (follows.eval veil counted inside future) fun value _ => ?_
      exact follows.awaitFuture counted inside value
  | sleep millis =>
      refine .bind (follows.evalMillis counted inside millis) fun duration _ => ?_
      exact .bind (veiled_spawnTimer duration) fun id _ => veiled_futureValue id
  | timeout future millis => exact follows.evalTimeout counted inside future millis

/-! ### Statements -/

theorem endIteration :
    Act.MirrorsAll (Veiled veil) shallow.endIteration deep.endIteration := by
  refine .executor fun first second veiled => ?_
  obtain ⟨current, autoYield, _⟩ := veiled.context inside
  rw [current, autoYield]
  split
  · split
    · exact .bind (veiled_note _ _) fun _ _ => .raise _
    · exact .pure trivial
  · refine .scheduler fun first second veiled => ?_
    have queued : second.scheduler.hasQueued = first.scheduler.hasQueued := by
      unfold Scheduler.hasQueued
      rw [veiled.scheduler.queue]
    rw [queued]
    split
    · exact follows.runOneCycle counted
    · exact .pure trivial

theorem perform (path : Path) (statement : Stmt) :
    Act.MirrorsAll (Veiled veil) (shallow.performHeeding covered path statement)
      (deep.perform path statement) := by
  have twinning : Session.Twinning (fun _ => True) (Veiled veil) := Veiled.twinning inside
  have eval := follows.eval veil counted inside
  have each (statements : List Stmt) : shallow.MirrorsEach (Veiled veil) deep statements :=
    fun statement _ path => follows.exec veil counted inside path statement
  have ends := follows.endIteration counted inside
  cases statement with
  | letVar name value =>
      refine .bind (eval value) fun value _ => ?_
      intro first second veiled
      obtain ⟨same, apart⟩ := veiled.localSite? inside
      refine (veiled_bindFutureTo veiled same apart value).bind (fun _ _ after => after.1) ?_
      intro _ _ first' second' after
      refine .done trivial (after.1.onScopes ?_)
      exact after.1.scopes.modifyCurrent inside (Scope.define_id name value)
  | assign target value =>
      refine .bind (eval value) fun value _ => ?_
      -- An assignment resolves the name that it writes, and goes on only where that is not covered.
      subst covered
      refine veiled_heed fun first second veiled writes => ?_
      obtain ⟨same, apart⟩ := veiled.site? inside (Bool.and_eq_true_iff.mp writes).1
      refine (veiled_bindFutureTo veiled same apart value).bind (fun _ _ after => after.1) ?_
      intro _ _ first' second' after
      exact veiled_writePlace after.1 (after.2 ▸ writes)
  | expression value => exact .bind (eval value) fun _ _ => .pure trivial
  | print value =>
      refine .bind (eval value) fun value _ => ?_
      refine .update fun first second veiled => ?_
      exact { veiled with output := congrArg (fun lines => lines.push value.text) veiled.output }
  | returning value =>
      cases value with
      | none => exact .raise _
      | some value => exact .bind (eval value) fun _ _ => .raise _
  | yield =>
      refine .executor fun first second veiled => ?_
      rw [(veiled.context inside).1]
      split
      · exact .raise _
      · exact follows.runOneCycle counted
  | ifThen condition thenBranch elseBranch =>
      exact twinning.execIf (eval condition) (each thenBranch) (each elseBranch) path
  | whileLoop condition body =>
      exact twinning.execLoop follows.turns (fun expr _ => eval expr) (each _) (each body) ends path
  | forLoop init condition update body =>
      exact twinning.execFor follows.turns (fun expr _ => eval expr) (each _) (each body) ends
        (each _) (fun _ _ => trivial) path
  | block body => exact twinning.execBlock (each body) _
  | breakLoop => exact .raise _
  | continueLoop => exact .raise _

theorem execStmt (path : Path) (statement : Stmt) :
    Act.MirrorsAll (Veiled veil) (shallow.execHeeding covered path statement)
      (deep.execStmt path statement) := by
  have twinning : Session.Twinning (fun _ => True) (Veiled veil) := Veiled.twinning inside
  refine .bind twinning.moment fun _ _ => ?_
  refine .attempt (follows.perform counted inside path statement) fun result => ?_
  exact .bind twinning.moment fun _ _ => .ofAttempt result

end Interpreter.Follows

theorem heedful_follows (covered depth : Nat) :
    (heedful covered depth).Follows covered (interpreter depth) := by
  induction depth with
  | zero => exact ⟨fun _ _ _ _ => .halt _, fun _ _ _ _ _ => .halt _, Nat.le_refl 0⟩
  | succ depth ih =>
      exact ⟨fun _ counted inside => ih.evalExpr counted inside,
        fun _ counted inside => ih.execStmt counted inside, Nat.le_refl depth⟩

/-! ### Nested steps -/

/-- The session at the top level: no scope but the global one, and nobody running. The tasks whose
steps are on the call stack go on counting as running if they are `kept`. -/
def Session.atTopLevel (kept : List TaskId) (session : Session) : Session :=
  { session with
    executor :=
      { session.executor with
        scopes := { session.executor.scopes with inner := [] }
        currentTask := none
        autoYield := false
        positions := {} }
    scheduler := { session.scheduler with active := kept } }

/-- Some task is still to write what it leaves to a variable of the given scope. -/
def Scheduler.ReportsTo (frame : ScopeId) (scheduler : Scheduler) : Prop :=
  ∃ id task, scheduler.task? id = some task ∧ task.ReportsTo frame

theorem Scheduler.not_reportsTo_of_siteless {scheduler : Scheduler}
    (siteless : scheduler.tasks.all
      (fun task => task.futureSite.isNone && task.receiver.isNone) = true)
    (frame : ScopeId) : ¬ scheduler.ReportsTo frame := by
  rintro ⟨id, task, found, _, site, _, bound | bound⟩
  all_goals
    have none := List.all_eq_true.mp siteless task (List.mem_of_getElem? found)
    obtain ⟨future, receiver⟩ := Bool.and_eq_true_iff.mp none
  · rw [Option.isNone_iff_eq_none.mp future] at bound
    cases bound
  · rw [Option.isNone_iff_eq_none.mp receiver] at bound
    cases bound

/-- Everything below a step that starts in the session. -/
def Session.beneath (kept : List TaskId) (session : Session) : Veil where
  scopes := session.executor.scopes.inner
  running := session.scheduler.active
  marked := kept
  awaits frame := session.scheduler.ReportsTo frame

theorem Session.Orderly.veiled {session : Session} (orderly : session.Orderly)
    (numbered : session.scheduler.Numbered) (unlimited : session.budget = none) {kept : List TaskId}
    (running : ∀ id ∈ kept, id ∈ session.scheduler.active)
    (queued : ∀ id ∈ session.scheduler.queue.ids, id ∈ session.scheduler.active → id ∈ kept) :
    Veiled (session.beneath kept) session (session.atTopLevel kept) := by
  have identities := session.executor.scopes.identities_eq
  refine ⟨?_, ?_, rfl, rfl, rfl, rfl, rfl, fun impossible => absurd impossible (Nat.lt_irrefl 0), rfl,
    unlimited, unlimited⟩
  · refine ⟨⟨session.executor.scopes.inner, rfl, rfl, fun _ _ found _ => found⟩, rfl, rfl, rfl, ?_, ?_⟩
    · intro identity member
      refine orderly.scopes.known identity ?_
      rw [identities]
      exact List.mem_append_left _ member
    · intro identity member below
      have distinct := orderly.scopes.distinct
      rw [identities] at distinct
      cases List.mem_singleton.mp member
      exact (List.nodup_append.mp distinct).2.2 _ below _ (List.mem_singleton.mpr rfl) rfl
  · refine ⟨rfl, rfl, rfl, rfl, rfl, rfl, running, queued, rfl, numbered, ?_, ?_⟩
    · intro id member
      obtain ⟨task, found, _⟩ := orderly.unfinished id member
      exact (List.getElem?_eq_some_iff.mp found).1
    · intro id one found
      refine ⟨one, found, rfl, fun _ => rfl, ?_, ?_, ?_⟩
      · intro aside identity saved below
        have held : session.scheduler.savedId? id = some identity := by
          unfold Scheduler.savedId? Scheduler.savedScope?
          rw [found]
          exact saved
        refine orderly.apart id identity held aside ?_
        rw [identities]
        exact List.mem_append_left _ below
      · intro member
        obtain ⟨task, known, lives⟩ := orderly.unfinished id member
        rw [found] at known
        cases known
        exact lives
      · exact fun frame reported _ => ⟨id, one, found, reported⟩

/-- Two sessions that the same step has led to, one from `start` and one from the top level. -/
structure Session.Isolated (start nested top : Session) : Prop where
  tasks : ∀ id, id ∉ start.scheduler.active → top.scheduler.task? id = nested.scheduler.task? id
  globals : top.executor.scopes.global = nested.executor.scopes.global
  output : top.executor.output = nested.executor.output
  queue : top.scheduler.queue = nested.scheduler.queue
  statistics : top.scheduler.statistics = nested.scheduler.statistics
  clock : top.clock = nested.clock
  /-- The scopes below the step are the same ones. -/
  below : nested.executor.scopes.inner.map Scope.id = start.executor.scopes.inner.map Scope.id
  /-- Those to which no task is to report are as they were. -/
  untouched : ∀ (index : Nat) (scope : Scope), start.executor.scopes.inner[index]? = some scope →
    (∀ frame, scope.id = some frame → ¬ start.scheduler.ReportsTo frame) →
      nested.executor.scopes.inner[index]? = some scope

theorem Session.Veiled.isolated {kept : List TaskId} {start nested top : Session}
    (veiled : Veiled (start.beneath kept) nested top) : start.Isolated nested top := by
  obtain ⟨hidden, split, hides⟩ := veiled.scopes.split
  have bottom : top.executor.scopes.inner = [] := List.length_eq_zero_iff.mp veiled.scopes.height
  rw [bottom, List.nil_append] at split
  refine
    { tasks := fun id aside => veiled.scheduler.idle aside
      globals := veiled.scopes.global
      output := veiled.output
      queue := veiled.scheduler.queue
      statistics := veiled.scheduler.statistics
      clock := veiled.clock
      below := ?_
      untouched := ?_ }
  · rw [split]
    exact hides.ids
  · rw [split]
    exact hides.kept

/-- Two runs that have come to the same end. -/
inductive Outcome.Parallel (twins : Session → Session → Prop) : Outcome α → Outcome α → Prop where
  | done (value : α) {first second : Session} (same : twins first second) :
      Parallel twins (.done value first) (.done value second)
  | raised (signal : Signal) {first second : Session} (same : twins first second) :
      Parallel twins (.raised signal first) (.raised signal second)

/-- A step that is driven from inside other steps and resolves no name in the scopes below it ends as
the same step driven from the top level, and does to everything but those scopes what that one does. -/
theorem nested_step_isolated {depth : Nat} {id : TaskId} {session : Session} {kept : List TaskId}
    (reachable : session.Reachable) (unlimited : session.budget = none)
    (idle : id ∉ session.scheduler.active)
    (running : ∀ other ∈ kept, other ∈ session.scheduler.active)
    (queued : ∀ other ∈ session.scheduler.queue.ids, other ∈ session.scheduler.active → other ∈ kept)
    (heeds : ∀ moment,
      (heedful session.executor.scopes.inner.length depth).step id session ≠ .halted moment) :
    Outcome.Parallel session.Isolated ((interpreter depth).step id session)
      ((interpreter depth).step id (session.atTopLevel kept)) := by
  have veiled := reachable.orderly.veiled reachable.numbered unlimited running queued
  have follows := heedful_follows session.executor.scopes.inner.length depth
  have counted : (session.beneath kept).scopes.length = session.executor.scopes.inner.length := rfl
  have mirrored := veiled_step idle (follows.inTask counted id) session _ veiled
  -- The step never meets a covered name, so that the interpreter that halts there does the same.
  rw [step_of_heedful heeds]
  generalize (heedful session.executor.scopes.inner.length depth).step id session = outcome
    at mirrored heeds ⊢
  generalize (interpreter depth).step id (session.atTopLevel kept) = outcome' at mirrored ⊢
  cases mirrored with
  | done _ same => exact .done _ same.isolated
  | raised same => exact .raised _ same.isolated
  | halted => exact absurd rfl (heeds _)

def holding (name : String) : FunctionDecl where
  name := "hold"
  params := [name]
  body := [.yield]
  isAsync := true
  owner := none

def writingTotal : FunctionDecl where
  name := "write"
  params := []
  body := [.assign "total" (.lit (.int 2))]
  isAsync := true
  owner := none

/-- The session in which a task that holds the variable `name` is queued before one that writes the
global `total`. -/
def holdingAndWriting (name : String) : Session :=
  ((interpreter 0).request (.spawn writingTotal [])
    ((interpreter 0).request (.spawn (holding name) [.int 1])
      { Session.start {} 0 with
        executor := (Session.start {} 0).executor.setGlobal "total" (.int 10) }).session).session

/-- The session in the middle of the first task's step. -/
def amidHolding (name : String) : Session :=
  { ((interpreter 2).request .cycle { holdingAndWriting name with budget := some 2 }).session with
    budget := none }

theorem reachable_amidHolding (name : String) : (amidHolding name).Reachable := by
  have spawned : (holdingAndWriting name).Reachable :=
    (((Session.Reachable.start {} 0).globalSet "total" (.int 10)).requested rfl 0
      (.spawn (holding name) [.int 1])).requested rfl 0 (.spawn writingTotal [])
  exact ((spawned.limited (some 2)).requested rfl 2 .cycle).limited none

theorem nested_step_isolated_holding :
    ∃ nested top, (interpreter 4).step ⟨1⟩ (amidHolding "x") = .done .done nested ∧
      (interpreter 4).step ⟨1⟩ ((amidHolding "x").atTopLevel []) = .done .done top ∧
      (amidHolding "x").Isolated nested top := by
  have idle : (⟨1⟩ : TaskId) ∉ (amidHolding "x").scheduler.active := by decide
  have queued : ∀ other ∈ (amidHolding "x").scheduler.queue.ids,
      other ∈ (amidHolding "x").scheduler.active → other ∈ ([] : List TaskId) := by decide
  obtain ⟨after, heeding⟩ : ∃ after,
      (heedful 1 4).step ⟨1⟩ (amidHolding "x") = .done .done after := ⟨_, rfl⟩
  have heeds (moment : Session) : (heedful 1 4).step ⟨1⟩ (amidHolding "x") ≠ .halted moment := by
    rw [heeding]
    intro impossible
    cases impossible
  have isolated := nested_step_isolated (reachable_amidHolding _) rfl idle
    (fun _ member => absurd member List.not_mem_nil) queued heeds
  obtain ⟨nested, top, below, above⟩ : ∃ nested top,
      (interpreter 4).step ⟨1⟩ (amidHolding "x") = .done .done nested ∧
      (interpreter 4).step ⟨1⟩ ((amidHolding "x").atTopLevel []) = .done .done top :=
    ⟨_, _, rfl, rfl⟩
  rw [below, above] at isolated
  cases isolated with
  | done _ same => exact ⟨nested, top, below, above, same⟩

/-- A task that holds a variable of the name of a global has it overwritten by another task. -/
theorem nested_step_writes_private_scope :
    ∃ nested top, (amidHolding "total").Reachable ∧
      (amidHolding "total").scheduler.active = [⟨0⟩] ∧
      (∀ frame, ¬ (amidHolding "total").scheduler.ReportsTo frame) ∧
      (interpreter 4).step ⟨1⟩ (amidHolding "total") = .done .done nested ∧
      (interpreter 4).step ⟨1⟩ ((amidHolding "total").atTopLevel []) = .done .done top ∧
      (amidHolding "total").executor.scopes.inner = [⟨some ⟨1⟩, [("total", .int 1)]⟩] ∧
      nested.executor.scopes.inner = [⟨some ⟨1⟩, [("total", .int 2)]⟩] ∧
      nested.executor.scopes.global.get? "total" = some (.int 10) ∧
      top.executor.scopes.global.get? "total" = some (.int 2) := by
  have silent := @Scheduler.not_reportsTo_of_siteless (amidHolding "total").scheduler rfl
  exact ⟨_, _, reachable_amidHolding _, rfl, silent, rfl, rfl, rfl, rfl, rfl, rfl⟩

end CooperativeTasks
