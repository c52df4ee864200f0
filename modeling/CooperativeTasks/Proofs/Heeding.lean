import CooperativeTasks.Proofs.Extension

set_option autoImplicit false

/-! Running code that keeps to its own scopes.

Names are looked up through the whole stack, so that code run from inside a step also finds what the
suspended steps and calls below it have bound. The interpreter here is the ordinary one, except that
it halts as soon as a name would be resolved in one of the covered scopes at the bottom of the stack.
Whatever it comes to without halting, the ordinary one comes to as well. -/

namespace CooperativeTasks

namespace ScopeStack

/-- Looking `name` up comes to none of the outermost `covered` scopes above the global one: an inner
scope binds it, or none of those does. -/
def passesOver (covered : Nat) (name : String) (stack : ScopeStack) : Bool :=
  let own := stack.inner.length - covered
  (stack.inner.take own).any (Scope.contains name) ||
    !(stack.inner.drop own).any (Scope.contains name)

/-- The same of all names that reading a place looks up. -/
def readsOver (covered : Nat) (name : String) (stack : ScopeStack) : Bool :=
  stack.passesOver covered name &&
    ((stack.lookup? name).isSome || stack.passesOver covered (Place.ofName name).base)

/-- The same of all names that writing a place looks up. -/
def writesOver (covered : Nat) (name : String) (stack : ScopeStack) : Bool :=
  stack.passesOver covered name &&
    ((Place.ofName name).path.isEmpty || stack.passesOver covered (Place.ofName name).base)

/-- The same of all names that putting an instance back looks up. -/
def putsOver (covered : Nat) (receiver : String) (updated : Value) (stack : ScopeStack) : Bool :=
  (updated.fields?.getD []).all (fun (name, _) =>
      stack.passesOver covered (memberName receiver name)) &&
    stack.writesOver covered receiver

end ScopeStack

/-- Goes on only if the scopes pass the test. -/
def Act.heed (test : ScopeStack → Bool) : Act Unit := do
  if test (← Act.executor).scopes then pure () else Act.halt

namespace Interpreter

variable (covered : Nat) (interpreter : Interpreter)

def callMethodHeeding (receiver method : String) (args : List Expr) : Act Value := do
  Act.heed (ScopeStack.readsOver covered receiver)
  let target ← Act.readPlace receiver
  match target with
  | .struct typeName _ => do
      let function ← functionNamed (typeName ++ "." ++ method)
      let values ← interpreter.evalAll args
      Act.ofExcept (checkArity function values)
      if function.isAsync then
        Act.heed (ScopeStack.passesOver covered receiver)
        let site := (← Act.executor).site? receiver
        let id ← Act.register ((Task.ofFunction function values).withReceiver target site)
        Act.futureValue id
      else
        let (value, updated) ← interpreter.callSync function values (some target)
        match updated with
        | none => pure ()
        | some instanceValue =>
            Act.heed (ScopeStack.putsOver covered receiver instanceValue)
            Act.writeInstance receiver instanceValue
        return value
  | _ => Act.fail (.typeError ("cannot call `" ++ method ++ "` on " ++ target.typeName))

def evalHeeding : Expr → Act Value
  | .var name => do
      Act.heed (ScopeStack.readsOver covered name)
      Act.readPlace name
  | .methodCall receiver method args => interpreter.callMethodHeeding covered receiver method args
  | expr => interpreter.evalExpr expr

def performHeeding (path : Path) : Stmt → Act Unit
  | .assign target value => do
      let value ← interpreter.eval value
      Act.heed (ScopeStack.writesOver covered target)
      bindFutureTo (Executor.site? target) value
      Act.writePlace target value
  | statement => interpreter.perform path statement

def execHeeding (path : Path) (statement : Stmt) : Act Unit := do
  Act.moment
  let outcome ← Act.attempt (interpreter.performHeeding covered path statement)
  Act.moment
  Act.ofAttempt outcome

end Interpreter

/-- The interpreter that halts rather than resolve a name in a covered scope. -/
def heedful (covered : Nat) : Nat → Interpreter
  | 0 => interpreter 0
  | depth + 1 =>
      { eval := fun expr => (heedful covered depth).evalHeeding covered expr
        exec := fun path statement => (heedful covered depth).execHeeding covered path statement
        turns := depth }

/-! ### It does nothing else -/

theorem Deepens.heed {layer : Layer} (test : ScopeStack → Bool) :
    Deepens layer (Act.heed test) (Pure.pure ()) := by
  have looks : (Pure.pure () : Act Unit) = Act.executor >>= fun _ => Pure.pure () := rfl
  rw [looks]
  refine .bind .executor fun executor => ?_
  split
  · exact .pure ()
  · exact .cut (.pure ())

theorem Deepens.heeding {α : Type} {layer : Layer} (test : ScopeStack → Bool) {next next' : Act α}
    (tail : Deepens layer next next') : Deepens layer (Act.heed test >>= fun _ => next) next' := by
  have nothing : next' = (Pure.pure () : Act Unit) >>= fun _ => next' := rfl
  rw [nothing]
  exact .bind (.heed test) fun _ => tail

namespace Interpreter.DeepensTo

variable {shallow deep : Interpreter} (deepens : shallow.DeepensTo deep) (covered : Nat)

include deepens

theorem callMethodHeeding (receiver method : String) (args : List Expr) :
    Deepens .expression (shallow.callMethodHeeding covered receiver method args)
      (deep.callMethod receiver method args) := by
  have joins := Deepens.joins .expression
  refine .heeding _ (.bind (joins.readPlace receiver) fun target => ?_)
  cases target with
  | struct typeName fields =>
      refine .bind (joins.functionNamed _) fun function => ?_
      refine .bind (deepens.related.evalAll args) fun values => ?_
      refine .bind (joins.ofExcept _) fun _ => ?_
      split
      · refine .heeding _ (.bind .executor fun executor => ?_)
        exact .bind (.register (.withReceiver (.ofFunction function values) _ _)) fun id =>
          joins.futureValue id
      · refine .bind (deepens.related.callSync function values _) fun returned => ?_
        obtain ⟨value, updated⟩ := returned
        cases updated with
        | none => exact .pure _
        | some instanceValue =>
            have writes := deepens.related.writeInstance receiver instanceValue
            exact .heeding _ (.bind writes fun _ => .pure _)
  | _ => exact .fail _

theorem evalHeeding (expr : Expr) :
    Deepens .expression (shallow.evalHeeding covered expr) (deep.evalExpr expr) := by
  have ordinary := deepens.related.evalExpr expr
  cases expr with
  | var name => exact .heeding _ ((Deepens.joins .expression).readPlace name)
  | methodCall receiver method args => exact deepens.callMethodHeeding covered receiver method args
  | _ => exact ordinary

theorem performHeeding (path : Path) (statement : Stmt) :
    Deepens .statement (shallow.performHeeding covered path statement)
      (deep.perform path statement) := by
  have ordinary := deepens.perform path statement
  cases statement with
  | assign target value =>
      refine .bind (.lift (deepens.eval value)) fun value => ?_
      exact .heeding _ (.storeAt target value)
  | _ => exact ordinary

theorem execHeeding (path : Path) (statement : Stmt) :
    Deepens .statement (shallow.execHeeding covered path statement)
      (deep.execStmt path statement) := by
  exact .bind .moment fun _ => .concluded (deepens.performHeeding covered path statement)

end Interpreter.DeepensTo

theorem heedful_deepens (covered depth : Nat) :
    (heedful covered depth).DeepensTo (interpreter depth) := by
  induction depth with
  | zero => exact interpreter_deepens (Nat.le_refl 0)
  | succ depth ih =>
      exact ⟨⟨depth + 1, rfl⟩, ih.evalHeeding covered, ih.execHeeding covered, Nat.le_refl depth⟩

/-- A step that comes to its end without resolving a name in a covered scope is the step. -/
theorem step_of_heedful {covered depth : Nat} {id : TaskId} {session : Session}
    (heeds : ∀ moment, (heedful covered depth).step id session ≠ .halted moment) :
    (interpreter depth).step id session = (heedful covered depth).step id session := by
  -- The heedful interpreter is halted where the other goes on, and otherwise they agree.
  have longer := ((heedful_deepens covered depth).step_extends id).outcome (some 0) session
  rw [Session.granted_zero] at longer
  generalize (heedful covered depth).step id session = outcome at longer heeds ⊢
  generalize (interpreter depth).step id session = outcome' at longer ⊢
  cases longer with
  | done status after => rw [Session.granted_zero]
  | raised signal after => rw [Session.granted_zero]
  | halted moment => exact absurd rfl (heeds moment)

end CooperativeTasks
