import CooperativeTasks.Proofs.LifeCycle

set_option autoImplicit false

/-! The sessions that running code can find itself in.

From a fresh session, operations follow each other, and every one of them may be looked at in the
middle: the session in which it is halted is the one that code running at that moment sees. What
that code does next is to evaluate expressions and to execute statements, so that the sessions
reachable in this way include every one in which any expression of any program is evaluated. -/

namespace CooperativeTasks

inductive Session.Reachable : Session → Prop where
  | start (settings : Settings) (tick : Nat) : Reachable (.start settings tick)
  /-- Runs may be looked at for longer or shorter. -/
  | limited {session : Session} (reachable : Reachable session) (budget : Option Nat) :
      Reachable { session with budget }
  /-- Time passes, as much as it likes and also while code is running. -/
  | later {session : Session} (reachable : Reachable session) (nanos : Nat) :
      Reachable (session.later nanos)
  /-- Statement lists note where they are without a moment passing. -/
  | positioned {session : Session} (reachable : Reachable session) (positions : Positions) :
      Reachable { session with executor := { session.executor with positions } }
  | globalSet {session : Session} (reachable : Reachable session) (name : String) (value : Value) :
      Reachable { session with executor := session.executor.setGlobal name value }
  /-- Operations are asked for from outside, while no step is running. -/
  | requested {session : Session} (reachable : Reachable session)
      (idle : session.scheduler.active = []) (depth : Nat) (operation : Operation) :
      Reachable ((interpreter depth).request operation session).session
  | evaluated {session : Session} (reachable : Reachable session) (depth : Nat) (expr : Expr) :
      Reachable ((interpreter depth).eval expr session).session
  | executed {session : Session} (reachable : Reachable session) (depth : Nat) (path : Path)
      (statement : Stmt) : Reachable ((interpreter depth).exec path statement session).session

/-- What an interpreter does keeps the tasks consistent, whoever is running. -/
theorem Deepens.consistent {α : Type} {layer : Layer} {short long : Act α}
    (deepens : Deepens layer short long) {session : Session}
    (consistent : session.scheduler.Consistent) :
    (long session).session.scheduler.Consistent :=
  (((life_upholds none).keeps deepens session.scheduler.active).along session rfl).2 consistent

theorem Session.Reachable.consistent {session : Session} (reachable : session.Reachable) :
    session.scheduler.Consistent := by
  have itself (depth : Nat) := interpreter_deepens (Nat.le_refl depth)
  induction reachable with
  | start settings tick => exact Scheduler.consistent_fresh settings.scheduler
  | limited _ budget ih => exact ih
  | later _ nanos ih => exact ih
  | positioned _ positions ih => exact ih
  | globalSet _ name value ih => exact ih
  | @requested session _ idle depth operation ih =>
      have keeps := (life_upholds none).request (Nat.le_refl depth) operation [] fun id _ =>
        step_matures none (Nat.le_refl depth) id
      exact (keeps.along session idle).2 ih
  | evaluated _ depth expr ih => exact ((itself depth).eval expr).consistent ih
  | executed _ depth path statement ih => exact ((itself depth).exec path statement).consistent ih

end CooperativeTasks
