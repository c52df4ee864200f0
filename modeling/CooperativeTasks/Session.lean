import CooperativeTasks.Journal
import CooperativeTasks.Scheduler.Basic
import CooperativeTasks.Signal

set_option autoImplicit false

/-! Sessions and actions on them.

A session is one interpreter with one scheduler over one clock. An action reads and changes
the session and ends in one of three ways: with a value, with a signal, or halted. An action
is halted when it has used up its budget of moments, or has gone deeper than it may; the
session is then left as it was at that moment, and nothing that encloses the action gets to
put anything right. So the sessions that actions are halted in, over all budgets, are exactly
the sessions at the moments of a run. -/

namespace CooperativeTasks

/-- The state in which statements execute. -/
structure Executor where
  settings : InterpreterSettings := {}
  scopes : ScopeStack := .initial
  /-- Functions under their qualified names. -/
  functions : List (String × FunctionDecl) := []
  structs : List (String × StructDecl) := []
  /-- The task whose step is running. -/
  currentTask : Option TaskId := none
  /-- Loops suspend after every iteration. -/
  autoYield : Bool := false
  positions : Positions := {}
  /-- How many synchronous calls are in progress. -/
  callDepth : Nat := 0
  /-- Printed lines, oldest first. -/
  output : Array String := #[]

/-- A clock that moves by `tick` every time it is read. Times are in nanoseconds. -/
structure Clock where
  now : Nat := 0
  tick : Nat := 0
  deriving DecidableEq, Repr

def nanosPerMilli : Nat := 1000000

structure Session where
  executor : Executor := {}
  scheduler : Scheduler := {}
  clock : Clock := {}
  /-- Newest first. -/
  journal : List Event := []
  /-- How many more moments may pass; no number is no limit. -/
  budget : Option Nat := none

inductive Outcome (α : Type) where
  | done (value : α) (after : Session)
  | raised (signal : Signal) (after : Session)
  | halted (moment : Session)

def Outcome.session {α : Type} : Outcome α → Session
  | .done _ after => after
  | .raised _ after => after
  | .halted moment => moment

def Act (α : Type) : Type := Session → Outcome α

namespace Act

variable {α β σ : Type}

protected def pure (value : α) : Act α := fun session => .done value session

protected def bind (first : Act α) (next : α → Act β) : Act β := fun session =>
  match first session with
  | .done value after => next value after
  | .raised signal after => .raised signal after
  | .halted moment => .halted moment

instance : Monad Act where
  pure := Act.pure
  bind := Act.bind

def halt : Act α := fun session => .halted session

def raise (signal : Signal) : Act α := fun session => .raised signal session

def fail (cause : Fault) : Act α := raise (.fault cause)

/-- Hands a signal to the caller as a result. A halt stays a halt. -/
def attempt (action : Act α) : Act (Except Signal α) := fun session =>
  match action session with
  | .done value after => .done (.ok value) after
  | .raised signal after => .done (.error signal) after
  | .halted moment => .halted moment

def ofAttempt : Except Signal α → Act α
  | .ok value => Act.pure value
  | .error signal => raise signal

def ofExcept : Except Fault α → Act α
  | .ok value => Act.pure value
  | .error cause => fail cause

/-- Turns every signal into the fault that it amounts to. -/
def faulting (action : Act α) : Act α := fun session =>
  match action session with
  | .done value after => .done value after
  | .raised signal after => .raised (.fault signal.toFault) after
  | .halted moment => .halted moment

/-- Repeats an action, each time with the state that it gave back, until it gives none. This
is halted if it takes more than the given number of turns. -/
def iterate : Nat → (σ → Act (Option σ)) → σ → Session → Outcome Unit
  | 0, _, _, session => .halted session
  | turns + 1, action, state, session =>
      match action state session with
      | .done none after => .done () after
      | .done (some state) after => iterate turns action state after
      | .raised signal after => .raised signal after
      | .halted moment => .halted moment

/-! ### Reading and changing the session -/

def read (view : Session → α) : Act α := fun session => .done (view session) session

def update (change : Session → Session) : Act Unit := fun session => .done () (change session)

def executor : Act Executor := read Session.executor

def scheduler : Act Scheduler := read Session.scheduler

def updateExecutor (change : Executor → Executor) : Act Unit :=
  update fun session => { session with executor := change session.executor }

def updateScheduler (change : Scheduler → Scheduler) : Act Unit :=
  update fun session => { session with scheduler := change session.scheduler }

def updateScopes (change : ScopeStack → ScopeStack) : Act Unit :=
  updateExecutor fun executor => { executor with scopes := change executor.scopes }

def updatePositions (change : Positions → Positions) : Act Unit :=
  updateExecutor fun executor => { executor with positions := change executor.positions }

def count (change : Statistics → Statistics) : Act Unit :=
  updateScheduler (Scheduler.countWith change)

/-- Lets a moment pass: takes one from the budget, or halts if none is left. -/
def moment : Act Unit := fun session =>
  match session.budget with
  | none => .done () session
  | some 0 => .halted session
  | some (left + 1) => .done () { session with budget := some left }

def note (event : Event) : Act Unit := fun session =>
  moment { session with journal := event :: session.journal }

/-- The time, after which the clock moves on. -/
def readClock : Act Nat := fun session =>
  .done session.clock.now
    { session with clock := { session.clock with now := session.clock.now + session.clock.tick } }

def advanceClock (nanos : Nat) : Act Unit :=
  update fun session => { session with clock := { session.clock with now := session.clock.now + nanos } }

end Act

end CooperativeTasks
