import CooperativeTasks.Proofs.Awaiting
import CooperativeTasks.Proofs.EndlessTurns
import CooperativeTasks.Proofs.MethodScopes

set_option autoImplicit false

/-! Awaiting a method that is the only task.

Driving towards the task brings it to the end to which its body comes in one go, or does not end.
When the body has ended, its instance is written to the variable on which the method was called, and
to the entries beside it, just as a synchronous call would write it. -/

namespace CooperativeTasks

namespace Interpreter

variable {interpreter : Interpreter} {function : FunctionDecl} {receiver : Option Receiver}
  {height : Nat} {scopes : ScopeStack} {output : Array String} {value : Value}
  {bindings : List (String × Value)} {session : Session}

/-! ### Publishing -/

/-- The only task has been published: its result can be had, and what it reports has been written. -/
structure Delivered (receiver : Option Receiver) (value : Value)
    (bindings : List (String × Value)) (before after : Session) : Prop where
  slot : ∃ task, after.scheduler.task? onlyTask = some task ∧ task.isFinished = true ∧
    task.isPublished = true ∧ task.future = .ready (Task.slotValue value)
  executor : after.executor = { before.executor with scopes := after.executor.scopes }
  identities : after.executor.scopes.identities = before.executor.scopes.identities
  budget : after.budget = none
  reports : ∃ (task : Task) (scope : Scope), task.receiver = receiver ∧ task.scope = some scope ∧
    scope.bindings = bindings ∧ ∀ spot name, after.bound? spot name =
      (before.bound? spot name).map fun old => (before.receiverReport? task spot name).getD old

theorem Delivered.isFinished {before after : Session}
    (delivered : Delivered receiver value bindings before after) :
    after.scheduler.isFinished onlyTask = true := by
  obtain ⟨task, found, finished, -⟩ := delivered.slot
  unfold Scheduler.isFinished
  rw [found]
  exact finished

theorem Over.delivers (closing : Over function receiver height value bindings session) :
    ∃ after, Act.finalize onlyTask session = .done () after ∧
      Delivered receiver value bindings session after := by
  obtain ⟨task, scope, tasks, solitary, held, rfl⟩ := closing.tasks
  have found : session.scheduler.task? onlyTask = some (task.complete value) := by
    unfold Scheduler.task?
    rw [tasks]
    rfl
  obtain ⟨after, ran, overwritten⟩ := finalize_overwrites closing.budget found rfl solitary.isPublished
  obtain ⟨last, published, ended⟩ := Act.Publishes.finalize onlyTask session
  obtain rfl : last = after := by
    rw [ran] at ended
    rcases ended with ended | ended
    · cases ended
      rfl
    · cases ended
  have marked : (session.reporting onlyTask (task.complete value).mergedReceiver).scheduler.task?
      onlyTask = some { task.complete value with
        isPublished := true
        receiver := (task.complete value).mergedReceiver } := by
    change (session.scheduler.modifyTask onlyTask _).task? onlyTask = _
    rw [Scheduler.task?_modifyTask_self, found]
    rfl
  have slot := overwritten.tasks onlyTask
  rw [marked, Option.map_some] at slot
  have future : (task.complete value).future = .ready (Task.slotValue value) := by
    unfold Task.complete
    rw [solitary.future]
    rfl
  -- The future is bound to no variable, so that only the instance is written.
  have nobody (spot : Spot) (name : String) :
      session.futureReport? onlyTask (task.complete value) spot name = none := by
    have unbound : (task.complete value).futureSite = none := solitary.futureSite
    unfold Session.futureReport?
    rw [unbound]
    rfl
  refine ⟨last, ran, ⟨_, slot, rfl, rfl, future⟩, published.executor, published.identities,
    overwritten.budget.trans closing.budget, task.complete value, scope, solitary.receiver, held, rfl,
    ?_⟩
  intro spot name
  rw [overwritten.bound, nobody, Option.or_none]
  unfold Session.bound?
  rw [Session.scopeAt?_reporting]

/-! ### Driving -/

theorem turnUntil_unfinished {id : TaskId} (unfinished : session.scheduler.isFinished id = false)
    (swept : List TaskId) :
    interpreter.turnUntil id swept session = interpreter.turn swept session := by
  unfold turnUntil
  rw [Act.scheduler_bind, unfinished]
  rfl

theorem turnUntil_finished {id : TaskId} (finished : session.scheduler.isFinished id = true)
    (swept : List TaskId) : interpreter.turnUntil id swept session = .done none session := by
  unfold turnUntil
  rw [Act.scheduler_bind, finished]
  rfl

def drive (interpreter : Interpreter) : Act Unit :=
  Act.iterate interpreter.turns (interpreter.turnUntil onlyTask) []

/-- The drive towards the only task has come to the end to which its body comes in one go. -/
inductive Arrives (function : FunctionDecl) (receiver : Option Receiver) (height : Nat)
    (scopes : ScopeStack) (output : Array String) : Except Fault Value → Outcome Unit → Prop where
  | finished {value : Value} {completed after : Session} (printed : completed.executor.output = output)
      (globals : completed.executor.scopes.global = scopes.global)
      (closing : Over function receiver height value scopes.current.bindings completed)
      (delivered : Delivered receiver value scopes.current.bindings completed after) :
      Arrives function receiver height scopes output (.ok value) (.done () after)
  | faulted {cause : Fault} {after : Session} (printed : after.executor.output = output)
      (globals : after.executor.scopes.global = scopes.global) (unlimited : after.budget = none) :
      Arrives function receiver height scopes output (.error cause) (.raised (.fault cause) after)

theorem Closes.arrives {ending : Except Fault Value}
    (closes : interpreter.Closes function receiver height scopes output ending session) :
    ∃ turns, Arrives function receiver height scopes output ending
      (Act.iterate turns (interpreter.turnUntil onlyTask) [] session) := by
  induction closes with
  | turn unfinished turns closes ih =>
      obtain ⟨more, arrives⟩ := ih
      refine ⟨more + 1, ?_⟩
      rw [Act.iterate, turnUntil_unfinished unfinished, turns]
      exact arrives
  | @closed value session completed unfinished turns printed globals closing =>
      obtain ⟨after, finalizes, delivered⟩ := closing.delivers
      have concludes : concluding onlyTask .done completed = .done (some []) after := by
        change (Act.finalize onlyTask >>= _ : Act (Option (List TaskId))) completed = _
        rw [Act.bind_of_done finalizes]
        rfl
      refine ⟨2, ?_⟩
      rw [Act.iterate, turnUntil_unfinished unfinished, turns, concludes]
      dsimp only
      rw [Act.iterate, turnUntil_finished delivered.isFinished]
      exact .finished printed globals closing delivered
  | faulted unfinished turns printed globals unlimited =>
      refine ⟨1, ?_⟩
      rw [Act.iterate, turnUntil_unfinished unfinished, turns]
      exact .faulted printed globals unlimited

theorem runUntilComplete_only (session : Session) :
    interpreter.runUntilComplete onlyTask session =
      match interpreter.drive session with
      | .done () after =>
          if after.scheduler.isFinished onlyTask then Act.finalize onlyTask after
          else Act.note (.unfinished onlyTask) after
      | .raised signal after => .raised signal after
      | .halted moment => .halted moment := by
  change Act.bind interpreter.drive _ session = _
  unfold Act.bind
  cases interpreter.drive session with
  | done _ after =>
      change (if _ then _ else _ : Act Unit) after = _
      dsimp only
      split <;> rfl
  | raised signal after => rfl
  | halted moment => rfl

theorem Arrives.extended {ending : Except Fault Value} {short long : Outcome Unit}
    (arrives : Arrives function receiver height scopes output ending short)
    (longer : short.Extends (some 0) long) :
    Arrives function receiver height scopes output ending long := by
  cases arrives with
  | finished printed globals closing delivered =>
      rw [longer.ofDone, Session.granted_zero]
      exact .finished printed globals closing delivered
  | faulted printed globals unlimited =>
      rw [longer.ofRaised, Session.granted_zero]
      exact .faulted printed globals unlimited

theorem Closes.reaches {depth : Nat} {ending : Except Fault Value}
    (closes : (CooperativeTasks.interpreter depth).Closes function receiver height scopes output ending
      session) :
    ∃ enough, ∀ deeper, enough ≤ deeper → Arrives function receiver height scopes output ending
      ((CooperativeTasks.interpreter deeper).drive session) := by
  obtain ⟨turns, arrives⟩ := closes.arrives
  let shallow : Interpreter := { CooperativeTasks.interpreter depth with turns }
  refine ⟨max depth (turns + 1), ?_⟩
  intro deeper enough
  have within : depth ≤ deeper := Nat.le_trans (Nat.le_max_left ..) enough
  have more : turns + 1 ≤ deeper := Nat.le_trans (Nat.le_max_right ..) enough
  have lower := interpreter_deepens within
  have reaches : turns ≤ (CooperativeTasks.interpreter deeper).turns := by
    obtain ⟨deep, rfl⟩ : ∃ deep, deeper = deep + 1 := ⟨deeper - 1, by omega⟩
    exact Nat.le_of_succ_le_succ more
  have deepens : shallow.DeepensTo (CooperativeTasks.interpreter deeper) :=
    ⟨⟨deeper, rfl⟩, lower.eval, lower.exec, reaches⟩
  have drives : Deepens .expression shallow.drive (CooperativeTasks.interpreter deeper).drive :=
    .iterate deepens.turns (deepens.related.turnUntil onlyTask) []
  have longer := drives.extends.outcome (some 0) session
  rw [Session.granted_zero] at longer
  exact Arrives.extended arrives longer

theorem Drags.iterate {count : Nat} (drags : interpreter.Drags count session) :
    ∃ moment, Act.iterate count (interpreter.turnUntil onlyTask) [] session = .halted moment := by
  induction drags with
  | begun session => exact ⟨session, rfl⟩
  | @halted count session moment unfinished turns =>
      cases count with
      | zero => exact ⟨session, rfl⟩
      | succ count =>
          refine ⟨moment, ?_⟩
          rw [Act.iterate, turnUntil_unfinished unfinished, turns]
  | turn unfinished turns drags ih =>
      rw [Act.iterate, turnUntil_unfinished unfinished, turns]
      exact ih

/-! ### Awaiting -/

theorem awaitTask_outside (outside : session.executor.currentTask = none)
    (unlimited : session.budget = none) (id : TaskId) :
    interpreter.awaitTask id session =
      (do
        let outcome ← Act.attempt (interpreter.runUntilComplete id)
        Act.note (.awaitEnded id none)
        Act.ofAttempt outcome : Act Unit) (session.recorded (.awaiting id none)) := by
  unfold awaitTask
  rw [Act.executor_bind, outside, Act.bind_of_done (Act.note_unlimited unlimited _)]

section

variable {entered : Executor} {task : Task} (outside : session.executor.currentTask = none)
  (resting : Resting function receiver height entered task
    (session.recorded (.awaiting onlyTask none)))

include outside resting

theorem awaitFuture_only :
    interpreter.awaitFuture (Future.pending.toValue (some onlyTask)) session =
      (do
        let outcome ← Act.attempt (interpreter.runUntilComplete onlyTask)
        Act.note (.awaitEnded onlyTask none)
        Act.ofAttempt outcome
        slotOf onlyTask : Act Value) (session.recorded (.awaiting onlyTask none)) := by
  have tasks : session.scheduler.tasks = [task] := resting.tasks
  have found : session.scheduler.task? onlyTask = some task := by
    unfold Scheduler.task?
    rw [tasks]
    rfl
  have carries : Future.taskOf? (Future.pending.toValue (some onlyTask)) = some onlyTask := rfl
  rw [awaitFuture_eq interpreter carries found, resting.solitary.isFinished,
    if_neg Bool.false_ne_true, Act.bind_apply, awaitTask_outside outside resting.budget,
    ← Act.bind_apply]
  simp only [Act.bind_assoc]

theorem awaitFuture_halts {moment : Session}
    (drives : interpreter.drive (session.recorded (.awaiting onlyTask none)) = .halted moment) :
    interpreter.awaitFuture (Future.pending.toValue (some onlyTask)) session = .halted moment := by
  rw [awaitFuture_only outside resting, Act.attempt_bind, runUntilComplete_only, drives]

theorem awaitFuture_faults {cause : Fault}
    (arrives : Arrives function receiver height scopes output (.error cause)
      (interpreter.drive (session.recorded (.awaiting onlyTask none)))) :
    ∃ after, interpreter.awaitFuture (Future.pending.toValue (some onlyTask)) session =
        .raised (.fault cause) after ∧
      after.executor.output = output ∧ after.executor.scopes.global = scopes.global := by
  generalize driven : interpreter.drive (session.recorded (.awaiting onlyTask none)) = outcome
    at arrives
  cases arrives with
  | @faulted _ left printed globals still =>
      refine ⟨left.recorded (.awaitEnded onlyTask none), ?_, printed, globals⟩
      rw [awaitFuture_only outside resting, Act.attempt_bind, runUntilComplete_only, driven]
      dsimp only
      rw [Act.bind_of_done (Act.note_unlimited still _)]
      rfl

theorem awaitFuture_returns
    (arrives : Arrives function receiver height scopes output (.ok value)
      (interpreter.drive (session.recorded (.awaiting onlyTask none)))) :
    ∃ completed delivered after,
      interpreter.awaitFuture (Future.pending.toValue (some onlyTask)) session =
        .done (Task.slotValue value) after ∧
      after.executor = delivered.executor ∧ completed.executor.output = output ∧
      completed.executor.scopes.global = scopes.global ∧
      Over function receiver height value scopes.current.bindings completed ∧
      Delivered receiver value scopes.current.bindings completed delivered := by
  generalize driven : interpreter.drive (session.recorded (.awaiting onlyTask none)) = outcome
    at arrives
  cases arrives with
  | @finished _ completed left printed globals closing delivered =>
      obtain ⟨task, found, finished, published, slot⟩ := delivered.slot
      have again : Act.finalize onlyTask left = .done () left := by
        refine Act.finalize_unready fun other known => .inr ?_
        rw [found] at known
        cases known
        exact published
      refine ⟨completed, left, left.recorded (.awaitEnded onlyTask none), ?_, rfl, printed, globals,
        closing, delivered⟩
      rw [awaitFuture_only outside resting, Act.attempt_bind, runUntilComplete_only, driven]
      dsimp only
      rw [if_pos delivered.isFinished, again]
      dsimp only
      rw [Act.bind_of_done (Act.note_unlimited delivered.budget _)]
      change slotOf onlyTask (left.recorded (.awaitEnded onlyTask none)) = _
      have known : (left.recorded (.awaitEnded onlyTask none)).scheduler.task? onlyTask = some task :=
        found
      rw [slotOf, Act.scheduler_bind, known]
      dsimp only
      rw [slot]
      rfl

end

end Interpreter

/-! ### The instance at the variable -/

theorem Bindings.get?_map_memberName_congr {first second : List (String × Value)}
    (same : ∀ member, get? member first = get? member second) (base name : String) :
    get? name (first.map fun entry => (memberName base entry.1, entry.2)) =
      get? name (second.map fun entry => (memberName base entry.1, entry.2)) := by
  by_cases beside : ∃ member, name = memberName base member
  · obtain ⟨member, rfl⟩ := beside
    rw [get?_map_memberName, get?_map_memberName, same]
  · have absent (entries : List (String × Value)) :
        get? name (entries.map fun entry => (memberName base entry.1, entry.2)) = none := by
      refine get?_eq_none fun known => ?_
      rw [List.map_map] at known
      obtain ⟨entry, -, rfl⟩ := List.mem_map.mp known
      exact beside ⟨entry.1, rfl⟩
    rw [absent, absent]

theorem Task.get?_receiverEntries_of_ne {base name : String} (different : base ≠ name) (value : Value)
    (task : Task) :
    Bindings.get? name (task.receiverEntries base value).reverse =
      Bindings.get? name
        (task.receiverMembers.reverse.map fun entry => (memberName base entry.1, entry.2)) := by
  unfold receiverEntries
  rw [List.reverse_cons, ← List.map_reverse, Bindings.get?_append]
  simp [Bindings.get?, different]

namespace ScopeStack

theorem inner_eq_nil {stack : ScopeStack} (top : stack.depth = 1) : stack.inner = [] :=
  List.eq_nil_of_length_eq_zero (Nat.succ.inj top)

theorem lookup?_top {stack : ScopeStack} (top : stack.depth = 1) (name : String) :
    stack.lookup? name = stack.global.get? name := by
  simp [lookup?, frames, inner_eq_nil top]

theorem lookup?_withInstance {receiver typeName : String} {fields : List (String × Value)}
    {stack : ScopeStack} (name : String) :
    (stack.withInstance receiver typeName fields).lookup? name =
      (stack.lookup? name).map fun old =>
        if receiver = name then .struct typeName fields
        else (Bindings.get? name
          (fields.reverse.map fun field => (memberName receiver field.1, field.2))).getD old := by
  by_cases same : receiver = name
  · subst same
    unfold withInstance
    rw [lookup?_assignExisting, lookup?_assignMembers, Option.map_map]
    simp [Function.comp_def]
  · rw [lookup?_withInstance_of_ne same]
    simp [same]

end ScopeStack

namespace Session

theorem bound?_top {session : Session} (top : session.executor.scopes.depth = 1) (name : String) :
    session.bound? (.live 0) name = session.executor.scopes.lookup? name := by
  rw [ScopeStack.lookup?_top top]
  simp [bound?, scopeAt?, ScopeStack.frames, ScopeStack.inner_eq_nil top]

theorem spot?_top {session : Session} (top : session.executor.scopes.depth = 1) {frame : ScopeId}
    (own : session.executor.scopes.global.id = some frame) (name : String) (owner : Option TaskId) :
    session.spot? ⟨name, frame, owner⟩ = some (.live 0) := by
  apply spot?_live
  simp [ScopeStack.frames, ScopeStack.inner_eq_nil top, List.findIdx?_cons, Scope.holds, own]

end Session

open Interpreter in
theorem Interpreter.Delivered.lookup? {name typeName : String} {frame : ScopeId} {value : Value}
    {known fields bindings : List (String × Value)} {before after : Session}
    (delivered : Delivered (some ⟨.struct typeName known, some ⟨name, frame, none⟩⟩) value bindings
      before after) (top : before.executor.scopes.depth = 1)
    (own : before.executor.scopes.global.id = some frame)
    (holds : HoldsInstance typeName fields bindings) (distinct : (bindings.map Prod.fst).Nodup)
    (apart : (fields.map Prod.fst).Nodup)
    (whole : ∀ name ∈ fields.map Prod.fst, '.' ∉ name.toList)
    (keys : known.map Prod.fst = fields.map Prod.fst) (other : String) :
    after.executor.scopes.lookup? other =
      (before.executor.scopes.withInstance name typeName fields).lookup? other := by
  obtain ⟨task, scope, receives, held, rfl, reports⟩ := delivered.reports
  have members : task.receiverMembers = selfMembers scope.bindings := by
    unfold Task.receiverMembers
    rw [held]
  have merged : (Value.struct typeName known).mergeMembers task.receiverMembers =
      .struct typeName fields := by
    rw [members]
    exact congrArg (Value.struct typeName) (holds.merges distinct apart whole keys)
  have still : after.executor.scopes.depth = 1 := by
    rw [← ScopeStack.length_identities, delivered.identities, ScopeStack.length_identities, top]
  have report : before.receiverReport? task (.live 0) other =
      Bindings.get? other (task.receiverEntries name (.struct typeName fields)).reverse := by
    simp [Session.receiverReport?, Task.mergedReceiver, receives, Session.written?,
      Session.spot?_top top own, merged]
  rw [← Session.bound?_top still, reports, Session.bound?_top top, ScopeStack.lookup?_withInstance,
    report]
  congr 1
  funext old
  by_cases same : name = other
  · subst same
    rw [Task.get?_receiverEntries_base, if_pos rfl]
    rfl
  · have alike (member : String) :
        Bindings.get? member (selfMembers scope.bindings).reverse =
          Bindings.get? member fields.reverse :=
      (holds.get?_members distinct whole member).trans (Bindings.get?_reverse apart member).symm
    rw [Task.get?_receiverEntries_of_ne same, if_neg same, members,
      Bindings.get?_map_memberName_congr alike]

end CooperativeTasks
