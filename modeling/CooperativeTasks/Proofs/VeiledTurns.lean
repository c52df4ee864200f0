import CooperativeTasks.Proofs.VeiledSessions

set_option autoImplicit false

/-! Steps and turns of the queue with scopes beneath them.

As long as the statements of tasks come to the same in both sessions, so do steps, turns and drives. -/

namespace CooperativeTasks

open Session (Veiled)

variable {veil : Veil}

/-! ### Pieces -/

theorem veiled_note (event event' : Event) :
    Act.MirrorsAll (Veiled veil) (Act.note event) (Act.note event') :=
  .note (fun _ _ veiled => veiled.unlimited) (fun _ _ veiled _ _ => { veiled with }) event event'

theorem veiled_schedule {change change' : Scheduler → Scheduler}
    (keeps : ∀ first second, veil.Alike first second → veil.Alike (change first) (change' second)) :
    Act.MirrorsAll (Veiled veil) (Act.updateScheduler change) (Act.updateScheduler change') :=
  .update fun _ _ veiled => veiled.onScheduler (keeps _ _ veiled.scheduler)

theorem veiled_count (change : Statistics → Statistics) :
    Act.MirrorsAll (Veiled veil) (Act.count change) (Act.count change) :=
  veiled_schedule fun _ _ alike => alike.counted change

theorem veiled_readClock : Act.MirrorsAll (Veiled veil) Act.readClock Act.readClock := by
  rw [Act.readClock_eq]
  have now : Act.MirrorsAll (Veiled veil) (Act.read fun session => session.clock.now)
      (Act.read fun session => session.clock.now) :=
    .read fun first second veiled => ⟨by rw [veiled.clock], trivial⟩
  refine .bind now fun _ _ => ?_
  refine .bind (.update fun first second veiled => ?_) fun _ _ => .pure trivial
  exact { veiled with clock := by rw [veiled.clock] }

/-! ### Publishing -/

theorem veiled_publish {site : BindingSite} {change : Scope → Scope}
    (keeps : ∀ scope, (change scope).id = scope.id)
    (awaited : some site.frame ∈ veil.ids → veil.awaits site.frame) (test : Option Scope → Bool)
    (event : Event) :
    Act.MirrorsAll (Veiled veil)
      (do
        if test (← Act.read (Session.siteScope? site)) then
          Act.update (Session.modifySite site change)
        else
          Act.note event)
      (do
        if test (← Act.read (Session.siteScope? site)) then
          Act.update (Session.modifySite site change)
        else
          Act.note event) := by
  intro first second veiled
  change Outcome.Mirrored _ _
    ((if test (first.siteScope? site) = true then Act.update (Session.modifySite site change)
      else Act.note event) first)
    ((if test (second.siteScope? site) = true then Act.update (Session.modifySite site change)
      else Act.note event) second)
  rcases veiled.site_cases site with ⟨here, there⟩ | ⟨same, both⟩
  · split
    · have written := veiled.modifySite_first keeps awaited here
      split
      · exact .done trivial (written.modifySite_second there)
      · rw [Act.note_unlimited veiled.unlimited.2]
        exact .done trivial { written with }
    · rw [Act.note_unlimited veiled.unlimited.1]
      split
      · have written : Veiled veil first (second.modifySite site change) :=
          veiled.modifySite_second there
        exact .done trivial { written with }
      · rw [Act.note_unlimited veiled.unlimited.2]
        exact .done trivial { veiled with }
  · rw [same]
    split
    · exact .done trivial (both change keeps)
    · exact veiled_note event event first second veiled

theorem veiled_published {id : TaskId} (aside : id ∉ veil.running) (receiver : Option Receiver) :
    Act.MirrorsAll (Veiled veil)
      (Act.updateScheduler fun scheduler => scheduler.modifyTask id fun task =>
        { task with isPublished := true, receiver })
      (Act.updateScheduler fun scheduler => scheduler.modifyTask id fun task =>
        { task with isPublished := true, receiver }) := by
  refine veiled_schedule fun _ _ alike => ?_
  apply alike.onIdleSaved aside
  · exact fun _ => rfl
  · intro task frame reported
    cases reported.1

theorem veiled_finalize (id : TaskId) :
    Act.MirrorsAll (Veiled veil) (Act.finalize id) (Act.finalize id) := by
  refine .scheduler fun first second veiled => ?_
  cases found : first.scheduler.task? id with
  | none =>
      rw [veiled.scheduler.unknown found]
      exact .pure trivial
  | some one =>
      obtain ⟨other, known, resembles⟩ := veiled.scheduler.tasks id one found
      rw [known]
      -- A task whose step is in progress below is unfinished and has nothing to publish.
      by_cases below : id ∈ veil.running
      · have goesOn : other.isFinished = false :=
          (congrArg Task.isFinished resembles.bare).trans (resembles.unfinished below)
        simp only [resembles.unfinished below, goesOn, Bool.false_and, Bool.false_eq_true, if_false]
        exact .pure trivial
      · rw [resembles.same below]
        dsimp only
        split
        · rename_i publishes
          have unpublished : one.isPublished = false := by
            simpa using (Bool.and_eq_true_iff.mp publishes).2
          refine .bind (veiled_published below _) fun _ _ => ?_
          refine .bind (veiled_count _) fun _ _ => ?_
          have future (site : BindingSite) (bound : one.futureSite = some site) (value : Value) :
              Act.MirrorsAll (Veiled veil) (Act.publishFuture id site value)
                (Act.publishFuture id site value) :=
            veiled_publish (Scope.assignExisting_id site.name value)
              (resembles.reports _ ⟨unpublished, site, rfl, .inl bound⟩)
              (fun target => target.any (Scope.contains site.name)) _
          have receives {value : Value} {site : BindingSite}
              (bound : (one.receiver.map fun receiver => { receiver with
                value := receiver.value.mergeMembers one.receiverMembers }) = some ⟨value, some site⟩) :
              Act.MirrorsAll (Veiled veil)
                (Act.publishReceiver id site value one.receiverMembers)
                (Act.publishReceiver id site value one.receiverMembers) := by
            obtain ⟨receiver, held, pinned⟩ := Option.map_eq_some_iff.mp bound
            refine veiled_publish (Scope.writeBack_id site.name value one.receiverMembers)
              (resembles.reports _ ⟨unpublished, site, rfl, .inr ?_⟩) Option.isSome _
            rw [held, Option.bind_some]
            exact congrArg Receiver.site pinned
          split
          · split
            · rename_i bound
              exact .bind (receives bound) fun _ _ => veiled_note _ _
            · exact veiled_note _ _
          · rename_i site bound
            refine .bind (future site bound _) fun _ _ => ?_
            split
            · rename_i pinned
              exact .bind (receives pinned) fun _ _ => veiled_note _ _
            · exact veiled_note _ _
        · exact .pure trivial

/-! ### Steps -/

theorem veiled_settle {id : TaskId} (aside : id ∉ veil.running) {change : Task → Task} {scope : Scope}
    (apart : scope.id ∉ veil.ids) (keeps : ∀ task, (change task).scope = some scope)
    (reports : ∀ task frame, (change task).ReportsTo frame → task.ReportsTo frame) :
    Act.MirrorsAll (Veiled veil) (Act.modifyTask id change) (Act.modifyTask id change) := by
  refine veiled_schedule fun _ _ alike => alike.onIdle aside (fun task _ identity saved => ?_) reports
  rw [keeps task, Option.bind_some] at saved
  rw [← saved]
  exact apart

theorem veiled_change {id : TaskId} (aside : id ∉ veil.running) {change : Task → Task}
    (keeps : ∀ task, (change task).scope = task.scope)
    (reports : ∀ task frame, (change task).ReportsTo frame → task.ReportsTo frame) :
    Act.MirrorsAll (Veiled veil) (Act.modifyTask id change) (Act.modifyTask id change) :=
  veiled_schedule fun _ _ alike => alike.onIdleSaved aside keeps reports

theorem veiled_complete {id : TaskId} (aside : id ∉ veil.running) (payload : Value) :
    Act.MirrorsAll (Veiled veil) (Act.completeTask id payload) (Act.completeTask id payload) := by
  apply veiled_change aside
  · exact fun _ => rfl
  · exact fun _ _ reported => reported

section Steps

variable {shallow deep : Interpreter} {id : TaskId} (aside : id ∉ veil.running)
  (exec : ∀ path statement,
    Act.MirrorsAll (Veiled (veil.entered id)) (shallow.exec path statement) (deep.exec path statement))

include exec

theorem veiled_execInTask {task : Task}
    (apart : ∀ identity, task.scope.bind Scope.id = some identity → some identity ∉ veil.ids)
    (statement : Stmt) :
    Act.Mirrors (Veiled veil) (fun left => left.2.1.id ∉ veil.ids)
      (shallow.execInTask id task statement) (deep.execInTask id task statement) := by
  intro first second veiled
  have ran := exec [.item task.counter] statement _ _ (veiled.enteringTask id apart)
  have scopes {left left' : Session} (inside : Veiled (veil.entered id) left left') :
      (StepFrame.enter id task second.executor).1.scopeIn left'.executor =
          (StepFrame.enter id task first.executor).1.scopeIn left.executor ∧
        ((StepFrame.enter id task first.executor).1.scopeIn left.executor).id ∉ veil.ids := by
    have depths := veiled.scopes.depths
    have depths' := inside.scopes.depths
    have here : first.executor.scopes.depth = left.executor.scopes.inner.length := by
      rw [depths'.1]
      change _ + 1 = veil.height + 1 + veil.scopes.length
      omega
    have there : second.executor.scopes.depth = left'.executor.scopes.inner.length := by
      rw [depths'.2]
      exact congrArg (· + 1) depths.2
    have current := inside.scopes.current (Nat.succ_pos _)
    have away := inside.scopes.current_apart (Nat.succ_pos _)
    unfold StepFrame.scopeIn StepFrame.enter
    dsimp only
    rw [here, there, ScopeStack.at?_innermost, ScopeStack.at?_innermost, current]
    exact ⟨rfl, away⟩
  rw [Interpreter.execInTask_apply, Interpreter.execInTask_apply]
  generalize shallow.exec [.item task.counter] statement (first.enteringTask id task) = outcome at ran
  generalize deep.exec [.item task.counter] statement (second.enteringTask id task) = outcome' at ran
  cases ran with
  | done _ inside =>
      have context := inside.context (Nat.succ_pos _)
      dsimp only
      rw [(scopes inside).1, context.2.2]
      exact .done (scopes inside).2 (veiled.leavingTask inside)
  | raised inside =>
      have context := inside.context (Nat.succ_pos _)
      dsimp only
      rw [(scopes inside).1, context.2.2]
      exact .done (scopes inside).2 (veiled.leavingTask inside)
  | halted => exact .halted

include aside

theorem veiled_runStatement (reading : Nat) :
    Act.MirrorsAll (Veiled veil) (shallow.runStatement id reading) (deep.runStatement id reading) := by
  refine .bind (veiled_schedule fun _ _ alike => alike.started aside) fun _ _ => ?_
  refine .scheduler fun first second veiled => ?_
  rw [veiled.scheduler.idle aside]
  cases found : first.scheduler.task? id with
  | none => exact .pure trivial
  | some task =>
      obtain ⟨_, _, resembles⟩ := veiled.scheduler.tasks id task found
      dsimp only
      split
      · exact .bind (veiled_complete aside .void) fun _ _ => .pure trivial
      · rename_i statement _
        have counted : Act.MirrorsAll (Veiled veil) (Act.modifyTask id Interpreter.stepCounted)
            (Act.modifyTask id Interpreter.stepCounted) := by
          apply veiled_change aside
          · exact fun _ => rfl
          · exact fun _ _ reported => reported
        refine .bind counted fun _ _ => ?_
        refine .bind (veiled_count _) fun _ _ => ?_
        refine .bind (veiled_note _ _) fun _ _ => ?_
        refine .bind (veiled_execInTask exec (resembles.saved aside) statement) fun left apart => ?_
        obtain ⟨outcome, scope, positions⟩ := left
        have settles {change : Task → Task} := @veiled_settle veil id aside change scope apart
        cases outcome with
        | ok value =>
            refine .bind (settles (fun _ => rfl) fun _ _ reported => reported) fun _ _ => ?_
            split
            · exact .bind (veiled_complete aside .void) fun _ _ => .pure trivial
            · exact .pure trivial
        | error signal =>
            cases signal with
            | suspend fromLoop =>
                refine .bind (settles (fun _ => rfl) fun _ _ reported => reported) fun _ _ => ?_
                exact .pure trivial
            | returning value =>
                refine .bind (settles (fun _ => rfl) fun _ _ reported => reported) fun _ _ => ?_
                exact .bind (veiled_complete aside value) fun _ _ => .pure trivial
            | breakLoop => exact .fail _
            | continueLoop => exact .fail _
            | fault cause => exact .fail _

theorem veiled_stepReady :
    Act.MirrorsAll (Veiled veil) (shallow.stepReady id) (deep.stepReady id) := by
  refine .bind veiled_readClock fun now _ => ?_
  refine .scheduler fun first second veiled => ?_
  rw [veiled.scheduler.idle aside]
  cases first.scheduler.task? id with
  | none => exact .pure trivial
  | some task =>
      dsimp only
      split
      · refine .bind (veiled_complete aside _) fun _ _ => ?_
        refine .bind (veiled_count _) fun _ _ => ?_
        exact .bind (veiled_note _ _) fun _ _ => .pure trivial
      · split
        · exact .bind (veiled_count _) fun _ _ => .pure trivial
        · have woken : Act.MirrorsAll (Veiled veil) (Act.modifyTask id Interpreter.woken)
              (Act.modifyTask id Interpreter.woken) := by
            apply veiled_change aside
            · exact fun _ => rfl
            · exact fun _ _ reported => reported
          refine .bind woken fun _ _ => ?_
          split
          · exact veiled_runStatement aside exec now
          · refine .bind (veiled_complete aside .void) fun _ _ => ?_
            split
            · exact .bind (veiled_note _ _) fun _ _ => .pure trivial
            · exact .pure trivial

theorem veiled_step : Act.MirrorsAll (Veiled veil) (shallow.step id) (deep.step id) := by
  refine .scheduler fun first second veiled => ?_
  rw [veiled.scheduler.idle aside]
  cases first.scheduler.task? id with
  | none => exact .pure trivial
  | some task =>
      dsimp only
      split
      · exact .pure trivial
      · split
        · exact veiled_stepReady aside exec
        · rw [veiled.scheduler.isFinished]
          split
          · have cleared : Act.MirrorsAll (Veiled veil) (Act.updateScheduler (Scheduler.clearWait id))
                (Act.updateScheduler (Scheduler.clearWait id)) := by
              apply veiled_change aside
              · exact fun _ => rfl
              · exact fun _ _ reported => reported
            exact .bind cleared fun _ _ => veiled_stepReady aside exec
          · refine .bind (veiled_count _) fun _ _ => ?_
            exact .bind (veiled_note _ _) fun _ _ => .pure trivial

end Steps

/-! ### Turns of the queue -/

theorem veiled_requeue {id : TaskId} (allowed : id ∈ veil.running → id ∈ veil.marked) :
    Act.MirrorsAll (Veiled veil) (Interpreter.requeue id) (Interpreter.requeue id) :=
  .bind (veiled_schedule fun _ _ alike => alike.enqueues allowed) fun _ _ => veiled_note _ _

theorem veiled_idle (swept : List TaskId) :
    Act.MirrorsAll (Veiled veil) (Interpreter.idle swept) (Interpreter.idle swept) := by
  refine .bind (veiled_count _) fun _ _ => ?_
  refine .scheduler fun first second veiled => ?_
  rw [veiled.scheduler.settings]
  refine .bind (.update fun first second veiled => ?_) fun _ _ => veiled_note _ _
  exact { veiled with clock := by rw [veiled.clock] }

theorem veiled_afterTurn (swept : List TaskId) (id : TaskId) (status : StepStatus) :
    Act.MirrorsAll (Veiled veil) (Interpreter.afterTurn swept id status)
      (Interpreter.afterTurn swept id status) := by
  cases status with
  | blocked =>
      refine .scheduler fun first second veiled => ?_
      rw [veiled.scheduler.queue]
      split
      · exact .bind (veiled_idle _) fun _ _ => .pure trivial
      · exact .pure trivial
  | pending => exact .pure trivial
  | done => exact .pure trivial

section Turns

variable {shallow deep : Interpreter}
  (exec : ∀ id path statement,
    Act.MirrorsAll (Veiled (veil.entered id)) (shallow.exec path statement) (deep.exec path statement))

include exec

theorem veiled_cycle : Act.MirrorsAll (Veiled veil) shallow.cycle deep.cycle := by
  refine .scheduler fun first second veiled => ?_
  rcases veiled.scheduler.dequeues with ⟨here, there⟩ | ⟨id, remaining, remaining', here, there, rest, allowed⟩
  · rw [here, there]
    exact .pure trivial
  · rw [here, there]
    refine .bind (.update fun _ _ veiled => veiled.onScheduler rest) fun _ _ => ?_
    refine .bind (veiled_note _ _) fun _ _ => ?_
    rw [rest.isActive allowed]
    split
    · refine .bind (veiled_requeue allowed) fun _ _ => ?_
      refine .scheduler fun first second veiled => ?_
      rw [veiled.scheduler.onlyActiveQueued]
      split
      · exact .pure trivial
      · exact .pure trivial
    · rename_i idle
      have aside : id ∉ veil.running := by
        intro member
        refine idle (decide_eq_true ?_)
        rw [rest.active]
        exact List.mem_append_right _ member
      refine .bind (veiled_step aside (exec id)) fun status _ => ?_
      cases status with
      | done => exact .bind (veiled_finalize id) fun _ _ => .pure trivial
      | pending => exact .bind (veiled_requeue allowed) fun _ _ => .pure trivial
      | blocked => exact .bind (veiled_requeue allowed) fun _ _ => .pure trivial

theorem veiled_runOneCycle : Act.MirrorsAll (Veiled veil) shallow.runOneCycle deep.runOneCycle :=
  .bind (veiled_cycle exec) fun _ _ => .pure trivial

theorem veiled_turn (swept : List TaskId) :
    Act.MirrorsAll (Veiled veil) (shallow.turn swept) (deep.turn swept) := by
  refine .bind (veiled_cycle exec) fun turned _ => ?_
  cases turned with
  | none => exact .pure trivial
  | some turn => exact .bind (veiled_afterTurn swept turn.1 turn.2) fun _ _ => .pure trivial

theorem veiled_runUntilComplete (turns : shallow.turns ≤ deep.turns) (id : TaskId) :
    Act.MirrorsAll (Veiled veil) (shallow.runUntilComplete id) (deep.runUntilComplete id) :=
  Interpreter.mirrors_runUntilComplete (veiled_turn exec)
    (fun _ _ veiled => veiled.scheduler.isFinished id) turns (veiled_finalize id) (veiled_note _ _)

end Turns

end CooperativeTasks
