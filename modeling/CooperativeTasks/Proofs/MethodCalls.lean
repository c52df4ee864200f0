import CooperativeTasks.Proofs.MethodTasks

set_option autoImplicit false

/-! Synchronous and asynchronous methods agree.

A method of a global variable is called from the top level, once as it is and once declared
asynchronous and awaited, on a scheduler of its own. As long as its body is plain and leaves its
instance alone but for single fields, the two do the same. The body of the synchronous call is
compared with a run of the body in the scope of the task, outside of any task, and that with the
turns of the task. Both ways of calling write the instance back in a way of their own, which comes to
the same because the value of `self` and the entries for its fields have been kept together. -/

namespace CooperativeTasks

variable {α : Type}

/-! ### Runs at all depths -/

/-- What deeper interpreters go on with is halted at every depth, or comes to the same end from some
depth on. -/
theorem Act.eventually {action : Nat → Act α}
    (longer : ∀ {depth deeper}, depth ≤ deeper → Act.Extends (action depth) (action deeper))
    (session : Session) :
    (∃ result after enough, ∀ depth, enough ≤ depth → action depth session = .of after result) ∨
      ∀ depth, ∃ moment, action depth session = .halted moment := by
  by_cases ends : ∃ depth result after, action depth session = .of after result
  · obtain ⟨enough, result, after, ended⟩ := ends
    refine .inl ⟨result, after, enough, fun depth within => ?_⟩
    exact (longer within).of_ended ended
  · refine .inr fun depth => ?_
    rcases Outcome.of_or_halted (action depth session) with ⟨result, after, ended⟩ | halted
    · exact absurd ⟨depth, result, after, ended⟩ ends
    · exact halted

/-- Two sessions that look the same from outside: the same lines printed, and every name bound to the
same. -/
structure Session.LooksLike (first second : Session) : Prop where
  printed : second.executor.output = first.executor.output
  bound : ∀ name, second.executor.scopes.lookup? name = first.executor.scopes.lookup? name

/-- Two evaluations come to the same value or the same fault, in sessions that look the same. -/
inductive Outcome.SameEnd : Outcome Value → Outcome Value → Prop where
  | returned (value : Value) {first second : Session} (alike : first.LooksLike second) :
      SameEnd (.done value first) (.done value second)
  | faulted (cause : Fault) {first second : Session} (alike : first.LooksLike second) :
      SameEnd (.raised (.fault cause) first) (.raised (.fault cause) second)

/-- Both evaluations are halted at every depth, or at all depths from some on they come to the same.
With no budget set, depth is all that an evaluation can lack, so one that is halted at every depth
runs forever. -/
def EndAlike (first second : Nat → Outcome Value) : Prop :=
  ((∀ depth, ∃ moment, first depth = .halted moment) ∧
      ∀ depth, ∃ moment, second depth = .halted moment) ∨
    ∃ enough, ∀ depth deeper, enough ≤ depth → enough ≤ deeper →
      (first depth).SameEnd (second deeper)

namespace EndAlike

theorem shift {first second : Nat → Outcome Value} {more more' : Nat}
    (alike : EndAlike (fun depth => first (depth + more)) fun depth => second (depth + more'))
    (halts : ∀ depth, depth < more → ∃ moment, first depth = .halted moment)
    (halts' : ∀ depth, depth < more' → ∃ moment, second depth = .halted moment) :
    EndAlike first second := by
  rcases alike with ⟨stuck, stuck'⟩ | ⟨enough, same⟩
  · refine .inl ⟨fun depth => ?_, fun depth => ?_⟩
    · by_cases below : depth < more
      · exact halts depth below
      · obtain ⟨rest, rfl⟩ := Nat.exists_eq_add_of_le' (Nat.le_of_not_lt below)
        exact stuck rest
    · by_cases below : depth < more'
      · exact halts' depth below
      · obtain ⟨rest, rfl⟩ := Nat.exists_eq_add_of_le' (Nat.le_of_not_lt below)
        exact stuck' rest
  · refine .inr ⟨enough + more + more', fun depth deeper within within' => ?_⟩
    obtain ⟨rest, rfl⟩ : ∃ rest, depth = rest + more := ⟨depth - more, by omega⟩
    obtain ⟨rest', rfl⟩ : ∃ rest, deeper = rest + more' := ⟨deeper - more', by omega⟩
    exact same rest rest' (by omega) (by omega)

theorem look {good : α → Prop} {action : Nat → Act α} {next next' : Nat → α → Act Value}
    {session session' : Session}
    (longer : ∀ {depth deeper}, depth ≤ deeper → Act.Extends (action depth) (action deeper))
    (looked : ∀ depth,
      Outcome.Looked good session session' (action depth session) (action depth session'))
    (futureless : session.executor.scopes.isFutureless = true) (alike : session.LooksLike session')
    (tail : ∀ value, good value →
      EndAlike (fun depth => next depth value session) fun depth => next' depth value session') :
    EndAlike (fun depth => (action depth >>= next depth) session)
      fun depth => (action depth >>= next' depth) session' := by
  rcases Act.eventually longer session with ⟨result, after, enough, ended⟩ | halted
  · cases result with
    | ok value =>
        obtain ⟨rfl, -, well⟩ := (looked enough).of_done (ended enough (Nat.le_refl enough))
        rcases tail value (well futureless) with ⟨stuck, stuck'⟩ | ⟨later, same⟩
        · -- At small depths the look itself is halted, and at others what comes after it.
          have either (depth : Nat) := Act.Extends.same_or_halted
            (longer (Nat.le_max_left depth enough)) after
          refine .inl ⟨fun depth => ?_, fun depth => ?_⟩
          · rcases either depth with same | ⟨moment, halted⟩
            · obtain ⟨moment, there⟩ := stuck depth
              have here := same.trans (ended _ (Nat.le_max_right depth enough))
              exact ⟨moment, (Act.bind_of_done here).trans there⟩
            · exact ⟨moment, Act.bind_of_halted halted⟩
          · rcases either depth with same | ⟨moment, halted⟩
            · obtain ⟨moment, there⟩ := stuck' depth
              have here := same.trans (ended _ (Nat.le_max_right depth enough))
              exact ⟨moment, (Act.bind_of_done ((looked depth).of_done here).2.1).trans there⟩
            · exact ⟨_, Act.bind_of_halted ((looked depth).of_halted halted)⟩
        · refine .inr ⟨max enough later, fun depth deeper within within' => ?_⟩
          have here := ended depth (Nat.le_trans (Nat.le_max_left ..) within)
          have there := (looked deeper).of_done
            (ended deeper (Nat.le_trans (Nat.le_max_left ..) within'))
          change ((action depth >>= next depth) after).SameEnd
            ((action deeper >>= next' deeper) session')
          rw [Act.bind_of_done here, Act.bind_of_done there.2.1]
          exact same depth deeper (Nat.le_trans (Nat.le_max_right ..) within)
            (Nat.le_trans (Nat.le_max_right ..) within')
    | error signal =>
        obtain ⟨rfl, cause, rfl, -⟩ := (looked enough).of_raised (ended enough (Nat.le_refl enough))
        refine .inr ⟨enough, fun depth deeper within within' => ?_⟩
        obtain ⟨-, _, same, there⟩ := (looked deeper).of_raised (ended deeper within')
        cases same
        change ((action depth >>= next depth) after).SameEnd
          ((action deeper >>= next' deeper) session')
        rw [Act.bind_of_raised (ended depth within), Act.bind_of_raised there]
        exact .faulted cause alike
  · refine .inl ⟨fun depth => ?_, fun depth => ?_⟩
    · obtain ⟨moment, here⟩ := halted depth
      exact ⟨moment, Act.bind_of_halted here⟩
    · obtain ⟨moment, here⟩ := halted depth
      exact ⟨_, Act.bind_of_halted ((looked depth).of_halted here)⟩

theorem of_done {first second : Nat → Outcome Value} {depth : Nat} {value : Value} {after : Session}
    (alike : EndAlike first second)
    (ended : ∀ deeper, depth ≤ deeper → first deeper = .done value after) :
    ∃ enough, ∀ deeper, enough ≤ deeper →
      ∃ after', second deeper = .done value after' ∧ after.LooksLike after' := by
  rcases alike with ⟨stuck, -⟩ | ⟨enough, same⟩
  · obtain ⟨moment, halted⟩ := stuck depth
    rw [ended depth (Nat.le_refl depth)] at halted
    cases halted
  · refine ⟨enough, fun deeper within => ?_⟩
    have both := same (max depth enough) deeper (Nat.le_max_right ..) within
    rw [ended _ (Nat.le_max_left ..)] at both
    generalize second deeper = outcome at both ⊢
    cases both with
    | returned _ looks => exact ⟨_, rfl, looks⟩

end EndAlike

theorem Interpreter.evalAll_looks {interpreter : Interpreter} (looks : interpreter.LooksAt)
    {exprs : List Expr} (plain : ∀ expr ∈ exprs, expr.isPlain = true) :
    Act.Looks (fun values => ∀ value ∈ values, value.isFutureless = true)
      (interpreter.evalAll exprs) := by
  induction exprs with
  | nil => exact .pure nofun
  | cons expr rest ih =>
      have inRest (other : Expr) (member : other ∈ rest) :=
        plain other (List.mem_cons_of_mem expr member)
      refine .bind (looks expr (plain expr List.mem_cons_self)) fun value => ?_
      refine .bind (ih inRest) fun values => .pure fun others futureless => ?_
      exact List.forall_mem_cons.mpr ⟨futureless, others⟩

theorem Task.slotValue_of_futureless {payload : Value} (futureless : payload.isFutureless = true) :
    Task.slotValue payload = payload := by
  cases payload with
  | struct typeName fields =>
      have other := (Value.isFutureless_struct futureless).1
      simp [slotValue, Future.ofValue?, Value.isStructOf, other]
  | _ => rfl

theorem Value.isFutureless_bodyResult {ending : Except Signal Unit} {value : Value}
    (returned : ∀ value, ending = .error (.returning value) → value.isFutureless = true)
    (ended : bodyResult ending = .ok value) : value.isFutureless = true := by
  cases ending with
  | ok _ =>
      cases ended
      rfl
  | error signal =>
      cases signal with
      | returning payload =>
          cases ended
          exact returned value rfl
      | _ => cases ended

namespace ScopeStack

theorem bindings_above {stack : ScopeStack} {bindings globals : List (String × Value)}
    (above : stack.contents = [bindings, globals]) :
    stack.current.bindings = bindings ∧ stack.global.bindings = globals := by
  obtain ⟨scope, inner, own, below⟩ := inner_above above
  exact ⟨by simp [current, inner, own], below⟩

theorem lookup?_truncate_above {stack : ScopeStack} {bindings globals : List (String × Value)}
    (above : stack.contents = [bindings, globals]) (name : String) :
    (stack.truncate 1).lookup? name = Bindings.get? name globals := by
  rw [lookup?_eq, (truncate_above above).1]
  simp

namespace Matching

variable {typeName : String} {names known : List String} {first second : ScopeStack}
  (matching : Matching typeName names known first second)

include matching

theorem lookup?_below (name : String) : (first.truncate 1).lookup? name = second.global.get? name := by
  obtain ⟨here, there, -, -, -, -⟩ := matching
  rw [lookup?_truncate_above here]
  unfold Scope.get?
  rw [(bindings_above there).2]

theorem isSome_below {name : String} (listed : name ∈ known) :
    ((first.truncate 1).lookup? name).isSome = true := by
  have below := matching.lookup?_below name
  obtain ⟨-, there, globals, -, -, -⟩ := matching
  rw [below]
  change Bindings.contains name second.global.bindings = true
  rw [(bindings_above there).2, Bindings.contains_iff, globals]
  exact listed

theorem instances (distinct : names.Nodup) (whole : ∀ name ∈ names, '.' ∉ name.toList) :
    ∃ merged, merged.map Prod.fst = names ∧
      first.current.instanceValue = .struct typeName merged ∧
      HoldsInstance typeName merged second.current.bindings ∧
      (second.current.bindings.map Prod.fst).Nodup := by
  obtain @⟨bindings, bindings', globals, merged, here, there, -, reordered, rfl, holds⟩ := matching
  have merges := holds.merges reordered.distinct distinct whole rfl
  refine ⟨merged, rfl, ?_, ?_, ?_⟩
  · unfold Scope.instanceValue Scope.get?
    rw [(bindings_above here).1, holds.own]
    exact congrArg (Value.struct typeName) merges
  · rw [(bindings_above there).1]
    exact holds.of_reads fun name _ => reordered.reads name
  · rw [(bindings_above there).1]
    exact reordered.distinct'

end Matching

theorem id_global {first second : ScopeStack} (same : first.identities = second.identities) :
    first.global.id = second.global.id := by
  have last := congrArg List.getLast? same
  simpa [identities_eq] using last

end ScopeStack

theorem Act.Brackets.identities {layer : Layer} {action : Act α} (brackets : action.Brackets layer)
    {session after : Session} {result : Except Signal α} (ended : action session = .of after result) :
    after.executor.scopes.identities = session.executor.scopes.identities := by
  have kept := brackets session
  rw [ended] at kept
  cases result with
  | ok value => exact Session.Kept.scopes kept
  | error signal => exact Session.Kept.scopes kept

/-! ### The call -/

/-- A method of a global variable, about to be called from the top level. Its body is plain, binds
nothing under the name `self` or below it, and assigns to single fields of `self`, if to it at all. -/
structure TopCall (receiver method typeName : String) (fields : List (String × Value))
    (function : FunctionDecl) (session : Session) : Prop where
  plain : '.' ∉ receiver.toList
  held : session.executor.scopes.global.get? receiver = some (.struct typeName fields)
  distinct : (fields.map Prod.fst).Nodup
  whole : ∀ name ∈ fields.map Prod.fst, '.' ∉ name.toList
  declared : Bindings.get? (typeName ++ "." ++ method) session.executor.functions = some function
  sync : function.isAsync = false
  params : ∀ name ∈ function.params, ofInstance name = false
  body : arePlain function.body = true
  spares : everyOne (Stmt.sparesInstance (fields.map Prod.fst)) function.body = true
  top : session.executor.scopes.depth = 1
  /-- Without an identity the task could not be pinned to the scope of the variable. -/
  identified : session.executor.scopes.global.id.isSome = true
  futureless : session.executor.scopes.isFutureless = true
  outside : session.executor.currentTask = none
  queue : session.scheduler.queue.ids = []
  unlimited : session.budget = none
  shallow : session.executor.callDepth < session.executor.settings.maxCallDepth

def FunctionDecl.async (function : FunctionDecl) : FunctionDecl := { function with isAsync := true }

/-- The session with a function declared asynchronous, on a scheduler that has not had any task. -/
def Session.declaringAsync (name : String) (function : FunctionDecl) (settings : SchedulerSettings)
    (session : Session) : Session :=
  { session with
    executor :=
      { session.executor with
        functions := Bindings.insert name function.async session.executor.functions } }.unoccupied
    settings

def Session.calling (function : FunctionDecl) (scope : Scope) (session : Session) : Session :=
  (session.recorded (.called function.qualifiedName session.executor.callDepth)).enteringCall scope

def Task.ofMethod (function : FunctionDecl) (values : List Value) (target : Value)
    (site : Option BindingSite) : Task :=
  { (Task.ofFunction function values).withReceiver target site with autoYield := !function.hasYield }

def Session.registered (function : FunctionDecl) (values : List Value) (target : Value)
    (site : Option BindingSite) (session : Session) : Session :=
  (session.registering ((Task.ofFunction function values).withReceiver target site)).recorded
    (.registered onlyTask function.qualifiedName !function.hasYield)

/-- The session in which the method has been called asynchronously, and is about to be awaited. -/
def Session.pendingMethod (typeName method : String) (fields : List (String × Value))
    (function : FunctionDecl) (values : List Value) (settings : SchedulerSettings)
    (site : Option BindingSite) (session : Session) : Session :=
  (session.declaringAsync (typeName ++ "." ++ method) function settings).registered function.async
    values (.struct typeName fields) site

/-- Awaited by an interpreter of some depth, the method ends as its body has, which has left a session
outside of any task. -/
def Session.DrivesTo (depth : Nat) (function : FunctionDecl) (receiver : Receiver)
    (ending : Except Signal Unit) (left pending : Session) : Prop :=
  Interpreter.Arrives function.async (some receiver) 1 left.executor.scopes left.executor.output
    (bodyResult ending)
    ((interpreter depth).drive (pending.recorded (.awaiting onlyTask none)))

namespace TopCall

variable {receiver method typeName : String} {fields : List (String × Value)}
  {function : FunctionDecl} {session : Session}
  (top : TopCall receiver method typeName fields function session)

include top

theorem bound : session.executor.scopes.lookup? receiver = some (.struct typeName fields) := by
  rw [ScopeStack.lookup?_top top.top]
  exact top.held

theorem instance_futureless : (Value.struct typeName fields).isFutureless = true :=
  ScopeStack.isFutureless_lookup? top.futureless top.bound

theorem contents :
    session.executor.scopes.contents = [session.executor.scopes.global.bindings] := by
  simp [ScopeStack.contents, ScopeStack.frames, ScopeStack.inner_eq_nil top.top]

/-! ### Bodies -/

section Bodies

variable {values : List Value} (arguments : ∀ value ∈ values, value.isFutureless = true)
  (site : Option BindingSite)

include arguments

theorem futureless_entry {entry : String × Value}
    (member : entry ∈ function.params.zip values ∨
      entry ∈ Task.selfEntries (.struct typeName fields) ∨
        entry = (selfName, .struct typeName fields)) : entry.2.isFutureless = true := by
  rcases member with parameter | field | rfl
  · exact arguments entry.2 (List.of_mem_zip parameter).2
  · obtain ⟨known, listed, rfl⟩ := List.mem_map.mp field
    have inside := (Value.isFutureless_struct top.instance_futureless).2
    exact (Value.areFutureless_iff fields).mp inside known listed
  · exact top.instance_futureless

/-- The body finds the same in the scope of a call and in the scope of a task. -/
theorem paired :
    Session.Paired typeName (fields.map Prod.fst)
        (session.executor.scopes.global.bindings.map Prod.fst)
      (session.calling function (callScope function values (some (.struct typeName fields))))
      (session.calling function
        (Task.ofMethod function.async values (.struct typeName fields) site).initialScope) where
  scopes := matching_scopes top.params top.distinct site top.contents
  futureless := by
    have entries := @futureless_entry _ _ _ _ _ _ top _ arguments
    constructor
    · refine ScopeStack.isFutureless_push top.futureless (Value.areFutureless_insertAll ?_ rfl)
      refine (Value.areFutureless_iff _).mpr fun entry member => entries ?_
      simpa [or_assoc] using member
    · refine ScopeStack.isFutureless_push top.futureless (Value.areFutureless_insertAll ?_ rfl)
      refine (Value.areFutureless_iff _).mpr fun entry member => entries ?_
      rcases List.mem_append.mp member with parameter | own
      · exact .inl parameter
      · rcases List.mem_cons.mp own with self | field
        · exact .inr (.inr self)
        · exact .inr (.inl field)
  structs := rfl
  positions := rfl
  output := rfl
  outside := ⟨rfl, rfl⟩
  queue := ⟨top.queue, top.queue⟩
  unlimited := ⟨top.unlimited, top.unlimited⟩

/-- At every depth the body comes to the same end in both scopes, or is halted in both. -/
theorem bodies (depth : Nat) :
    (∃ ending left left',
      (interpreter depth).execBlock [] function.body (session.calling function
        (callScope function values (some (.struct typeName fields)))) = .of left ending ∧
      (interpreter depth).execBlock [] function.body (session.calling function
        (Task.ofMethod function.async values (.struct typeName fields) site).initialScope) =
          .of left' ending ∧
      left.Paired typeName (fields.map Prod.fst)
        (session.executor.scopes.global.bindings.map Prod.fst) left') ∨
    ∃ moment moment',
      (interpreter depth).execBlock [] function.body (session.calling function
        (callScope function values (some (.struct typeName fields)))) = .halted moment ∧
      (interpreter depth).execBlock [] function.body (session.calling function
        (Task.ofMethod function.async values (.struct typeName fields) site).initialScope) =
          .halted moment' := by
  have paired := top.paired arguments site
  have forth := Session.Paired.execBlock top.whole depth [] top.body top.spares _ _ paired
  have back := Session.Paired.execBlock top.whole depth [] top.body top.spares _ _ paired.symm
  generalize (interpreter depth).execBlock [] function.body (session.calling function
    (callScope function values (some (.struct typeName fields)))) = outcome at forth back ⊢
  generalize (interpreter depth).execBlock [] function.body (session.calling function
    (Task.ofMethod function.async values (.struct typeName fields) site).initialScope) = outcome'
    at forth back ⊢
  cases forth with
  | done _ same => exact .inl ⟨.ok (), _, _, rfl, rfl, same⟩
  | raised same => exact .inl ⟨.error _, _, _, rfl, rfl, same⟩
  | @halted moment =>
      cases back with
      | @halted moment' => exact .inr ⟨moment, moment', rfl, rfl⟩

end Bodies

/-! ### Tasks -/

section Tasks

variable {values : List Value} (arguments : ∀ value ∈ values, value.isFutureless = true)
  (settings : SchedulerSettings) (site : Option BindingSite)

open Interpreter in
theorem resting :
    Resting function.async (some ⟨.struct typeName fields, site⟩) 1
      (((session.pendingMethod typeName method fields function values settings site).recorded
        (.awaiting onlyTask none)).enteringTask onlyTask
          (Task.ofMethod function.async values (.struct typeName fields) site).start).executor
      (Task.ofMethod function.async values (.struct typeName fields) site)
      ((session.pendingMethod typeName method fields function values settings site).recorded
        (.awaiting onlyTask none)) where
  tasks := rfl
  queue := rfl
  active := rfl
  budget := rfl
  solitary := ⟨rfl, rfl, rfl, rfl, rfl, rfl, rfl, rfl, rfl⟩
  depth := top.top
  held := ⟨_, rfl⟩
  enters := rfl

theorem outside_pending :
    (session.pendingMethod typeName method fields function values settings
      site).executor.currentTask = none :=
  top.outside

include arguments

theorem starts :
    Interpreter.ListStarts [] function.async.body
      (session.calling function
        (Task.ofMethod function.async values (.struct typeName fields) site).initialScope)
      (((session.pendingMethod typeName method fields function values settings site).recorded
        (.awaiting onlyTask none)).enteringTask onlyTask
          (Task.ofMethod function.async values (.struct typeName fields) site).start) := by
  have paired := top.paired arguments site
  exact ⟨⟨rfl, top.queue, top.unlimited, Positions.tidy_start, paired.futureless.2⟩,
    ⟨rfl, rfl, Positions.tidy_start⟩, ⟨rfl, rfl, rfl⟩, fun mark _ => Positions.reads_start mark,
    fun mark _ _ => Positions.reads_start mark⟩

open Interpreter in
theorem arrives {depth : Nat} {ending : Except Signal Unit} {left : Session}
    (ran : (interpreter depth).execBlock [] function.body (session.calling function
      (Task.ofMethod function.async values (.struct typeName fields) site).initialScope) =
        .of left ending) :
    (∀ value, ending = .error (.returning value) → value.isFutureless = true) ∧
    ∃ enough, ∀ deeper, enough ≤ deeper →
      Session.DrivesTo deeper function ⟨.struct typeName fields, site⟩ ending left
        (session.pendingMethod typeName method fields function values settings site) := by
  have starts := top.starts arguments settings site
  have plain : arePlain function.async.body = true := top.body
  constructor
  · exact (execFrom_settles (interpreter_settling depth) plain List.drop_zero starts ran).1.returned
  · exact (body_closes plain List.drop_zero starts (top.resting settings site) rfl ran).reaches

open Interpreter in
theorem drags
    (halted : ∀ depth, ∃ moment, (interpreter depth).execBlock [] function.body
      (session.calling function
        (Task.ofMethod function.async values (.struct typeName fields) site).initialScope) =
          .halted moment) (depth : Nat) :
    ∃ moment, (interpreter depth).awaitFuture (Future.pending.toValue (some onlyTask))
      (session.pendingMethod typeName method fields function values settings site) =
        .halted moment := by
  obtain ⟨left, stuck⟩ := halted (((interpreter depth).turns + 1) * (depth + 1))
  have starts := top.starts arguments settings site
  have plain : arePlain function.async.body = true := top.body
  obtain ⟨moment, drives⟩ := (body_drags (Nat.le_refl _) plain List.drop_zero starts
    (top.resting settings site) rfl stuck (Nat.le_refl _)).iterate
  exact ⟨moment, awaitFuture_halts (top.outside_pending settings site) (top.resting settings site)
    drives⟩

end Tasks

/-! ### Both ways of calling -/

section Both

variable {values : List Value} (settings : SchedulerSettings) {frame : ScopeId}
  (own : session.executor.scopes.global.id = some frame)

open Interpreter

include own in
theorem registers (interpreter : Interpreter) (arity : function.params.length = values.length) :
    interpreter.invoke receiver function.async (.struct typeName fields) values
        (session.declaringAsync (typeName ++ "." ++ method) function settings) =
      .done (Future.pending.toValue (some onlyTask))
        (session.pendingMethod typeName method fields function values settings
          (some ⟨receiver, frame, none⟩)) := by
  have pinned : (session.declaringAsync (typeName ++ "." ++ method) function
      settings).executor.site? receiver = some ⟨receiver, frame, none⟩ := by
    have bound : session.executor.scopes.global.contains receiver = true := by
      have held := top.held
      unfold Scope.get? at held
      unfold Scope.contains Bindings.contains
      rw [held]
      rfl
    change ((session.executor.scopes.frames.find? (Scope.contains receiver)).bind Scope.id).map
      (fun frame => BindingSite.mk receiver frame session.executor.currentTask) = _
    simp [ScopeStack.frames, ScopeStack.inner_eq_nil top.top, bound, own, top.outside]
  have same : function.async.params.length = values.length := arity
  rw [invoke_async rfl same, Act.executor_bind, pinned]
  rfl

variable {depth deeper : Nat} {ending : Except Signal Unit} {left left' : Session}
  (arity : function.params.length = values.length)
  (ran : (interpreter depth).execBlock [] function.body (session.calling function
    (callScope function values (some (.struct typeName fields)))) = .of left ending)
  (paired : left.Paired typeName (fields.map Prod.fst)
    (session.executor.scopes.global.bindings.map Prod.fst) left')
  (drives : Session.DrivesTo deeper function
    ⟨.struct typeName fields, some ⟨receiver, frame, none⟩⟩ ending left'
    (session.pendingMethod typeName method fields function values settings
      (some ⟨receiver, frame, none⟩)))

include arity ran paired drives

theorem returns_alike {value : Value} (ended : bodyResult ending = .ok value)
    (kept : left'.executor.scopes.global.id = some frame) (futureless : value.isFutureless = true) :
    Outcome.SameEnd
      ((interpreter depth).invoke receiver function (.struct typeName fields) values session)
      ((interpreter deeper).awaitFuture (Future.pending.toValue (some onlyTask))
        (session.pendingMethod typeName method fields function values settings
          (some ⟨receiver, frame, none⟩))) := by
  obtain ⟨merged, keys, updated, holds, distinct⟩ := paired.scopes.instances top.distinct top.whole
  have apart : (merged.map Prod.fst).Nodup := by
    rw [keys]
    exact top.distinct
  have whole : ∀ name ∈ merged.map Prod.fst, '.' ∉ name.toList := by
    rw [keys]
    exact top.whole
  have listed : receiver ∈ session.executor.scopes.global.bindings.map Prod.fst :=
    Bindings.contains_iff.mp (congrArg Option.isSome top.held)
  have below := paired.scopes.lookup?_below
  have bound := paired.scopes.isSome_below listed
  rw [← top.top] at below bound
  have wrote := invoke_writes top.shallow (Act.note_unlimited top.unlimited _) top.sync arity ran ended
    top.plain updated bound
  unfold Session.DrivesTo at drives
  rw [ended] at drives
  obtain ⟨completed, delivered, after, awaited, shown, printed, globals, closing, delivers⟩ :=
    awaitFuture_returns (top.outside_pending settings _) (top.resting settings _) drives
  have same : completed.executor.scopes.global.id = some frame := by
    rw [globals]
    exact kept
  have writes := delivers.lookup? closing.depth same holds distinct apart whole keys.symm
  rw [wrote, awaited, Task.slotValue_of_futureless futureless]
  refine .returned value ⟨?_, fun name => ?_⟩
  · rw [shown, delivers.executor]
    exact printed.trans paired.output
  · rw [shown, writes, ScopeStack.lookup?_withInstance, ScopeStack.lookup?_top closing.depth, globals]
    change _ = ((left.executor.scopes.truncate session.executor.scopes.depth).withInstance receiver
      typeName merged).lookup? name
    rw [ScopeStack.lookup?_withInstance, below]

theorem faults_alike {cause : Fault} (ended : bodyResult ending = .error cause) :
    Outcome.SameEnd
      ((interpreter depth).invoke receiver function (.struct typeName fields) values session)
      ((interpreter deeper).awaitFuture (Future.pending.toValue (some onlyTask))
        (session.pendingMethod typeName method fields function values settings
          (some ⟨receiver, frame, none⟩))) := by
  have below := paired.scopes.lookup?_below
  rw [← top.top] at below
  have faulted := @invoke_faults _ receiver _ _ _ _ top.shallow
    (Act.note_unlimited top.unlimited _) _ _ _ top.sync arity _ ran ended
  unfold Session.DrivesTo at drives
  rw [ended] at drives
  obtain ⟨after, awaited, printed, globals⟩ :=
    awaitFuture_faults (top.outside_pending settings _) (top.resting settings _) drives
  have brackets := ((interpreter_deepens (Nat.le_refl deeper)).related.awaitFuture
    (Future.pending.toValue (some onlyTask))).brackets
  have height : after.executor.scopes.depth = 1 := by
    have same := @Act.Brackets.identities _ _ _ brackets _ _ (.error (.fault cause)) awaited
    rw [← ScopeStack.length_identities, same, ScopeStack.length_identities]
    exact top.top
  rw [faulted, awaited]
  refine .faulted cause ⟨printed.trans paired.output, fun name => ?_⟩
  rw [ScopeStack.lookup?_top height, globals]
  exact (below name).symm

end Both

section

variable {values : List Value} (arguments : ∀ value ∈ values, value.isFutureless = true)
  (settings : SchedulerSettings) {frame : ScopeId}
  (own : session.executor.scopes.global.id = some frame)

include arguments own

open Interpreter in
/-- Once the arguments are known, both ways of calling are halted at every depth, or come to the
same. -/
theorem invoked (arity : function.params.length = values.length) :
    EndAlike
      (fun depth =>
        (interpreter depth).invoke receiver function (.struct typeName fields) values session)
      (fun depth => (interpreter (depth + 1)).awaitFuture (Future.pending.toValue (some onlyTask))
        (session.pendingMethod typeName method fields function values settings
          (some ⟨receiver, frame, none⟩))) := by
  have bodies := top.bodies arguments (some ⟨receiver, frame, none⟩)
  -- Either the body comes to an end from some depth on, or it is halted at every depth.
  rcases Act.eventually
    (fun within => ((interpreter_deepens within).related.execBlock [] function.body).extends)
    (session.calling function (callScope function values (some (.struct typeName fields)))) with
    ⟨ending, left, enough, ran⟩ | halted
  · rcases bodies enough with ⟨other, same, left', here, there, paired⟩ | ⟨_, _, here, _⟩
    · rw [ran enough (Nat.le_refl enough)] at here
      obtain ⟨rfl, rfl⟩ := Outcome.of_inj here
      obtain ⟨returned, later, arrives⟩ := top.arrives arguments settings _ there
      have brackets := ((interpreter_deepens (Nat.le_refl enough)).related.execBlock [] function.body).brackets
      have kept : left'.executor.scopes.global.id = some frame := by
        rw [ScopeStack.id_global (brackets.identities there), ← own]
        exact congrArg Scope.id (ScopeStack.global_push _ session.executor.scopes)
      refine .inr ⟨max enough later, fun depth deeper within within' => ?_⟩
      have first := ran depth (Nat.le_trans (Nat.le_max_left ..) within)
      have second := arrives (deeper + 1)
        (Nat.le_succ_of_le (Nat.le_trans (Nat.le_max_right ..) within'))
      cases ended : bodyResult ending with
      | ok value =>
          have futureless := Value.isFutureless_bodyResult returned ended
          exact top.returns_alike settings arity first paired second ended kept futureless
      | error cause => exact top.faults_alike settings arity first paired second ended
    · rw [ran enough (Nat.le_refl enough)] at here
      exact (Outcome.halted_of here.symm).elim
  · have stuck (depth : Nat) : ∃ moment, (interpreter depth).execBlock [] function.body
        (session.calling function (Task.ofMethod function.async values (.struct typeName fields)
          (some ⟨receiver, frame, none⟩)).initialScope) = .halted moment := by
      obtain ⟨moment, here⟩ := halted depth
      rcases bodies depth with ⟨_, _, _, ended, _, _⟩ | ⟨_, moment', _, there⟩
      · rw [here] at ended
        exact (Outcome.halted_of ended).elim
      · exact ⟨moment', there⟩
    refine .inl ⟨fun depth => ?_, fun depth => ?_⟩
    · obtain ⟨moment, here⟩ := halted depth
      exact ⟨moment, invoke_halts top.shallow (Act.note_unlimited top.unlimited _) top.sync arity here⟩
    · exact top.drags arguments settings _ stuck (depth + 1)

end

open Interpreter in
theorem calls (args : List Expr) (depth : Nat) :
    (interpreter (depth + 1)).eval (.methodCall receiver method args) session =
      ((interpreter depth).evalAll args >>=
        (interpreter depth).invoke receiver function (.struct typeName fields)) session :=
  callMethod_eq (ScopeStack.readPlace_of_bound top.bound) top.declared

open Interpreter in
theorem awaits (args : List Expr) (settings : SchedulerSettings) (depth : Nat) :
    (interpreter (depth + 2)).eval (.await (.methodCall receiver method args))
        (session.declaringAsync (typeName ++ "." ++ method) function settings) =
      ((interpreter depth).evalAll args >>= fun values =>
        (interpreter depth).invoke receiver function.async (.struct typeName fields) values >>=
          (interpreter (depth + 1)).awaitFuture)
        (session.declaringAsync (typeName ++ "." ++ method) function settings) := by
  have called : (interpreter depth).callMethod receiver method args
        (session.declaringAsync (typeName ++ "." ++ method) function settings) =
      ((interpreter depth).evalAll args >>=
        (interpreter depth).invoke receiver function.async (.struct typeName fields))
        (session.declaringAsync (typeName ++ "." ++ method) function settings) :=
    callMethod_eq (ScopeStack.readPlace_of_bound top.bound) (Bindings.get?_insert_self ..)
  rw [← Act.bind_assoc]
  change ((interpreter depth).callMethod receiver method args >>=
    (interpreter (depth + 1)).awaitFuture) _ = _
  rw [Act.bind_apply, Act.bind_apply, called]

end TopCall

open Interpreter in
/-- A plain method of a global variable, called from the top level, and the same method declared
asynchronous and awaited on a scheduler of its own, are both halted at every depth, or both fault
alike, or both give the same value; and then they have printed the same and left all names, the
variable and the entries beside it among them, bound to the same. -/
theorem synchronous_and_asynchronous_methods_agree {receiver method typeName : String}
    {fields : List (String × Value)} {function : FunctionDecl} {session : Session}
    (top : TopCall receiver method typeName fields function session) (args : List Expr)
    (plain : ∀ arg ∈ args, arg.isPlain = true) (settings : SchedulerSettings) :
    EndAlike (fun depth => (interpreter depth).eval (.methodCall receiver method args) session)
      (fun depth => (interpreter depth).eval (.await (.methodCall receiver method args))
        (session.declaringAsync (typeName ++ "." ++ method) function settings)) := by
  have halts (expr : Expr) (moment : Session) :
      ∃ moment', (interpreter 0).eval expr moment = .halted moment' := ⟨moment, rfl⟩
  -- A call is one level deep and an await of it two, and at lower depths both are halted.
  refine @EndAlike.shift _ _ 1 2 ?_ (fun depth below => ?_) fun depth below => ?_
  · simp only [top.calls, top.awaits]
    refine EndAlike.look (fun within => ((interpreter_deepens within).related.evalAll args).extends)
      (fun depth => Interpreter.evalAll_looks (interpreter_looks depth) plain _ _ (fun _ => rfl) rfl)
      top.futureless ⟨rfl, fun _ => rfl⟩ fun values arguments => ?_
    by_cases arity : function.params.length = values.length
    · obtain ⟨frame, own⟩ := Option.isSome_iff_exists.mp top.identified
      have alike := top.invoked arguments settings own arity
      have registered (depth : Nat) := top.registers settings own (interpreter depth) arity
      have awaited (depth : Nat) := @Act.bind_of_done _ _ _ (interpreter (depth + 1)).awaitFuture _ _ _
        (registered depth)
      simp only [← awaited] at alike
      exact alike
    · refine .inr ⟨0, fun depth deeper _ _ => ?_⟩
      have mismatch : function.async.params.length ≠ values.length := arity
      change Outcome.SameEnd
        ((interpreter depth).invoke receiver function (.struct typeName fields) values session)
        (((interpreter deeper).invoke receiver function.async (.struct typeName fields) values >>=
          (interpreter (deeper + 1)).awaitFuture) _)
      rw [invoke_of_mismatch arity, Act.bind_of_raised (invoke_of_mismatch mismatch)]
      exact .faulted _ ⟨rfl, fun _ => rfl⟩
  · obtain rfl : depth = 0 := by omega
    exact halts _ _
  · obtain rfl | rfl : depth = 0 ∨ depth = 1 := by omega
    · exact halts _ _
    · obtain ⟨moment, here⟩ := halts (.methodCall receiver method args)
        (session.declaringAsync (typeName ++ "." ++ method) function settings)
      exact ⟨moment, Act.bind_of_halted here⟩

/-- A method that counts up twice, and prints. -/
def bump : FunctionDecl where
  name := "bump"
  params := ["by"]
  body :=
    [.forLoop (some (.letVar "turn" (.lit (.int 0)))) (some (.binary .lt (.var "turn") (.lit (.int 2))))
      (some (.assign "turn" (.binary .add (.var "turn") (.lit (.int 1)))))
      [.assign "self.count" (.binary .add (.var "self.count") (.var "by")), .print (.var "self.count")],
    .returning (some (.field (.var "self") "count"))]
  isAsync := false
  owner := some "Counter"

/-- A session in which it can be called on a variable that has an entry for its field. -/
def readyToBump : Session where
  executor :=
    { functions := [("Counter.bump", bump)]
      scopes :=
        (ScopeStack.initial.define "c" (.struct "Counter" [("count", .int 1)])).define "c.count"
          (.int 1) }

theorem readyToBump_top :
    TopCall "c" "bump" "Counter" [("count", .int 1)] bump readyToBump where
  plain := by decide
  held := rfl
  distinct := by decide
  whole := by decide
  declared := rfl
  sync := rfl
  params := by decide
  body := by decide +kernel
  spares := by decide +kernel
  top := rfl
  identified := rfl
  futureless := by decide +kernel
  outside := rfl
  queue := rfl
  unlimited := rfl
  shallow := by decide

theorem readyToBump_calls :
    ∃ value after,
      (interpreter 12).eval (.methodCall "c" "bump" [.lit (.int 2)]) readyToBump = .done value after ∧
        value.toInt? = some 5 ∧ after.executor.output = #["3", "5"] ∧
        (after.executor.scopes.lookup? "c.count").bind Value.toInt? = some 5 := by
  have ends : ((interpreter 12).eval (.methodCall "c" "bump" [.lit (.int 2)])
      readyToBump).isDone = true := by decide +kernel
  have counted : ((interpreter 12).eval (.methodCall "c" "bump" [.lit (.int 2)])
      readyToBump).result?.bind (fun result => (result.toOption.getD .void).toInt?) = some 5 := by
    decide +kernel
  have printed : ((interpreter 12).eval (.methodCall "c" "bump" [.lit (.int 2)])
      readyToBump).session.executor.output = #["3", "5"] := by decide +kernel
  have bound : (((interpreter 12).eval (.methodCall "c" "bump" [.lit (.int 2)])
      readyToBump).session.executor.scopes.lookup? "c.count").bind Value.toInt? = some 5 := by
    decide +kernel
  generalize (interpreter 12).eval (.methodCall "c" "bump" [.lit (.int 2)]) readyToBump = called
    at ends counted printed bound
  obtain ⟨value, ran⟩ := Outcome.eq_done ends
  rw [ran] at counted
  exact ⟨value, _, ran, counted, printed, bound⟩

open Interpreter in
/-- Awaited, the method counts and prints what it does when it is called. -/
theorem synchronous_and_asynchronous_methods_agree_bump :
    ∃ enough, ∀ depth, enough ≤ depth → ∃ value after,
      (interpreter depth).eval (.await (.methodCall "c" "bump" [.lit (.int 2)]))
          (readyToBump.declaringAsync "Counter.bump" bump {}) = .done value after ∧
        value.toInt? = some 5 ∧ after.executor.output = #["3", "5"] ∧
        (after.executor.scopes.lookup? "c.count").bind Value.toInt? = some 5 := by
  have alike :=
    synchronous_and_asynchronous_methods_agree readyToBump_top [.lit (.int 2)] (by decide) {}
  obtain ⟨value, left, ran, counted, printed, bound⟩ := readyToBump_calls
  obtain ⟨enough, awaited⟩ := alike.of_done fun deeper within =>
    @Act.Extends.of_ended _ _ _ _ _ (.ok value) ((interpreter_deepens within).eval _).extends ran
  refine ⟨enough, fun depth within => ?_⟩
  obtain ⟨after, ended, looks⟩ := awaited depth within
  refine ⟨value, after, ended, counted, looks.printed.trans printed, ?_⟩
  rw [looks.bound]
  exact bound

end CooperativeTasks
