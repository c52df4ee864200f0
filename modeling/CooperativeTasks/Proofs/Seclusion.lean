import CooperativeTasks.Proofs.Mirroring
import CooperativeTasks.Proofs.Transparency

set_option autoImplicit false

/-! What a plain task finds out about the session it runs in.

Its bindings, its positions, its mode and the declared structs are all that a statement of such a
task depends on, as long as there are no globals. Two sessions that agree on those are twins,
whatever else is registered, queued or printed, and whichever identities scopes have been given. -/

namespace CooperativeTasks

/-! ### Bindings without identities -/

namespace ScopeStack

/-- Overwrites the innermost binding of a name. -/
def assignIn? (name : String) (value : Value) :
    List (List (String × Value)) → Option (List (List (String × Value)))
  | [] => none
  | entries :: rest =>
      if Bindings.contains name entries then some (Bindings.replace name value entries :: rest)
      else (assignIn? name value rest).map (entries :: ·)

theorem contents_assign? (name : String) (value : Value) (stack : ScopeStack) :
    (stack.assign? name value).map contents = assignIn? name value stack.contents := by
  have listed (scopes : List Scope) :
      (modifyFirstIn? (Scope.contains name) (Scope.assignExisting name value) scopes).map
        (List.map Scope.bindings) = assignIn? name value (scopes.map Scope.bindings) := by
    induction scopes with
    | nil => rfl
    | cons scope rest ih =>
        by_cases here : scope.contains name = true
        · have bound : Bindings.contains name scope.bindings = true := here
          simp [modifyFirstIn?, assignIn?, here, bound, Scope.assignExisting]
        · have unbound : ¬ Bindings.contains name scope.bindings = true := here
          simp only [modifyFirstIn?, assignIn?, List.map_cons, if_neg here, if_neg unbound, ← ih]
          cases modifyFirstIn? (Scope.contains name) (Scope.assignExisting name value) rest <;> rfl
  unfold assign?
  have framed := frames_modifyFirst? (Scope.contains name) (Scope.assignExisting name value) stack
  have bound := listed stack.frames
  rw [← framed, Option.map_map] at bound
  exact bound

theorem contents_assignExisting {first second : ScopeStack} (same : second.contents = first.contents)
    (name : String) (value : Value) :
    (second.assignExisting name value).contents = (first.assignExisting name value).contents := by
  have whole : (second.assign? name value).map contents = (first.assign? name value).map contents := by
    rw [contents_assign?, contents_assign?, same]
  unfold assignExisting
  cases one : first.assign? name value with
  | none =>
      rw [one] at whole
      rw [Option.map_eq_none_iff.mp whole]
      exact same
  | some changed =>
      rw [one] at whole
      obtain ⟨changed', other, equal⟩ := Option.map_eq_some_iff.mp whole
      rw [other]
      exact equal

theorem isSome_assign? {first second : ScopeStack} (same : second.contents = first.contents)
    (name : String) (value : Value) :
    (second.assign? name value).isSome = (first.assign? name value).isSome := by
  have whole : (second.assign? name value).map contents = (first.assign? name value).map contents := by
    rw [contents_assign?, contents_assign?, same]
  simpa using congrArg Option.isSome whole

theorem contents_writePlace {first second : ScopeStack} (same : second.contents = first.contents)
    (name : String) (value : Value) :
    (second.writePlace name value).2 = (first.writePlace name value).2 ∧
      (second.writePlace name value).1.contents = (first.writePlace name value).1.contents := by
  have flattened := contents_assignExisting same name value
  rw [writePlace_eq, writePlace_eq]
  dsimp only
  rw [isSome_assign? same]
  cases (Place.ofName name).path with
  | nil => exact ⟨rfl, flattened⟩
  | cons field path =>
      dsimp only
      rw [lookup?_eq, lookup?_eq, flattened]
      cases (first.assignExisting name value).contents.findSome?
          (Bindings.get? (Place.ofName name).base) with
      | none => exact ⟨rfl, flattened⟩
      | some base =>
          dsimp only
          cases base.write (field :: path) value with
          | ok updated => exact ⟨rfl, contents_assignExisting flattened _ _⟩
          | error cause => exact ⟨rfl, flattened⟩

theorem contents_modifyCurrent {change : Scope → Scope}
    {rebind : List (String × Value) → List (String × Value)}
    (rebinds : ∀ scope : Scope, (change scope).bindings = rebind scope.bindings) (stack : ScopeStack) :
    (stack.modifyCurrent change).contents = stack.contents.modifyHead rebind := by
  unfold modifyCurrent contents frames
  cases stack.inner with
  | nil => simp [rebinds]
  | cons innermost rest => simp [rebinds]

theorem isFutureless_eq (stack : ScopeStack) :
    stack.isFutureless = stack.contents.all Value.areFutureless := by
  unfold isFutureless contents
  rw [List.all_map]
  rfl

theorem contents_assignExisting_alone {stack : ScopeStack} {bindings : List (String × Value)}
    (alone : stack.contents = [bindings, []]) (name : String) (value : Value) :
    ∃ changed, (stack.assignExisting name value).contents = [changed, []] := by
  have assigned := contents_assign? name value stack
  rw [alone] at assigned
  unfold assignExisting
  cases found : stack.assign? name value with
  | none => exact ⟨bindings, alone⟩
  | some updated =>
      rw [found] at assigned
      have missing : Bindings.contains name ([] : List (String × Value)) = false := rfl
      by_cases bound : Bindings.contains name bindings = true
      · simp only [assignIn?, bound, if_true, Option.map_some, Option.some.injEq] at assigned
        exact ⟨_, assigned⟩
      · simp [assignIn?, bound, missing] at assigned

theorem contents_writePlace_alone {stack : ScopeStack} {bindings : List (String × Value)}
    (alone : stack.contents = [bindings, []]) (name : String) (value : Value) :
    ∃ changed, (stack.writePlace name value).1.contents = [changed, []] := by
  obtain ⟨changed, flattened⟩ := contents_assignExisting_alone alone name value
  rw [writePlace_eq]
  dsimp only
  split
  · exact ⟨changed, flattened⟩
  · split
    · exact ⟨changed, flattened⟩
    · split
      · exact contents_assignExisting_alone flattened _ _
      · exact ⟨changed, flattened⟩

end ScopeStack

/-! ### Statements of a plain task -/

/-- Two sessions in which statements of a plain task find the same. Neither the structs nor the
schedulers change while such statements run. -/
structure Session.Agreeing (structs : List (String × StructDecl)) (alone crowd : Scheduler)
    (first second : Session) : Prop where
  bound : ∃ bindings, Value.areFutureless bindings = true ∧
    first.executor.scopes.contents = [bindings, []] ∧
    second.executor.scopes.contents = [bindings, []]
  structs : first.executor.structs = structs ∧ second.executor.structs = structs
  positions : second.executor.positions = first.executor.positions
  autoYield : second.executor.autoYield = first.executor.autoYield
  running : first.executor.currentTask.isSome = true ∧ second.executor.currentTask.isSome = true
  unlimited : first.budget = none ∧ second.budget = none
  schedulers : first.scheduler = alone ∧ second.scheduler = crowd

namespace Session.Agreeing

variable {structs : List (String × StructDecl)} {alone crowd : Scheduler} {first second : Session}

theorem contents (agreeing : Agreeing structs alone crowd first second) :
    second.executor.scopes.contents = first.executor.scopes.contents := by
  obtain ⟨bindings, -, here, there⟩ := agreeing.bound
  rw [here, there]

theorem futureless (agreeing : Agreeing structs alone crowd first second) :
    first.executor.scopes.isFutureless = true := by
  obtain ⟨bindings, plain, here, -⟩ := agreeing.bound
  rw [ScopeStack.isFutureless_eq, here]
  simp [plain, Value.areFutureless]

theorem showing (agreeing : Agreeing structs alone crowd first second) {scopes scopes' : ScopeStack}
    (same : scopes'.contents = scopes.contents) (kept : ∃ bindings, scopes.contents = [bindings, []])
    (plain : scopes.isFutureless = true) (output output' : Array String) :
    Agreeing structs alone crowd (first.showing scopes output) (second.showing scopes' output') := by
  obtain ⟨bindings, here⟩ := kept
  rw [ScopeStack.isFutureless_eq, here] at plain
  have futureless : Value.areFutureless bindings = true := by
    simpa [Value.areFutureless] using plain
  exact { agreeing with bound := ⟨bindings, futureless, here, same.trans here⟩ }

theorem current (agreeing : Agreeing structs alone crowd first second)
    {change : Scope → Scope} {rebind : List (String × Value) → List (String × Value)}
    (rebinds : ∀ scope : Scope, (change scope).bindings = rebind scope.bindings)
    (keeps : ∀ scope : Scope, Value.areFutureless scope.bindings = true →
      Value.areFutureless (change scope).bindings = true) :
    Agreeing structs alone crowd
      (first.showing (first.executor.scopes.modifyCurrent change) first.executor.output)
      (second.showing (second.executor.scopes.modifyCurrent change) second.executor.output) := by
  refine agreeing.showing ?_ ?_ (ScopeStack.isFutureless_modifyCurrent agreeing.futureless keeps) _ _
  · rw [ScopeStack.contents_modifyCurrent rebinds, ScopeStack.contents_modifyCurrent rebinds,
      agreeing.contents]
  · obtain ⟨bindings, -, here, -⟩ := agreeing.bound
    rw [ScopeStack.contents_modifyCurrent rebinds, here]
    exact ⟨rebind bindings, rfl⟩

theorem twinning : Session.Twinning (fun _ => True) (Agreeing structs alone crowd) where
  unlimited agreeing := agreeing.unlimited
  positions agreeing := agreeing.positions
  positioned agreeing change :=
    { agreeing with positions := congrArg change agreeing.positions }
  recorded agreeing _ _ := { agreeing with }
  removed agreeing name _ :=
    agreeing.current (fun _ => rfl) fun _ plain => Value.areFutureless_erase plain name

end Session.Agreeing

section Statements

variable {structs : List (String × StructDecl)} {alone crowd : Scheduler}

theorem Act.Looks.agreeing {α : Type} {good : α → Prop} {action : Act α}
    (looks : Act.Looks good action) :
    Act.Mirrors (Session.Agreeing structs alone crowd) good action action :=
  looks.mirrors fun _ _ same => ⟨ScopeStack.lookup?_of_contents same.contents,
    same.structs.2.trans same.structs.1.symm, same.futureless⟩

theorem endIteration_mirrors (shallow deep : Interpreter) :
    Act.MirrorsAll (Session.Agreeing structs alone crowd) shallow.endIteration deep.endIteration := by
  refine .executor fun first second same => ?_
  rw [same.running.1, same.running.2, same.autoYield, if_pos rfl, if_pos rfl]
  split
  · exact .bind (Session.Agreeing.twinning.note _ _) fun _ _ => .raise _
  · exact .pure trivial

theorem writePlace_mirrors (name : String) {value : Value} (futureless : value.isFutureless = true) :
    Act.MirrorsAll (Session.Agreeing structs alone crowd) (Act.writePlace name value)
      (Act.writePlace name value) := by
  intro first second same
  obtain ⟨outcomes, bound⟩ := ScopeStack.contents_writePlace same.contents name value
  obtain ⟨bindings, -, here, -⟩ := same.bound
  have written := same.showing bound (ScopeStack.contents_writePlace_alone here name value)
    (ScopeStack.isFutureless_writePlace same.futureless futureless name) first.executor.output
    second.executor.output
  change Outcome.Mirrored _ _
    (Act.ofExcept (first.executor.scopes.writePlace name value).2
      (first.showing (first.executor.scopes.writePlace name value).1 first.executor.output))
    (Act.ofExcept (second.executor.scopes.writePlace name value).2
      (second.showing (second.executor.scopes.writePlace name value).1 second.executor.output))
  rw [outcomes]
  exact Act.Mirrors.ofExcept (fun _ _ => trivial) _ _ written

theorem simple_mirrors {interpreter : Interpreter} (looks : interpreter.LooksAt) (path : Path)
    {statement : Stmt} (simple : statement.isSimple = true) :
    Act.MirrorsAll (Session.Agreeing structs alone crowd) (interpreter.perform path statement)
      (interpreter.perform path statement) := by
  cases statement with
  | letVar name value =>
      refine .bind (looks value simple).agreeing fun computed futureless => ?_
      rw [Interpreter.bindFutureTo_of_futureless _ futureless]
      refine .update fun first second same => ?_
      exact same.current (fun _ => rfl) fun _ plain =>
        Value.areFutureless_insert futureless plain name
  | assign target value =>
      refine .bind (looks value simple).agreeing fun computed futureless => ?_
      rw [Interpreter.bindFutureTo_of_futureless _ futureless]
      exact writePlace_mirrors target futureless
  | expression value => exact .bind (looks value simple).agreeing fun _ _ => .pure trivial
  | print value =>
      refine .bind (looks value simple).agreeing fun computed _ => ?_
      refine .update fun first second same => ?_
      exact same.showing same.contents (same.bound.imp fun _ bound => bound.2.1) same.futureless _ _
  | _ => cases simple

theorem plainTwinning :
    Session.PlainTwinning (fun _ => true) (fun _ => True) (Session.Agreeing structs alone crowd) where
  toTwinning := Session.Agreeing.twinning
  looks depth expr plain := (interpreter_looks depth expr plain).agreeing
  simple depth path _ simple _ := simple_mirrors (interpreter_looks depth) path simple
  yields depth path := by
    refine .executor fun first second same => ?_
    rw [same.running.1, same.running.2]
    exact .raise _
  ends depth := endIteration_mirrors _ _
  erases _ _ _ := trivial

/-- Plain statements do the same in all sessions that agree. -/
theorem plain_mirrors (depth : Nat) (path : Path) {statement : Stmt}
    (plain : statement.isPlain = true) :
    Act.MirrorsAll (Session.Agreeing structs alone crowd) ((interpreter depth).exec path statement)
      ((interpreter depth).exec path statement) :=
  plainTwinning.exec depth path plain statement.every_true

end Statements

end CooperativeTasks
