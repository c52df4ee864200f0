import CooperativeTasks.Proofs.Places
import CooperativeTasks.Proofs.ScopeHistory

set_option autoImplicit false

/-! What a synchronous method leaves of its writes to `self`.

In the scope of a method its instance is there twice: as the value of `self`, and with each field as an
entry of its own. When the body has ended, the entries are written over the fields of the value, and
this goes to the caller. A write to a field changes both. A write to a field of a field changes
the value only, so that the entry, which still holds what the field was before, undoes it. -/

namespace CooperativeTasks

namespace ScopeStack

/-- The stack after the instance of a method has been written to the variable `receiver`. -/
def withInstance (receiver typeName : String) (fields : List (String × Value)) (stack : ScopeStack) :
    ScopeStack :=
  (stack.assignMembers receiver fields).assignExisting receiver (.struct typeName fields)

section Caller

variable {receiver typeName : String} {fields : List (String × Value)} {stack : ScopeStack}

theorem lookup?_withInstance_receiver (bound : (stack.lookup? receiver).isSome = true) :
    (stack.withInstance receiver typeName fields).lookup? receiver =
      some (.struct typeName fields) := by
  obtain ⟨old, found⟩ := Option.isSome_iff_exists.mp bound
  unfold withInstance
  rw [lookup?_assignExisting, lookup?_assignMembers, found]
  simp

theorem lookup?_withInstance_of_ne {name : String} (different : receiver ≠ name) :
    (stack.withInstance receiver typeName fields).lookup? name =
      (stack.lookup? name).map fun old =>
        (Bindings.get? name
          (fields.reverse.map fun field => (memberName receiver field.1, field.2))).getD old := by
  unfold withInstance
  rw [lookup?_assignExisting, lookup?_assignMembers]
  simp only [different, if_false, Option.map_id']

theorem readPlace_withInstance {first : String} {rest : List String} {entry : Value}
    (plain : '.' ∉ receiver.toList) (segments : ∀ segment ∈ first :: rest, '.' ∉ segment.toList)
    (bound : (stack.lookup? receiver).isSome = true) (distinct : (fields.map Prod.fst).Nodup)
    (held : Bindings.get? first fields = some entry)
    (apart : rest = [] ∨ stack.lookup? (placeName receiver (first :: rest)) = none) :
    (stack.withInstance receiver typeName fields).readPlace (placeName receiver (first :: rest)) =
      (entry.read? rest).elim (.error (.fieldNotFound (placeName receiver (first :: rest)))) .ok := by
  have inside : (Value.struct typeName fields).read? (first :: rest) = entry.read? rest := by
    rw [Value.read?, Value.field?, Value.fields?, Option.bind_some, held]
    rfl
  have different := (placeName_ne_base receiver first rest).symm
  have looked := @lookup?_withInstance_of_ne receiver typeName fields stack _ different
  cases whole : stack.lookup? (placeName receiver (first :: rest)) with
  | none =>
      rw [whole, Option.map_none] at looked
      rw [readPlace_of_path looked (Place.ofName_placeName plain segments)
        (lookup?_withInstance_receiver bound), inside]
  | some old =>
      obtain rfl : rest = [] := apart.resolve_right (by rw [whole]; exact Option.some_ne_none old)
      have entries : Bindings.get? (placeName receiver [first])
          (fields.reverse.map fun field => (memberName receiver field.1, field.2)) = some entry :=
        (Bindings.get?_map_memberName receiver first fields.reverse).trans
          ((Bindings.get?_reverse distinct first).trans held)
      rw [whole, Option.map_some, entries] at looked
      exact readPlace_of_bound looked

end Caller

/-! ### The scope of a method -/

variable {before after : ScopeStack} {typeName first : String} {rest : List String}
  {fields : List (String × Value)} {written : Value}

theorem writePlace_self (segments : ∀ segment ∈ first :: rest, '.' ∉ segment.toList)
    (own : before.current.get? selfName = some (.struct typeName fields))
    (wrote : before.writePlace (placeName selfName (first :: rest)) written = (after, .ok ())) :
    ∃ inner : Value, inner.read? rest = some written ∧
      after.current =
        (before.current.assignExisting (placeName selfName (first :: rest)) written).assignExisting
          selfName (.struct typeName (Bindings.insert first inner fields)) := by
  have self : '.' ∉ selfName.toList := by decide
  have bound := before.lookup?_assignExisting (placeName selfName (first :: rest)) selfName written
  rw [lookup?_of_current own] at bound
  simp only [placeName_ne_base, if_false, Option.map_some] at bound
  rw [writePlace_eq, Place.ofName_placeName self segments] at wrote
  dsimp only at wrote
  rw [bound] at wrote
  dsimp only at wrote
  cases changed : (Value.struct typeName fields).write (first :: rest) written with
  | error fault =>
      rw [changed] at wrote
      cases wrote
  | ok updated =>
      rw [changed] at wrote
      cases wrote
      obtain ⟨inner, rfl, reads⟩ := Value.write_struct changed
      exact ⟨inner, reads, by rw [current_assignExisting, current_assignExisting]⟩

/-- What the instance has for a field after a write to `self`: what an entry for it holds, and
without one what the write has left in the value. -/
theorem instanceValue_written (segments : ∀ segment ∈ first :: rest, '.' ∉ segment.toList)
    (own : before.current.get? selfName = some (.struct typeName fields))
    (distinct : (before.current.bindings.map Prod.fst).Nodup) (keys : (fields.map Prod.fst).Nodup)
    (wrote : before.writePlace (placeName selfName (first :: rest)) written = (after, .ok ())) :
    ∃ (merged : List (String × Value)) (inner : Value),
      after.current.instanceValue = .struct typeName merged ∧ (merged.map Prod.fst).Nodup ∧
      inner.read? rest = some written ∧
      Bindings.get? first merged =
        some ((if rest = [] then none
          else before.current.get? (memberName selfName first)).getD inner) := by
  obtain ⟨inner, reads, left⟩ := writePlace_self segments own wrote
  have changed (name : String) := congrArg (Scope.get? name) left
  simp only [Scope.get?_assignExisting, Option.map_map, Function.comp_def] at changed
  have names : (after.current.bindings.map Prod.fst).Nodup := by
    rw [left]
    simpa [Scope.assignExisting] using distinct
  let members := selfMembers after.current.bindings
  let written := Bindings.insert first inner fields
  refine ⟨Bindings.insertAll members written, inner, ?_, ?_, reads, ?_⟩
  · unfold Scope.instanceValue
    rw [changed, own]
    simp [Value.mergeMembers, members, written]
  · exact Bindings.nodup_keys_insertAll (Bindings.nodup_keys_insert keys first inner) members
  · have entry := get?_selfMembers first after.current.bindings.reverse
    rw [Bindings.get?_reverse names, if_neg (segments first List.mem_cons_self)] at entry
    have reversed : members.reverse = selfMembers after.current.bindings.reverse := by
      simp [members, selfMembers, List.filterMap_reverse]
    rw [Bindings.get?_insertAll, reversed, entry, Bindings.get?_insert_self]
    change (after.current.get? (memberName selfName first)).or (some inner) = _
    rw [changed]
    have apart : selfName ≠ memberName selfName first := (memberName_ne selfName first).symm
    by_cases shallow : rest = []
    · subst shallow
      cases reads
      cases before.current.get? (memberName selfName first) <;> simp [placeName, apart]
    · obtain ⟨second, deeper, rfl⟩ := List.exists_cons_of_ne_nil shallow
      cases before.current.get? (memberName selfName first) <;>
        simp [placeName_ne_memberName, apart]

end ScopeStack

/-! ### Calls -/

namespace Act

theorem callEnding_of {ending : Except Signal Unit} {value : Value} (before : Executor) (left : Session)
    (ended : bodyResult ending = .ok value) :
    callEnding before (.of left ending) =
      .done (value, left.executor) (left.leavingCall before) := by
  cases ending with
  | ok _ =>
      cases ended
      rfl
  | error signal =>
      cases signal with
      | returning _ =>
          cases ended
          rfl
      | _ => cases ended

theorem callEnding_of_fault {ending : Except Signal Unit} {cause : Fault} (before : Executor)
    (left : Session) (ended : bodyResult ending = .error cause) :
    callEnding before (.of left ending) = .raised (.fault cause) (left.leavingCall before) := by
  cases ending with
  | ok _ => cases ended
  | error signal =>
      cases signal with
      | returning _ => cases ended
      | _ =>
          cases ended
          rfl

theorem writeInstance_variable {receiver typeName : String} {fields : List (String × Value)}
    {session : Session} (plain : '.' ∉ receiver.toList)
    (bound : (session.executor.scopes.lookup? receiver).isSome = true) :
    writeInstance receiver (.struct typeName fields) session =
      .done () (session.showing (session.executor.scopes.withInstance receiver typeName fields)
        session.executor.output) := by
  have assigned : ((session.executor.scopes.assignMembers receiver fields).assign? receiver
      (.struct typeName fields)).isSome = true := by
    rw [ScopeStack.isSome_assign?_eq, ScopeStack.lookup?_assignMembers, Option.isSome_map]
    exact bound
  have wrote : (session.executor.scopes.assignMembers receiver fields).writePlace receiver
      (.struct typeName fields) =
        (session.executor.scopes.withInstance receiver typeName fields, .ok ()) := by
    rw [ScopeStack.writePlace_eq, Place.ofName_of_not_mem plain]
    simp only [assigned, if_true]
    rfl
  change ofExcept ((session.executor.scopes.assignMembers receiver fields).writePlace receiver
      (.struct typeName fields)).2
    (session.showing ((session.executor.scopes.assignMembers receiver fields).writePlace receiver
      (.struct typeName fields)).1 session.executor.output) = _
  rw [wrote]
  rfl

end Act

namespace Interpreter

variable {interpreter : Interpreter} {receiver method : String} {args : List Expr}
  {session between : Session} {typeName : String} {fields : List (String × Value)}
  {function : FunctionDecl} {values : List Value}

variable (interpreter receiver function) in
/-- What a call of a method does when its arguments have been evaluated. -/
def invoke (target : Value) (values : List Value) : Act Value := do
  Act.ofExcept (checkArity function values)
  if function.isAsync then
    let site := (← Act.executor).site? receiver
    let id ← Act.register ((Task.ofFunction function values).withReceiver target site)
    Act.futureValue id
  else
    let (value, updated) ← interpreter.callSync function values (some target)
    match updated with
    | none => pure ()
    | some instanceValue => Act.writeInstance receiver instanceValue
    return value

theorem callMethod_eq
    (resolves : session.executor.scopes.readPlace receiver = .ok (.struct typeName fields))
    (declared : Bindings.get? (typeName ++ "." ++ method) session.executor.functions = some function) :
    interpreter.callMethod receiver method args session =
      (interpreter.evalAll args >>=
        interpreter.invoke receiver function (.struct typeName fields)) session := by
  have read : Act.readPlace receiver session = .done (.struct typeName fields) session := by
    unfold Act.readPlace
    rw [Act.executor_bind, resolves]
    rfl
  have known : functionNamed (typeName ++ "." ++ method) session = .done function session := by
    unfold functionNamed
    rw [Act.executor_bind, declared]
    rfl
  unfold callMethod
  rw [Act.bind_of_done read]
  dsimp only
  rw [Act.bind_of_done known]
  rfl

theorem invoke_sync {target : Value} (sync : function.isAsync = false)
    (arity : function.params.length = values.length) :
    interpreter.invoke receiver function target values session =
      (do
        let (value, updated) ← interpreter.callSync function values (some target)
        match updated with
        | none => pure ()
        | some instanceValue => Act.writeInstance receiver instanceValue
        return value : Act Value) session := by
  have checked : checkArity function values = .ok () := if_pos arity
  unfold invoke
  rw [checked, sync]
  rfl

theorem invoke_of_mismatch {target : Value} (arity : function.params.length ≠ values.length) :
    interpreter.invoke receiver function target values session =
      .raised (.fault (.arityMismatch function.qualifiedName function.params.length values.length))
        session := by
  have checked : checkArity function values = .error _ := if_neg arity
  unfold invoke
  rw [checked]
  rfl

theorem invoke_async {target : Value} (async : function.isAsync = true)
    (arity : function.params.length = values.length) :
    interpreter.invoke receiver function target values session =
      (do
        let site := (← Act.executor).site? receiver
        let id ← Act.register ((Task.ofFunction function values).withReceiver target site)
        Act.futureValue id : Act Value) session := by
  have checked : checkArity function values = .ok () := if_pos arity
  unfold invoke
  rw [checked, async]
  rfl

section Sync

variable {instance? : Option Value} {noted : Session}
  (shallow : session.executor.callDepth < session.executor.settings.maxCallDepth)
  (recorded : Act.note (.called function.qualifiedName session.executor.callDepth) session =
    .done () noted)

include shallow recorded

theorem callSync_apply :
    interpreter.callSync function values instance? session =
      match Act.callEnding session.executor (interpreter.execBlock [] function.body
        (noted.enteringCall (callScope function values instance?))) with
      | .done (value, left) after =>
          .done (value, instance?.map fun _ => left.scopes.current.instanceValue) after
      | .raised signal after => .raised signal after
      | .halted moment => .halted moment := by
  have called := Act.Outlasts.calling_apply function.qualifiedName
    (callScope function values instance?) (interpreter.execBlock [] function.body)
    (Nat.not_le_of_lt shallow)
  rw [Act.bind_of_done recorded] at called
  unfold Act.Outlasts.insideCall at called
  rw [callSync_eq, Act.bind_apply, called]
  cases Act.callEnding session.executor (interpreter.execBlock [] function.body
    (noted.enteringCall (callScope function values instance?))) <;> rfl

variable {left : Session} {ending : Except Signal Unit}

theorem callSync_of {value : Value}
    (ran : interpreter.execBlock [] function.body
      (noted.enteringCall (callScope function values instance?)) = .of left ending)
    (ended : bodyResult ending = .ok value) :
    interpreter.callSync function values instance? session =
      .done (value, instance?.map fun _ => left.executor.scopes.current.instanceValue)
        (left.leavingCall session.executor) := by
  rw [callSync_apply shallow recorded, ran, Act.callEnding_of _ _ ended]

section Invoke

variable {target : Value} (sync : function.isAsync = false)
  (arity : function.params.length = values.length)

include sync arity

theorem invoke_writes {value : Value}
    (ran : interpreter.execBlock [] function.body
      (noted.enteringCall (callScope function values (some target))) = .of left ending)
    (ended : bodyResult ending = .ok value) (plain : '.' ∉ receiver.toList)
    (updated : left.executor.scopes.current.instanceValue = .struct typeName fields)
    (bound : ((left.executor.scopes.truncate session.executor.scopes.depth).lookup?
      receiver).isSome = true) :
    interpreter.invoke receiver function target values session =
      .done value ((left.leavingCall session.executor).showing
        ((left.executor.scopes.truncate session.executor.scopes.depth).withInstance receiver typeName
          fields) left.executor.output) := by
  have wrote := @Act.writeInstance_variable receiver typeName fields
    (left.leavingCall session.executor) plain bound
  rw [invoke_sync sync arity, Act.bind_of_done (callSync_of shallow recorded ran ended)]
  dsimp only [Option.map_some]
  rw [updated, Act.bind_of_done wrote]
  rfl

theorem invoke_faults {cause : Fault}
    (ran : interpreter.execBlock [] function.body
      (noted.enteringCall (callScope function values (some target))) = .of left ending)
    (ended : bodyResult ending = .error cause) :
    interpreter.invoke receiver function target values session =
      .raised (.fault cause) (left.leavingCall session.executor) := by
  rw [invoke_sync sync arity, Act.bind_apply, callSync_apply shallow recorded, ran,
    Act.callEnding_of_fault _ _ ended]

theorem invoke_halts {moment : Session}
    (ran : interpreter.execBlock [] function.body
      (noted.enteringCall (callScope function values (some target))) = .halted moment) :
    interpreter.invoke receiver function target values session = .halted moment := by
  rw [invoke_sync sync arity, Act.bind_apply, callSync_apply shallow recorded, ran]
  rfl

end Invoke

end Sync

variable (interpreter receiver method args session) in
/-- A call of a synchronous method whose body comes to its end with `value`, in the session `left`. -/
inductive MethodEnds (value : Value) (left : Session) : Prop where
  | intro {typeName : String} {fields : List (String × Value)} {function : FunctionDecl}
      {values : List Value} {between noted : Session} {ending : Except Signal Unit}
      (resolves : session.executor.scopes.readPlace receiver = .ok (.struct typeName fields))
      (declared :
        Bindings.get? (typeName ++ "." ++ method) session.executor.functions = some function)
      (sync : function.isAsync = false)
      (evaluated : interpreter.evalAll args session = .done values between)
      (arity : function.params.length = values.length)
      (shallow : between.executor.callDepth < between.executor.settings.maxCallDepth)
      (recorded : Act.note (.called function.qualifiedName between.executor.callDepth) between =
        .done () noted)
      (ran : interpreter.execBlock [] function.body
        (noted.enteringCall (callScope function values (some (.struct typeName fields)))) =
          .of left ending)
      (ended : bodyResult ending = .ok value)

theorem MethodEnds.writes {depth : Nat} {value : Value} {left : Session}
    (ends : (CooperativeTasks.interpreter depth).MethodEnds receiver method args session value left)
    (plain : '.' ∉ receiver.toList)
    (updated : left.executor.scopes.current.instanceValue = .struct typeName fields)
    (bound : ((left.executor.scopes.truncate session.executor.scopes.depth).lookup?
      receiver).isSome = true) :
    ∃ after,
      (CooperativeTasks.interpreter (depth + 1)).eval (.methodCall receiver method args) session =
        .done value after ∧
      after.executor.scopes =
        (left.executor.scopes.truncate session.executor.scopes.depth).withInstance receiver typeName
          fields := by
  obtain ⟨resolves, declared, sync, evaluated, arity, shallow, recorded, ran, ended⟩ := ends
  rename_i function values between noted ending
  have depths : between.executor.scopes.depth = session.executor.scopes.depth := by
    have kept := ((interpreter_deepens (Nat.le_refl depth)).related.evalAll args).brackets session
    rw [evaluated] at kept
    have same : between.executor.scopes.identities = session.executor.scopes.identities := kept.scopes
    rw [← ScopeStack.length_identities, same, ScopeStack.length_identities]
  rw [← depths] at bound ⊢
  let below := left.executor.scopes.truncate between.executor.scopes.depth
  refine ⟨(left.leavingCall between.executor).showing (below.withInstance receiver typeName fields)
    left.executor.output, ?_, rfl⟩
  change (CooperativeTasks.interpreter depth).callMethod receiver method args session = _
  rw [callMethod_eq resolves declared, Act.bind_of_done evaluated,
    invoke_writes shallow recorded sync arity ran ended plain updated bound]

end Interpreter

section LastWrite

variable {depth : Nat} {session left : Session} {receiver method typeName first : String}
  {args : List Expr} {rest : List String} {fields : List (String × Value)} {value written : Value}
  {before : ScopeStack}

/-- What is read at the caller's variable after a call whose last write was to `self`. -/
theorem Interpreter.MethodEnds.reads
    (ends : (interpreter depth).MethodEnds receiver method args session value left)
    (plain : '.' ∉ receiver.toList) (segments : ∀ segment ∈ first :: rest, '.' ∉ segment.toList)
    (own : before.current.get? selfName = some (.struct typeName fields))
    (wrote : before.writePlace (placeName selfName (first :: rest)) written =
      (left.executor.scopes, .ok ()))
    (distinct : (before.current.bindings.map Prod.fst).Nodup) (keys : (fields.map Prod.fst).Nodup)
    (bound : ((left.executor.scopes.truncate session.executor.scopes.depth).lookup?
      receiver).isSome = true) :
    ∃ after inner,
      (interpreter (depth + 1)).eval (.methodCall receiver method args) session = .done value after ∧
      inner.read? rest = some written ∧
      (rest = [] ∨ (left.executor.scopes.truncate session.executor.scopes.depth).lookup?
          (placeName receiver (first :: rest)) = none →
        after.executor.scopes.readPlace (placeName receiver (first :: rest)) =
          (((if rest = [] then none
            else before.current.get? (memberName selfName first)).getD inner).read? rest).elim
              (.error (.fieldNotFound (placeName receiver (first :: rest)))) .ok) := by
  obtain ⟨merged, inner, updated, names, reads, entry⟩ :=
    ScopeStack.instanceValue_written segments own distinct keys wrote
  obtain ⟨after, called, scopes⟩ := ends.writes plain updated bound
  refine ⟨after, inner, called, reads, ?_⟩
  intro apart
  rw [scopes]
  exact ScopeStack.readPlace_withInstance plain segments bound names entry apart

/-- When the last write of a method's body is to `self`, a field of the instance that it writes is read at
the caller's variable afterwards. What it writes deeper in the instance is read there only if the method's
scope has no entry for the field on the way, unless the caller has an entry for just that place. With
such an entry, what the entry holds is read. -/
theorem last_write_reaches_caller
    (plain : '.' ∉ receiver.toList) (segments : ∀ segment ∈ first :: rest, '.' ∉ segment.toList)
    (ends : (interpreter depth).MethodEnds receiver method args session value left)
    (own : before.current.get? selfName = some (.struct typeName fields))
    (wrote : before.writePlace (placeName selfName (first :: rest)) written =
      (left.executor.scopes, .ok ()))
    (distinct : (before.current.bindings.map Prod.fst).Nodup) (keys : (fields.map Prod.fst).Nodup)
    (bound : ((left.executor.scopes.truncate session.executor.scopes.depth).lookup?
      receiver).isSome = true) :
    ∃ after,
      (interpreter (depth + 1)).eval (.methodCall receiver method args) session = .done value after ∧
      (rest = [] →
        after.executor.scopes.readPlace (placeName receiver (first :: rest)) = .ok written) ∧
      (rest ≠ [] →
        (left.executor.scopes.truncate session.executor.scopes.depth).lookup?
          (placeName receiver (first :: rest)) = none →
        after.executor.scopes.readPlace (placeName receiver (first :: rest)) =
          match before.current.get? (memberName selfName first) with
          | none => .ok written
          | some stale =>
              (stale.read? rest).elim
                (.error (.fieldNotFound (placeName receiver (first :: rest)))) .ok) := by
  -- A write to a field of `self` reaches the entry for the field; a deeper one leaves that as it
  -- is.
  obtain ⟨after, inner, called, inside, reads⟩ :=
    ends.reads plain segments own wrote distinct keys bound
  refine ⟨after, called, ?_, ?_⟩
  · intro shallow
    rw [reads (.inl shallow), if_pos shallow, Option.getD_none, inside]
    rfl
  · intro deeper absent
    rw [reads (.inr absent), if_neg deeper]
    cases before.current.get? (memberName selfName first) with
    | none =>
        rw [Option.getD_none, inside]
        rfl
    | some stale => rfl

end LastWrite

def setting (target : String) : FunctionDecl where
  name := "set"
  params := []
  body := [.assign target (.lit (.int 5))]
  isAsync := false
  owner := some "Outer"

def nested : Value :=
  .struct "Outer" [("count", .int 1), ("inner", .struct "Inner" [("v", .int 1)])]

def readyToSet (target : String) : Session where
  executor :=
    { functions := [("Outer.set", setting target)]
      scopes := ScopeStack.initial.define "o" nested }

def scopesOfSet (target : String) : ScopeStack :=
  (readyToSet target).executor.scopes.push (callScope (setting target) [] (some nested))

theorem readyToSet_ends {target : String} {scopes : ScopeStack}
    (wrote : (scopesOfSet target).writePlace target (.int 5) = (scopes, .ok ())) :
    ∃ left, (interpreter 3).MethodEnds "o" "set" [] (readyToSet target) .void left ∧
      left.executor.scopes = scopes := by
  let noted := (readyToSet target).recorded (.called "Outer.set" 0)
  let start := noted.enteringCall (callScope (setting target) [] (some nested))
  have performed : (interpreter 3).exec [.item 0] (.assign target (.lit (.int 5))) start =
      .done () (start.showing scopes #[]) := by
    refine (interpreter_exec rfl 2 _ _).trans ?_
    change Act.ofExcept ((scopesOfSet target).writePlace target (.int 5)).2
      (start.showing ((scopesOfSet target).writePlace target (.int 5)).1 #[]) = _
    rw [wrote]
    rfl
  let left : Session :=
    { start with
      executor :=
        { start.executor with
          scopes
          output := #[]
          positions := Positions.clear (.of [] (setting target).body) {} } }
  have ran : (interpreter 3).execBlock [] (setting target).body start = .of left (.ok ()) := by
    change (Act.attempt ((interpreter 3).exec [.item 0] (.assign target (.lit (.int 5)))) >>= _) start = _
    rw [Act.bind_apply]
    unfold Act.attempt
    rw [performed]
    rfl
  refine ⟨left, ?_, rfl⟩
  have shallow : 0 < ({} : InterpreterSettings).maxCallDepth := by decide
  have resolves : (readyToSet target).executor.scopes.readPlace "o" = .ok nested := rfl
  have recorded : Act.note (.called "Outer.set" 0) (readyToSet target) = .done () noted := rfl
  exact .intro resolves rfl rfl rfl rfl shallow recorded ran rfl

theorem scopesOfSet_writes (target : String)
    (passes : ((scopesOfSet target).writePlace target (.int 5)).2.toOption.isSome = true) :
    (scopesOfSet target).writePlace target (.int 5) =
      (((scopesOfSet target).writePlace target (.int 5)).1, .ok ()) := by
  cases wrote : (scopesOfSet target).writePlace target (.int 5) with
  | mk scopes outcome =>
      rw [wrote] at passes
      cases outcome with
      | ok _ => rfl
      | error cause => cases passes

/-- A number that is a field of `self` arrives. -/
theorem last_write_reaches_caller_count :
    ∃ after, (interpreter 4).eval (.methodCall "o" "set" []) (readyToSet "self.count") =
        .done .void after ∧
      after.executor.scopes.readPlace "o.count" = .ok (.int 5) := by
  have wrote := scopesOfSet_writes "self.count" (by decide +kernel)
  obtain ⟨left, ends, scopes⟩ := readyToSet_ends wrote
  rw [← scopes] at wrote
  have bound : ((left.executor.scopes.truncate
      (readyToSet "self.count").executor.scopes.depth).lookup? "o").isSome = true := by
    rw [scopes]
    decide +kernel
  have own : (scopesOfSet "self.count").current.get? selfName = some nested := rfl
  have segments : ∀ segment ∈ ["count"], '.' ∉ segment.toList := by decide
  obtain ⟨after, called, reads, _⟩ := last_write_reaches_caller (by decide) segments ends own wrote
    (by decide +kernel) (by decide) bound
  exact ⟨after, called, reads rfl⟩

/-- A number inside a struct that is a field of `self` does not. -/
theorem not_writes_reach_every_depth :
    ¬ ∀ (depth : Nat) (session left after : Session) (receiver method first : String)
        (args : List Expr) (rest : List String) (target value written : Value) (before : ScopeStack),
      '.' ∉ receiver.toList → (∀ segment ∈ first :: rest, '.' ∉ segment.toList) →
      session.executor.scopes.lookup? receiver = some target →
      (target.read? (first :: rest)).isSome = true →
      (interpreter depth).MethodEnds receiver method args session value left →
      before.writePlace (placeName selfName (first :: rest)) written =
        (left.executor.scopes, .ok ()) →
      (interpreter (depth + 1)).eval (.methodCall receiver method args) session =
        .done value after →
      after.executor.scopes.readPlace (placeName receiver (first :: rest)) = .ok written := by
  intro claimed
  have wrote := scopesOfSet_writes "self.inner.v" (by decide +kernel)
  obtain ⟨left, ends, scopes⟩ := readyToSet_ends wrote
  rw [← scopes] at wrote
  have bound : ((left.executor.scopes.truncate
      (readyToSet "self.inner.v").executor.scopes.depth).lookup? "o").isSome = true := by
    rw [scopes]
    decide +kernel
  have absent : ((left.executor.scopes.truncate
      (readyToSet "self.inner.v").executor.scopes.depth).lookup? "o.inner.v").isNone = true := by
    rw [scopes]
    decide +kernel
  have own : (scopesOfSet "self.inner.v").current.get? selfName = some nested := rfl
  have segments : ∀ segment ∈ ["inner", "v"], '.' ∉ segment.toList := by decide
  obtain ⟨after, inner, called, _, reads⟩ := ends.reads (by decide) segments own wrote
    (by decide +kernel) (by decide) bound
  have held := claimed 3 _ left after "o" "set" "inner" [] ["v"] nested .void (.int 5) _ (by decide)
    segments rfl rfl ends wrote called
  rw [reads (.inr (Option.isNone_iff_eq_none.mp absent))] at held
  cases held

end CooperativeTasks
