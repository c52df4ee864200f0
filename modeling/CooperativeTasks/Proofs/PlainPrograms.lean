import CooperativeTasks.Proofs.Deepening

set_option autoImplicit false

/-! Programs that have nothing to do with other tasks.

A plain expression neither calls nor awaits, and no value that it can come to is or holds a
future. Such an expression only looks at the session: what it gives depends on the scopes and the
declared structs alone. A statement whose expressions are plain never touches the scheduler on
its own account. -/

namespace CooperativeTasks

/-! ### Values without futures -/

namespace Value

mutual

/-- Neither the value nor anything inside of it is a future. -/
def isFutureless : Value → Bool
  | .void => true
  | .bool _ => true
  | .int _ => true
  | .float _ => true
  | .str _ => true
  | .struct typeName fields => typeName != Future.typeName && areFutureless fields

def areFutureless : List (String × Value) → Bool
  | [] => true
  | (_, value) :: rest => value.isFutureless && areFutureless rest

end

theorem areFutureless_iff (entries : List (String × Value)) :
    areFutureless entries = true ↔ ∀ entry ∈ entries, entry.2.isFutureless = true := by
  induction entries with
  | nil => simp [areFutureless]
  | cons entry rest ih => simp [areFutureless, ih]

theorem taskOf?_of_futureless {value : Value} (futureless : value.isFutureless = true) :
    Future.taskOf? value = none := by
  cases value with
  | struct typeName fields =>
      have other : typeName ≠ Future.typeName := by
        simp only [isFutureless, Bool.and_eq_true, bne_iff_ne] at futureless
        exact futureless.1
      simp [Future.taskOf?, isStructOf, other]
  | _ => rfl

end Value

namespace Bindings

variable {α : Type}

theorem mem_of_get? {key : String} {value : α} {entries : List (String × α)}
    (found : get? key entries = some value) : (key, value) ∈ entries := by
  induction entries with
  | nil => cases found
  | cons entry rest ih =>
      unfold get? at found
      split at found
      · rename_i same
        cases found
        rw [← same]
        exact List.mem_cons_self
      · exact List.mem_cons_of_mem entry (ih found)

theorem mem_insert {key : String} {value : α} {entries : List (String × α)} {entry : String × α}
    (member : entry ∈ insert key value entries) : entry.2 = value ∨ entry ∈ entries := by
  induction entries with
  | nil =>
      rw [List.mem_singleton.mp member]
      exact .inl rfl
  | cons first rest ih =>
      unfold insert at member
      split at member
      · rcases List.mem_cons.mp member with rfl | later
        · exact .inl rfl
        · exact .inr (List.mem_cons_of_mem first later)
      · rcases List.mem_cons.mp member with rfl | later
        · exact .inr List.mem_cons_self
        · exact (ih later).imp_right (List.mem_cons_of_mem first)

theorem mem_replace {key : String} {value : α} {entries : List (String × α)} {entry : String × α}
    (member : entry ∈ replace key value entries) : entry.2 = value ∨ entry ∈ entries := by
  induction entries with
  | nil => cases member
  | cons first rest ih =>
      unfold replace at member
      split at member
      · rcases List.mem_cons.mp member with rfl | later
        · exact .inl rfl
        · exact .inr (List.mem_cons_of_mem first later)
      · rcases List.mem_cons.mp member with rfl | later
        · exact .inr List.mem_cons_self
        · exact (ih later).imp_right (List.mem_cons_of_mem first)

theorem mem_erase {key : String} {entries : List (String × α)} {entry : String × α}
    (member : entry ∈ erase key entries) : entry ∈ entries := by
  induction entries with
  | nil => cases member
  | cons first rest ih =>
      unfold erase at member
      split at member
      · exact List.mem_cons_of_mem first member
      · rcases List.mem_cons.mp member with rfl | later
        · exact List.mem_cons_self
        · exact List.mem_cons_of_mem first (ih later)

end Bindings

namespace Value

theorem areFutureless_of_mem {value : Value} (futureless : value.isFutureless = true)
    {entries changed : List (String × Value)} (others : areFutureless entries = true)
    (origin : ∀ entry ∈ changed, entry.2 = value ∨ entry ∈ entries) :
    areFutureless changed = true := by
  rw [areFutureless_iff] at others ⊢
  intro entry member
  rcases origin entry member with same | old
  · rw [same]
    exact futureless
  · exact others entry old

theorem areFutureless_insert {value : Value} (futureless : value.isFutureless = true)
    {entries : List (String × Value)} (others : areFutureless entries = true) (key : String) :
    areFutureless (Bindings.insert key value entries) = true :=
  areFutureless_of_mem futureless others fun _ => Bindings.mem_insert

theorem areFutureless_replace {value : Value} (futureless : value.isFutureless = true)
    {entries : List (String × Value)} (others : areFutureless entries = true) (key : String) :
    areFutureless (Bindings.replace key value entries) = true :=
  areFutureless_of_mem futureless others fun _ => Bindings.mem_replace

theorem areFutureless_erase {entries : List (String × Value)}
    (others : areFutureless entries = true) (key : String) :
    areFutureless (Bindings.erase key entries) = true := by
  rw [areFutureless_iff] at others ⊢
  intro entry member
  exact others entry (Bindings.mem_erase member)

theorem areFutureless_insertAll {additions entries : List (String × Value)}
    (added : areFutureless additions = true) (others : areFutureless entries = true) :
    areFutureless (Bindings.insertAll additions entries) = true := by
  induction additions generalizing entries with
  | nil => exact others
  | cons addition rest ih =>
      simp only [areFutureless, Bool.and_eq_true] at added
      exact ih added.2 (areFutureless_insert added.1 others addition.1)

theorem isFutureless_of_get? {key : String} {value : Value} {entries : List (String × Value)}
    (futureless : areFutureless entries = true) (found : Bindings.get? key entries = some value) :
    value.isFutureless = true := by
  rw [areFutureless_iff] at futureless
  exact futureless _ (Bindings.mem_of_get? found)

theorem isFutureless_struct {typeName : String} {fields : List (String × Value)}
    (futureless : (Value.struct typeName fields).isFutureless = true) :
    typeName ≠ Future.typeName ∧ areFutureless fields = true := by
  simpa [isFutureless] using futureless

theorem isFutureless_field {name : String} {value field : Value}
    (futureless : value.isFutureless = true) (found : value.field? name = some field) :
    field.isFutureless = true := by
  cases value with
  | struct typeName fields => exact isFutureless_of_get? (isFutureless_struct futureless).2 found
  | _ => cases found

theorem isFutureless_read? {path : List String} {value field : Value}
    (futureless : value.isFutureless = true) (found : value.read? path = some field) :
    field.isFutureless = true := by
  induction path generalizing value with
  | nil =>
      cases found
      exact futureless
  | cons name rest ih =>
      obtain ⟨inner, here, below⟩ := Option.bind_eq_some_iff.mp found
      exact ih (isFutureless_field futureless here) below

theorem isFutureless_write {path : List String} {slot value updated : Value}
    (base : slot.isFutureless = true) (futureless : value.isFutureless = true)
    (written : slot.write path value = .ok updated) : updated.isFutureless = true := by
  induction path generalizing slot updated with
  | nil =>
      cases written
      exact futureless
  | cons name rest ih =>
      unfold write at written
      split at written
      · rename_i typeName fields
        obtain ⟨other, inside⟩ := isFutureless_struct base
        split at written
        · cases written
          simp [isFutureless, other, areFutureless_insert futureless inside name]
        · split at written
          · cases written
          · rename_i inner found
            split at written
            · cases written
            · rename_i changed below
              cases written
              have deeper := ih (isFutureless_of_get? inside found) below
              simp [isFutureless, other, areFutureless_replace deeper inside name]
      · cases written

end Value

/-! ### Scopes without futures -/

namespace ScopeStack

def isFutureless (stack : ScopeStack) : Bool :=
  stack.frames.all fun scope => Value.areFutureless scope.bindings

theorem isFutureless_iff (stack : ScopeStack) :
    stack.isFutureless = true ↔
      (∀ scope ∈ stack.inner, Value.areFutureless scope.bindings = true) ∧
        Value.areFutureless stack.global.bindings = true := by
  simp [isFutureless, frames, List.all_append]

theorem isFutureless_modifyCurrent {stack : ScopeStack} (futureless : stack.isFutureless = true)
    {change : Scope → Scope}
    (keeps : ∀ scope : Scope, Value.areFutureless scope.bindings = true →
      Value.areFutureless (change scope).bindings = true) :
    (stack.modifyCurrent change).isFutureless = true := by
  rw [isFutureless_iff] at futureless ⊢
  unfold modifyCurrent
  cases inner : stack.inner with
  | nil => simp [keeps stack.global futureless.2]
  | cons innermost rest =>
      rw [inner] at futureless
      refine ⟨?_, futureless.2⟩
      intro scope member
      rcases List.mem_cons.mp member with rfl | below
      · exact keeps innermost (futureless.1 innermost List.mem_cons_self)
      · exact futureless.1 scope (List.mem_cons_of_mem innermost below)

theorem isFutureless_push {stack : ScopeStack} (futureless : stack.isFutureless = true) {scope : Scope}
    (bindings : Value.areFutureless scope.bindings = true) :
    (stack.push scope).isFutureless = true := by
  rw [isFutureless_iff] at futureless ⊢
  unfold push
  split <;> exact ⟨List.forall_mem_cons.mpr ⟨bindings, futureless.1⟩, futureless.2⟩

theorem areFutureless_modifyFirstIn? {test : Scope → Bool} {change : Scope → Scope}
    (keeps : ∀ scope : Scope, Value.areFutureless scope.bindings = true →
      Value.areFutureless (change scope).bindings = true)
    {scopes changed : List Scope}
    (futureless : ∀ scope ∈ scopes, Value.areFutureless scope.bindings = true)
    (found : modifyFirstIn? test change scopes = some changed) :
    ∀ scope ∈ changed, Value.areFutureless scope.bindings = true := by
  induction scopes generalizing changed with
  | nil => cases found
  | cons first rest ih =>
      have here := futureless first List.mem_cons_self
      have below (scope : Scope) (member : scope ∈ rest) :=
        futureless scope (List.mem_cons_of_mem first member)
      unfold modifyFirstIn? at found
      split at found
      · cases found
        intro scope member
        rcases List.mem_cons.mp member with rfl | later
        · exact keeps first here
        · exact below scope later
      · obtain ⟨tail, later, rfl⟩ := Option.map_eq_some_iff.mp found
        intro scope member
        rcases List.mem_cons.mp member with rfl | deeper
        · exact here
        · exact ih below later scope deeper

theorem isFutureless_assign? {name : String} {value : Value} {stack changed : ScopeStack}
    (futureless : stack.isFutureless = true) (plain : value.isFutureless = true)
    (found : stack.assign? name value = some changed) : changed.isFutureless = true := by
  have keeps (scope : Scope) (holds : Value.areFutureless scope.bindings = true) :
      Value.areFutureless (scope.assignExisting name value).bindings = true :=
    Value.areFutureless_replace plain holds name
  rw [isFutureless_iff] at futureless ⊢
  unfold assign? modifyFirst? at found
  split at found
  · rename_i inner first
    cases found
    exact ⟨areFutureless_modifyFirstIn? keeps futureless.1 first, futureless.2⟩
  · split at found
    · cases found
      exact ⟨futureless.1, keeps _ futureless.2⟩
    · cases found

theorem isFutureless_assignExisting {name : String} {value : Value} {stack : ScopeStack}
    (futureless : stack.isFutureless = true) (plain : value.isFutureless = true) :
    (stack.assignExisting name value).isFutureless = true := by
  unfold assignExisting
  cases found : stack.assign? name value with
  | none => exact futureless
  | some changed => exact isFutureless_assign? futureless plain found

theorem isFutureless_lookup? {name : String} {value : Value} {stack : ScopeStack}
    (futureless : stack.isFutureless = true) (found : stack.lookup? name = some value) :
    value.isFutureless = true := by
  obtain ⟨scope, member, bound⟩ := List.exists_of_findSome?_eq_some found
  exact Value.isFutureless_of_get? (List.all_eq_true.mp futureless scope member) bound

theorem isFutureless_readPlace {name : String} {value : Value} {stack : ScopeStack}
    (futureless : stack.isFutureless = true) (read : stack.readPlace name = .ok value) :
    value.isFutureless = true := by
  unfold readPlace at read
  split at read
  · rename_i found
    cases read
    exact isFutureless_lookup? futureless found
  · dsimp only at read
    split at read
    · cases read
    · split at read
      · cases read
      · rename_i base bound
        split at read
        · cases read
        · rename_i field found
          cases read
          exact Value.isFutureless_read? (isFutureless_lookup? futureless bound) found

theorem isFutureless_writePlace {value : Value} {stack : ScopeStack}
    (futureless : stack.isFutureless = true) (plain : value.isFutureless = true) (name : String) :
    (stack.writePlace name value).1.isFutureless = true := by
  have flattened : ((stack.assign? name value).getD stack).isFutureless = true :=
    isFutureless_assignExisting futureless plain
  unfold writePlace
  dsimp only
  split
  · split
    · rename_i updated found
      exact isFutureless_assign? futureless plain found
    · exact futureless
  · split
    · rename_i base bound
      split
      · rename_i updated written
        have base := isFutureless_lookup? flattened bound
        exact isFutureless_assignExisting flattened (Value.isFutureless_write base plain written)
      · exact flattened
    · split <;> exact flattened

end ScopeStack

/-! ### What operators give -/

theorem UnaryOperator.isFutureless_apply {operator : UnaryOperator} {operand value : Value}
    (applied : operator.apply operand = .ok value) : value.isFutureless = true := by
  unfold UnaryOperator.apply at applied
  split at applied
  · cases applied
    rfl
  · cases applied
    rfl
  · cases applied
  · cases truth : operand.truth with
    | error cause =>
        rw [truth] at applied
        cases applied
    | ok holds =>
        rw [truth] at applied
        cases applied
        rfl

namespace BinaryOperator

theorem isFutureless_arithmetic {operator : BinaryOperator} {left right value : Value}
    (applied : operator.arithmetic left right = .ok value) : value.isFutureless = true := by
  unfold arithmetic at applied
  split at applied
  · unfold onInts at applied
    split at applied
    · cases applied
      rfl
    · cases applied
      rfl
    · cases applied
      rfl
    · split at applied <;> cases applied
      rfl
    · split at applied <;> cases applied
      rfl
    · cases applied
  · split at applied
    · split at applied
      · rename_i result computed
        cases applied
        unfold onFloats? at computed
        split at computed <;> cases computed <;> rfl
      · cases applied
    · cases applied

theorem isFutureless_compare {operator : BinaryOperator} {left right value : Value}
    (applied : operator.compare left right = .ok value) : value.isFutureless = true := by
  unfold compare at applied
  split at applied
  · cases applied
    rfl
  · split at applied
    · cases applied
      rfl
    · cases applied

theorem isFutureless_apply {operator : BinaryOperator} {left right value : Value}
    (applied : operator.apply left right = .ok value) : value.isFutureless = true := by
  unfold apply at applied
  split at applied
  · cases applied
    rfl
  · cases applied
    rfl
  · unfold plus at applied
    split at applied
    · cases applied
      rfl
    · cases applied
      rfl
    · exact isFutureless_arithmetic applied
  · exact isFutureless_compare applied
  · exact isFutureless_compare applied
  · exact isFutureless_compare applied
  · exact isFutureless_compare applied
  · exact isFutureless_arithmetic applied

end BinaryOperator

theorem Value.isFutureless_ofEntries {typeName : String} (other : typeName ≠ Future.typeName)
    {entries : List (String × Value)} (futureless : areFutureless entries = true) :
    (Value.struct typeName (Bindings.insertAll entries [])).isFutureless = true := by
  have fields : areFutureless (Bindings.insertAll entries []) = true :=
    areFutureless_insertAll futureless (by simp [areFutureless])
  simp [isFutureless, other, fields]

theorem isFutureless_structOf {declared : Option StructDecl} {typeName : String}
    {given : List (String × Value)} {value : Value} (other : typeName ≠ Future.typeName)
    (futureless : Value.areFutureless given = true)
    (made : structOf declared typeName given = .ok value) : value.isFutureless = true := by
  unfold structOf at made
  split at made
  · cases made
    exact Value.isFutureless_ofEntries other futureless
  · rename_i declaration
    split at made
    · cases made
    · cases made
      have entries : Value.areFutureless (declaration.fields.map fun name =>
          (name, (Bindings.get? name given).getD .void)) = true := by
        rw [Value.areFutureless_iff]
        intro entry member
        obtain ⟨name, _, rfl⟩ := List.mem_map.mp member
        dsimp only
        cases found : Bindings.get? name given with
        | none => rfl
        | some field => exact Value.isFutureless_of_get? futureless found
      exact Value.isFutureless_ofEntries other entries

theorem Value.isFutureless_fieldOf {name : String} {value field : Value}
    (futureless : value.isFutureless = true) (read : value.fieldOf name = .ok field) :
    field.isFutureless = true := by
  unfold Value.fieldOf at read
  split at read
  · split at read
    · rename_i found
      cases read
      exact isFutureless_of_get? (isFutureless_struct futureless).2 found
    · cases read
  · cases read

/-! ### Plain programs -/

mutual

def Expr.isPlain : Expr → Bool
  | .lit value => value.isFutureless
  | .var _ => true
  | .field base _ => base.isPlain
  | .binary _ left right => left.isPlain && right.isPlain
  | .unary _ operand => operand.isPlain
  | .structLit typeName fields => typeName != Future.typeName && fieldsArePlain fields
  | .call _ _ => false
  | .methodCall _ _ _ => false
  | .await _ => false
  | .sleep _ => false
  | .timeout _ _ => false

def fieldsArePlain : List (String × Expr) → Bool
  | [] => true
  | (_, expr) :: rest => expr.isPlain && fieldsArePlain rest

end

/-- A statement that may stand in the head of a loop. -/
def Stmt.isSimple : Stmt → Bool
  | .letVar _ value => value.isPlain
  | .assign _ value => value.isPlain
  | .expression value => value.isPlain
  | .print value => value.isPlain
  | _ => false

mutual

def Stmt.isPlain : Stmt → Bool
  | .letVar _ value => value.isPlain
  | .assign _ value => value.isPlain
  | .expression value => value.isPlain
  | .print value => value.isPlain
  | .returning value => value.all Expr.isPlain
  | .yield => true
  | .ifThen condition thenBranch elseBranch =>
      condition.isPlain && arePlain thenBranch && arePlain elseBranch
  | .whileLoop condition body => condition.isPlain && arePlain body
  | .forLoop init condition update body =>
      init.all Stmt.isSimple && condition.all Expr.isPlain && update.all Stmt.isSimple
        && arePlain body
  | .block body => arePlain body
  | .breakLoop => true
  | .continueLoop => true

def arePlain : List Stmt → Bool
  | [] => true
  | statement :: rest => statement.isPlain && arePlain rest

end

/-! ### Looking at the session -/

namespace ScopeStack

/-- The bindings of all scopes, innermost first: what names are looked up in. -/
def contents (stack : ScopeStack) : List (List (String × Value)) :=
  stack.frames.map Scope.bindings

theorem lookup?_eq (name : String) (stack : ScopeStack) :
    stack.lookup? name = stack.contents.findSome? (Bindings.get? name) := by
  unfold lookup? contents
  rw [List.findSome?_map]
  rfl

theorem lookup?_of_contents {first second : ScopeStack} (same : second.contents = first.contents)
    (name : String) : second.lookup? name = first.lookup? name := by
  rw [lookup?_eq, lookup?_eq, same]

theorem readPlace_of_lookups {first second : ScopeStack}
    (same : ∀ name, second.lookup? name = first.lookup? name) (name : String) :
    second.readPlace name = first.readPlace name := by
  unfold readPlace
  simp only [same]

end ScopeStack

variable {α β : Type}

/-- The outcomes of an action that has looked at two sessions and found the same. What it gives is
`good` if there are no futures in scope. -/
inductive Outcome.Looked (good : α → Prop) (first second : Session) : Outcome α → Outcome α → Prop where
  | done (value : α) (well : first.executor.scopes.isFutureless = true → good value) :
      Looked good first second (.done value first) (.done value second)
  | raised (cause : Fault) :
      Looked good first second (.raised (.fault cause) first) (.raised (.fault cause) second)
  | halted : Looked good first second (.halted first) (.halted second)

namespace Outcome.Looked

variable {good : α → Prop} {first second after : Session} {outcome outcome' : Outcome α}
  (looked : Looked good first second outcome outcome')

include looked

theorem of_done {value : α} (ended : outcome = .done value after) :
    after = first ∧ outcome' = .done value second ∧
      (first.executor.scopes.isFutureless = true → good value) := by
  cases looked with
  | done value well =>
      cases ended
      exact ⟨rfl, rfl, well⟩
  | raised cause => cases ended
  | halted => cases ended

theorem of_raised {signal : Signal} (ended : outcome = .raised signal after) :
    after = first ∧ ∃ cause, signal = .fault cause ∧ outcome' = .raised (.fault cause) second := by
  cases looked with
  | done value well => cases ended
  | raised cause =>
      cases ended
      exact ⟨rfl, cause, rfl, rfl⟩
  | halted => cases ended

theorem of_halted (ended : outcome = .halted after) : outcome' = .halted second := by
  cases looked with
  | done value well => cases ended
  | raised cause => cases ended
  | halted => rfl

end Outcome.Looked

/-- An action that leaves the session as it is and looks only at what names are bound to and at the
structs. -/
def Act.Looks (good : α → Prop) (action : Act α) : Prop :=
  ∀ first second : Session,
    (∀ name, second.executor.scopes.lookup? name = first.executor.scopes.lookup? name) →
    second.executor.structs = first.executor.structs →
      Outcome.Looked good first second (action first) (action second)

namespace Act.Looks

variable {good : α → Prop}

theorem halt : Looks good Act.halt :=
  fun _ _ _ _ => .halted

theorem pure {value : α} (well : good value) : Looks good (Pure.pure value) :=
  fun _ _ _ _ => .done value fun _ => well

theorem fail (cause : Fault) : Looks good (Act.fail cause) :=
  fun _ _ _ _ => .raised cause

theorem ofExcept {result : Except Fault α} (well : ∀ value, result = .ok value → good value) :
    Looks good (Act.ofExcept result) := by
  cases result with
  | ok value => exact pure (well value rfl)
  | error cause => exact fail cause

theorem bind {good' : β → Prop} {action : Act α} {next : α → Act β} (head : Looks good action)
    (tail : ∀ value, Looks (fun result => good value → good' result) (next value)) :
    Looks good' (action >>= next) := by
  intro first second scopes structs
  have looked := head first second scopes structs
  rw [bind_apply, bind_apply]
  generalize action first = outcome at looked
  generalize action second = outcome' at looked
  cases looked with
  | halted => exact .halted
  | raised cause => exact .raised cause
  | done value well =>
      have rest := tail value first second scopes structs
      dsimp only
      generalize next value first = ending at rest
      generalize next value second = ending' at rest
      cases rest with
      | halted => exact .halted
      | raised cause => exact .raised cause
      | done result comes =>
          exact .done result fun futureless => comes futureless (well futureless)

theorem weaken {good' : α → Prop} {action : Act α} (looks : Looks good action)
    (weaker : ∀ value, good value → good' value) : Looks good' action := by
  intro first second scopes structs
  have looked := looks first second scopes structs
  generalize action first = outcome at looked
  generalize action second = outcome' at looked
  cases looked with
  | halted => exact .halted
  | raised cause => exact .raised cause
  | done value well => exact .done value fun futureless => weaker value (well futureless)

theorem readPlace (name : String) :
    Looks (fun value => value.isFutureless = true) (Act.readPlace name) := by
  intro first second scopes _
  change Outcome.Looked _ first second (Act.ofExcept (first.executor.scopes.readPlace name) first)
    (Act.ofExcept (second.executor.scopes.readPlace name) second)
  rw [ScopeStack.readPlace_of_lookups scopes]
  cases read : first.executor.scopes.readPlace name with
  | error cause => exact .raised cause
  | ok value =>
      exact .done value fun futureless => ScopeStack.isFutureless_readPlace futureless read

theorem declaration {good' : β → Prop} (typeName : String) (next : Option StructDecl → Act β)
    (tail : ∀ declared, Looks good' (next declared)) :
    Looks good' (do
      let executor ← Act.executor
      next (Bindings.get? typeName executor.structs)) := by
  intro first second scopes structs
  change Outcome.Looked good' first second (next (Bindings.get? typeName first.executor.structs) first)
    (next (Bindings.get? typeName second.executor.structs) second)
  rw [structs]
  exact tail _ first second scopes structs

end Act.Looks

namespace Interpreter

/-- Plain expressions only look, and come to values without futures. -/
def LooksAt (interpreter : Interpreter) : Prop :=
  ∀ expr : Expr, expr.isPlain = true →
    Act.Looks (fun value => value.isFutureless = true) (interpreter.eval expr)

variable {interpreter : Interpreter} (looks : interpreter.LooksAt)

include looks

theorem evalFields_looks {fields : List (String × Expr)} (plain : fieldsArePlain fields = true) :
    Act.Looks (fun given => Value.areFutureless given = true) (interpreter.evalFields fields) := by
  induction fields with
  | nil => exact .pure rfl
  | cons field rest ih =>
      simp only [fieldsArePlain, Bool.and_eq_true] at plain
      refine .bind (looks field.2 plain.1) fun value => ?_
      refine .bind (ih plain.2) fun given => .pure ?_
      intro others futureless
      simp [Value.areFutureless, others, futureless]

theorem evalBinary_looks {operator : BinaryOperator} {left right : Expr}
    (first : left.isPlain = true) (second : right.isPlain = true) :
    Act.Looks (fun value => value.isFutureless = true)
      (interpreter.evalBinary operator left right) := by
  have rightTruth : Act.Looks (fun value => value.isFutureless = true)
      (do
        let value ← interpreter.eval right
        let truth ← Act.ofExcept value.truth
        return Value.bool truth) := by
    refine .bind (looks right second) fun value => ?_
    have truth : Act.Looks (fun _ => True) (Act.ofExcept value.truth) :=
      .ofExcept fun _ _ => trivial
    exact .bind truth fun _ => .pure fun _ _ => rfl
  have decided (truth : Bool) : Act.Looks (fun value => value.isFutureless = true)
      (Pure.pure (Value.bool truth)) := .pure rfl
  have strict (value : Value) : Act.Looks (fun value => value.isFutureless = true)
      (do
        let rightValue ← interpreter.eval right
        Act.ofExcept (operator.apply value rightValue)) := by
    refine .bind (looks right second) fun rightValue => .ofExcept ?_
    intro result applied _
    exact BinaryOperator.isFutureless_apply applied
  refine .bind (looks left first) fun value => Act.Looks.weaken ?_ fun _ well _ => well
  have truth : Act.Looks (fun _ => True) (Act.ofExcept value.truth) := .ofExcept fun _ _ => trivial
  cases operator with
  | and =>
      refine .bind truth fun holds => Act.Looks.weaken ?_ fun _ well _ => well
      cases holds with
      | true => exact rightTruth
      | false => exact decided false
  | or =>
      refine .bind truth fun holds => Act.Looks.weaken ?_ fun _ well _ => well
      cases holds with
      | true => exact decided true
      | false => exact rightTruth
  | _ => exact strict value

theorem evalExpr_looks {expr : Expr} (plain : expr.isPlain = true) :
    Act.Looks (fun value => value.isFutureless = true) (interpreter.evalExpr expr) := by
  cases expr with
  | lit value => exact .pure plain
  | var name => exact .readPlace name
  | field base name =>
      refine .bind (looks base plain) fun value => .ofExcept ?_
      intro field read futureless
      exact value.isFutureless_fieldOf futureless read
  | binary operator left right =>
      simp only [Expr.isPlain, Bool.and_eq_true] at plain
      exact evalBinary_looks looks plain.1 plain.2
  | unary operator operand =>
      refine .bind (looks operand plain) fun value => .ofExcept ?_
      intro result applied _
      exact UnaryOperator.isFutureless_apply applied
  | structLit typeName fields =>
      simp only [Expr.isPlain, Bool.and_eq_true, bne_iff_ne] at plain
      refine .bind (evalFields_looks looks plain.2) fun given => ?_
      refine .declaration typeName (fun declared => Act.ofExcept (structOf declared typeName given))
        fun declared => .ofExcept ?_
      intro value made futureless
      exact isFutureless_structOf plain.1 futureless made
  | call name args => cases plain
  | methodCall receiver method args => cases plain
  | await future => cases plain
  | sleep millis => cases plain
  | timeout future millis => cases plain

theorem evalCondition_looks {condition : Expr} (plain : condition.isPlain = true) :
    Act.Looks (fun _ => True) (interpreter.evalCondition condition) := by
  refine .bind (looks condition plain) fun value => ?_
  cases value.toBool? with
  | some truth => exact .pure fun _ => trivial
  | none => exact .fail _

end Interpreter

theorem interpreter_looks (depth : Nat) : (interpreter depth).LooksAt := by
  induction depth with
  | zero => exact fun _ _ => .halt
  | succ depth ih => exact fun _ plain => Interpreter.evalExpr_looks ih plain

end CooperativeTasks
