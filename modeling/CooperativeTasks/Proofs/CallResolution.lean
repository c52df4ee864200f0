import CooperativeTasks.Proofs.MethodWrites
import CooperativeTasks.Program.Validation

set_option autoImplicit false

/-! Which programs are accepted, and what a call in one of them finds.

A single pass over the functions, with the names so far, accepts the programs whose qualified names
are distinct and whose owners are declared. Loading enters the functions under these names one
after the other, so that of an accepted program no declaration is ever overwritten. -/

namespace CooperativeTasks

/-! ### Validation -/

namespace FunctionDecl

/-- The function breaks no rule that is about itself alone. -/
def Owned (owners : List String) (function : FunctionDecl) : Prop :=
  ∀ owner, function.owner = some owner → owner ∈ owners

/-- An undeclared owner is reported before a name that is taken. -/
inductive Breaks (owners earlier : List String) (function : FunctionDecl) : LoadError → Prop where
  | unknownOwner {owner : String} (owned : function.owner = some owner) (unknown : owner ∉ owners) :
      Breaks owners earlier function (.unknownOwner function.name owner)
  | duplicateFunction (owned : function.Owned owners) (taken : function.qualifiedName ∈ earlier) :
      Breaks owners earlier function (.duplicateFunction function.qualifiedName)

theorem breaks_congr {owners first second : List String}
    (same : ∀ name, name ∈ first ↔ name ∈ second) {function : FunctionDecl} {problem : LoadError} :
    function.Breaks owners first problem ↔ function.Breaks owners second problem := by
  constructor
  · rintro (⟨owned, unknown⟩ | ⟨owned, taken⟩)
    · exact .unknownOwner owned unknown
    · exact .duplicateFunction owned ((same _).mp taken)
  · rintro (⟨owned, unknown⟩ | ⟨owned, taken⟩)
    · exact .unknownOwner owned unknown
    · exact .duplicateFunction owned ((same _).mpr taken)

theorem problem?_eq_some_iff {owners earlier : List String} {function : FunctionDecl}
    {problem : LoadError} :
    function.problem? owners earlier = some problem ↔ function.Breaks owners earlier problem := by
  constructor
  · intro found
    unfold problem? at found
    cases owned : function.owner with
    | none =>
        rw [owned] at found
        dsimp only at found
        split at found
        · rename_i taken
          cases found
          exact .duplicateFunction (fun owner other => by rw [owned] at other; cases other) taken
        · cases found
    | some owner =>
        rw [owned] at found
        dsimp only at found
        split at found
        · rename_i declared
          split at found
          · rename_i taken
            cases found
            refine .duplicateFunction (fun other same => ?_) taken
            rw [owned] at same
            cases same
            exact declared
          · cases found
        · rename_i unknown
          cases found
          exact .unknownOwner owned unknown
  · intro breaks
    unfold problem?
    cases breaks with
    | unknownOwner owned unknown => simp [owned, unknown]
    | duplicateFunction owned taken =>
        cases owner : function.owner with
        | none => simp [taken]
        | some name => simp [taken, owned name owner]

theorem problem?_eq_none_iff {owners earlier : List String} {function : FunctionDecl} :
    function.problem? owners earlier = none ↔
      function.Owned owners ∧ function.qualifiedName ∉ earlier := by
  unfold problem? Owned
  cases owner : function.owner with
  | none => simp
  | some name => by_cases declared : name ∈ owners <;> simp [declared]

end FunctionDecl

section Validation

variable (owners : List String)

theorem validateFrom_append (earlier : List String) (first second : List FunctionDecl) :
    validateFrom owners earlier (first ++ second) =
      validateFrom owners earlier first >>= fun _ =>
        validateFrom owners ((first.map FunctionDecl.qualifiedName).reverse ++ earlier) second := by
  induction first generalizing earlier with
  | nil => rfl
  | cons function rest ih =>
      simp only [List.cons_append, validateFrom]
      cases function.problem? owners earlier with
      | some problem => rfl
      | none =>
          simp only [ih, List.map_cons, List.reverse_cons, List.append_assoc, List.singleton_append]

theorem validateFrom_eq_ok_iff (earlier : List String) (functions : List FunctionDecl) :
    validateFrom owners earlier functions = .ok () ↔
      (∀ function ∈ functions, function.Owned owners) ∧
        (functions.map FunctionDecl.qualifiedName).Nodup ∧
        ∀ function ∈ functions, function.qualifiedName ∉ earlier := by
  induction functions generalizing earlier with
  | nil => simp [validateFrom]
  | cons function rest ih =>
      unfold validateFrom
      cases found : function.problem? owners earlier with
      | some problem =>
          have broken : ¬ (function.Owned owners ∧ function.qualifiedName ∉ earlier) := by
            rw [← FunctionDecl.problem?_eq_none_iff, found]
            simp
          refine iff_of_false (by simp) fun fine => broken ?_
          exact ⟨fine.1 function List.mem_cons_self, fine.2.2 function List.mem_cons_self⟩
      | none =>
          obtain ⟨owned, fresh⟩ := FunctionDecl.problem?_eq_none_iff.mp found
          simp only [ih, List.forall_mem_cons]
          simp only [List.map_cons, List.nodup_cons, List.mem_cons, not_or, List.mem_map,
            not_exists, not_and]
          constructor
          · rintro ⟨declared, distinct, apart⟩
            exact ⟨⟨owned, declared⟩, ⟨fun other member => (apart other member).1, distinct⟩, fresh,
              fun other member => (apart other member).2⟩
          · rintro ⟨⟨-, declared⟩, ⟨apart, distinct⟩, -, unseen⟩
            exact ⟨declared, distinct,
              fun other member => ⟨apart other member, unseen other member⟩⟩

/-- What the pass reports is the problem of a function behind a part that it accepts. -/
theorem validateFrom_eq_error_iff (earlier : List String) (functions : List FunctionDecl)
    (problem : LoadError) :
    validateFrom owners earlier functions = .error problem ↔
      ∃ before function after, functions = before ++ function :: after ∧
        validateFrom owners earlier before = .ok () ∧
        function.Breaks owners ((before.map FunctionDecl.qualifiedName).reverse ++ earlier)
          problem := by
  constructor
  · induction functions generalizing earlier with
    | nil => exact fun failed => by cases failed
    | cons function rest ih =>
        intro failed
        unfold validateFrom at failed
        cases found : function.problem? owners earlier with
        | some first =>
            rw [found] at failed
            cases failed
            exact ⟨[], function, rest, rfl, rfl, FunctionDecl.problem?_eq_some_iff.mp found⟩
        | none =>
            rw [found] at failed
            obtain ⟨before, broken, after, rfl, fine, breaks⟩ := ih _ failed
            refine ⟨function :: before, broken, after, rfl, ?_, ?_⟩
            · simp only [validateFrom, found, fine]
            · simpa using breaks
  · rintro ⟨before, function, after, rfl, fine, breaks⟩
    rw [validateFrom_append, fine]
    change validateFrom owners _ (function :: after) = _
    unfold validateFrom
    rw [FunctionDecl.problem?_eq_some_iff.mpr breaks]

end Validation

namespace Program

/-- The qualified names are pairwise distinct, and every owner names a declared struct. -/
structure Unambiguous (program : Program) : Prop where
  distinct : (program.functions.map FunctionDecl.qualifiedName).Nodup
  owned : ∀ function ∈ program.functions,
    function.Owned (program.structs.map StructDecl.name)

theorem validate_eq_ok_iff (program : Program) :
    program.validate = .ok () ↔ program.Unambiguous := by
  unfold validate
  rw [validateFrom_eq_ok_iff]
  constructor
  · rintro ⟨owned, distinct, -⟩
    exact ⟨distinct, owned⟩
  · rintro ⟨distinct, owned⟩
    exact ⟨owned, distinct, fun function _ => List.not_mem_nil⟩

theorem validate_eq_error_iff (program : Program) (problem : LoadError) :
    program.validate = .error problem ↔
      ∃ before function after, program.functions = before ++ function :: after ∧
        Unambiguous { program with functions := before } ∧
        function.Breaks (program.structs.map StructDecl.name)
          (before.map FunctionDecl.qualifiedName) problem := by
  have order {function : FunctionDecl} {before : List FunctionDecl} :
      function.Breaks (program.structs.map StructDecl.name)
          ((before.map FunctionDecl.qualifiedName).reverse ++ []) problem ↔
        function.Breaks (program.structs.map StructDecl.name)
          (before.map FunctionDecl.qualifiedName) problem :=
    FunctionDecl.breaks_congr (by simp)
  unfold validate
  simp only [validateFrom_eq_error_iff, ← validate_eq_ok_iff, validate, order]

end Program

/-! ### Loading -/

section Loading

variable {program : Program} {executor : Executor}

theorem Executor.functions_load_eq (program : Program) (executor : Executor) :
    (executor.load program).functions =
      Bindings.insertAll
        (program.functions.map fun function => (function.qualifiedName, function))
        executor.functions := by
  have structs (added : List StructDecl) (known : Executor) :
      (added.foldl (fun known decl => known.defineStruct decl) known).functions =
        known.functions := by
    induction added generalizing known with
    | nil => rfl
    | cons first rest ih => exact ih (known.defineStruct first)
  have functions (added : List FunctionDecl) (known : Executor) :
      (added.foldl (fun known function => known.defineFunction function) known).functions =
        Bindings.insertAll (added.map fun function => (function.qualifiedName, function))
          known.functions := by
    induction added generalizing known with
    | nil => rfl
    | cons first rest ih => exact ih (known.defineFunction first)
  unfold Executor.load
  rw [functions, structs]

/-- Nothing that an accepted program declares is overwritten, and nothing else is found. -/
theorem Executor.get?_functions_load (unambiguous : program.Unambiguous)
    (fresh : executor.functions = []) (name : String) (function : FunctionDecl) :
    Bindings.get? name (executor.load program).functions = some function ↔
      function ∈ program.functions ∧ function.qualifiedName = name := by
  have names : (program.functions.map fun function =>
      (function.qualifiedName, function)).map Prod.fst =
        program.functions.map FunctionDecl.qualifiedName := by
    rw [List.map_map]
    rfl
  have distinct := unambiguous.distinct
  rw [← names] at distinct
  rw [Executor.functions_load_eq, fresh, Bindings.get?_insertAll, Bindings.get?_reverse distinct,
    Bindings.get?, Option.or_none, Bindings.get?_eq_some_iff distinct, List.mem_map]
  constructor
  · rintro ⟨declared, member, same⟩
    cases same
    exact ⟨member, rfl⟩
  · rintro ⟨member, rfl⟩
    exact ⟨function, member, rfl⟩

end Loading

/-! ### Calls -/

/-- The declarations that a call of `method` on an instance of `typeName` can mean: a method of that
struct, and a function whose own name is written like one. -/
def FunctionDecl.Answers (typeName method : String) (function : FunctionDecl) : Prop :=
  (function.owner = some typeName ∧ function.name = method) ∨
    function.qualifiedName = typeName ++ "." ++ method

theorem FunctionDecl.answers_iff {typeName method : String} {function : FunctionDecl} :
    function.Answers typeName method ↔ function.qualifiedName = typeName ++ "." ++ method := by
  refine ⟨fun answers => ?_, .inr⟩
  rcases answers with ⟨owned, rfl⟩ | named
  · unfold FunctionDecl.qualifiedName
    rw [owned]
  · exact named

namespace Interpreter

variable {interpreter : Interpreter} {session : Session} {name : String}

theorem functionNamed_of_none (absent : Bindings.get? name session.executor.functions = none) :
    functionNamed name session = .raised (.fault (.undefinedFunction name)) session := by
  unfold functionNamed
  rw [Act.executor_bind, absent]
  rfl

theorem callMethod_of_undefined {receiver method typeName : String} {args : List Expr}
    {fields : List (String × Value)}
    (resolves : session.executor.scopes.readPlace receiver = .ok (.struct typeName fields))
    (absent : Bindings.get? (typeName ++ "." ++ method) session.executor.functions = none) :
    interpreter.callMethod receiver method args session =
      .raised (.fault (.undefinedFunction (typeName ++ "." ++ method))) session := by
  -- A method that is not there is missed before the arguments are evaluated.
  have read : Act.readPlace receiver session = .done (.struct typeName fields) session := by
    unfold Act.readPlace
    rw [Act.executor_bind, resolves]
    rfl
  unfold callMethod
  rw [Act.bind_of_done read]
  dsimp only
  exact Act.bind_of_raised (functionNamed_of_none absent)

/-- A call of a method means the one declaration that answers it, or there is none. -/
theorem callMethod_cases {program : Program} {settings : InterpreterSettings}
    (unambiguous : program.Unambiguous)
    (loaded : session.executor.functions = (Executor.load program { settings }).functions)
    {receiver typeName : String} {fields : List (String × Value)}
    (resolves : session.executor.scopes.readPlace receiver = .ok (.struct typeName fields))
    (method : String) (args : List Expr) :
    (∃ function ∈ program.functions, function.Answers typeName method ∧
        (∀ other ∈ program.functions, other.Answers typeName method → other = function) ∧
        interpreter.callMethod receiver method args session =
          (interpreter.evalAll args >>=
            interpreter.invoke receiver function (.struct typeName fields)) session) ∨
      (∀ function ∈ program.functions, ¬ function.Answers typeName method) ∧
        interpreter.callMethod receiver method args session =
          .raised (.fault (.undefinedFunction (typeName ++ "." ++ method))) session := by
  have finds (function : FunctionDecl) :
      Bindings.get? (typeName ++ "." ++ method) session.executor.functions = some function ↔
        function ∈ program.functions ∧ function.qualifiedName = typeName ++ "." ++ method := by
    rw [loaded]
    exact Executor.get?_functions_load unambiguous rfl _ function
  simp only [FunctionDecl.answers_iff]
  cases found : Bindings.get? (typeName ++ "." ++ method) session.executor.functions with
  | some function =>
      obtain ⟨member, named⟩ := (finds function).mp found
      refine .inl ⟨function, member, named, fun other present same => ?_,
        callMethod_eq resolves found⟩
      have there := (finds other).mpr ⟨present, same⟩
      exact Option.some.inj (there.symm.trans found)
  | none =>
      refine .inr ⟨fun function member named => ?_, callMethod_of_undefined resolves found⟩
      rw [(finds function).mpr ⟨member, named⟩] at found
      cases found

end Interpreter

/-- A program is accepted exactly if its qualified names are distinct and its owners declared, and
what is reported is otherwise the first function with a problem, an undeclared owner first. Loaded
into a fresh interpreter, an accepted program has each of its functions under its qualified name
and no other, so a call of a method means one declaration at most. -/
theorem accepted_programs_resolve_calls (program : Program) :
    (program.validate = .ok () ↔ program.Unambiguous) ∧
      (∀ problem, program.validate = .error problem ↔
        ∃ before function after, program.functions = before ++ function :: after ∧
          Program.Unambiguous { program with functions := before } ∧
          function.Breaks (program.structs.map StructDecl.name)
            (before.map FunctionDecl.qualifiedName) problem) ∧
      (program.validate = .ok () → ∀ (settings : InterpreterSettings) (session : Session),
        session.executor.functions = (Executor.load program { settings }).functions →
          (∀ name function,
            Bindings.get? name session.executor.functions = some function ↔
              function ∈ program.functions ∧ function.qualifiedName = name) ∧
          ∀ (interpreter : Interpreter) (receiver typeName method : String) (args : List Expr)
            (fields : List (String × Value)),
            session.executor.scopes.readPlace receiver = .ok (.struct typeName fields) →
              (∃ function ∈ program.functions, function.Answers typeName method ∧
                (∀ other ∈ program.functions, other.Answers typeName method → other = function) ∧
                interpreter.callMethod receiver method args session =
                  (interpreter.evalAll args >>=
                    interpreter.invoke receiver function (.struct typeName fields)) session) ∨
              (∀ function ∈ program.functions, ¬ function.Answers typeName method) ∧
                interpreter.callMethod receiver method args session =
                  .raised (.fault (.undefinedFunction (typeName ++ "." ++ method))) session) := by
  refine ⟨program.validate_eq_ok_iff, program.validate_eq_error_iff,
    fun accepted settings session loaded => ?_⟩
  -- Qualified names are distinct, so that loading one function overwrites no other.
  have unambiguous := program.validate_eq_ok_iff.mp accepted
  refine ⟨fun name function => ?_, fun interpreter receiver typeName method args fields resolves =>
    Interpreter.callMethod_cases unambiguous loaded resolves method args⟩
  rw [loaded]
  exact Executor.get?_functions_load unambiguous rfl name function

/-- `Door` has a method of its own, and a free function is named like another one. -/
def doors : Program where
  structs := [{ name := "Door", fields := ["open"] }]
  functions := [
    { name := "shut", params := [], body := [], isAsync := false, owner := some "Door" },
    { name := "Door.lock", params := [], body := [.yield], isAsync := true, owner := none }]
  main := []

/-- A session with `doors` loaded, in which `d` is an instance. -/
def besideDoor : Session where
  executor := (({} : Executor).load doors).setGlobal "d" (.struct "Door" [("open", .bool true)])

/-- The call `d.lock()` means the free function, and nothing answers to `d.open()`. -/
theorem accepted_programs_resolve_calls_doors :
    doors.validate = .ok () ∧
      besideDoor.executor.functions = (Executor.load doors {}).functions ∧
      besideDoor.executor.scopes.readPlace "d" = .ok (.struct "Door" [("open", .bool true)]) ∧
      (∃ function ∈ doors.functions, function.owner = none ∧
        (interpreter 3).callMethod "d" "lock" [] besideDoor =
          ((interpreter 3).evalAll [] >>= (interpreter 3).invoke "d" function
            (.struct "Door" [("open", .bool true)])) besideDoor) ∧
      (interpreter 3).callMethod "d" "open" [] besideDoor =
        .raised (.fault (.undefinedFunction "Door.open")) besideDoor := by
  have accepted : doors.validate = .ok () := rfl
  have loaded : besideDoor.executor.functions = (Executor.load doors {}).functions := rfl
  have resolves : besideDoor.executor.scopes.readPlace "d" =
      .ok (.struct "Door" [("open", .bool true)]) := rfl
  have qualified {function : FunctionDecl} (member : function ∈ doors.functions) :
      (function.qualifiedName = "Door.shut" ∧ function.owner = some "Door") ∨
        (function.qualifiedName = "Door.lock" ∧ function.owner = none) := by
    simp only [doors, List.mem_cons, List.not_mem_nil, or_false] at member
    rcases member with rfl | rfl
    · exact .inl ⟨rfl, rfl⟩
    · exact .inr ⟨rfl, rfl⟩
  have calls := ((accepted_programs_resolve_calls doors).2.2 accepted {} besideDoor loaded).2
    (interpreter 3) "d" "Door"
  refine ⟨accepted, loaded, resolves, ?_, ?_⟩
  · rcases calls "lock" [] _ resolves with ⟨function, member, answers, -, called⟩ | ⟨nowhere, -⟩
    · rcases qualified member with ⟨named, -⟩ | ⟨-, free⟩
      · rw [FunctionDecl.answers_iff, named] at answers
        exact absurd answers (by decide)
      · exact ⟨function, member, free, called⟩
    · exact absurd (FunctionDecl.answers_iff.mpr rfl)
        (nowhere _ (List.mem_cons_of_mem _ List.mem_cons_self))
  · rcases calls "open" [] _ resolves with ⟨function, member, answers, -, -⟩ | ⟨-, missed⟩
    · rw [FunctionDecl.answers_iff] at answers
      rcases qualified member with ⟨named, -⟩ | ⟨named, -⟩ <;> rw [named] at answers <;>
        exact absurd answers (by decide)
    · exact missed

end CooperativeTasks
