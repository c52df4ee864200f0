import CooperativeTasks.Proofs.Crowd
import CooperativeTasks.Proofs.MethodWrites

set_option autoImplicit false

/-! The scope of a method, whichever way the method is called.

A synchronous call and a task put the instance of a method into its scope in different orders. What
names are bound to is the same, and stays the same while a plain body runs. Besides, as long as the
body leaves `self` alone but for single fields that are there, the value of `self` and the entries
for its fields go together, so that nothing is gained or lost when they are merged. -/

namespace CooperativeTasks

/-! ### Bindings in another order -/

namespace Bindings

/-- The same bindings, in whatever order, and no name twice. -/
structure Reordered (first second : List (String × Value)) : Prop where
  distinct : (first.map Prod.fst).Nodup
  distinct' : (second.map Prod.fst).Nodup
  reads : ∀ name, get? name second = get? name first

namespace Reordered

variable {first second : List (String × Value)} (reordered : Reordered first second)

include reordered

theorem symm : Reordered second first where
  distinct := reordered.distinct'
  distinct' := reordered.distinct
  reads name := (reordered.reads name).symm

theorem contains_eq (name : String) : contains name second = contains name first := by
  unfold contains
  rw [reordered.reads]

theorem insert (name : String) (value : Value) :
    Reordered (insert name value first) (Bindings.insert name value second) where
  distinct := nodup_keys_insert reordered.distinct name value
  distinct' := nodup_keys_insert reordered.distinct' name value
  reads other := by
    by_cases same : other = name
    · subst other
      rw [get?_insert_self, get?_insert_self]
    · rw [get?_insert_of_ne same, get?_insert_of_ne same, reordered.reads]

theorem replace (name : String) (value : Value) :
    Reordered (replace name value first) (Bindings.replace name value second) where
  distinct := by
    rw [keys_replace]
    exact reordered.distinct
  distinct' := by
    rw [keys_replace]
    exact reordered.distinct'
  reads other := by
    rw [get?_replace, get?_replace, reordered.reads]

theorem erase (name : String) : Reordered (erase name first) (Bindings.erase name second) where
  distinct := (keys_erase_sublist name first).nodup reordered.distinct
  distinct' := (keys_erase_sublist name second).nodup reordered.distinct'
  reads other := by
    by_cases same : other = name
    · subst other
      rw [get?_erase_self reordered.distinct, get?_erase_self reordered.distinct']
    · rw [get?_erase_of_ne same, get?_erase_of_ne same, reordered.reads]

end Reordered

theorem contains_iff {name : String} {entries : List (String × Value)} :
    contains name entries = true ↔ name ∈ entries.map Prod.fst := by
  induction entries with
  | nil => simp [contains, get?]
  | cons entry rest ih =>
      by_cases same : entry.1 = name
      · simp [contains, get?, same]
      · unfold contains at ih ⊢
        simp [get?, same, ih, Ne.symm same]

theorem ext_of_keys {first second : List (String × Value)}
    (keys : first.map Prod.fst = second.map Prod.fst) (distinct : (second.map Prod.fst).Nodup)
    (reads : ∀ name, get? name first = get? name second) : first = second := by
  induction second generalizing first with
  | nil => exact List.map_eq_nil_iff.mp keys
  | cons entry rest ih =>
      obtain ⟨other, others, rfl⟩ : ∃ other others, first = other :: others := by
        cases first with
        | nil => cases keys
        | cons other others => exact ⟨other, others, rfl⟩
      rw [List.map_cons, List.map_cons, List.cons.injEq] at keys
      rw [List.map_cons, List.nodup_cons] at distinct
      obtain ⟨name, value⟩ := entry
      obtain ⟨name', value'⟩ := other
      obtain ⟨rfl, keys⟩ := keys
      have here := reads name'
      simp only [get?, if_true, Option.some.injEq] at here
      subst here
      rw [ih keys distinct.2]
      intro key
      by_cases same : name' = key
      · subst same
        rw [get?_eq_none distinct.1, get?_eq_none (by rw [keys]; exact distinct.1)]
      · have there := reads key
        simpa [get?, same] using there

theorem keys_insertAll {additions known : List (String × Value)}
    (present : ∀ name, contains name additions = true → contains name known = true) :
    (insertAll additions known).map Prod.fst = known.map Prod.fst := by
  induction additions generalizing known with
  | nil => rfl
  | cons addition rest ih =>
      have bound : contains addition.1 known = true := present addition.1 (by simp [contains, get?])
      have replaced := insert_eq_replace addition.2 bound
      change (insertAll rest (insert addition.1 addition.2 known)).map Prod.fst = _
      rw [replaced, ih, keys_replace]
      intro name later
      rw [contains_replace]
      refine present name ?_
      by_cases same : addition.1 = name
      · simp [contains, get?, same]
      · simpa [contains, get?, same] using later

end Bindings

/-! ### Instances -/

/-- The instance in the scope of a method: the value of `self`, and each of its fields as an entry of
its own. -/
structure HoldsInstance (typeName : String) (fields bindings : List (String × Value)) : Prop where
  own : Bindings.get? selfName bindings = some (.struct typeName fields)
  entries : ∀ member,
    Bindings.get? (memberName selfName member) bindings = Bindings.get? member fields

/-- Whether a name stands for `self` or for something in it. -/
def ofInstance (name : String) : Bool := (Place.ofName name).base == selfName

theorem ofInstance_base (name : String) : ofInstance (Place.ofName name).base = ofInstance name := by
  unfold ofInstance
  congr 1
  by_cases dot : '.' ∈ name.toList
  · obtain ⟨base, rest, letters, whole⟩ := List.eq_append_cons_of_mem dot
    have place : (Place.ofName name).base = String.ofList base := by
      unfold Place.ofName
      rw [letters, splitDots_append whole]
    rw [place, Place.ofName_of_not_mem (by simpa using whole)]
  · rw [Place.ofName_of_not_mem dot, Place.ofName_of_not_mem dot]

theorem ofInstance_self : ofInstance selfName = true := by decide

theorem ofInstance_member (member : String) : ofInstance (memberName selfName member) = true := by
  have self : '.' ∉ selfName.toList := by decide
  unfold ofInstance Place.ofName
  rw [toList_memberName, splitDots_append self]
  simp

namespace HoldsInstance

variable {typeName : String} {fields bindings : List (String × Value)}

theorem of_reads {after : List (String × Value)} (holds : HoldsInstance typeName fields bindings)
    (same : ∀ name, ofInstance name = true →
      Bindings.get? name after = Bindings.get? name bindings) :
    HoldsInstance typeName fields after where
  own := (same _ ofInstance_self).trans holds.own
  entries member := (same _ (ofInstance_member member)).trans (holds.entries member)

theorem write (holds : HoldsInstance typeName fields bindings) (field : String) (value : Value) :
    HoldsInstance typeName (Bindings.replace field value fields)
      (Bindings.replace selfName (.struct typeName (Bindings.replace field value fields))
        (Bindings.replace (memberName selfName field) value bindings)) where
  own := by
    have apart : memberName selfName field ≠ selfName := memberName_ne selfName field
    simp [Bindings.get?_replace, holds.own, apart]
  entries member := by
    have apart : selfName ≠ memberName selfName member := (memberName_ne selfName member).symm
    simp only [Bindings.get?_replace, holds.entries, apart, if_false, Option.map_id']
    by_cases same : field = member
    · simp [same]
    · have different : memberName selfName field ≠ memberName selfName member :=
        fun equal => same (memberName_injective equal)
      simp [same, different]

theorem get?_members (holds : HoldsInstance typeName fields bindings)
    (distinct : (bindings.map Prod.fst).Nodup)
    (whole : ∀ name ∈ fields.map Prod.fst, '.' ∉ name.toList) (name : String) :
    Bindings.get? name (selfMembers bindings).reverse = Bindings.get? name fields := by
  have same : (selfMembers bindings).reverse = selfMembers bindings.reverse := by
    simp [selfMembers, List.filterMap_reverse]
  rw [same, get?_selfMembers, Bindings.get?_reverse distinct, holds.entries]
  split
  · rename_i dot
    exact (Bindings.get?_eq_none fun member => whole name member dot).symm
  · rfl

/-- Merging the entries into an instance with the same fields gives the value of `self`. -/
theorem merges (holds : HoldsInstance typeName fields bindings)
    (distinct : (bindings.map Prod.fst).Nodup) (apart : (fields.map Prod.fst).Nodup)
    (whole : ∀ name ∈ fields.map Prod.fst, '.' ∉ name.toList) {known : List (String × Value)}
    (keys : known.map Prod.fst = fields.map Prod.fst) :
    Bindings.insertAll (selfMembers bindings) known = fields := by
  have reads := holds.get?_members distinct whole
  have bound (name : String) :
      Bindings.contains name known = true ↔ Bindings.contains name fields = true := by
    simp only [Bindings.contains_iff, keys]
  have kept := @Bindings.keys_insertAll (selfMembers bindings) known fun name member => by
    rw [Bindings.contains_iff, ← List.mem_reverse, ← List.map_reverse,
      ← Bindings.contains_iff] at member
    rw [bound]
    unfold Bindings.contains at member ⊢
    rw [← reads]
    exact member
  refine Bindings.ext_of_keys (kept.trans keys) apart fun name => ?_
  rw [Bindings.get?_insertAll, reads]
  cases held : Bindings.get? name fields with
  | some value => rfl
  | none =>
      have absent : ¬ Bindings.contains name known = true := by
        rw [bound, Bindings.contains, held]
        exact Bool.false_ne_true
      simpa [Bindings.contains] using absent

end HoldsInstance

/-! ### Stacks -/

namespace ScopeStack

theorem contents_assignExisting_above {stack : ScopeStack}
    {bindings globals : List (String × Value)} (above : stack.contents = [bindings, globals])
    (name : String) (value : Value) :
    (stack.assignExisting name value).contents =
      if Bindings.contains name bindings then [Bindings.replace name value bindings, globals]
      else [bindings, Bindings.replace name value globals] := by
  have assigned := contents_assign? name value stack
  rw [above] at assigned
  have written : (stack.assignExisting name value).contents =
      (assignIn? name value [bindings, globals]).getD [bindings, globals] := by
    rw [← assigned, ← above]
    unfold assignExisting
    cases stack.assign? name value <;> rfl
  rw [written]
  by_cases here : Bindings.contains name bindings = true
  · simp [assignIn?, here]
  · by_cases there : Bindings.contains name globals = true
    · simp [assignIn?, here, there]
    · simp [assignIn?, here, there, Bindings.replace_absent there]

variable {typeName : String} {names known : List String}

/-- The stacks in which the two ways of calling a method run its body, above the same globals. What is
bound there has these names. -/
inductive Matching (typeName : String) (names known : List String) (first second : ScopeStack) :
    Prop where
  | intro {bindings bindings' globals fields : List (String × Value)}
      (here : first.contents = [bindings, globals]) (there : second.contents = [bindings', globals])
      (below : globals.map Prod.fst = known) (reordered : Bindings.Reordered bindings bindings')
      (keys : fields.map Prod.fst = names) (holds : HoldsInstance typeName fields bindings)

namespace Matching

variable {first second : ScopeStack} (matching : Matching typeName names known first second)

include matching

theorem symm : Matching typeName names known second first := by
  obtain ⟨here, there, below, reordered, keys, holds⟩ := matching
  exact .intro there here below reordered.symm keys (holds.of_reads fun name _ => reordered.reads name)

theorem lookup? (name : String) : second.lookup? name = first.lookup? name := by
  obtain ⟨here, there, -, reordered, -, -⟩ := matching
  rw [lookup?_eq, lookup?_eq, here, there]
  simp only [List.findSome?_cons, reordered.reads]

theorem isSome_assign? (name : String) (value : Value) :
    (second.assign? name value).isSome = (first.assign? name value).isSome := by
  rw [isSome_assign?_eq, isSome_assign?_eq, matching.lookup?]

theorem modifyCurrent {change : Scope → Scope}
    {rebind : List (String × Value) → List (String × Value)}
    (rebinds : ∀ scope : Scope, (change scope).bindings = rebind scope.bindings)
    (keeps : ∀ bindings name, ofInstance name = true →
      Bindings.get? name (rebind bindings) = Bindings.get? name bindings)
    (reorders : ∀ bindings bindings', Bindings.Reordered bindings bindings' →
      Bindings.Reordered (rebind bindings) (rebind bindings')) :
    Matching typeName names known (first.modifyCurrent change) (second.modifyCurrent change) := by
  obtain @⟨bindings, bindings', globals, fields, here, there, below, reordered, keys, holds⟩ := matching
  have first' := contents_modifyCurrent rebinds first
  have second' := contents_modifyCurrent rebinds second
  rw [here] at first'
  rw [there] at second'
  exact .intro first' second' below (reorders _ _ reordered) keys (holds.of_reads (keeps bindings))

theorem assignExisting {name : String} (apart : ofInstance name = false) (value : Value) :
    Matching typeName names known (first.assignExisting name value)
      (second.assignExisting name value) := by
  obtain @⟨bindings, bindings', globals, fields, here, there, below, reordered, keys, holds⟩ := matching
  have first' := contents_assignExisting_above here name value
  have second' := contents_assignExisting_above there name value
  rw [reordered.contains_eq] at second'
  by_cases bound : Bindings.contains name bindings = true
  · rw [if_pos bound] at first' second'
    refine .intro first' second' below (reordered.replace name value) keys (holds.of_reads ?_)
    intro other own
    have different : other ≠ name := by
      rintro rfl
      rw [own] at apart
      cases apart
    rw [Bindings.get?_replace_of_ne different]
  · rw [if_neg bound] at first' second'
    refine .intro first' second' ?_ reordered keys holds
    rw [Bindings.keys_replace]
    exact below

theorem writePlace {name : String} (apart : ofInstance name = false) (value : Value) :
    (second.writePlace name value).2 = (first.writePlace name value).2 ∧
      Matching typeName names known (first.writePlace name value).1
        (second.writePlace name value).1 := by
  have flattened := matching.assignExisting apart value
  rw [writePlace_eq, writePlace_eq]
  dsimp only
  rw [matching.isSome_assign?]
  cases (Place.ofName name).path with
  | nil => exact ⟨rfl, flattened⟩
  | cons field path =>
      dsimp only
      rw [flattened.lookup?]
      cases (first.assignExisting name value).lookup? (Place.ofName name).base with
      | none => exact ⟨rfl, flattened⟩
      | some base =>
          dsimp only
          cases base.write (field :: path) value with
          | ok updated =>
              have below : ofInstance (Place.ofName name).base = false := by
                rw [ofInstance_base]
                exact apart
              exact ⟨rfl, flattened.assignExisting below updated⟩
          | error cause => exact ⟨rfl, flattened⟩

theorem writeField {field : String} (present : field ∈ names) (whole : '.' ∉ field.toList)
    (value : Value) :
    (second.writePlace (memberName selfName field) value).2 =
        (first.writePlace (memberName selfName field) value).2 ∧
      Matching typeName names known (first.writePlace (memberName selfName field) value).1
        (second.writePlace (memberName selfName field) value).1 := by
  have self : '.' ∉ selfName.toList := by decide
  have place : Place.ofName (memberName selfName field) = ⟨selfName, [field]⟩ :=
    @Place.ofName_placeName selfName self [field] (by simpa using whole)
  -- Both stacks have the entry and the value in their innermost scope.
  have written {stack : ScopeStack} {bindings globals fields : List (String × Value)}
      (above : stack.contents = [bindings, globals]) (keys : fields.map Prod.fst = names)
      (holds : HoldsInstance typeName fields bindings) :
      (stack.writePlace (memberName selfName field) value).2 = .ok () ∧
        (stack.writePlace (memberName selfName field) value).1.contents =
          [Bindings.replace selfName (.struct typeName (Bindings.replace field value fields))
            (Bindings.replace (memberName selfName field) value bindings), globals] := by
    have known : Bindings.contains field fields = true := by
      rw [Bindings.contains_iff, keys]
      exact present
    have entry : Bindings.contains (memberName selfName field) bindings = true := by
      unfold Bindings.contains
      rw [holds.entries]
      exact known
    have flattened := contents_assignExisting_above above (memberName selfName field) value
    rw [if_pos entry] at flattened
    have apart : memberName selfName field ≠ selfName := memberName_ne selfName field
    have still : Bindings.get? selfName (Bindings.replace (memberName selfName field) value bindings) =
        some (.struct typeName fields) := by
      simp [Bindings.get?_replace, holds.own, apart]
    have found : (stack.assignExisting (memberName selfName field) value).lookup? selfName =
        some (.struct typeName fields) := by
      rw [lookup?_eq, flattened]
      simp [still]
    have changed : (Value.struct typeName fields).write [field] value =
        .ok (.struct typeName (Bindings.replace field value fields)) := by
      rw [← Bindings.insert_eq_replace value known]
      rfl
    rw [writePlace_eq, place]
    dsimp only
    rw [found]
    dsimp only
    rw [changed]
    refine ⟨rfl, ?_⟩
    have own : Bindings.contains selfName
        (Bindings.replace (memberName selfName field) value bindings) = true := by
      unfold Bindings.contains
      rw [still]
      rfl
    rw [contents_assignExisting_above flattened, if_pos own]
  obtain ⟨here, there, below, reordered, keys, holds⟩ := matching
  obtain ⟨passes, first'⟩ := written here keys holds
  obtain ⟨passes', second'⟩ :=
    written there keys (holds.of_reads fun name _ => reordered.reads name)
  refine ⟨passes'.trans passes.symm, .intro first' second' below ?_ ?_ (holds.write field value)⟩
  · exact (reordered.replace _ value).replace selfName _
  · rw [Bindings.keys_replace]
    exact keys

end Matching

end ScopeStack

/-! ### Bodies -/

/-- A statement that leaves the instance of its method alone, but for single fields of these names. -/
def Stmt.sparesInstance (names : List String) : Stmt → Bool
  | .letVar name _ => !ofInstance name
  | .assign target _ =>
      !ofInstance target || names.any fun field => target == memberName selfName field
  | _ => true

/-- Two sessions outside of any task in which the body of a method finds the same. -/
structure Session.Paired (typeName : String) (names known : List String) (first second : Session) :
    Prop where
  scopes : first.executor.scopes.Matching typeName names known second.executor.scopes
  futureless : first.executor.scopes.isFutureless = true ∧
    second.executor.scopes.isFutureless = true
  structs : second.executor.structs = first.executor.structs
  positions : second.executor.positions = first.executor.positions
  output : second.executor.output = first.executor.output
  outside : first.executor.currentTask = none ∧ second.executor.currentTask = none
  queue : first.scheduler.queue.ids = [] ∧ second.scheduler.queue.ids = []
  unlimited : first.budget = none ∧ second.budget = none

namespace Session.Paired

variable {typeName : String} {names known : List String} {first second : Session}

theorem symm (paired : Paired typeName names known first second) :
    Paired typeName names known second first where
  scopes := paired.scopes.symm
  futureless := paired.futureless.symm
  structs := paired.structs.symm
  positions := paired.positions.symm
  output := paired.output.symm
  outside := paired.outside.symm
  queue := paired.queue.symm
  unlimited := paired.unlimited.symm

theorem showing (paired : Paired typeName names known first second) {scopes scopes' : ScopeStack}
    (matching : scopes.Matching typeName names known scopes')
    (futureless : scopes.isFutureless = true ∧ scopes'.isFutureless = true)
    {output output' : Array String} (printed : output' = output) :
    Paired typeName names known (first.showing scopes output) (second.showing scopes' output') :=
  { paired with scopes := matching, futureless, output := printed }

theorem modifyCurrent (paired : Paired typeName names known first second) {change : Scope → Scope}
    {rebind : List (String × Value) → List (String × Value)}
    (rebinds : ∀ scope : Scope, (change scope).bindings = rebind scope.bindings)
    (plain : ∀ scope : Scope, Value.areFutureless scope.bindings = true →
      Value.areFutureless (change scope).bindings = true)
    (keeps : ∀ bindings name, ofInstance name = true →
      Bindings.get? name (rebind bindings) = Bindings.get? name bindings)
    (reorders : ∀ bindings bindings', Bindings.Reordered bindings bindings' →
      Bindings.Reordered (rebind bindings) (rebind bindings')) :
    Paired typeName names known
      (first.showing (first.executor.scopes.modifyCurrent change) first.executor.output)
      (second.showing (second.executor.scopes.modifyCurrent change) second.executor.output) :=
  paired.showing (paired.scopes.modifyCurrent rebinds keeps reorders)
    ⟨ScopeStack.isFutureless_modifyCurrent paired.futureless.1 plain,
      ScopeStack.isFutureless_modifyCurrent paired.futureless.2 plain⟩ paired.output

theorem twinning :
    Session.Twinning (fun name => ofInstance name = false) (Paired typeName names known) where
  unlimited paired := paired.unlimited
  positions paired := paired.positions
  positioned paired change := { paired with positions := congrArg change paired.positions }
  recorded paired _ _ := { paired with }
  removed paired name apart := by
    refine paired.modifyCurrent (fun _ => rfl) (fun _ plain => Value.areFutureless_erase plain name) ?_
      fun _ _ reordered => reordered.erase name
    intro bindings other own
    refine Bindings.get?_erase_of_ne ?_ bindings
    rintro rfl
    rw [own] at apart
    cases apart

theorem writePlace_mirrors {target : String} {value : Value}
    (futureless : value.isFutureless = true)
    (writes : ∀ {first second : ScopeStack}, first.Matching typeName names known second →
      (second.writePlace target value).2 = (first.writePlace target value).2 ∧
        (first.writePlace target value).1.Matching typeName names known
          (second.writePlace target value).1) :
    Act.MirrorsAll (Paired typeName names known) (Act.writePlace target value)
      (Act.writePlace target value) := by
  intro first second paired
  obtain ⟨outcomes, matching⟩ := writes paired.scopes
  have written := paired.showing matching
    ⟨ScopeStack.isFutureless_writePlace paired.futureless.1 futureless target,
      ScopeStack.isFutureless_writePlace paired.futureless.2 futureless target⟩ paired.output
  change Outcome.Mirrored _ _
    (Act.ofExcept (first.executor.scopes.writePlace target value).2
      (first.showing (first.executor.scopes.writePlace target value).1 first.executor.output))
    (Act.ofExcept (second.executor.scopes.writePlace target value).2
      (second.showing (second.executor.scopes.writePlace target value).1 second.executor.output))
  rw [outcomes]
  exact Act.Mirrors.ofExcept (fun _ _ => trivial) _ _ written

theorem looks {α : Type} {good : α → Prop} {action : Act α} (looks : Act.Looks good action) :
    Act.Mirrors (Paired typeName names known) good action action :=
  looks.mirrors fun _ _ paired => ⟨paired.scopes.lookup?, paired.structs, paired.futureless.1⟩

theorem simple_mirrors (whole : ∀ name ∈ names, '.' ∉ name.toList) (depth : Nat) (path : Path)
    {statement : Stmt} (simple : statement.isSimple = true)
    (spares : statement.sparesInstance names = true) :
    Act.MirrorsAll (Paired typeName names known) ((interpreter depth).perform path statement)
      ((interpreter depth).perform path statement) := by
  have evaluates := interpreter_looks depth
  cases statement with
  | letVar name value =>
      have apart : ofInstance name = false := by simpa [Stmt.sparesInstance] using spares
      refine .bind (looks (evaluates value simple)) fun computed futureless => ?_
      rw [Interpreter.bindFutureTo_of_futureless _ futureless]
      refine .update fun first second paired => ?_
      refine paired.modifyCurrent (fun _ => rfl)
        (fun _ plain => Value.areFutureless_insert futureless plain name) ?_
        fun _ _ reordered => reordered.insert name computed
      intro bindings other own
      refine Bindings.get?_insert_of_ne ?_ computed bindings
      rintro rfl
      rw [own] at apart
      cases apart
  | assign target value =>
      refine .bind (looks (evaluates value simple)) fun computed futureless => ?_
      rw [Interpreter.bindFutureTo_of_futureless _ futureless]
      refine writePlace_mirrors futureless fun matching => ?_
      rcases Bool.or_eq_true_iff.mp spares with apart | field
      · exact matching.writePlace (by simpa using apart) computed
      · obtain ⟨field, present, same⟩ := List.any_eq_true.mp field
        rw [beq_iff_eq.mp same]
        exact matching.writeField present (whole field present) computed
  | expression value => exact .bind (looks (evaluates value simple)) fun _ _ => .pure trivial
  | print value =>
      refine .bind (looks (evaluates value simple)) fun computed _ => ?_
      refine .update fun first second paired => ?_
      exact paired.showing paired.scopes paired.futureless
        (congrArg (Array.push · computed.text) paired.output)
  | _ => cases simple

theorem plainTwinning (whole : ∀ name ∈ names, '.' ∉ name.toList) :
    Session.PlainTwinning (Stmt.sparesInstance names) (fun name => ofInstance name = false)
      (Paired typeName names known) where
  toTwinning := twinning
  looks depth expr plain := looks (interpreter_looks depth expr plain)
  simple depth path _ simple spares := simple_mirrors whole depth path simple spares
  yields depth path first second paired := by
    rw [yield_alone path paired.outside.1 paired.queue.1,
      yield_alone path paired.outside.2 paired.queue.2]
    exact .done trivial paired
  ends depth first second paired := by
    rw [Interpreter.endIteration_alone paired.outside.1 paired.queue.1,
      Interpreter.endIteration_alone paired.outside.2 paired.queue.2]
    exact .done trivial paired
  erases _ _ spares := by simpa [Stmt.sparesInstance] using spares

theorem execBlock (whole : ∀ name ∈ names, '.' ∉ name.toList) (depth : Nat) (path : Path)
    {statements : List Stmt} (plain : arePlain statements = true)
    (spares : everyOne (Stmt.sparesInstance names) statements = true) :
    Act.MirrorsAll (Paired typeName names known) ((interpreter depth).execBlock path statements)
      ((interpreter depth).execBlock path statements) := by
  refine twinning.execBlock ?_ path
  intro statement member path
  exact (plainTwinning whole).exec depth path ((arePlain_iff statements).mp plain statement member)
    ((everyOne_iff _ statements).mp spares statement member)

end Session.Paired

/-! ### Calls -/

section Calls

variable {function : FunctionDecl} {values : List Value} {typeName : String}
  {fields : List (String × Value)}

theorem get?_callScope (name : String) :
    Bindings.get? name (callScope function values (some (.struct typeName fields))).bindings =
      (if name = selfName then some (.struct typeName fields)
        else Bindings.get? name (Task.selfEntries (.struct typeName fields)).reverse).or
          (Bindings.get? name (function.params.zip values).reverse) := by
  change Bindings.get? name (Bindings.insertAll _ []) = _
  rw [Bindings.get?_insertAll]
  simp only [List.reverse_append, Bindings.get?_append, List.reverse_cons, List.reverse_nil,
    List.nil_append, Bindings.get?, Option.or_none]
  by_cases own : name = selfName
  · simp [own]
  · simp [own, Ne.symm own]

theorem get?_initialScope (pinned : Option BindingSite) (name : String) :
    Bindings.get? name ((Task.ofFunction function values).withReceiver (.struct typeName fields)
        pinned).initialScope.bindings =
      Bindings.get? name (callScope function values (some (.struct typeName fields))).bindings := by
  rw [get?_callScope]
  change Bindings.get? name (Bindings.insertAll _ []) = _
  rw [Bindings.get?_insertAll]
  change (Bindings.get? name (function.params.zip values ++ (selfName, .struct typeName fields) ::
    Task.selfEntries (.struct typeName fields)).reverse).or none = _
  simp only [List.reverse_append, Bindings.get?_append, List.reverse_cons, List.append_assoc,
    Bindings.get?, Option.or_none]
  by_cases own : name = selfName
  · have apart : Bindings.get? selfName (Task.selfEntries (.struct typeName fields)).reverse = none := by
      unfold Task.selfEntries
      rw [← List.map_reverse]
      exact Bindings.get?_base_map_memberName selfName fields.reverse
    simp [own, apart]
  · simp [own, Ne.symm own]

theorem holdsInstance_callScope (params : ∀ name ∈ function.params, ofInstance name = false)
    (distinct : (fields.map Prod.fst).Nodup) :
    HoldsInstance typeName fields
      (callScope function values (some (.struct typeName fields))).bindings where
  own := by
    rw [get?_callScope]
    simp
  entries member := by
    have absent : Bindings.get? (memberName selfName member) (function.params.zip values).reverse =
        none := by
      refine Bindings.get?_eq_none fun known => ?_
      obtain ⟨entry, listed, same⟩ := List.mem_map.mp known
      obtain ⟨name, value⟩ := entry
      have apart := params name (List.of_mem_zip (List.mem_reverse.mp listed)).1
      rw [show name = memberName selfName member from same, ofInstance_member] at apart
      cases apart
    rw [get?_callScope, absent, Option.or_none, if_neg (memberName_ne selfName member)]
    unfold Task.selfEntries
    rw [← List.map_reverse]
    exact (Bindings.get?_map_memberName selfName member fields.reverse).trans
      (Bindings.get?_reverse distinct member)

/-- The scopes of the two ways of calling a method. -/
theorem matching_scopes (params : ∀ name ∈ function.params, ofInstance name = false)
    (distinct : (fields.map Prod.fst).Nodup) (pinned : Option BindingSite) {stack : ScopeStack}
    {globals : List (String × Value)} (above : stack.contents = [globals]) :
    (stack.push (callScope function values (some (.struct typeName fields)))).Matching typeName
      (fields.map Prod.fst) (globals.map Prod.fst)
      (stack.push ((Task.ofFunction function values).withReceiver (.struct typeName fields)
        pinned).initialScope) := by
  have here := ScopeStack.contents_push
    (callScope function values (some (.struct typeName fields))) stack
  have there := ScopeStack.contents_push ((Task.ofFunction function values).withReceiver
    (.struct typeName fields) pinned).initialScope stack
  rw [above] at here there
  have empty : (([] : List (String × Value)).map Prod.fst).Nodup := List.nodup_nil
  exact .intro here there rfl
    ⟨Bindings.nodup_keys_insertAll empty _, Bindings.nodup_keys_insertAll empty _,
      get?_initialScope pinned⟩ rfl (holdsInstance_callScope params distinct)

end Calls

end CooperativeTasks
