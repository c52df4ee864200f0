import CooperativeTasks.Proofs.Spots
import CooperativeTasks.Proofs.WriteBack

set_option autoImplicit false

/-! What finalizing a task writes, and what it leaves alone.

A finished task is finalized once. Its future and its instance are written over variables that are
bound where the sites of the task point. No other name at any spot is touched, and nothing of how
the tasks go on. -/

namespace CooperativeTasks

/-! ### Fields of an instance -/

theorem splitDots_ne_nil (letters : List Char) : splitDots letters ≠ [] := by
  cases letters with
  | nil => simp [splitDots]
  | cons letter rest =>
      unfold splitDots
      split
      · simp
      · split <;> simp

theorem splitDots_of_not_mem {letters : List Char} (whole : '.' ∉ letters) :
    splitDots letters = [letters] := by
  induction letters with
  | nil => rfl
  | cons letter rest ih =>
      rw [List.mem_cons, not_or] at whole
      simp [splitDots, ih whole.2, Ne.symm whole.1]

theorem splitDots_append {letters : List Char} (whole : '.' ∉ letters) (rest : List Char) :
    splitDots (letters ++ '.' :: rest) = letters :: splitDots rest := by
  induction letters with
  | nil => simp [splitDots]
  | cons letter others ih =>
      rw [List.mem_cons, not_or] at whole
      simp [splitDots, ih whole.2, Ne.symm whole.1]

theorem toList_memberName (base member : String) :
    (memberName base member).toList = base.toList ++ '.' :: member.toList := by
  simp [memberName, String.toList_append]

theorem memberName_injective {base first second : String}
    (same : memberName base first = memberName base second) : first = second := by
  have letters := congrArg String.toList same
  simpa [toList_memberName, String.ext_iff] using letters

theorem Bindings.get?_map_memberName (base member : String) (members : List (String × Value)) :
    get? (memberName base member) (members.map fun entry => (memberName base entry.1, entry.2)) =
      get? member members := by
  induction members with
  | nil => rfl
  | cons entry rest ih =>
      by_cases same : entry.1 = member
      · simp [get?, same]
      · have different : memberName base entry.1 ≠ memberName base member :=
          fun equal => same (memberName_injective equal)
        simpa [get?, same, different] using ih

theorem Bindings.get?_base_map_memberName (base : String) (members : List (String × Value)) :
    get? base (members.map fun entry => (memberName base entry.1, entry.2)) = none := by
  induction members with
  | nil => rfl
  | cons entry rest ih => simpa [get?, memberName_ne] using ih

theorem selfMember?_eq_some_iff {name member : String} :
    selfMember? name = some member ↔ name = memberName selfName member ∧ '.' ∉ member.toList := by
  constructor
  · intro named
    unfold selfMember? Place.ofName at named
    by_cases dot : '.' ∈ name.toList
    · obtain ⟨base, rest, letters, whole⟩ := List.eq_append_cons_of_mem dot
      rw [letters, splitDots_append whole] at named
      by_cases deeper : '.' ∈ rest
      · obtain ⟨field, others, path, plain⟩ := List.eq_append_cons_of_mem deeper
        obtain ⟨last, more, parts⟩ := List.exists_cons_of_ne_nil (splitDots_ne_nil others)
        rw [path, splitDots_append plain, parts] at named
        cases named
      · rw [splitDots_of_not_mem deeper] at named
        by_cases self : String.ofList base = selfName
        · simp only [List.map_cons, List.map_nil, self, if_true, Option.some.injEq] at named
          subst member
          rw [String.ext_iff, toList_memberName, letters, ← self]
          simpa using deeper
        · simp [self] at named
    · rw [splitDots_of_not_mem dot] at named
      cases named
  · rintro ⟨rfl, whole⟩
    have self : '.' ∉ selfName.toList := by decide
    simp [selfMember?, Place.ofName, toList_memberName, splitDots_append self,
      splitDots_of_not_mem whole]

theorem get?_selfMembers (member : String) (bindings : List (String × Value)) :
    Bindings.get? member (selfMembers bindings) =
      if '.' ∈ member.toList then none
      else Bindings.get? (memberName selfName member) bindings := by
  induction bindings with
  | nil => simp [selfMembers, Bindings.get?]
  | cons entry rest ih =>
      obtain ⟨name, value⟩ := entry
      have step : selfMembers ((name, value) :: rest) =
          ((selfMember? name).map fun member => (member, value)).toList ++ selfMembers rest := by
        cases named : selfMember? name <;> simp [selfMembers, named]
      rw [step, Bindings.get?_append, ih]
      cases named : selfMember? name with
      | none =>
          have different (whole : '.' ∉ member.toList) : name ≠ memberName selfName member := by
            intro same
            rw [selfMember?_eq_some_iff.mpr ⟨same, whole⟩] at named
            cases named
          by_cases dot : '.' ∈ member.toList
          · simp [dot, Bindings.get?]
          · simp [dot, Bindings.get?, different dot]
      | some other =>
          obtain ⟨rfl, whole⟩ := selfMember?_eq_some_iff.mp named
          by_cases same : other = member
          · subst other
            simp [whole, Bindings.get?]
          · have different : memberName selfName other ≠ memberName selfName member :=
              fun equal => same (memberName_injective equal)
            simp [Bindings.get?, same, different]

/-! ### What a task reports -/

namespace Task

/-- What the private scope has been left with for a field of `self`. Should a name stand twice in
it, the last entry counts. -/
def member? (member : String) (task : Task) : Option Value :=
  Bindings.get? member task.receiverMembers.reverse

/-- The entries of a caller's scope that an instance is written over: the variable, and after it the
entries beside it. -/
def receiverEntries (base : String) (value : Value) (task : Task) : List (String × Value) :=
  (base, value) :: task.receiverMembers.map fun entry => (memberName base entry.1, entry.2)

/-- No name stands twice in the private scope. -/
theorem member?_eq {task : Task} {scope : Scope} (saved : task.scope = some scope)
    (distinct : (scope.bindings.map Prod.fst).Nodup) (member : String) :
    task.member? member =
      if '.' ∈ member.toList then none else scope.get? (memberName selfName member) := by
  have reversed : task.receiverMembers.reverse = selfMembers scope.bindings.reverse := by
    unfold receiverMembers selfMembers
    rw [saved, List.filterMap_reverse]
  unfold member?
  rw [reversed, get?_selfMembers, Bindings.get?_reverse distinct]
  rfl

section Entries

variable (base : String) (value : Value) (task : Task)

theorem get?_receiverEntries_base :
    Bindings.get? base (task.receiverEntries base value).reverse = some value := by
  unfold receiverEntries
  rw [List.reverse_cons, ← List.map_reverse, Bindings.get?_append,
    Bindings.get?_base_map_memberName]
  simp [Bindings.get?]

theorem get?_receiverEntries_member (member : String) :
    Bindings.get? (memberName base member) (task.receiverEntries base value).reverse =
      task.member? member := by
  unfold receiverEntries member?
  rw [List.reverse_cons, ← List.map_reverse, Bindings.get?_append, Bindings.get?_map_memberName]
  simp [Bindings.get?, (memberName_ne base member).symm]

end Entries

end Task

namespace Session

/-- What a write of entries at a site puts over a name at a spot. -/
def written? (session : Session) (site : BindingSite) (entries : List (String × Value))
    (spot : Spot) (name : String) : Option Value :=
  if session.spot? site = some spot then Bindings.get? name entries.reverse else none

def futureReport? (id : TaskId) (task : Task) (session : Session) (spot : Spot) (name : String) :
    Option Value :=
  task.futureSite.bind fun site =>
    session.written? site [(site.name, task.future.toValue (some id))] spot name

def receiverReport? (task : Task) (session : Session) (spot : Spot) (name : String) :
    Option Value :=
  task.mergedReceiver.bind fun receiver =>
    receiver.site.bind fun site =>
      session.written? site (task.receiverEntries site.name receiver.value) spot name

end Session

/-! ### Finalizing -/

namespace Act

section

variable {session : Session} {id : TaskId} {task : Task}

variable (unlimited : session.budget = none)

include unlimited

theorem note_overwrites (event : Event) :
    ∃ after, note event session = .done () after ∧ session.Overwritten (fun _ _ => none) after := by
  refine ⟨session.recorded event, note_unlimited unlimited event, ?_⟩
  exact .ofSame rfl rfl rfl rfl (List.suffix_cons event session.journal)

theorem publishFuture_overwrites (id : TaskId) (site : BindingSite) (value : Value) :
    ∃ after, publishFuture id site value session = .done () after ∧
      session.Overwritten (session.written? site [(site.name, value)]) after := by
  have entry (name : String) : Bindings.get? name [(site.name, value)].reverse =
      if site.name = name then some value else none := rfl
  unfold publishFuture
  change ∃ after, (if (session.siteScope? site).any (Scope.contains site.name) = true then _
    else _ : Act Unit) session = _ ∧ _
  split
  · refine ⟨_, rfl, .modifySite (Scope.outline_assignExisting site.name value) ?_ session⟩
    intro scope name
    rw [Scope.get?_assignExisting, entry]
    split <;> rfl
  · rename_i absent
    obtain ⟨after, ran, overwritten⟩ := note_overwrites unlimited (.futureSiteGone id site.name)
    refine ⟨after, ran, overwritten.congr fun spot name present => ?_⟩
    unfold Session.written?
    split
    · rename_i points
      rw [entry, if_neg]
      rintro rfl
      apply absent
      rw [Session.siteScope?_eq_bind, points]
      unfold Session.bound? at present
      cases there : session.scopeAt? spot with
      | none => simp [there] at present
      | some scope =>
          rw [there, Option.bind_some] at present
          rw [Option.bind_some, there]
          exact present
    · rfl

theorem publishReceiver_overwrites (id : TaskId) (site : BindingSite) (value : Value)
    (task : Task) :
    ∃ after, publishReceiver id site value task.receiverMembers session = .done () after ∧
      session.Overwritten (session.written? site (task.receiverEntries site.name value)) after := by
  unfold publishReceiver
  change ∃ after,
    (if (session.siteScope? site).isSome = true then _ else _ : Act Unit) session = _ ∧ _
  split
  · have writes : Scope.writeBack site.name value task.receiverMembers =
        Scope.assignAll (task.receiverEntries site.name value) := by
      funext scope
      exact Scope.writeBack_eq site.name value task.receiverMembers scope
    rw [writes]
    refine ⟨_, rfl, .modifySite (Scope.outline_assignAll _) ?_ session⟩
    exact fun scope name => Scope.get?_assignAll _ name scope
  · rename_i gone
    obtain ⟨after, ran, overwritten⟩ := note_overwrites unlimited (.receiverSiteGone id site.name)
    refine ⟨after, ran, overwritten.congr fun spot name present => ?_⟩
    unfold Session.written?
    split
    · rename_i points
      rw [Session.siteScope?_eq_bind, points] at gone
      unfold Session.bound? at present
      cases there : session.scopeAt? spot with
      | none => simp [there] at present
      | some scope => simp [there] at gone
    · rfl

theorem reportFuture_overwrites (id : TaskId) (task : Task) :
    ∃ after, reportFuture id (task.future.toValue (some id)) task.futureSite session =
        .done () after ∧
      session.Overwritten (session.futureReport? id task) after := by
  unfold Session.futureReport?
  cases task.futureSite with
  | none => exact ⟨session, rfl, .ofSame rfl rfl rfl rfl (List.suffix_refl _)⟩
  | some site => exact publishFuture_overwrites unlimited id site _

theorem reportInstance_overwrites (id : TaskId) (task : Task) :
    ∃ after, reportInstance id task session = .done () after ∧
      session.Overwritten (session.receiverReport? task) after := by
  have silent {report? : Spot → String → Option Value}
      (nothing : ∀ spot name, report? spot name = none) :
      session.Overwritten report? session := by
    have same : session.Overwritten (fun _ _ => none) session :=
      .ofSame rfl rfl rfl rfl (List.suffix_refl _)
    exact same.congr fun spot name _ => (nothing spot name).symm
  unfold reportInstance Session.receiverReport?
  cases task.mergedReceiver with
  | none => exact ⟨session, rfl, silent fun _ _ => rfl⟩
  | some receiver =>
      obtain ⟨value, pinned⟩ := receiver
      cases pinned with
      | none => exact ⟨session, rfl, silent fun _ _ => rfl⟩
      | some site => exact publishReceiver_overwrites unlimited id site value task

end

end Act

/-- What a session is after a task has been finalized for the first time. -/
structure Session.Finalized (id : TaskId) (task : Task) (before after : Session) : Prop where
  /-- Beside what is counted and marked, only names that are bound have been written over. -/
  overwritten : (before.reporting id task.mergedReceiver).Overwritten
    (fun spot name =>
      (before.receiverReport? task spot name).or (before.futureReport? id task spot name))
    after
  /-- Where the instance is pinned, it is written over the variable, and its fields are written over
  the entries beside it. -/
  receiver : ∀ receiver site spot, task.receiver = some receiver → receiver.site = some site →
    before.spot? site = some spot →
    after.bound? spot site.name =
        (before.bound? spot site.name).map
          (fun _ => receiver.value.mergeMembers task.receiverMembers) ∧
      ∀ member value, task.member? member = some value →
        after.bound? spot (memberName site.name member) =
          (before.bound? spot (memberName site.name member)).map fun _ => value
  /-- Where the future is bound, it is written over the variable, unless the instance is. -/
  future : ∀ site spot, task.futureSite = some site → before.spot? site = some spot →
    before.receiverReport? task spot site.name = none →
    after.bound? spot site.name =
      (before.bound? spot site.name).map fun _ => task.future.toValue (some id)

section Finalizing

variable {session : Session} {id : TaskId} {task : Task}

theorem Session.scopeAt?_reporting (id : TaskId) (receiver : Option Receiver) (session : Session)
    (spot : Spot) : (session.reporting id receiver).scopeAt? spot = session.scopeAt? spot := by
  cases spot with
  | live index => rfl
  | saved other => exact savedScope?_reporting id receiver session other

theorem Session.receiverReport?_congr {before after : Session}
    (points : ∀ site, after.spot? site = before.spot? site) (task : Task) :
    after.receiverReport? task = before.receiverReport? task := by
  funext spot name
  simp only [receiverReport?, written?, points]

theorem Session.futureReport?_congr {before after : Session}
    (points : ∀ site, after.spot? site = before.spot? site) (id : TaskId) (task : Task) :
    after.futureReport? id task = before.futureReport? id task := by
  funext spot name
  simp only [futureReport?, written?, points]

theorem finalize_overwrites (unlimited : session.budget = none)
    (found : session.scheduler.task? id = some task) (finished : task.isFinished = true)
    (unpublished : task.isPublished = false) :
    ∃ after, Act.finalize id session = .done () after ∧
      (session.reporting id task.mergedReceiver).Overwritten
        (fun spot name =>
          (session.receiverReport? task spot name).or (session.futureReport? id task spot name))
        after := by
  let reporting := session.reporting id task.mergedReceiver
  have begins : reporting.budget = none := unlimited
  obtain ⟨futured, first, future⟩ := Act.reportFuture_overwrites begins id task
  obtain ⟨instanced, second, placed⟩ :=
    Act.reportInstance_overwrites (future.budget.trans begins) id task
  obtain ⟨after, third, recorded⟩ :=
    Act.note_overwrites (placed.budget.trans (future.budget.trans begins)) (.finalized id)
  have points (site : BindingSite) : reporting.spot? site = session.spot? site :=
    Session.spot?_congr (fun spot => by rw [Session.scopeAt?_reporting]) site
  have points' (site : BindingSite) : futured.spot? site = session.spot? site :=
    (future.spot? site).trans (points site)
  refine ⟨after, ?_, ?_⟩
  · rw [Act.finalize_ready found finished unpublished, Act.bind_apply, first]
    dsimp only
    rw [Act.bind_apply, second]
    exact third
  · have whole := (future.trans placed).trans recorded
    rw [Session.receiverReport?_congr points', Session.futureReport?_congr points] at whole
    exact whole

theorem finalize_finalizes (unlimited : session.budget = none)
    (found : session.scheduler.task? id = some task) (finished : task.isFinished = true)
    (unpublished : task.isPublished = false) :
    ∃ after, Act.finalize id session = .done () after ∧ session.Finalized id task after := by
  obtain ⟨after, ran, overwritten⟩ := finalize_overwrites unlimited found finished unpublished
  have bound (spot : Spot) (name : String) : after.bound? spot name =
      (session.bound? spot name).map fun old =>
        ((session.receiverReport? task spot name).or
          (session.futureReport? id task spot name)).getD old := by
    rw [overwritten.bound]
    unfold Session.bound?
    rw [Session.scopeAt?_reporting]
  refine ⟨after, ran, overwritten, ?_, ?_⟩
  · intro receiver site spot reports pinned points
    have report (name : String) : session.receiverReport? task spot name =
        Bindings.get? name (task.receiverEntries site.name
          (receiver.value.mergeMembers task.receiverMembers)).reverse := by
      simp [Session.receiverReport?, Task.mergedReceiver, reports, pinned, Session.written?, points]
    constructor
    · rw [bound, report, Task.get?_receiverEntries_base]
      rfl
    · intro member value entry
      rw [bound, report, Task.get?_receiverEntries_member, entry]
      rfl
  · intro site spot futures points alone
    rw [bound, alone]
    simp [Session.futureReport?, futures, Session.written?, points, Bindings.get?]

/-- A task that is unknown, unfinished or finalized already is left alone by finalizing, and so is
the rest of the session. A task that is finished is finalized once. Then it is marked and counted,
and its instance is brought up to date with the fields in its private scope. Where its sites point
its future and its instance are written over names that are bound there; no name is bound or unbound
at any spot, and nothing else is changed. -/
theorem finalize_publishes_once (id : TaskId) (session : Session) :
    ((∀ task, session.scheduler.task? id = some task →
        task.isFinished = false ∨ task.isPublished = true) →
      Act.finalize id session = .done () session) ∧
    ∀ task, session.scheduler.task? id = some task → task.isFinished = true →
      task.isPublished = false → session.budget = none →
      (∃ after, Act.finalize id session = .done () after ∧ session.Finalized id task after ∧
        Act.finalize id after = .done () after) ∧
      (∀ typeName fields, ∃ merged,
        (Value.struct typeName fields).mergeMembers task.receiverMembers = .struct typeName merged ∧
        ∀ field, Bindings.get? field merged =
          (task.member? field).or (Bindings.get? field fields)) ∧
      ∀ scope, task.scope = some scope → (scope.bindings.map Prod.fst).Nodup →
        ∀ member, task.member? member =
          if '.' ∈ member.toList then none else scope.get? (memberName selfName member) := by
  refine ⟨Act.finalize_unready, fun task found finished unpublished unlimited => ⟨?_, ?_, ?_⟩⟩
  · obtain ⟨after, ran, finalized⟩ := finalize_finalizes unlimited found finished unpublished
    -- By now the task is marked, so that there is nothing to be done a second time.
    refine ⟨after, ran, finalized, Act.finalize_unready fun later known => .inr ?_⟩
    have marked : (session.reporting id task.mergedReceiver).scheduler.task? id =
        some { task with isPublished := true, receiver := task.mergedReceiver } := by
      change (session.scheduler.modifyTask id _).task? id = _
      rw [Scheduler.task?_modifyTask_self, found]
      rfl
    rw [finalized.overwritten.tasks, marked, Option.map_some] at known
    cases known
    rfl
  · intro typeName fields
    exact ⟨_, rfl, fun field => Bindings.get?_insertAll task.receiverMembers fields field⟩
  · exact fun scope saved distinct member => Task.member?_eq saved distinct member

end Finalizing

def tickedCounter : Session :=
  let beside := ((interpreter 4).exec [] (.letVar "c.count" (.lit (.int 1))) holdingCounter).session
  let called := ((interpreter 5).exec [] (.letVar "f" (.methodCall "c" "tick" [])) beside).session
  ((interpreter 5).step ⟨0⟩ called).session

theorem finalize_publishes_once_ticked :
    ∃ task after, tickedCounter.scheduler.task? ⟨0⟩ = some task ∧
      Act.finalize ⟨0⟩ tickedCounter = .done () after ∧
      after.bound? (.live 0) "c" = some (.struct "Counter" [("count", .int 7)]) ∧
      after.bound? (.live 0) "c.count" = some (.int 7) ∧
      after.bound? (.live 0) "f" = some (task.future.toValue (some ⟨0⟩)) := by
  obtain ⟨task, receiver, found, finished, unpublished, reports, pinned, futures, points, member,
      merged, alone⟩ :
      ∃ task receiver, tickedCounter.scheduler.task? ⟨0⟩ = some task ∧ task.isFinished = true ∧
        task.isPublished = false ∧ task.receiver = some receiver ∧
        receiver.site = some ⟨"c", ⟨0⟩, none⟩ ∧ task.futureSite = some ⟨"f", ⟨0⟩, none⟩ ∧
        (∀ name, tickedCounter.spot? ⟨name, ⟨0⟩, none⟩ = some (.live 0)) ∧
        task.member? "count" = some (.int 7) ∧
        receiver.value.mergeMembers task.receiverMembers = .struct "Counter" [("count", .int 7)] ∧
        tickedCounter.receiverReport? task (.live 0) "f" = none :=
    ⟨_, _, rfl, rfl, rfl, rfl, rfl, rfl, fun _ => rfl, rfl, rfl, rfl⟩
  obtain ⟨⟨after, ran, finalized, _⟩, _⟩ :=
    (finalize_publishes_once ⟨0⟩ tickedCounter).2 task found finished unpublished rfl
  obtain ⟨held, beside⟩ := finalized.receiver receiver _ (.live 0) reports pinned (points "c")
  rw [merged] at held
  refine ⟨task, after, found, ran, held, beside "count" (.int 7) member, ?_⟩
  exact finalized.future _ (.live 0) futures (points "f") alone

end CooperativeTasks
