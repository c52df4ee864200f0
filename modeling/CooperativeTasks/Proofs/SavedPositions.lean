import CooperativeTasks.Proofs.FaultedSteps
import CooperativeTasks.Proofs.Gates
import CooperativeTasks.Proofs.MarkPassages

set_option autoImplicit false

/-! What the saved positions of a task are about.

A task puts positions aside only when its statement has been suspended, and then each of them is
held by that statement, which the next step is going to execute again. Nobody else touches them, and
the step that executes the statement takes them out of the task first. So there are never any
positions left that were saved in an earlier statement of the body. -/

namespace CooperativeTasks

/-! ### Statements inside of a statement -/

/-- A statement is inside of another one, which is at the first path, and its own path is the second
one. -/
inductive Stmt.Contains : Path → Stmt → Path → Stmt → Prop where
  | itself (path : Path) (statement : Stmt) : Contains path statement path statement
  | item {path place : Path} {statement next found : Stmt} {turn : Turn} {list : List Stmt}
      {index : Nat} (branch : statement.Branch turn list) (present : list[index]? = some next)
      (inner : Contains (.item index :: turn :: path) next place found) :
      Contains path statement place found
  | init {path place : Path} {part found : Stmt} {condition : Option Expr} {update : Option Stmt}
      {body : List Stmt} (inner : Contains (.init :: path) part place found) :
      Contains path (.forLoop (some part) condition update body) place found
  | update {path place : Path} {part found : Stmt} {init : Option Stmt} {condition : Option Expr}
      {body : List Stmt} (inner : Contains (.update :: path) part place found) :
      Contains path (.forLoop init condition (some part) body) place found

/-- The mark is about a list inside of the statement, and not past its end. -/
inductive Stmt.Describes (positions : Positions) (path : Path) (statement : Stmt) :
    Positions.Mark → Prop where
  | resume {place : Path} {found : Stmt} {turn : Turn} {list : List Stmt} {index : Nat}
      (contains : statement.Contains path place found) (branch : found.Branch turn list)
      (marked : positions.get? (.of (turn :: place) list) = some index)
      (within : index ≤ list.length) :
      Describes positions path statement (.resume (.of (turn :: place) list))
  | entered {place : Path} {init : Option Stmt} {condition : Option Expr} {update : Option Stmt}
      {body : List Stmt}
      (contains : statement.Contains path place (.forLoop init condition update body)) :
      Describes positions path statement (.entered (.of (.body :: place) body))

theorem Positions.Held.describes {positions : Positions} {path : Path} {statement : Stmt}
    {mark : Positions.Mark} (held : positions.Held path statement mark) :
    statement.Describes positions path mark := by
  induction held with
  | entered => exact .entered (.itself ..)
  | resumed goes found within => exact .resume (.itself ..) goes.branch found within
  | inner goes _ present _ ih =>
      cases ih with
      | resume contains branch marked within =>
          exact .resume (.item goes.branch present contains) branch marked within
      | entered contains => exact .entered (.item goes.branch present contains)

/-! ### Bookmarks -/

/-- Where a task goes on. -/
structure Task.Bookmark where
  body : Option FunctionDecl
  counter : Nat
  positions : Positions
  isFinished : Bool

def Task.bookmark (task : Task) : Task.Bookmark :=
  ⟨task.body, task.counter, task.positions, task.isFinished⟩

def Scheduler.bookmark? (id : TaskId) (scheduler : Scheduler) : Option Task.Bookmark :=
  (scheduler.task? id).map Task.bookmark

/-- The event is recorded when a statement of the task is executed, the one at this counter. -/
def Event.executed? (id : TaskId) : Event → Option Nat
  | .stepped task counter _ => if task = id then some counter else none
  | _ => none

/-- The counter of the statement that the last step of a task has executed. -/
def Session.lastStep? (id : TaskId) (session : Session) : Option Nat :=
  session.journal.findSome? (Event.executed? id)

/-- The positions are those of the statement at the counter, and the task's last step has executed
that. -/
structure Task.Bookmark.Placed (last : Option Nat) (bookmark : Task.Bookmark) : Prop where
  tidy : bookmark.positions.Tidy
  held : ∀ mark, bookmark.positions.Bears mark → last = some bookmark.counter ∧
    ∃ function statement, bookmark.body = some function ∧
      function.body[bookmark.counter]? = some statement ∧
      bookmark.positions.Held [.item bookmark.counter] statement mark

theorem Task.Bookmark.Placed.ofBlank {last : Option Nat} {bookmark : Task.Bookmark}
    (blank : bookmark.positions = {}) : bookmark.Placed last where
  tidy := by
    rw [blank]
    exact Positions.tidy_start
  held mark bears := by
    rw [blank] at bears
    exact absurd bears (Positions.not_bears_start mark)

/-- Every unfinished task that has positions goes on where it has been interrupted. While it is in a
step, that is the last one it has made. -/
structure Session.Bookmarked (session : Session) : Prop where
  placed : ∀ id bookmark, session.scheduler.bookmark? id = some bookmark →
    bookmark.isFinished = false → bookmark.Placed (session.lastStep? id)
  running : ∀ id ∈ session.scheduler.active, ∃ bookmark,
    session.scheduler.bookmark? id = some bookmark ∧
      session.lastStep? id = some bookmark.counter

theorem Session.Noted.lastStep? {event : Event} {before after : Session}
    (noted : before.Noted event after) {id : TaskId} (other : event.executed? id = none) :
    after.lastStep? id = before.lastStep? id := by
  unfold Session.lastStep?
  rw [noted.journal, List.findSome?_cons, other]

theorem Session.Noted.lastStep?_own {id : TaskId} {counter reading : Nat} {before after : Session}
    (noted : before.Noted (.stepped id counter reading) after) :
    after.lastStep? id = some counter := by
  have own : Event.executed? id (.stepped id counter reading) = some counter := if_pos rfl
  unfold Session.lastStep?
  rw [noted.journal, List.findSome?_cons, own]

theorem Scheduler.bookmark?_of_task? {id : TaskId} {scheduler : Scheduler} {task : Task}
    (known : scheduler.task? id = some task) : scheduler.bookmark? id = some task.bookmark := by
  unfold Scheduler.bookmark?
  rw [known]
  rfl

theorem Scheduler.bookmark?_modifyTask_of_ne {id other : TaskId} (different : other ≠ id)
    (change : Task → Task) (scheduler : Scheduler) :
    (scheduler.modifyTask id change).bookmark? other = scheduler.bookmark? other := by
  unfold Scheduler.bookmark?
  rw [Scheduler.task?_modifyTask_of_ne different]

theorem Scheduler.positions_register {id : TaskId} {scheduler : Scheduler} {task registered : Task}
    (new : ¬ id.index < scheduler.tasks.length)
    (found : (scheduler.register task).2.task? id = some registered) :
    registered.positions = task.positions := by
  rw [Scheduler.task?_register] at found
  split at found
  · cases found
    rfl
  · exact absurd (List.getElem?_eq_some_iff.mp found).1 new

/-- Where tasks go on is left alone, but new ones may come. -/
structure Session.Unmoved (before after : Session) : Prop where
  active : after.scheduler.active = before.scheduler.active
  steps : ∀ id, after.lastStep? id = before.lastStep? id
  bookmarks : ∀ id, after.scheduler.bookmark? id = before.scheduler.bookmark? id ∨
    before.scheduler.bookmark? id = none ∧
      ∀ bookmark, after.scheduler.bookmark? id = some bookmark → bookmark.positions = {}

namespace Session.Unmoved

theorem ofTasks {before after : Session} (journal : after.journal = before.journal)
    (active : after.scheduler.active = before.scheduler.active)
    (tasks : after.scheduler.tasks = before.scheduler.tasks) : Unmoved before after where
  active := active
  steps id := by
    unfold Session.lastStep?
    rw [journal]
  bookmarks id := by
    unfold Scheduler.bookmark? Scheduler.task?
    rw [tasks]
    exact .inl rfl

theorem ofNoted {event : Event} {before after : Session} (noted : before.Noted event after)
    (other : ∀ id, event.executed? id = none) : Unmoved before after where
  active := by rw [noted.scheduler]
  steps id := noted.lastStep? (other id)
  bookmarks id := by
    rw [noted.scheduler]
    exact .inl rfl

theorem onTask {change : Task → Task} (keeps : ∀ task, (change task).bookmark = task.bookmark)
    (id : TaskId) (session : Session) : Unmoved session (session.onTask id change) where
  active := rfl
  steps _ := rfl
  bookmarks other := by
    exact .inl (Scheduler.view_modifyTask (Option.map Task.bookmark)
      (fun task => congrArg some (keeps task)) id other session.scheduler)

theorem awaitedBy (waiter awaited : Option TaskId) (session : Session) :
    Unmoved session (session.awaitedBy waiter awaited) := by
  cases waiter with
  | none => exact .ofTasks rfl rfl rfl
  | some waiter =>
      apply Unmoved.onTask
      exact fun _ => rfl

theorem registering {task : Task} (blank : task.positions = {}) (session : Session) :
    Unmoved session (session.registering task) where
  active := rfl
  steps _ := rfl
  bookmarks id := by
    by_cases known : id.index < session.scheduler.tasks.length
    · refine .inl ?_
      change (session.scheduler.register task).2.bookmark? id = _
      unfold Scheduler.bookmark?
      rw [Scheduler.task?_register_of_lt known]
    · refine .inr ⟨?_, fun bookmark found => ?_⟩
      · unfold Scheduler.bookmark? Scheduler.task?
        rw [List.getElem?_eq_none (Nat.le_of_not_lt known)]
        rfl
      · obtain ⟨registered, present, rfl⟩ := Option.map_eq_some_iff.mp found
        exact (Scheduler.positions_register known present).trans blank

end Session.Unmoved

namespace Session.Bookmarked

variable {before after : Session} (bookmarked : before.Bookmarked)

include bookmarked

theorem unmoved (unmoved : before.Unmoved after) : after.Bookmarked where
  placed id bookmark found unfinished := by
    rw [unmoved.steps id]
    rcases unmoved.bookmarks id with same | ⟨_, blank⟩
    · exact bookmarked.placed id bookmark (same ▸ found) unfinished
    · exact .ofBlank (blank bookmark found)
  running id active := by
    rw [unmoved.active] at active
    obtain ⟨bookmark, found, last⟩ := bookmarked.running id active
    refine ⟨bookmark, ?_, (unmoved.steps id).trans last⟩
    rcases unmoved.bookmarks id with same | ⟨unknown, _⟩
    · exact same.trans found
    · rw [unknown] at found
      cases found

theorem noted {event : Event} (noted : before.Noted event after)
    (other : ∀ id, event.executed? id = none) : after.Bookmarked :=
  bookmarked.unmoved (.ofNoted noted other)

theorem moved (id : TaskId)
    (within : ∀ other ∈ after.scheduler.active, other ≠ id ∧ other ∈ before.scheduler.active)
    (others : ∀ other, other ≠ id →
      after.scheduler.bookmark? other = before.scheduler.bookmark? other ∧
        after.lastStep? other = before.lastStep? other)
    (own : ∀ bookmark, after.scheduler.bookmark? id = some bookmark →
      bookmark.isFinished = false → bookmark.Placed (after.lastStep? id)) : after.Bookmarked where
  placed other bookmark found unfinished := by
    by_cases same : other = id
    · subst other
      exact own bookmark found unfinished
    · obtain ⟨still, last⟩ := others other same
      rw [last]
      exact bookmarked.placed other bookmark (still ▸ found) unfinished
  running other active := by
    obtain ⟨different, running⟩ := within other active
    obtain ⟨bookmark, found, last⟩ := bookmarked.running other running
    obtain ⟨still, same⟩ := others other different
    exact ⟨bookmark, still.trans found, same.trans last⟩

theorem onIdle {id : TaskId} (idle : id ∉ before.scheduler.active) {change : Task → Task}
    (ends : ∀ task, (change task).isFinished = true ∨ (change task).positions = {}) :
    (before.onTask id change).Bookmarked := by
  refine bookmarked.moved id (fun other active => ⟨fun same => idle (same ▸ active), active⟩)
    (fun other different => ⟨Scheduler.bookmark?_modifyTask_of_ne different .., rfl⟩) ?_
  intro bookmark found unfinished
  obtain ⟨task, changed, rfl⟩ := Option.map_eq_some_iff.mp found
  change (before.scheduler.modifyTask id change).task? id = some task at changed
  rw [Scheduler.task?_modifyTask_self] at changed
  obtain ⟨earlier, _, rfl⟩ := Option.map_eq_some_iff.mp changed
  rcases ends earlier with finished | blank
  · exact absurd (unfinished.symm.trans finished) Bool.false_ne_true
  · exact .ofBlank blank

theorem announced {id : TaskId} {counter reading : Nat}
    (noted : before.Noted (.stepped id counter reading) after)
    (idle : id ∉ before.scheduler.active)
    (blank : ∀ task, before.scheduler.task? id = some task → task.positions = {}) :
    after.Bookmarked := by
  refine bookmarked.moved id ?_ ?_ ?_
  · rw [noted.scheduler]
    exact fun other active => ⟨fun same => idle (same ▸ active), active⟩
  · intro other different
    rw [noted.scheduler]
    exact ⟨rfl, noted.lastStep? (if_neg different.symm)⟩
  · intro bookmark found _
    rw [noted.scheduler] at found
    obtain ⟨task, known, rfl⟩ := Option.map_eq_some_iff.mp found
    exact .ofBlank (blank task known)

theorem entering {id : TaskId} {current : Task}
    (known : before.scheduler.task? id = some current)
    (last : before.lastStep? id = some current.counter) (task : Task) :
    (before.enteringTask id task).Bookmarked where
  placed := bookmarked.placed
  running other active := by
    rcases List.mem_cons.mp active with rfl | outer
    · exact ⟨current.bookmark, Scheduler.bookmark?_of_task? known, last⟩
    · exact bookmarked.running other outer

theorem left {id : TaskId} {outer : List TaskId} (running : before.scheduler.active = id :: outer)
    (once : id ∉ outer) (out : before.SteppedOut id after)
    (own : ∃ last, after.scheduler.task? id = some last ∧
      (last.isFinished = false → last.bookmark.Placed (before.lastStep? id))) :
    after.Bookmarked := by
  have same (other : TaskId) : after.lastStep? other = before.lastStep? other := by
    unfold Session.lastStep?
    rw [out.journal]
  refine bookmarked.moved id (fun other inside => ?_) (fun other different => ⟨?_, same other⟩) ?_
  · rw [out.active, running, List.tail_cons] at inside
    rw [running]
    exact ⟨fun equal => once (equal ▸ inside), List.mem_cons_of_mem id inside⟩
  · exact congrArg (Option.map Task.bookmark) (out.others other different)
  · intro bookmark found unfinished
    obtain ⟨last, reached, placed⟩ := own
    rw [same]
    cases (Scheduler.bookmark?_of_task? reached).symm.trans found
    exact placed unfinished

end Session.Bookmarked

/-! ### Steps -/

theorem Task.statements_eq_some {task : Task} {index : Nat} {statement : Stmt} :
    task.statements[index]? = some statement ↔
      ∃ function, task.body = some function ∧ function.body[index]? = some statement := by
  unfold Task.statements
  cases task.body with
  | none => simp
  | some function => simp

theorem Task.bookmark_start (task : Task) : task.start.bookmark = task.bookmark := by
  unfold Task.start
  split <;> rfl

theorem Positions.Passage.Ends.emptied {path : Path} {statement : Stmt} {before after : Positions}
    (ends : (Positions.Passage.ofStatement path statement).Ends (before.Held path statement) before
      after)
    (whole : ∀ mark, before.Bears mark → before.Held path statement mark) : after = {} :=
  Positions.eq_start fun mark bears => (ends.present bears).2 (whole mark (ends.present bears).1)

section

variable {id : TaskId} {task current : Task} {statement : Stmt}
  (body : current.body = task.body) (counter : current.counter = task.counter)
  (present : task.statements[task.counter]? = some statement)
  (whole : ∀ mark, task.positions.Bears mark →
    task.positions.Held [.item task.counter] statement mark)

include body counter present whole

/-- The positions that a suspended statement leaves are held by it, and it is going to be executed
again. -/
theorem Session.Bookmarked.paused {left : Session} (bookmarked : left.Bookmarked)
    (running : id ∈ left.scheduler.active) (found : left.scheduler.task? id = some current)
    (pauses : (Positions.Passage.ofStatement [.item task.counter] statement).Pauses
      (task.positions.Held [.item task.counter] statement) task.positions left.executor.positions)
    (isFinished : Bool) :
    Task.Bookmark.Placed (left.lastStep? id)
      ⟨current.body, current.counter, left.executor.positions, isFinished⟩ where
  tidy := pauses.tidy
  held mark bears := by
    obtain ⟨bookmark, known, last⟩ := bookmarked.running id running
    cases (Scheduler.bookmark?_of_task? found).symm.trans known
    obtain ⟨function, declared, there⟩ := Task.statements_eq_some.mp present
    have held := (pauses.present mark bears).resolve_right fun earlier =>
      earlier.2 (whole mark earlier.1)
    refine ⟨last, function, statement, body.trans declared, ?_, ?_⟩
    · rw [counter]
      exact there
    · rw [counter]
      exact held

variable {outcome : Outcome Unit} (blank : current.positions = {})
  (kept : outcome.KeepsAside id current.aside)
  (passes : outcome.Passes (Positions.Passage.ofStatement [.item task.counter] statement)
    (task.positions.Held [.item task.counter] statement) task.positions)

include blank kept passes

/-- What a step leaves of the positions of its task is about the statement that is at its counter
afterwards. -/
theorem Interpreter.stepEnding_places (inside : outcome.session.Bookmarked)
    (before : Executor) (ends : ∀ moment, outcome ≠ .halted moment) :
    ∃ last, (stepEnding id task before outcome).session.scheduler.task? id = some last ∧
      (last.isFinished = false → last.bookmark.Placed (outcome.session.lastStep? id)) := by
  cases outcome with
  | halted moment => exact absurd rfl (ends moment)
  | done value left =>
      obtain ⟨now, found, same⟩ := Option.map_eq_some_iff.mp kept.found
      have known : (left.leavingTask id task before).scheduler.task? id = some now := found
      unfold stepEnding
      dsimp only
      split
      · exact ⟨_, Session.task?_onTask (Session.task?_onTask known _) _, nofun⟩
      · exact ⟨_, Session.task?_onTask known _, fun _ => .ofBlank (passes.emptied whole)⟩
  | raised signal left =>
      obtain ⟨now, found, same⟩ := Option.map_eq_some_iff.mp kept.found
      have known : (left.leavingTask id task before).scheduler.task? id = some now := found
      have positions : now.positions = {} := (congrArg Task.Aside.positions same).trans blank
      cases signal with
      | suspend fromLoop =>
          refine ⟨_, Session.task?_onTask known _, fun _ => ?_⟩
          cases fromLoop with
          | false => exact .ofBlank (passes.2.emptied whole)
          | true =>
              -- the counter stays, so that what holds the positions is still the current statement
              have running : id ∈ left.scheduler.active := kept.active
              have progress := congrArg Task.Aside.progress same
              exact inside.paused ((congrArg Task.Progress.body progress).trans body)
                ((congrArg Task.Progress.counter progress).trans counter) present whole running
                found passes _
      | returning value =>
          exact ⟨_, Session.task?_onTask (Session.task?_onTask known _) _, nofun⟩
      | breakLoop => exact ⟨now, known, fun _ => .ofBlank positions⟩
      | continueLoop => exact ⟨now, known, fun _ => .ofBlank positions⟩
      | fault cause => exact ⟨now, known, fun _ => .ofBlank positions⟩

theorem Interpreter.stepEnding_bookmarks {session : Session}
    (idle : id ∉ session.scheduler.active)
    (brackets : outcome.Brackets .statement (session.enteringTask id task))
    (inside : outcome.session.Bookmarked) :
    (stepEnding id task session.executor outcome).session.Bookmarked := by
  have out := stepEnding_stepsOut id task session.executor outcome
  have own := stepEnding_places body counter present whole blank kept passes inside session.executor
  cases outcome with
  | halted moment => exact inside
  | done value left => exact inside.left (Session.Kept.active brackets) idle (out nofun) (own nofun)
  | raised signal left =>
      exact inside.left (Session.Kept.active brackets) idle (out nofun) (own nofun)

end

section Turns

variable {depth : Nat}
  (exec : ∀ path statement,
    ((interpreter depth).exec path statement).Keeps Session.Bookmarked)

include exec

theorem stepping_bookmarks {id : TaskId} {task : Task} {statement : Stmt} {session : Session}
    (bookmarked : session.Bookmarked) (idle : id ∉ session.scheduler.active)
    (known : session.scheduler.task? id = some (Interpreter.stepCounted task))
    (last : session.lastStep? id = some task.counter)
    (present : task.statements[task.counter]? = some statement)
    {earlier : Option Nat} (placed : task.bookmark.Placed earlier) :
    ((interpreter depth).stepping id task statement session).session.Bookmarked := by
  have itself := (interpreter_deepens (Nat.le_refl depth)).exec [.item task.counter] statement
  have entered : (session.enteringTask id task).Keeping id (Interpreter.stepCounted task).aside :=
    .entering known rfl
  have body : (Interpreter.stepCounted task).body = task.body := rfl
  refine Interpreter.stepEnding_bookmarks body rfl present ?_ rfl (itself.keepsAside _ entered)
    ((interpreter_marking depth).exec _ statement (session.enteringTask id task) placed.tidy)
    idle (itself.brackets _) (exec _ statement _ (bookmarked.entering known last task))
  -- What the task has put aside is about the statement at its counter, which is about to run.
  intro mark bears
  obtain ⟨_, function, found, declared, there, held⟩ := placed.held mark bears
  cases present.symm.trans (Task.statements_eq_some.mpr ⟨function, declared, there⟩)
  exact held

theorem runStatement_bookmarks {id : TaskId} {reading : Nat} {session : Session} {task : Task}
    (bookmarked : session.Bookmarked) (idle : id ∉ session.scheduler.active)
    (known : session.scheduler.task? id = some task) (unfinished : task.isFinished = false) :
    ((interpreter depth).runStatement id reading session).session.Bookmarked := by
  have started : (session.onTask id Task.start).Bookmarked :=
    bookmarked.unmoved (.onTask Task.bookmark_start id session)
  have found := Session.task?_onTask known Task.start
  have blank : (Interpreter.announcing id (session.onTask id Task.start)).Bookmarked :=
    (started.onIdle idle fun _ => .inr rfl).unmoved (.ofTasks rfl rfl rfl)
  have counted : (Interpreter.announcing id (session.onTask id Task.start)).scheduler.task? id =
      some (Interpreter.stepCounted task.start) :=
    Session.task?_onTask found Interpreter.stepCounted
  have announced {counter : Nat} {noted : Session}
      (same : (Interpreter.announcing id (session.onTask id Task.start)).Noted
        (.stepped id counter reading) noted) : noted.Bookmarked := by
    refine blank.announced same idle fun current now => ?_
    cases counted.symm.trans now
    rfl
  refine Interpreter.runStatement_elim _ (motive := fun outcome => outcome.session.Bookmarked)
    ?_ ?_ ?_ ?_
  · exact fun _ => started
  · exact fun _ _ _ => started.onIdle idle fun _ => .inl rfl
  · exact fun _ _ moment noted => announced noted
  · intro begun begins statement present noted same
    cases found.symm.trans begins
    have placed := started.placed id _ (Scheduler.bookmark?_of_task? found)
      ((Task.KeepsTime.start task).isFinished.trans unfinished)
    refine stepping_bookmarks exec (announced same) ?_ ?_ ?_ present placed
    · rw [same.scheduler]
      exact idle
    · rw [same.scheduler]
      exact counted
    · exact same.lastStep?_own

theorem stepReady_bookmarks {id : TaskId} {session : Session} {task : Task}
    (bookmarked : session.Bookmarked) (idle : id ∉ session.scheduler.active)
    (known : session.scheduler.task? id = some task) (unfinished : task.isFinished = false) :
    ((interpreter depth).stepReady id session).session.Bookmarked := by
  have ticked : session.ticked.Bookmarked := bookmarked.unmoved (.ofTasks rfl rfl rfl)
  have awake : (session.ticked.onTask id Interpreter.woken).Bookmarked := by
    refine ticked.unmoved (.onTask ?_ id _)
    exact fun _ => rfl
  have known' : session.ticked.scheduler.task? id = some task := known
  refine Interpreter.stepReady_elim _ (motive := fun outcome => outcome.session.Bookmarked)
    ?_ ?_ ?_ ?_ ?_
  · exact fun _ => ticked
  · intro _ _ _ after noted
    have ended : (Interpreter.expiring id session.ticked).Bookmarked :=
      (ticked.onIdle idle fun _ => .inl rfl).unmoved (.ofTasks rfl rfl rfl)
    have recorded := ended.noted noted fun _ => rfl
    exact ⟨recorded, recorded⟩
  · exact fun _ _ _ _ => ticked.unmoved (.ofTasks rfl rfl rfl)
  · intro _ _ _ _ _
    have ended : ((session.ticked.onTask id Interpreter.woken).onTask id
        (Task.complete .void)).Bookmarked := awake.onIdle idle fun _ => .inl rfl
    refine ⟨ended, fun after noted => ?_⟩
    have recorded := ended.noted noted fun _ => rfl
    exact ⟨recorded, recorded⟩
  · intro _ _ _ _ _
    exact runStatement_bookmarks exec awake idle
      (Session.task?_onTask known' Interpreter.woken) unfinished

theorem step_bookmarks {id : TaskId} {session : Session} (idle : id ∉ session.scheduler.active)
    (bookmarked : session.Bookmarked) :
    ((interpreter depth).step id session).session.Bookmarked := by
  refine Interpreter.step_elim _ (motive := fun outcome => outcome.session.Bookmarked) ?_ ?_ ?_ ?_
  · exact fun _ => bookmarked
  · intro _ _ _ _ _ _ after noted
    have blocked : (Interpreter.blocking session).Bookmarked :=
      bookmarked.unmoved (.ofTasks rfl rfl rfl)
    have recorded := blocked.noted noted fun _ => rfl
    exact ⟨recorded, recorded⟩
  · exact fun task known unfinished _ => stepReady_bookmarks exec bookmarked idle known unfinished
  · intro task known unfinished _ _ _
    have freed : (session.onTask id fun task => { task with waitingFor := none }).Bookmarked := by
      refine bookmarked.unmoved (.onTask ?_ id _)
      exact fun _ => rfl
    exact stepReady_bookmarks exec freed idle (Session.task?_onTask known _) unfinished

end Turns

theorem Task.Fresh.positions {task : Task} (fresh : task.Fresh) : task.positions = {} := by
  induction fresh with
  | ofFunction function args => rfl
  | timer => rfl
  | withReceiver _ value site ih => exact ih

theorem Session.Amended.unmoved {recorded : Bool} {before after : Session}
    (amends : before.Amended recorded after) : before.Unmoved after := by
  cases amends with
  | apart journal _ active tasks => exact .ofTasks journal active tasks
  | later nanos => exact .ofTasks rfl rfl rfl
  | reporting id keeps =>
      refine .onTask (fun task => ?_) id before
      obtain ⟨_, _, _, _, same⟩ := keeps task
      rw [same]
      rfl
  | timed id keeps =>
      refine .onTask (fun task => ?_) id before
      obtain ⟨_, _, same⟩ := keeps task
      rw [same]
      rfl
  | registering fresh => exact .registering fresh.positions before
  | awaitedBy waiter awaited => exact .awaitedBy waiter awaited before

theorem Event.executed?_of_not_gates {event : Event} (other : event.isOfGates = false)
    (id : TaskId) : event.executed? id = none := by
  cases event <;> first | rfl | cases other

/-- Whatever is done, no task is left with the positions of another statement. -/
theorem Session.bookmarked_invariant : Session.Invariant Session.Bookmarked where
  amended amends bookmarked := bookmarked.unmoved amends.unmoved
  noted amends noted other bookmarked :=
    (bookmarked.unmoved amends.unmoved).noted noted (Event.executed?_of_not_gates other)
  awaiting noted bookmarked := (bookmarked.noted noted fun _ => rfl).unmoved (.awaitedBy ..)
  marked id _ _ bookmarked := by
    refine bookmarked.unmoved (.onTask ?_ id _)
    exact fun _ => rfl
  step exec _ _ idle bookmarked := step_bookmarks exec idle bookmarked

theorem Session.Reachable.bookmarked {session : Session} (reachable : session.Reachable) :
    session.Bookmarked := by
  refine Session.bookmarked_invariant.reachable (fun settings tick => ?_) reachable
  exact ⟨fun _ _ found => (nomatch found), fun _ active => (nomatch active)⟩

section

variable {session : Session} {id : TaskId} {task : Task}

theorem Session.Reachable.placed (reachable : session.Reachable)
    (known : session.scheduler.task? id = some task) (unfinished : task.isFinished = false) :
    task.bookmark.Placed (session.lastStep? id) :=
  reachable.bookmarked.placed id task.bookmark (Scheduler.bookmark?_of_task? known) unfinished

theorem Task.Bookmark.Placed.describes {last : Option Nat} (placed : task.bookmark.Placed last)
    {mark : Positions.Mark} (bears : task.positions.Bears mark) :
    ∃ statement, task.statements[task.counter]? = some statement ∧
      statement.Describes task.positions [.item task.counter] mark := by
  obtain ⟨_, function, statement, declared, there, held⟩ := placed.held mark bears
  exact ⟨statement, Task.statements_eq_some.mpr ⟨function, declared, there⟩, held.describes⟩

end

/-- The positions of an unfinished task are all about the statement at its counter. Each list that
is marked is inside of that statement and is resumed at one of its places or at its end, and each
loop that is past its initialiser is inside of it, too. There are no positions at all unless the
last step of the task has been on that very statement, so none after a step that has gone on to the
next one. -/
theorem saved_positions_describe_current_statement {session : Session}
    (reachable : session.Reachable) {id : TaskId} {task : Task}
    (known : session.scheduler.task? id = some task) (unfinished : task.isFinished = false) :
    (∀ key index, (key, index) ∈ task.positions.resume →
      ∃ statement place inner turn list, task.statements[task.counter]? = some statement ∧
        statement.Contains [.item task.counter] place inner ∧ inner.Branch turn list ∧
        key = .of (turn :: place) list ∧ index ≤ list.length) ∧
    (∀ key ∈ task.positions.entered,
      ∃ statement place init condition update body,
        task.statements[task.counter]? = some statement ∧
        statement.Contains [.item task.counter] place (.forLoop init condition update body) ∧
        key = .of (.body :: place) body) ∧
    (session.lastStep? id ≠ some task.counter → task.positions = {}) := by
  have placed := reachable.placed known unfinished
  refine ⟨fun key index member => ?_, fun key member => ?_, fun other => ?_⟩
  · have found : task.positions.get? key = some index := Positions.bears_entry member placed.tidy
    have bears : task.positions.Bears (.resume key) := Option.ne_none_iff_exists'.mpr ⟨index, found⟩
    obtain ⟨statement, present, describes⟩ := placed.describes bears
    cases describes with
    | resume contains branch marked within =>
        cases found.symm.trans marked
        exact ⟨statement, _, _, _, _, present, contains, branch, rfl, within⟩
  · obtain ⟨statement, present, describes⟩ := placed.describes (Positions.bears_entered member)
    cases describes with
    | entered contains => exact ⟨statement, _, _, _, _, _, present, contains, rfl⟩
  · exact Positions.eq_start fun mark bears => other (placed.held mark bears).1

def countingSlowly : FunctionDecl where
  name := "counting"
  params := []
  body :=
    [.letVar "i" (.lit (.int 0)),
      .forLoop none (some (.binary .lt (.var "i") (.lit (.int 2))))
        (some (.assign "i" (.binary .add (.var "i") (.lit (.int 1)))))
        [.ifThen (.lit (.bool true)) [.print (.var "i"), .yield, .print (.var "i")] []]]
  isAsync := true
  owner := none

def countingSuspended : Session :=
  ((interpreter 12).request (.step ⟨0⟩) ((interpreter 12).request (.step ⟨0⟩)
    ((interpreter 12).request (.spawn countingSlowly []) (.start {} 0)).session).session).session

theorem countingSuspended_reachable : countingSuspended.Reachable := by
  refine .requested (.requested (.requested (.start {} 0) ?_ 12 (.spawn countingSlowly [])) ?_ 12
    (.step ⟨0⟩)) ?_ 12 (.step ⟨0⟩)
  · rfl
  · decide +kernel
  · decide +kernel

theorem countingSuspended_positions :
    (countingSuspended.scheduler.task? ⟨0⟩).map (fun task => (task.isFinished, task.positions)) =
      some (false, {
        resume :=
          [(.located [.thenBranch, .item 0, .body, .item 1], 2), (.located [.body, .item 1], 0)],
        entered := [.located [.body, .item 1]] }) := by
  decide +kernel

/-- The task is in the middle of the branch, one list inside of the other. -/
theorem saved_positions_describe_current_statement_countingSuspended :
    ∃ task statement, countingSuspended.scheduler.task? ⟨0⟩ = some task ∧
      task.statements[task.counter]? = some statement ∧
      (∃ place inner turn list, statement.Contains [.item task.counter] place inner ∧
        inner.Branch turn list ∧
        .located [.thenBranch, .item 0, .body, .item 1] = ListKey.of (turn :: place) list ∧
        2 ≤ list.length) ∧
      ∃ place init condition update body,
        statement.Contains [.item task.counter] place (.forLoop init condition update body) ∧
        .located [.body, .item 1] = ListKey.of (.body :: place) body := by
  obtain ⟨task, known, same⟩ := Option.map_eq_some_iff.mp countingSuspended_positions
  injection same with unfinished positions
  obtain ⟨resumed, entered, _⟩ :=
    saved_positions_describe_current_statement countingSuspended_reachable known unfinished
  rw [positions] at resumed entered
  obtain ⟨statement, place, inner, turn, list, present, contains, branch, key, within⟩ :=
    resumed _ 2 List.mem_cons_self
  obtain ⟨_, loop, init, condition, update, body, present', containsLoop, keyLoop⟩ :=
    entered _ List.mem_cons_self
  cases present.symm.trans present'
  exact ⟨task, statement, known, present, ⟨place, inner, turn, list, contains, branch, key, within⟩,
    loop, init, condition, update, body, containsLoop, keyLoop⟩

end CooperativeTasks
