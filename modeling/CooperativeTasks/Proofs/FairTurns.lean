import CooperativeTasks.Proofs.Proceeding

set_option autoImplicit false

/-! Turns are given in order.

The journal tells of every task that has gone into the queue or out of it, so that the queue can
be told from the journal. Whatever is nested in whatever, tasks join at the back, leave at the
front, and do not join while they are in the queue. From this alone it follows that no task is
passed over. -/

namespace CooperativeTasks

/-! ### The queue that a journal tells of -/

namespace Event

/-- What an event does to the queue that it tells of. -/
def onQueue (queue : List TaskId) : Event → List TaskId
  | .registered id _ _ => queue ++ [id]
  | .requeued id => queue ++ [id]
  | .dequeued id => queue.erase id
  | _ => queue

def isRegistration : Event → Bool
  | .registered _ _ _ => true
  | _ => false

/-- The event has nothing to do with queues. -/
def Quiet (event : Event) : Prop := ∀ queue, event.onQueue queue = queue

theorem quiet_of_aside {event : Event} (aside : event.isOfQueue = false) : event.Quiet := by
  cases event with
  | registered task name autoYield => cases aside
  | dequeued task => cases aside
  | requeued task => cases aside
  | _ => exact fun _ => rfl

theorem Quiet.isRegistration {event : Event} (quiet : event.Quiet) :
    event.isRegistration = false := by
  cases event with
  | registered task name autoYield => cases quiet []
  | _ => rfl

theorem Quiet.ne_dequeued {event : Event} (quiet : event.Quiet) (id : TaskId) :
    event ≠ .dequeued id := by
  rintro rfl
  have empty := quiet [id]
  simp [onQueue] at empty

end Event

/-- The queue after the events of a journal, the latest of which comes first. -/
def queueAfter : List Event → List TaskId
  | [] => []
  | event :: earlier => event.onQueue (queueAfter earlier)

def registrations (journal : List Event) : Nat := journal.countP Event.isRegistration

/-- The journal tells of a queue that tasks join at the back, and leave at the front. -/
inductive InOrder : List Event → Prop where
  | nil : InOrder []
  | registered {earlier : List Event} (ordered : InOrder earlier) (name : String)
      (autoYield : Bool) : InOrder (.registered ⟨registrations earlier⟩ name autoYield :: earlier)
  | dequeued {earlier : List Event} (ordered : InOrder earlier) {id : TaskId} {rest : List TaskId}
      (front : queueAfter earlier = id :: rest) : InOrder (.dequeued id :: earlier)
  | requeued {earlier : List Event} (ordered : InOrder earlier) {id : TaskId}
      (known : id.index < registrations earlier) (absent : id ∉ queueAfter earlier) :
      InOrder (.requeued id :: earlier)
  | quiet {earlier : List Event} (ordered : InOrder earlier) {event : Event} (quiet : event.Quiet) :
      InOrder (event :: earlier)

theorem registrations_registered (id : TaskId) (name : String) (autoYield : Bool)
    (earlier : List Event) :
    registrations (.registered id name autoYield :: earlier) = registrations earlier + 1 :=
  List.countP_cons_of_pos rfl

theorem registrations_cons {event : Event} (other : event.isRegistration = false)
    (earlier : List Event) : registrations (event :: earlier) = registrations earlier :=
  List.countP_cons_of_neg (by rw [other]; exact Bool.false_ne_true)

theorem registrations_le_append (later earlier : List Event) :
    registrations earlier ≤ registrations (later ++ earlier) := by
  unfold registrations
  rw [List.countP_append]
  exact Nat.le_add_left _ _

theorem queueAfter_dequeued {earlier : List Event} {id : TaskId} {rest : List TaskId}
    (front : queueAfter earlier = id :: rest) : queueAfter (.dequeued id :: earlier) = rest := by
  change (queueAfter earlier).erase id = rest
  rw [front, List.erase_cons_head]

namespace InOrder

variable {journal : List Event}

theorem of_append {later earlier : List Event} (ordered : InOrder (later ++ earlier)) :
    InOrder earlier := by
  induction later with
  | nil => exact ordered
  | cons event later ih =>
      cases ordered with
      | registered ordered => exact ih ordered
      | dequeued ordered => exact ih ordered
      | requeued ordered => exact ih ordered
      | quiet ordered => exact ih ordered

theorem known (ordered : InOrder journal) {id : TaskId} (queued : id ∈ queueAfter journal) :
    id.index < registrations journal := by
  induction ordered with
  | nil => cases queued
  | @registered earlier _ name autoYield ih =>
      rw [registrations_registered]
      rcases List.mem_append.mp queued with older | newest
      · exact Nat.lt_succ_of_lt (ih older)
      · rw [List.mem_singleton.mp newest]
        exact Nat.lt_succ_self _
  | dequeued _ _ ih =>
      rw [registrations_cons rfl]
      exact ih (List.mem_of_mem_erase queued)
  | requeued _ known _ ih =>
      rw [registrations_cons rfl]
      rcases List.mem_append.mp queued with older | newest
      · exact ih older
      · rw [List.mem_singleton.mp newest]
        exact known
  | quiet _ quiet ih =>
      rw [registrations_cons quiet.isRegistration]
      rw [queueAfter, quiet] at queued
      exact ih queued

theorem nodup (ordered : InOrder journal) : (queueAfter journal).Nodup := by
  induction ordered with
  | nil => exact List.nodup_nil
  | @registered earlier ordered name autoYield ih =>
      refine List.nodup_append.mpr ⟨ih, List.pairwise_singleton _ _, ?_⟩
      rintro id older other newest rfl
      rw [List.mem_singleton.mp newest] at older
      exact Nat.lt_irrefl _ (ordered.known older)
  | dequeued _ _ ih => exact ih.erase _
  | requeued _ _ absent ih =>
      refine List.nodup_append.mpr ⟨ih, List.pairwise_singleton _ _, ?_⟩
      rintro id older other newest rfl
      exact absent (List.mem_singleton.mp newest ▸ older)
  | quiet _ quiet ih =>
      rw [queueAfter, quiet]
      exact ih

/-! ### No task is passed over -/

theorem behind {later earlier : List Event} {id : TaskId}
    (ordered : InOrder (later ++ .requeued id :: earlier)) (stays : .dequeued id ∉ later) :
    ∃ ahead after, queueAfter (later ++ .requeued id :: earlier) = ahead ++ id :: after ∧
      ∀ other ∈ queueAfter earlier, other ∈ ahead ∨ .dequeued other ∈ later := by
  induction later with
  | nil => exact ⟨queueAfter earlier, [], rfl, fun other queued => .inl queued⟩
  | cons event later ih =>
      have stayed : Event.dequeued id ∉ later := fun left => stays (List.mem_cons_of_mem _ left)
      have joins {back : List TaskId} (ordered : InOrder (later ++ .requeued id :: earlier))
          (joined : event.onQueue (queueAfter (later ++ .requeued id :: earlier)) =
            queueAfter (later ++ .requeued id :: earlier) ++ back) :
          ∃ ahead after, event.onQueue (queueAfter (later ++ .requeued id :: earlier)) =
              ahead ++ id :: after ∧
            ∀ other ∈ queueAfter earlier, other ∈ ahead ∨ .dequeued other ∈ event :: later := by
        obtain ⟨ahead, after, same, passed⟩ := ih ordered stayed
        refine ⟨ahead, after ++ back, ?_, fun other queued => ?_⟩
        · rw [joined, same, List.append_assoc, List.cons_append]
        · exact (passed other queued).imp_right (List.mem_cons_of_mem event)
      cases ordered with
      | registered ordered => exact joins ordered rfl
      | requeued ordered => exact joins ordered rfl
      | quiet ordered quiet => exact joins ordered ((quiet _).trans (List.append_nil _).symm)
      | @dequeued _ ordered front rest first =>
          obtain ⟨ahead, after, same, passed⟩ := ih ordered stayed
          change queueAfter (later ++ _) = _ at first
          -- It is not the task itself that leaves, so someone was ahead of it.
          cases ahead with
          | nil =>
              rw [first] at same
              cases same
              exact absurd List.mem_cons_self stays
          | cons foremost ahead =>
              have both := first.symm.trans same
              rw [List.cons_append] at both
              obtain ⟨rfl, rfl⟩ := List.cons.inj both
              refine ⟨ahead, after, queueAfter_dequeued first, fun other queued => ?_⟩
              rcases passed other queued with waits | left
              · rcases List.mem_cons.mp waits with rfl | waits
                · exact .inr List.mem_cons_self
                · exact .inl waits
              · exact .inr (List.mem_cons_of_mem _ left)

/-- When the turn of a task that has been put back comes again, all who were in the queue then
have had theirs. -/
theorem passed {later earlier : List Event} {id : TaskId}
    (ordered : InOrder (.dequeued id :: (later ++ .requeued id :: earlier)))
    (stays : .dequeued id ∉ later) : ∀ other ∈ queueAfter earlier, .dequeued other ∈ later := by
  intro other queued
  cases ordered with
  | quiet _ quiet => exact absurd rfl (quiet.ne_dequeued id)
  | dequeued ordered front =>
      obtain ⟨ahead, after, same, passed⟩ := ordered.behind stays
      have distinct := ordered.nodup
      cases ahead with
      | nil => exact (passed other queued).resolve_left List.not_mem_nil
      | cons foremost ahead =>
          rw [same] at front distinct
          cases front
          have twice : id ∈ ahead ++ id :: after := List.mem_append_right _ List.mem_cons_self
          exact absurd twice (List.nodup_cons.mp distinct).1

theorem stays_out {later earlier : List Event} {id : TaskId} (ordered : InOrder (later ++ earlier))
    (known : id.index < registrations earlier) (absent : id ∉ queueAfter earlier)
    (left : .requeued id ∉ later) : id ∉ queueAfter (later ++ earlier) := by
  induction later with
  | nil => exact absent
  | cons event later ih =>
      have never : Event.requeued id ∉ later := fun back => left (List.mem_cons_of_mem _ back)
      cases ordered with
      | registered ordered =>
          intro queued
          rcases List.mem_append.mp queued with older | newest
          · exact ih ordered never older
          · have more := registrations_le_append later earlier
            rw [List.mem_singleton.mp newest] at known
            exact absurd known (Nat.not_lt.mpr more)
      | dequeued ordered => exact fun queued => ih ordered never (List.mem_of_mem_erase queued)
      | requeued ordered =>
          intro queued
          rcases List.mem_append.mp queued with older | newest
          · exact ih ordered never older
          · rw [List.mem_singleton.mp newest] at left
            exact left List.mem_cons_self
      | quiet ordered quiet =>
          rw [List.cons_append, queueAfter, quiet]
          exact ih ordered never

theorem put_back {between earlier : List Event} {id : TaskId}
    (ordered : InOrder (.dequeued id :: (between ++ .dequeued id :: earlier))) :
    .requeued id ∈ between := by
  refine Decidable.byContradiction fun left => ?_
  cases ordered with
  | quiet _ quiet => exact absurd rfl (quiet.ne_dequeued id)
  | dequeued ordered front =>
      have once : InOrder (.dequeued id :: earlier) := ordered.of_append
      have queued : id ∈ queueAfter (between ++ .dequeued id :: earlier) :=
        front ▸ List.mem_cons_self
      refine ordered.stays_out ?_ ?_ left queued
      · rw [registrations_cons rfl]
        cases once with
        | quiet _ quiet => exact absurd rfl (quiet.ne_dequeued id)
        | dequeued once first => exact once.known (first ▸ List.mem_cons_self)
      · cases once with
        | quiet _ quiet => exact absurd rfl (quiet.ne_dequeued id)
        | dequeued once first => exact once.nodup.not_mem_erase

/-! ### First turns -/

theorem had_turn_or_queued (ordered : InOrder journal) {id : TaskId}
    (known : id.index < registrations journal) :
    .dequeued id ∈ journal ∨ id ∈ queueAfter journal := by
  induction ordered with
  | nil => cases known
  | @registered earlier _ name autoYield ih =>
      rw [registrations_registered] at known
      rcases Nat.lt_succ_iff_lt_or_eq.mp known with older | newest
      · exact (ih older).imp (List.mem_cons_of_mem _) (List.mem_append_left _)
      · exact .inr (List.mem_append_right _ (List.mem_singleton.mpr (congrArg TaskId.mk newest)))
  | @dequeued earlier _ front rest first ih =>
      rw [registrations_cons rfl] at known
      rcases ih known with had | queued
      · exact .inl (List.mem_cons_of_mem _ had)
      · by_cases same : id = front
        · exact .inl (same ▸ List.mem_cons_self)
        · exact .inr ((List.mem_erase_of_ne same).mpr queued)
  | requeued _ _ _ ih =>
      rw [registrations_cons rfl] at known
      exact (ih known).imp (List.mem_cons_of_mem _) (List.mem_append_left _)
  | quiet _ quiet ih =>
      rw [registrations_cons quiet.isRegistration] at known
      rw [queueAfter, quiet]
      exact (ih known).imp_left (List.mem_cons_of_mem _)

/-- Those in the queue that have not had a turn yet are in the order of their numbers. -/
theorem newcomers (ordered : InOrder journal) :
    (queueAfter journal).Pairwise fun earlier later =>
      .dequeued earlier ∉ journal → .dequeued later ∉ journal → earlier.index < later.index := by
  -- What is recorded only adds to those that have had a turn.
  have forgets {event : Event} {journal : List Event} {queue : List TaskId}
      (sorted : queue.Pairwise fun earlier later =>
        .dequeued earlier ∉ journal → .dequeued later ∉ journal → earlier.index < later.index) :
      queue.Pairwise fun earlier later =>
        .dequeued earlier ∉ event :: journal → .dequeued later ∉ event :: journal →
          earlier.index < later.index :=
    sorted.imp fun below first second =>
      below (fun had => first (List.mem_cons_of_mem _ had))
        fun had => second (List.mem_cons_of_mem _ had)
  induction ordered with
  | nil => exact .nil
  | registered ordered name autoYield ih =>
      refine List.pairwise_append.mpr ⟨forgets ih, List.pairwise_singleton _ _, ?_⟩
      intro earlier queued later newest _ _
      rw [List.mem_singleton.mp newest]
      exact ordered.known queued
  | dequeued _ _ ih => exact forgets (ih.sublist List.erase_sublist)
  | @requeued earlier ordered id known absent ih =>
      refine List.pairwise_append.mpr ⟨forgets ih, List.pairwise_singleton _ _, ?_⟩
      intro earlier queued later newest _ second
      rw [List.mem_singleton.mp newest] at second
      -- A task that is put back has had its turn.
      exact absurd (List.mem_cons_of_mem _ ((ordered.had_turn_or_queued known).resolve_right absent))
        second
  | quiet _ quiet ih =>
      rw [queueAfter, quiet]
      exact forgets ih

/-- When a task has its first turn, all with smaller numbers have had theirs. -/
theorem first_turn {earlier : List Event} {id : TaskId} (ordered : InOrder (.dequeued id :: earlier))
    (first : .dequeued id ∉ earlier) {other : TaskId} (smaller : other.index < id.index) :
    .dequeued other ∈ earlier := by
  refine Decidable.byContradiction fun never => ?_
  cases ordered with
  | quiet _ quiet => exact absurd rfl (quiet.ne_dequeued id)
  | @dequeued _ ordered _ rest front =>
      have known : id.index < registrations earlier := ordered.known (front ▸ List.mem_cons_self)
      have queued := (ordered.had_turn_or_queued (Nat.lt_trans smaller known)).resolve_left never
      have sorted := ordered.newcomers
      rw [front] at queued sorted
      rcases List.mem_cons.mp queued with rfl | behind
      · exact Nat.lt_irrefl _ smaller
      · have larger := (List.pairwise_cons.mp sorted).1 other behind first never
        exact Nat.lt_asymm smaller larger

end InOrder

/-! ### The queue of a session -/

namespace Session

/-- The queue is the one that the journal tells of. -/
structure InTurn (session : Session) : Prop where
  queue : session.scheduler.queue.ids = queueAfter session.journal
  ordered : InOrder session.journal
  next : session.scheduler.ids.next.index = registrations session.journal

/-- The task has been registered and is not in the queue. -/
structure Out (id : TaskId) (session : Session) : Prop where
  known : id.index < registrations session.journal
  absent : id ∉ session.scheduler.queue.ids

/-- The queue goes on following the journal, and a task that was out of it is still out. -/
def TakesTurns (before after : Session) : Prop :=
  before.InTurn → after.InTurn ∧ ∀ id, before.Out id → after.Out id

namespace TakesTurns

theorem same {before after : Session} (queue : after.scheduler.queue = before.scheduler.queue)
    (ids : after.scheduler.ids = before.scheduler.ids) (journal : after.journal = before.journal) :
    TakesTurns before after := by
  intro start
  refine ⟨⟨?_, ?_, ?_⟩, fun id out => ⟨?_, ?_⟩⟩
  · rw [queue, journal]
    exact start.queue
  · rw [journal]
    exact start.ordered
  · rw [ids, journal]
    exact start.next
  · rw [journal]
    exact out.known
  · rw [queue]
    exact out.absent

theorem trans {first second third : Session} (earlier : TakesTurns first second)
    (later : TakesTurns second third) : TakesTurns first third := by
  intro start
  obtain ⟨middle, outs⟩ := earlier start
  obtain ⟨ended, stays⟩ := later middle
  exact ⟨ended, fun id out => stays id (outs id out)⟩

theorem quiet {event : Event} (quiet : event.Quiet) {before after : Session}
    (noted : before.Noted event after) : TakesTurns before after := by
  intro start
  refine ⟨⟨?_, ?_, ?_⟩, fun id out => ⟨?_, ?_⟩⟩
  · rw [noted.scheduler, noted.journal, queueAfter, quiet]
    exact start.queue
  · rw [noted.journal]
    exact .quiet start.ordered quiet
  · rw [noted.scheduler, noted.journal, registrations_cons quiet.isRegistration]
    exact start.next
  · rw [noted.journal, registrations_cons quiet.isRegistration]
    exact out.known
  · rw [noted.scheduler]
    exact out.absent

theorem registered {task : Task} {autoYield : Bool} {session after : Session}
    (noted : (session.registering task).Noted
      (.registered session.scheduler.ids.next task.name autoYield) after) :
    TakesTurns session after := by
  intro start
  have newest : session.scheduler.ids.next = ⟨registrations session.journal⟩ :=
    congrArg TaskId.mk start.next
  have journal : after.journal =
      .registered session.scheduler.ids.next task.name autoYield :: session.journal := noted.journal
  have queue : after.scheduler.queue.ids =
      session.scheduler.queue.ids ++ [session.scheduler.ids.next] := by
    rw [noted.scheduler]
    rfl
  have next : after.scheduler.ids.next.index = session.scheduler.ids.next.index + 1 := by
    rw [noted.scheduler]
    rfl
  refine ⟨⟨?_, ?_, ?_⟩, fun id out => ⟨?_, ?_⟩⟩
  · rw [queue, journal, start.queue]
    rfl
  · rw [journal, newest]
    exact .registered start.ordered _ _
  · rw [next, journal, registrations_registered, start.next]
  · rw [journal, registrations_registered]
    exact Nat.lt_succ_of_lt out.known
  · rw [queue]
    intro queued
    rcases List.mem_append.mp queued with older | here
    · exact out.absent older
    · have known := out.known
      rw [List.mem_singleton.mp here, newest] at known
      exact Nat.lt_irrefl _ known

theorem dequeued {id : TaskId} {remaining : Scheduler} {session after : Session}
    (front : session.scheduler.dequeue? = some (id, remaining))
    (noted : { session with scheduler := remaining }.Noted (.dequeued id) after) :
    session.InTurn → after.InTurn ∧ after.Out id ∧ ∀ other, session.Out other → after.Out other := by
  intro start
  obtain ⟨rest, ids, rfl⟩ := Scheduler.dequeue?_eq_some front
  have first : queueAfter session.journal = id :: rest := start.queue.symm.trans ids
  have journal : after.journal = .dequeued id :: session.journal := noted.journal
  have queue : after.scheduler.queue.ids = rest := by rw [noted.scheduler]
  have count : registrations after.journal = registrations session.journal := by
    rw [journal, registrations_cons rfl]
  refine ⟨⟨?_, ?_, ?_⟩, ⟨?_, ?_⟩, fun other out => ⟨?_, ?_⟩⟩
  · rw [queue, journal, queueAfter_dequeued first]
  · rw [journal]
    exact .dequeued start.ordered first
  · rw [count, noted.scheduler]
    exact start.next
  · rw [count]
    exact start.ordered.known (first ▸ List.mem_cons_self)
  · have distinct := start.ordered.nodup
    rw [first] at distinct
    rw [queue]
    exact (List.nodup_cons.mp distinct).1
  · rw [count]
    exact out.known
  · rw [queue]
    exact fun queued => out.absent (ids ▸ List.mem_cons_of_mem _ queued)

theorem requeued {id : TaskId} {left after : Session}
    (back : (Interpreter.requeueing id left).Noted (.requeued id) after) (start : left.InTurn)
    (out : left.Out id) :
    after.InTurn ∧ ∀ other, other ≠ id → left.Out other → after.Out other := by
  have journal : after.journal = .requeued id :: left.journal := back.journal
  have queue : after.scheduler.queue.ids = left.scheduler.queue.ids ++ [id] := by
    rw [back.scheduler]
    rfl
  have count : registrations after.journal = registrations left.journal := by
    rw [journal, registrations_cons rfl]
  refine ⟨⟨?_, ?_, ?_⟩, fun other different stays => ⟨?_, ?_⟩⟩
  · rw [queue, journal, start.queue]
    rfl
  · rw [journal]
    exact .requeued start.ordered out.known (start.queue ▸ out.absent)
  · rw [count, back.scheduler]
    exact start.next
  · rw [count]
    exact stays.known
  · rw [queue]
    intro queued
    rcases List.mem_append.mp queued with older | here
    · exact stays.absent older
    · exact different (List.mem_singleton.mp here)

end TakesTurns

theorem Closes.takesTurns {id : TaskId} {before after : Session} (closes : before.Closes id after) :
    before.TakesTurns after := by
  induction closes with
  | refl => exact .same rfl rfl rfl
  | completed idle unfinished payload => exact .same rfl rfl rfl
  | expired idle unfinished => exact .same rfl rfl rfl
  | noted _ aside noted ih => exact ih.trans (.quiet (Event.quiet_of_aside aside) noted)

theorem Proceeds.takesTurns {whole : Bool} {before after : Session}
    (proceeds : Proceeds whole before after) : before.TakesTurns after := by
  have reports {id : TaskId} {receiver : Option Receiver} {session : Session} :
      session.TakesTurns (session.reporting id receiver) := .same rfl rfl rfl
  induction proceeds with
  | aside scheduler journal =>
      exact .same (congrArg Scheduler.queue scheduler) (congrArg Scheduler.ids scheduler) journal
  | trans _ _ earlier later => exact earlier.trans later
  | noted aside noted => exact .quiet (Event.quiet_of_aside aside) noted
  | paused session => exact .same rfl rfl rfl
  | blocked session => exact .same rfl rfl rfl
  | registered fresh noted => exact .registered noted
  | marked id keeps session => exact .same rfl rfl rfl
  | stepped known => exact .same rfl rfl rfl
  | dequeued front noted =>
      intro start
      obtain ⟨turn, _, stays⟩ := TakesTurns.dequeued front noted start
      exact ⟨turn, stays⟩
  | @requeued id remaining before popped left after front noted _ back inside =>
      intro start
      obtain ⟨turn, out, stays⟩ := TakesTurns.dequeued front noted start
      obtain ⟨ended, outs⟩ := inside turn
      obtain ⟨again, others⟩ := TakesTurns.requeued back ended (outs id out)
      refine ⟨again, fun other absent => others other ?_ (outs other (stays other absent))⟩
      -- The task came out of the queue, so it is none of those that were out of it.
      rintro rfl
      obtain ⟨rest, ids, _⟩ := Scheduler.dequeue?_eq_some front
      exact absent.absent (ids ▸ List.mem_cons_self)
  | entered idle unfinished task => exact .same rfl rfl rfl
  | @left id task before left idle unfinished _ kept inside =>
      have enters : before.TakesTurns (before.enteringTask id task) := .same rfl rfl rfl
      exact (enters.trans inside).trans (.same rfl rfl rfl)
  | closed closes _ => exact closes.takesTurns
  | reported owes receiver => exact reports
  | finalized closes owes _ noted inside =>
      exact ((closes.takesTurns.trans reports).trans inside).trans (.quiet (fun _ => rfl) noted)

theorem inTurn_start (settings : Settings) (tick : Nat) : (start settings tick).InTurn :=
  ⟨rfl, .nil, rfl⟩

/-- No task is passed over in what has happened so far. -/
structure FairSoFar (session : Session) : Prop where
  /-- At every moment the queue is the one that the journal tells of. -/
  queue : session.scheduler.queue.ids = queueAfter session.journal
  /-- Between two turns of a task it was put back, and all who were in the queue then have had a
  turn since. -/
  between : ∀ id later since earlier,
    session.journal = later ++ .dequeued id :: (since ++ .dequeued id :: earlier) →
    .dequeued id ∉ since →
    .requeued id ∈ since ∧
      ∀ after before, since = after ++ .requeued id :: before →
        ∀ other ∈ queueAfter (before ++ .dequeued id :: earlier), .dequeued other ∈ after
  /-- First turns are had in the order of the numbers. -/
  first : ∀ id later earlier, session.journal = later ++ .dequeued id :: earlier →
    .dequeued id ∉ earlier → ∀ other : TaskId, other.index < id.index → .dequeued other ∈ earlier

theorem InTurn.fair {session : Session} (turn : session.InTurn) : session.FairSoFar where
  queue := turn.queue
  between := by
    intro id later since earlier journal never
    have ordered := turn.ordered
    rw [journal] at ordered
    have turns := ordered.of_append
    refine ⟨turns.put_back, ?_⟩
    rintro after before rfl
    rw [List.append_assoc, List.cons_append] at turns
    exact turns.passed fun had => never (List.mem_append_left _ had)
  first := by
    intro id later earlier journal never other smaller
    have ordered := turn.ordered
    rw [journal] at ordered
    exact ordered.of_append.first_turn never smaller

end Session

/-- No task starves. Whatever has been asked for, and whatever of it has been done so far, turns
have been given in order; this includes all moments of all runs of programs. -/
theorem no_task_starves :
    (∀ session : Session, session.Reachable → session.FairSoFar) ∧
    ∀ (depth : Nat) (program : Program) (settings : Settings) (clock : Clock) (budget : Option Nat),
      ((interpreter depth).runProgram program
        { Session.start settings 0 with clock, budget }).session.FairSoFar := by
  constructor
  · intro session reachable
    refine Session.InTurn.fair (reachable.upholds Session.inTurn_start ?_)
    intro before after proceeds turn
    exact (proceeds.takesTurns turn).1
  · intro depth program settings clock budget
    have start : { Session.start settings 0 with clock, budget }.InTurn := ⟨rfl, .nil, rfl⟩
    have proceeds := (runProgram_proceeds depth program).cut
      { Session.start settings 0 with clock, budget }
    exact (proceeds.takesTurns start).1.fair

def strolling : FunctionDecl where
  name := "stroll"
  params := []
  body := [.expression (.lit .void), .expression (.lit .void)]
  isAsync := true
  owner := none

def sideBySide : Session :=
  let first := ((interpreter 0).request (.spawn strolling []) (.start {} 0)).session
  let second := ((interpreter 0).request (.spawn strolling []) first).session
  ((interpreter 8).request .run second).session

theorem no_task_starves_sideBySide :
    ∃ later since earlier,
      sideBySide.journal = later ++ .dequeued ⟨0⟩ :: (since ++ .dequeued ⟨0⟩ :: earlier) ∧
      .dequeued ⟨0⟩ ∉ since ∧ .dequeued ⟨1⟩ ∈ since := by
  have reachable : sideBySide.Reachable :=
    (((Session.Reachable.start {} 0).requested rfl 0 (.spawn strolling [])).requested rfl 0
      (.spawn strolling [])).requested rfl 8 .run
  have fair := no_task_starves.1 sideBySide reachable
  have journal : sideBySide.journal =
      sideBySide.journal.take 6 ++ .dequeued ⟨0⟩ ::
        ((sideBySide.journal.drop 7).take 5 ++ .dequeued ⟨0⟩ :: sideBySide.journal.drop 13) := rfl
  have never : .dequeued ⟨0⟩ ∉ (sideBySide.journal.drop 7).take 5 := by decide
  refine ⟨_, _, _, journal, never, ?_⟩
  obtain ⟨_, passed⟩ := fair.between ⟨0⟩ _ _ _ journal never
  have had := passed ((sideBySide.journal.drop 7).take 3) ((sideBySide.journal.drop 11).take 1) rfl ⟨1⟩
    (by decide)
  exact List.mem_of_mem_take (List.take_take ▸ had : _ ∈ ((sideBySide.journal.drop 7).take 5).take 3)

end CooperativeTasks
