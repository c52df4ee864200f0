import CooperativeTasks.Proofs.Printing
import CooperativeTasks.Proofs.Tally

set_option autoImplicit false

/-! Tasks that take turns.

The queue rotates: the front has one step and goes to the end, or drops out when it is done. With
tasks whose steps each print one line the order of the turns is the order of what is printed. It is
first described for lists of any items, then followed turn by turn. -/

namespace CooperativeTasks

variable {α : Type}

/-! ### Rounds -/

def longest (lists : List (List α)) : Nat := (lists.map List.length).foldr max 0

/-- The first items of all lists, in the order of the lists, then the second ones of those that
have any, and so on. -/
def inRounds (lists : List (List α)) : List α :=
  (List.range (longest lists)).flatMap fun round => lists.filterMap fun items => items[round]?

/-- Takes the first item of the first list. What is left of that list goes to the end, until
nothing is left of it. -/
def rotated : List (List α) → List α
  | [] => []
  | items :: rest =>
      items.head?.toList ++ rotated (rest ++ [items.tail].filter fun left => !left.isEmpty)
termination_by lists => lists.flatten.length + lists.length
decreasing_by
  cases items with
  | nil => simp
  | cons item more =>
      cases more <;>
        · simp
          omega

theorem length_le_longest {lists : List (List α)} {items : List α} (member : items ∈ lists) :
    items.length ≤ longest lists := by
  unfold longest
  induction lists with
  | nil => cases member
  | cons first rest ih =>
      rcases List.mem_cons.mp member with rfl | member
      · exact Nat.le_max_left ..
      · exact Nat.le_trans (ih member) (Nat.le_max_right ..)

theorem rotated_append (front back : List (List α)) :
    rotated (front ++ back) =
      front.filterMap List.head? ++
        rotated (back ++ (front.map List.tail).filter fun left => !left.isEmpty) := by
  induction front generalizing back with
  | nil => simp
  | cons items rest ih =>
      rw [List.cons_append, rotated, List.append_assoc, ih, List.map_cons, List.filter_cons,
        List.append_assoc]
      cases items with
      | nil => simp [List.filterMap_cons]
      | cons item more => cases more <;> simp

theorem rotated_empty {lists : List (List α)} (empty : ∀ items ∈ lists, items = []) :
    rotated lists = [] := by
  induction lists with
  | nil => rw [rotated]
  | cons items rest ih =>
      rw [rotated, empty items List.mem_cons_self]
      simpa using ih fun other member => empty other (List.mem_cons_of_mem _ member)

theorem rotated_rounds {lists : List (List α)} {rounds : Nat}
    (within : ∀ items ∈ lists, items.length ≤ rounds) :
    rotated lists =
      (List.range rounds).flatMap fun round => lists.filterMap fun items => items[round]? := by
  induction rounds generalizing lists with
  | zero =>
      have empty (items : List α) (member : items ∈ lists) : items = [] :=
        List.length_eq_zero_iff.mp (Nat.le_zero.mp (within items member))
      rw [rotated_empty empty]
      rfl
  | succ rounds ih =>
      have left : ∀ items ∈ (lists.map List.tail).filter (fun left => !left.isEmpty),
          items.length ≤ rounds := by
        intro items member
        obtain ⟨whole, listed, rfl⟩ := List.mem_map.mp (List.mem_filter.mp member).1
        have := within whole listed
        rw [List.length_tail]
        omega
      have later (round : Nat) :
          ((lists.map List.tail).filter fun left => !left.isEmpty).filterMap
              (fun items => items[round]?) =
            lists.filterMap fun items => items[round + 1]? := by
        rw [List.filterMap_filter, List.filterMap_map]
        congr 1
        funext items
        cases items with
        | nil => simp
        | cons item more => cases more <;> simp
      have start := rotated_append lists []
      rw [List.append_nil, List.nil_append] at start
      rw [start, ih left, List.range_succ_eq_map, List.flatMap_cons, List.flatMap_map]
      simp only [later, ← List.head?_eq_getElem?]

/-- A queue that rotates takes the items in rounds. -/
theorem rotated_eq (lists : List (List α)) : rotated lists = inRounds lists :=
  rotated_rounds fun _ => length_le_longest

example : inRounds [[1, 2, 3], [], [4], [5, 6]] = [1, 4, 5, 2, 6, 3] := by rfl

/-! ### Turns -/

/-- The place at the end of the queue for a task that has something left to print. -/
def goingOn (id : TaskId) : List Value → List (TaskId × List Value)
  | [] => []
  | line :: more => [(id, line :: more)]

theorem goingOn_of_ne (id : TaskId) {lines : List Value} (more : lines ≠ []) :
    goingOn id lines = [(id, lines)] := by
  cases lines with
  | nil => exact absurd rfl more
  | cons line rest => rfl

theorem mem_goingOn {id other : TaskId} {lines left : List Value}
    (member : (other, left) ∈ goingOn id lines) : other = id := by
  cases lines with
  | nil => cases member
  | cons line rest => exact congrArg Prod.fst (List.mem_singleton.mp member)

theorem goingOn_lines (id : TaskId) (lines : List Value) :
    (goingOn id lines).map Prod.snd = [lines].filter fun left => !left.isEmpty := by
  cases lines <;> rfl

/-- A task has left to print what the queue says, and is done if it is not queued. -/
structure Task.Stands (queue : List (TaskId × List Value)) (id : TaskId) (total : Nat)
    (task : Task) : Prop where
  queued : ∀ lines, (id, lines) ∈ queue → task.Printing lines total
  ended : id ∉ queue.map Prod.fst → task.Printed total ∧ task.isPublished = true

/-- Printers on their way. -/
structure Session.Rotating (printers : List Printer) (queue : List (TaskId × List Value))
    (session : Session) : Prop where
  unlimited : session.budget = none
  active : session.scheduler.active = []
  tallied : session.scheduler.Tallied
  count : session.scheduler.tasks.length = printers.length
  ids : session.scheduler.queue.ids = queue.map Prod.fst
  distinct : (queue.map Prod.fst).Nodup
  known : ∀ id ∈ queue.map Prod.fst, id.index < printers.length
  tasks : ∀ (id : TaskId) printer, printers[id.index]? = some printer →
    ∃ task, session.scheduler.task? id = some task ∧ task.Stands queue id printer.lines.length

theorem Task.Stands.append {queue : List (TaskId × List Value)} {id other : TaskId} {total : Nat}
    {task : Task} (stands : task.Stands queue id total) (different : id ≠ other)
    (lines : List Value) : task.Stands (queue ++ [(other, lines)]) id total := by
  constructor
  · intro left member
    refine stands.queued left ((List.mem_append.mp member).resolve_right fun last => ?_)
    exact different (congrArg Prod.fst (List.mem_singleton.mp last))
  · intro gone
    refine stands.ended fun member => gone ?_
    rw [List.map_append]
    exact List.mem_append_left _ member

theorem Task.Stands.last {queue : List (TaskId × List Value)} {id : TaskId} {total : Nat}
    {task : Task} {lines : List Value} (absent : id ∉ queue.map Prod.fst)
    (printing : task.Printing lines total) : task.Stands (queue ++ [(id, lines)]) id total := by
  constructor
  · intro left member
    rcases List.mem_append.mp member with early | last
    · exact absurd (List.mem_map_of_mem early) absent
    · cases List.mem_singleton.mp last
      exact printing
  · intro gone
    rw [List.map_append] at gone
    exact absurd (List.mem_append_right _ List.mem_cons_self) gone

theorem Task.Stands.others {id other : TaskId} (different : other ≠ id) {lines : List Value}
    {rest : List (TaskId × List Value)} {total : Nat} {task : Task}
    (stands : task.Stands ((id, lines) :: rest) other total) {later : Task}
    (reported : task.ReportedAs later) :
    later.Stands (rest ++ goingOn id lines.tail) other total := by
  constructor
  · intro left member
    have queued : (other, left) ∈ rest :=
      (List.mem_append.mp member).resolve_right fun last => different (mem_goingOn last)
    exact (stands.queued left (List.mem_cons_of_mem _ queued)).reported reported
  · intro gone
    have absent : other ∉ ((id, lines) :: rest).map Prod.fst := by
      intro member
      apply gone
      rw [List.map_append]
      exact List.mem_append_left _ ((List.mem_cons.mp member).resolve_left different)
    obtain ⟨printed, published⟩ := stands.ended absent
    exact ⟨printed.reported reported, reported.1 published⟩

namespace Session.Rotating

variable {printers : List Printer} {id : TaskId} {lines : List Value}
  {rest : List (TaskId × List Value)} {session : Session}
  (rotating : session.Rotating printers ((id, lines) :: rest))

include rotating

theorem own_stands {total : Nat} {task : Task}
    (ended : lines.tail = [] → task.Printed total ∧ task.isPublished = true)
    (goesOn : lines.tail ≠ [] → task.Printing lines.tail total) :
    task.Stands (rest ++ goingOn id lines.tail) id total := by
  have absent := (List.nodup_cons.mp rotating.distinct).1
  cases left : lines.tail with
  | nil =>
      refine ⟨fun more member => ?_, fun _ => ended left⟩
      rw [goingOn, List.append_nil] at member
      exact absurd (List.mem_map_of_mem member) absent
  | cons line more =>
      rw [left] at goesOn
      exact .last absent (goesOn (List.cons_ne_nil line more))

theorem turned {after : Session} (unlimited : after.budget = none)
    (active : after.scheduler.active = []) (tallied : after.scheduler.Tallied)
    (count : after.scheduler.tasks.length = session.scheduler.tasks.length)
    (ids : after.scheduler.queue.ids = (rest ++ goingOn id lines.tail).map Prod.fst)
    (own : ∀ printer, printers[id.index]? = some printer → ∃ task,
      after.scheduler.task? id = some task ∧
        (lines.tail = [] → task.Printed printer.lines.length ∧ task.isPublished = true) ∧
        (lines.tail ≠ [] → task.Printing lines.tail printer.lines.length))
    (others : ∀ other task, other ≠ id → session.scheduler.task? other = some task →
      ∃ later, after.scheduler.task? other = some later ∧ task.ReportedAs later) :
    after.Rotating printers (rest ++ goingOn id lines.tail) := by
  obtain ⟨absent, distinct⟩ := List.nodup_cons.mp rotating.distinct
  have known := rotating.known
  constructor
  · exact unlimited
  · exact active
  · exact tallied
  · exact count.trans rotating.count
  · exact ids
  · cases lines.tail with
    | nil =>
        rw [goingOn, List.append_nil]
        exact distinct
    | cons line more =>
        rw [goingOn, List.map_append]
        exact Scheduler.nodup_push distinct absent
  · intro other member
    rw [List.map_append] at member
    rcases List.mem_append.mp member with early | last
    · exact known other (List.mem_cons_of_mem id early)
    · obtain ⟨entry, listed, rfl⟩ := List.mem_map.mp last
      rw [mem_goingOn listed]
      exact known id List.mem_cons_self
  · intro other printer present
    by_cases same : other = id
    · subst other
      obtain ⟨task, found, ended, goesOn⟩ := own printer present
      exact ⟨task, found, rotating.own_stands ended goesOn⟩
    · obtain ⟨task, found, stands⟩ := rotating.tasks other printer present
      obtain ⟨later, known, reported⟩ := others other task same found
      exact ⟨later, known, stands.others same reported⟩

theorem turn (depth : Nat) :
    ∃ after, (interpreter (depth + 2)).turn [] session = .done (some []) after ∧
      after.executor.output.toList =
        session.executor.output.toList ++ lines.head?.toList.map Value.text ∧
      after.Rotating printers (rest ++ goingOn id lines.tail) := by
  obtain ⟨printer, present⟩ : ∃ printer, printers[id.index]? = some printer :=
    ⟨_, List.getElem?_eq_getElem (rotating.known id List.mem_cons_self)⟩
  obtain ⟨task, found, stands⟩ := rotating.tasks id printer present
  have printing := stands.queued lines List.mem_cons_self
  obtain ⟨status, change, left, ran, stepped, output, ending⟩ :=
    @step_printing depth id task lines _ (Interpreter.popping id (rest.map Prod.fst) session) found
      printing rotating.unlimited
  have turned : (interpreter (depth + 2)).turn [] session =
      Interpreter.concluding id status left := by
    rw [Interpreter.turn_front rotating.ids rotating.active rotating.unlimited, ran]
    rfl
  have tallied {after : Session}
      (ended : (interpreter (depth + 2)).turn [] session = .done (some []) after) :
      after.scheduler.Tallied := by
    have proceeds := ((interpreter_deepens (Nat.le_refl (depth + 2))).related.turn []).proceeds session
    rw [ended] at proceeds
    exact Session.Proceeds.tallied proceeds rotating.tallied
  have unlimited : left.budget = none := stepped.budget.trans rotating.unlimited
  have active : left.scheduler.active = [] := stepped.active.trans rotating.active
  have count : left.scheduler.tasks.length = session.scheduler.tasks.length := by
    rw [stepped.tasks]
    exact List.length_modify ..
  have own : left.scheduler.task? id = some (change task) := stepped.task?_self found
  have others {other : TaskId} (different : other ≠ id) :
      left.scheduler.task? other = session.scheduler.task? other :=
    stepped.task?_of_ne different
  -- With its last line the task leaves the queue and is published, before that it goes to the end.
  rcases ending with ⟨rfl, last, printed⟩ | ⟨rfl, more, goesOn⟩
  · obtain ⟨after, finalized, reported, later, known, goesOn, published⟩ :=
      Act.Reports.finalize unlimited own printed.isFinished
    have concluded : Interpreter.concluding id .done left = .done (some []) after := by
      change (Act.finalize id >>= _ : Act (Option (List TaskId))) left = _
      rw [Act.bind_apply, finalized]
      rfl
    have ended := turned.trans concluded
    refine ⟨after, ended, ?_, rotating.turned ?_ ?_ (tallied ended) ?_ ?_ ?_ ?_⟩
    · rw [reported.output, output]
      rfl
    · exact reported.budget.trans unlimited
    · exact reported.active.trans active
    · exact reported.count.trans count
    · rw [reported.queue, stepped.queue, last, goingOn, List.append_nil]
      rfl
    · intro other same
      rw [present] at same
      cases same
      exact ⟨later, known, fun _ => ⟨printed.reported goesOn, published⟩,
        fun more => absurd last more⟩
    · intro other task different there
      exact reported.tasks other task ((others different).trans there)
  · have ended := turned.trans (Interpreter.concluding_pending unlimited id)
    refine ⟨_, ended, output, rotating.turned unlimited active (tallied ended) count ?_ ?_ ?_⟩
    · change left.scheduler.queue.ids ++ [id] = _
      rw [stepped.queue, List.map_append, goingOn_of_ne id more]
      rfl
    · intro other same
      rw [present] at same
      cases same
      exact ⟨_, own, fun last => absurd last more, fun _ => goesOn⟩
    · intro other task different there
      exact ⟨task, (others different).trans there, .refl task⟩

end Session.Rotating

/-- Turns enough for all tasks in a queue: one for each line, and one more for each task. -/
def turnsFor (queue : List (List Value)) : Nat := queue.flatten.length + queue.length

/-- The queue rotates until it is empty. Every turn is one of those that its queue takes. -/
theorem Session.Rotating.iterate (depth : Nat) {printers : List Printer} {turns : Nat} :
    ∀ {queue : List (TaskId × List Value)} {session : Session}, session.Rotating printers queue →
      turnsFor (queue.map Prod.snd) ≤ turns →
      ∃ after, Act.iterate (turns + 1) (interpreter (depth + 2)).turn [] session = .done () after ∧
        after.executor.output.toList =
          session.executor.output.toList ++ (rotated (queue.map Prod.snd)).map Value.text ∧
        after.Rotating printers [] := by
  -- On the turns, for all queues: what a turn leaves is again a queue of printers, for fewer turns.
  induction turns with
  | zero =>
      intro queue session rotating enough
      cases queue with
      | nil =>
          refine ⟨session, ?_, ?_, rotating⟩
          · rw [Act.iterate, Interpreter.turn_empty rotating.ids]
          · rw [List.map_nil, rotated, List.map_nil, List.append_nil]
      | cons entry rest => simp [turnsFor] at enough
  | succ turns ih =>
      intro queue session rotating enough
      rcases queue with _ | ⟨⟨id, lines⟩, rest⟩
      · refine ⟨session, ?_, ?_, rotating⟩
        · rw [Act.iterate, Interpreter.turn_empty rotating.ids]
        · rw [List.map_nil, rotated, List.map_nil, List.append_nil]
      · obtain ⟨between, turned, printed, goesOn⟩ := rotating.turn depth
        have left : (rest ++ goingOn id lines.tail).map Prod.snd =
            rest.map Prod.snd ++ [lines.tail].filter fun left => !left.isEmpty := by
          rw [List.map_append, goingOn_lines]
        have fewer : turnsFor ((rest ++ goingOn id lines.tail).map Prod.snd) ≤ turns := by
          rw [left]
          unfold turnsFor at enough ⊢
          rcases lines with _ | ⟨line, _ | ⟨next, more⟩⟩ <;> simp at enough ⊢ <;> omega
        obtain ⟨after, ran, output, ended⟩ := ih goesOn fewer
        refine ⟨after, ?_, ?_, ended⟩
        · rw [Act.iterate, turned]
          exact ran
        · rw [output, printed, left, List.map_cons, rotated, List.map_append, List.append_assoc]

/-! ### Registering -/

def Act.registerAll : List Task → Act Unit
  | [] => return
  | task :: rest => do
      let _ ← register task
      registerAll rest

def Interpreter.runRegistered (interpreter : Interpreter) (tasks : List Task) : Act Unit := do
  Act.registerAll tasks
  interpreter.run

theorem Act.driving_done {drive : Act Unit} {session after : Session}
    (unlimited : session.budget = none)
    (ran : drive (session.recorded (.driving session.scheduler.queue.size)) = .done () after)
    (still : after.budget = none) :
    (do
      note (.driving (← scheduler).queue.size)
      drive
      note .drained : Act Unit) session = .done () (after.recorded .drained) := by
  rw [scheduler_bind, bind_apply, note_unlimited unlimited]
  dsimp only
  rw [bind_apply, ran]
  exact note_unlimited still _

theorem Interpreter.run_done {interpreter : Interpreter} {session after : Session}
    (unlimited : session.budget = none)
    (ran : Act.iterate interpreter.turns interpreter.turn []
      (session.recorded (.driving session.scheduler.queue.size)) = .done () after)
    (still : after.budget = none) :
    interpreter.run session = .done () (after.recorded .drained) :=
  Act.driving_done unlimited ran still

theorem Session.Rotating.register {printers : List Printer} {queue : List (TaskId × List Value)}
    {session : Session} (rotating : session.Rotating printers queue) (printer : Printer) :
    ∃ id after, Act.register printer.task session = .done id after ∧
      after.executor.output = session.executor.output ∧
      after.Rotating (printers ++ [printer]) (queue ++ [(⟨printers.length⟩, printer.lines)]) := by
  have next : session.scheduler.ids.next = ⟨printers.length⟩ :=
    congrArg TaskId.mk (rotating.tallied.next.trans rotating.count)
  have ran := Act.register_unlimited rotating.unlimited printer.task
  -- Identities are given in the order of registration, so the new one is in no queue yet.
  have absent : (⟨printers.length⟩ : TaskId) ∉ queue.map Prod.fst :=
    fun member => Nat.lt_irrefl _ (rotating.known _ member)
  refine ⟨_, _, ran, rfl, ?_⟩
  constructor
  · exact rotating.unlimited
  · exact rotating.active
  · exact rotating.tallied.register printer.fresh
  · change (session.scheduler.register printer.task).2.tasks.length = _
    rw [Scheduler.length_register, rotating.count, List.length_append, List.length_singleton]
  · change session.scheduler.queue.ids ++ [session.scheduler.ids.next] = _
    rw [next, rotating.ids, List.map_append]
    rfl
  · rw [List.map_append]
    exact Scheduler.nodup_push rotating.distinct absent
  · intro id member
    rw [List.map_append] at member
    rw [List.length_append]
    rcases List.mem_append.mp member with early | last
    · exact Nat.lt_succ_of_lt (rotating.known id early)
    · rw [List.mem_singleton.mp last]
      exact Nat.lt_succ_self _
  · intro id other present
    change ∃ task, (session.scheduler.register printer.task).2.task? id = _ ∧ _
    rw [Scheduler.task?_register, rotating.count]
    by_cases new : id.index = printers.length
    · obtain rfl : id = ⟨printers.length⟩ := congrArg TaskId.mk new
      rw [List.getElem?_concat_length] at present
      cases present
      exact ⟨_, if_pos rfl, .last absent (printer.task_printing _ _)⟩
    · have within := (List.getElem?_eq_some_iff.mp present).1
      rw [List.length_append, List.length_singleton] at within
      rw [List.getElem?_append_left (by omega)] at present
      obtain ⟨task, found, stands⟩ := rotating.tasks id other present
      refine ⟨task, (if_neg new).trans found, stands.append ?_ _⟩
      rintro rfl
      exact new rfl

/-- The places of printers in the queue after they have been registered. -/
def placesFrom (first : Nat) : List Printer → List (TaskId × List Value)
  | [] => []
  | printer :: rest => (⟨first⟩, printer.lines) :: placesFrom (first + 1) rest

theorem placesFrom_lines (first : Nat) (printers : List Printer) :
    (placesFrom first printers).map Prod.snd = printers.map Printer.lines := by
  induction printers generalizing first with
  | nil => rfl
  | cons printer rest ih => exact congrArg (printer.lines :: ·) (ih (first + 1))

theorem Session.Rotating.registerAll (printers : List Printer) {earlier : List Printer}
    {queue : List (TaskId × List Value)} {session : Session}
    (rotating : session.Rotating earlier queue) :
    ∃ after, Act.registerAll (printers.map Printer.task) session = .done () after ∧
      after.executor.output = session.executor.output ∧
      after.Rotating (earlier ++ printers) (queue ++ placesFrom earlier.length printers) := by
  induction printers generalizing earlier queue session with
  | nil =>
      refine ⟨session, rfl, rfl, ?_⟩
      rw [placesFrom, List.append_nil, List.append_nil]
      exact rotating
  | cons printer rest ih =>
      obtain ⟨id, between, ran, same, goesOn⟩ := rotating.register printer
      obtain ⟨after, rests, output, ended⟩ := ih goesOn
      refine ⟨after, ?_, output.trans same, ?_⟩
      · rw [List.map_cons, Act.registerAll, Act.bind_apply, ran]
        exact rests
      · rw [List.length_append, List.append_assoc, List.append_assoc] at ended
        exact ended

/-! ### Whole runs -/

/-- All printers have come to their end, with all their lines printed in rounds. -/
structure Session.PrintedAll (printers : List Printer) (before after : Session) : Prop where
  queue : after.scheduler.queue.ids = []
  count : after.scheduler.tasks.length = printers.length
  tasks : ∀ (id : TaskId) printer, printers[id.index]? = some printer →
    ∃ task, after.scheduler.task? id = some task ∧ task.state = .finished ∧
      task.future = .ready .void ∧ task.steps = printer.lines.length
  steps : after.scheduler.statistics.stepsExecuted = (printers.flatMap Printer.lines).length
  completed : after.scheduler.statistics.tasksCompleted = printers.length
  output : after.executor.output.toList = before.executor.output.toList ++
    (inRounds (printers.map Printer.lines)).map Value.text

theorem Task.stepsOf_printed {printers : List Printer} {tasks : List Task}
    (count : tasks.length = printers.length)
    (printed : ∀ (place : Nat) (task : Task) (printer : Printer), tasks[place]? = some task →
      printers[place]? = some printer → task.steps = printer.lines.length) :
    stepsOf tasks = (printers.flatMap Printer.lines).length := by
  induction tasks generalizing printers with
  | nil =>
      rw [List.length_eq_zero_iff.mp count.symm]
      rfl
  | cons task rest ih =>
      cases printers with
      | nil => cases count
      | cons printer more =>
          have first : task.steps = printer.lines.length := printed 0 task printer rfl rfl
          have others := ih (Nat.succ.inj count) fun place => printed (place + 1)
          rw [stepsOf, first, others, List.flatMap_cons, List.length_append]

theorem Session.Rotating.ended {printers : List Printer} {before after : Session}
    (rotating : after.Rotating printers [])
    (output : after.executor.output.toList = before.executor.output.toList ++
      (inRounds (printers.map Printer.lines)).map Value.text) :
    before.PrintedAll printers after := by
  have done (id : TaskId) (printer : Printer) (present : printers[id.index]? = some printer) :
      ∃ task, after.scheduler.task? id = some task ∧ task.Printed printer.lines.length ∧
        task.isPublished = true := by
    obtain ⟨task, found, stands⟩ := rotating.tasks id printer present
    exact ⟨task, found, stands.ended List.not_mem_nil⟩
  constructor
  · exact rotating.ids
  · exact rotating.count
  · intro id printer present
    obtain ⟨task, found, printed, _⟩ := done id printer present
    refine ⟨task, found, ?_, printed.future, printed.steps⟩
    rw [Task.state, if_pos printed.isFinished]
  · rw [rotating.tallied.steps]
    refine Task.stepsOf_printed rotating.count fun place task printer known present => ?_
    obtain ⟨other, found, printed, _⟩ := done ⟨place⟩ printer present
    cases known.symm.trans found
    exact printed.steps
  · rw [rotating.tallied.completed, ← rotating.count]
    refine List.countP_eq_length.mpr fun task member => ?_
    obtain ⟨place, known, rfl⟩ := List.getElem_of_mem member
    have within : place < printers.length := rotating.count ▸ known
    obtain ⟨other, found, _, published⟩ := done ⟨place⟩ _ (List.getElem?_eq_getElem within)
    cases (List.getElem?_eq_getElem known).symm.trans found
    exact published
  · exact output

/-- Tasks that print take turns. Every round prints the next line of each task that has one left, in
the order of registration, however many tasks there are and however many lines each has. -/
theorem printers_take_turns (printers : List Printer) (settings : SchedulerSettings)
    (session : Session) (spare : Nat) :
    ∃ after,
      (interpreter (turnsFor (printers.map Printer.lines) + spare + 2)).runRegistered
          (printers.map Printer.task) (session.unoccupied settings) = .done () after ∧
        session.PrintedAll printers after := by
  have tallied : Scheduler.Tallied { settings } :=
    ⟨rfl, rfl, rfl, rfl, rfl, fun _ impossible => (nomatch impossible), Nat.le_refl 0⟩
  have fresh : (session.unoccupied settings).Rotating [] [] :=
    ⟨rfl, rfl, tallied, rfl, rfl, .nil, fun _ impossible => (nomatch impossible),
      fun _ _ impossible => (nomatch impossible)⟩
  obtain ⟨registered, queued, same, rotating⟩ := fresh.registerAll printers
  rw [List.nil_append, List.nil_append] at rotating
  let driving := registered.recorded (.driving registered.scheduler.queue.size)
  have drives : driving.Rotating printers (placesFrom 0 printers) :=
    ⟨rotating.unlimited, rotating.active, rotating.tallied, rotating.count, rotating.ids,
      rotating.distinct, rotating.known, rotating.tasks⟩
  have enough : turnsFor ((placesFrom 0 printers).map Prod.snd) ≤
      turnsFor (printers.map Printer.lines) + spare := by
    rw [placesFrom_lines]
    exact Nat.le_add_right ..
  obtain ⟨after, ran, output, ended⟩ := drives.iterate _ enough
  rw [placesFrom_lines, rotated_eq] at output
  refine ⟨after.recorded .drained, ?_, ?_⟩
  · rw [Interpreter.runRegistered, Act.bind_apply, queued]
    exact Interpreter.run_done rotating.unlimited ran ended.unlimited
  · apply Session.Rotating.ended
    · exact ⟨ended.unlimited, ended.active, ended.tallied, ended.count, ended.ids, ended.distinct,
        ended.known, ended.tasks⟩
    · exact output.trans (congrArg (·.toList ++ _) same)

end CooperativeTasks
