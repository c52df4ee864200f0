import CooperativeTasks.Proofs.Suspension

set_option autoImplicit false

/-! Statements that do not come to an end.

A plain statement that is halted outside of any task, by an interpreter of great depth, does not
come to an end in a task either, where an interpreter of some smaller depth runs it: however often
the task enters it again, it is suspended or halted. How much deeper the first interpreter has to
be depends on how often that may be. Only loops need the difference, since a loop that is entered
again may take as many turns as before. -/

namespace CooperativeTasks

theorem Act.Extends.same_or_halted {α : Type} {short long : Act α} (longer : Act.Extends short long)
    (session : Session) :
    short session = long session ∨ ∃ moment, short session = .halted moment := by
  have outcome := longer.outcome (some 0) session
  rw [Session.granted_zero] at outcome
  generalize short session = part at outcome ⊢
  generalize long session = whole at outcome ⊢
  cases outcome with
  | done value after =>
      rw [Session.granted_zero]
      exact .inl rfl
  | raised signal after =>
      rw [Session.granted_zero]
      exact .inl rfl
  | halted moment => exact .inr ⟨moment, rfl⟩

theorem Act.Extends.of_ended {α : Type} {short long : Act α} {session after : Session}
    {result : Except Signal α} (longer : Act.Extends short long)
    (ended : short session = .of after result) : long session = .of after result := by
  rcases longer.same_or_halted session with same | ⟨moment, halted⟩
  · exact same.symm.trans ended
  · rw [ended] at halted
    exact (Outcome.halted_of halted.symm).elim

theorem Act.ActsAlike.across {short long : Act Unit} (alike : short.ActsAlike)
    (longer : Act.Extends short long) {alone task : Session} (outside : alone.Alone)
    (inTask : task.InTask) (beside : alone.Beside task) :
    Outcome.Alike alone task (long alone) (short task) ∨
      ∃ moment, short task = .halted moment := by
  have both := alike alone task outside inTask beside
  rcases longer.same_or_halted alone with same | ⟨moment, halted⟩
  · rw [same] at both
    exact .inl both
  · rw [halted] at both
    exact .inr both.of_halted

namespace Segment

variable {segment : Segment}

/-- A run of the segment comes to a goal, or is halted, or is suspended, as long as it has not been
entered again more than `count` times. -/
inductive Pends (segment : Segment) (goal : Nat → Session → Outcome Unit → Prop) :
    Nat → Session → Outcome Unit → Prop where
  | met {count : Nat} {start : Session} {outcome : Outcome Unit}
      (reached : goal count start outcome) : Pends segment goal count start outcome
  | halted (count : Nat) (start moment : Session) : Pends segment goal count start (.halted moment)
  | suspended {count : Nat} {start after : Session} (runs : segment.Runs start after)
      (rests : segment.resting after.executor.positions)
      (resumes : ∀ fewer, fewer + 1 = count → ∀ resumed, segment.Resumes after resumed →
        Pends segment goal fewer resumed (segment.again resumed)) :
      Pends segment goal count start (.raised (.suspend true) after)

/-- A run of the segment does not come to an end. -/
abbrev Lasts (segment : Segment) : Nat → Session → Outcome Unit → Prop :=
  segment.Pends fun _ _ _ => False

/-- A run of the segment has come to its end, in a session beside `left`. -/
inductive Ended (segment : Segment) (result : Except Signal Unit) (left start : Session)
    (outcome : Outcome Unit) : Prop where
  | intro (after : Session) (completes : segment.Completes outcome result after)
      (beside : left.Beside after) (runs : segment.Runs start after) (clean : segment.Clean after)

/-- Where the first action is halted, outside of any task, the second one does not end in a task. -/
def Persists (segment : Segment) (limit : Nat) (direct first : Act Unit) : Prop :=
  ∀ alone task : Session, segment.Starts alone task → ∀ moment, direct alone = .halted moment →
    ∀ count ≤ limit, segment.Lasts count task (first task)

theorem Lasts.prepend {count : Nat} {first second : Session} {outcome : Outcome Unit}
    (before : segment.Runs first second) (lasts : segment.Lasts count second outcome) :
    segment.Lasts count first outcome := by
  cases lasts with
  | met reached => exact reached.elim
  | halted => exact .halted ..
  | suspended runs rests resumes => exact .suspended (before.trans runs) rests resumes

theorem Settles.pends {again : Act Unit} (longer : Act.Extends again segment.again)
    {result : Except Signal Unit} {left start : Session} {outcome part : Outcome Unit}
    (settles : segment.Settles result left start outcome)
    (here : part = outcome ∨ ∃ moment, part = .halted moment) (count : Nat) :
    Pends { segment with again } (fun _ => Ended { segment with again } result left) count start
      part := by
  induction settles generalizing part count with
  | @ended start after outcome completes beside runs clean =>
      rcases here with rfl | ⟨moment, rfl⟩
      · exact .met (.intro after (completes.widen fun allowed => allowed) beside
          (runs.widen fun _ inside => inside) clean)
      · exact .halted ..
  | @suspended start after runs rests resumes ih =>
      rcases here with rfl | ⟨moment, rfl⟩
      · refine .suspended (runs.widen fun _ inside => inside) rests ?_
        intro fewer _ resumed enters
        exact ih resumed { enters with } (longer.same_or_halted resumed) fewer
      · exact .halted ..

theorem Follows.pends {direct first part again : Act Unit} (follows : segment.Follows direct first)
    (longer : Act.Extends again segment.again) (shorter : Act.Extends part first)
    {alone task left : Session} (starts : Starts { segment with again } alone task)
    {result : Except Signal Unit} (run : direct alone = .of left result) (count : Nat) :
    alone.Calm result left ∧
      Pends { segment with again } (fun _ => Ended { segment with again } result left) count task
        (part task) := by
  obtain ⟨calm, settles⟩ := follows alone task (starts.narrow fun _ inside => inside) result left run
  exact ⟨calm, settles.pends longer (shorter.same_or_halted task) count⟩

section Enclose

variable {κ : Type} {outer inner : Segment} {wrap : κ → Outcome Unit → Outcome Unit} {entry : κ}
  {note : Positions → Positions} {frame : Positions → Prop}
  (encloses : outer.Encloses inner wrap entry note frame)
  (halts : ∀ case moment, wrap case (.halted moment) = .halted moment)

include encloses halts

/-- While the inner segment pends, the outer one does. It is in the case that it started in as long
as it has not been entered again. -/
theorem Pends.enclose {goal goal' : Nat → Session → Outcome Unit → Prop} {count : Nat}
    {start : Session} {outcome : Outcome Unit} (pends : inner.Pends goal count start outcome)
    (case : κ)
    (met : ∀ case' fewer {start : Session} {outcome : Outcome Unit},
      (case' = case ∧ fewer = count ∨ case' = entry ∧ fewer < count) → start.InTask →
        frame start.executor.positions → goal fewer start outcome →
          outer.Pends goal' fewer start (wrap case' outcome))
    (task : start.InTask) (framed : frame start.executor.positions) :
    outer.Pends goal' count start (wrap case outcome) := by
  induction pends generalizing case with
  | met reached => exact met case _ (.inl ⟨rfl, rfl⟩) task framed reached
  | halted count start moment =>
      rw [halts]
      exact .halted ..
  | @suspended count start after runs rests resumes ih =>
      obtain ⟨around, resting, again⟩ := encloses.suspended runs rests task framed
      rw [encloses.suspends]
      refine .suspended around resting ?_
      intro fewer one resumed enters
      obtain ⟨inside, inTask, framed', goesOn⟩ := again resumed enters
      rw [goesOn]
      refine ih fewer one resumed inside entry ?_ inTask framed'
      intro case' least start outcome which
      refine met case' least (.inr ?_)
      rcases which with ⟨here, same⟩ | ⟨here, less⟩
      · exact ⟨here, by omega⟩
      · exact ⟨here, by omega⟩

theorem Lasts.enclose {count : Nat} {start : Session} {outcome : Outcome Unit}
    (lasts : inner.Lasts count start outcome) (case : κ) (task : start.InTask)
    (framed : frame start.executor.positions) : outer.Lasts count start (wrap case outcome) :=
  Pends.enclose encloses halts lasts case (fun _ _ _ _ _ _ _ reached => reached.elim) task framed

end Enclose

end Segment

namespace Interpreter

variable {shallow deep : Interpreter} {limit : Nat}

/-- Plain statements that are halted outside of any task do not end in one. -/
def Lasting (limit : Nat) (shallow deep : Interpreter) : Prop :=
  ∀ path statement, statement.isPlain = true →
    (shallow.statementSegment path statement).Persists limit (deep.exec path statement)
      (shallow.exec path statement)

/-! ### Lists -/

section

variable (settling : deep.Settling) (deepens : shallow.DeepensTo deep)
  (lasting : Lasting limit shallow deep)

include settling deepens lasting

theorem execFrom_lasts {path : Path} {statements rest : List Stmt} {index : Nat}
    (plain : arePlain rest = true) (here : statements.drop index = rest) {alone task : Session}
    (starts : ListStarts path statements alone task) {moment : Session}
    (halted : deep.execFrom (.of path statements) path index rest alone = .halted moment)
    {count : Nat} (bounded : count ≤ limit) :
    (shallow.listSegment path statements).Lasts count task
      (shallow.execFrom (.of path statements) path index rest task) := by
  -- The statement at which the run outside is halted lasts; those before it settle and are passed.
  induction rest generalizing index alone task count with
  | nil => cases halted
  | cons statement rest ih =>
      have present := ne_nil_of_drop here
      have next := drop_succ_of_drop here
      simp only [arePlain, Bool.and_eq_true] at plain
      have waiting : Waiting path statements index task.executor.positions := starts.waiting present
      have head := @ListStarts.head shallow path statements index alone task starts present statement
      have encloses := @list_encloses shallow path statements index statement rest here
      have follows {result : Except Signal Unit} {left : Session}
          (run : deep.exec (.item index :: path) statement alone = .of left result) :=
        (settling (.item index :: path) statement plain.1).pends
          (deepens.exec _ statement).extends (deepens.exec _ statement).extends head run count
      rw [execFrom_cons] at halted ⊢
      rw [key_eq present] at halted ⊢
      cases run : deep.exec (.item index :: path) statement alone with
      | halted moment =>
          have lasts := lasting _ statement plain.1 alone task head moment run count bounded
          exact lasts.enclose encloses (fun _ _ => rfl) () starts.inTask waiting
      | raised signal middle =>
          obtain ⟨calm, -⟩ := @follows (.error signal) middle run
          rw [run, listEnding_broken] at halted
          · cases halted
          · intro fromLoop same
            exact calm.goesOn fromLoop (by rw [same])
      | done value middle =>
          rw [run] at halted
          obtain ⟨calm, pends⟩ := @follows (.ok ()) middle run
          have cleanMiddle (mark : Positions.Mark) (within : Positions.Within path statements mark) :
              middle.reads mark = none :=
            (calm.reads mark).trans (starts.cleanAlone mark within)
          have later {session : Session} (goesOn : ListStarts path statements middle session)
              {fewer : Nat} (within : fewer ≤ limit) :=
            ih plain.2 next goesOn (by rw [key_eq present]; exact halted) within
          rw [key_eq present] at later
          refine pends.enclose encloses (fun _ _ => rfl) () ?_ starts.inTask waiting
          intro _ fewer start outcome which inTask waits ended
          have within : fewer ≤ limit := by
            rcases which with ⟨-, same⟩ | ⟨-, less⟩ <;> omega
          obtain ⟨after, completes, beside, runs, clean⟩ := ended
          have goesOn := waits.starts present calm.alone cleanMiddle (runs.inTask inTask) beside
            runs clean
          cases completes with
          | done => exact (later goesOn within).prepend (runs.widen encloses.within)
          | yielded _ =>
              obtain ⟨marks, rests, again⟩ := @list_givesWay shallow _ _ _ present _ next _ _ goesOn
              refine .suspended ((runs.widen encloses.within).trans marks) rests ?_
              intro least less resumed resumes
              obtain ⟨started, same⟩ := again resumed resumes
              rw [same]
              exact later started (by omega)

theorem execBlock_persists (path : Path) {statements : List Stmt}
    (plain : arePlain statements = true) :
    (shallow.listSegment path statements).Persists limit (deep.execBlock path statements)
      (shallow.execBlock path statements) := by
  intro alone task starts moment halted count bounded
  rw [execBlock_apply, get?_of_clean starts.outside.tidy starts.cleanAlone] at halted
  rw [execBlock_apply, get?_of_clean starts.inTask.tidy starts.cleanTask]
  refine execFrom_lasts settling deepens lasting plain rfl ?_ halted bounded
  exact ⟨starts.outside, starts.inTask, starts.beside, starts.cleanAlone,
    fun mark within _ => starts.cleanTask mark within⟩

/-! ### Loops -/

omit settling lasting in
theorem entersBody_across (looks : shallow.LooksAt) {path : Path} {condition : Option Expr}
    {body : List Stmt} (tests : condition.all Expr.isPlain = true) {alone task : Session}
    (beside : alone.Beside task)
    (first : alone.executor.positions.get? (.of (.body :: path) body) = none)
    (second : task.executor.positions.get? (.of (.body :: path) body) = none) :
    Outcome.Looked (fun _ => True) alone task (deep.entersBody path condition body alone)
        (shallow.entersBody path condition body task) ∨
      shallow.entersBody path condition body task = .halted task := by
  have looked := entersBody_fresh looks tests beside first second
  rcases (deepens.related.entersBody path condition body).extends.same_or_halted alone with
    same | ⟨moment, halted⟩
  · rw [same] at looked
    exact .inl looked
  · exact .inr (looked.of_halted halted)

section Loops

variable {path : Path} {condition : Option Expr} {update : Option Stmt} {body : List Stmt}
  (part : (shallow.execPart (.update :: path) update).ActsAlike) {more : Nat}
  (later : ∀ {alone task moment : Session},
    (shallow.loopSegment path condition update body).Starts alone task →
    deep.looping path condition update body more alone = .halted moment →
    ∀ {turns count}, count * shallow.turns + turns ≤ more → turns ≤ shallow.turns → count ≤ limit →
      (shallow.loopSegment path condition update body).Lasts count task
        (shallow.looping path condition update body turns task))

include part later

omit settling lasting in
/-- A loop that gives way may take all of its turns anew, but it has been entered again then. -/
theorem nextIteration_lasts {alone task moment : Session}
    (starts : (shallow.loopSegment path condition update body).Starts alone task)
    (halted : deep.nextIteration path condition update body more alone = .halted moment)
    {turns count : Nat} (enough : count * shallow.turns + turns ≤ more)
    (within : turns ≤ shallow.turns) (bounded : count ≤ limit) :
    (shallow.loopSegment path condition update body).Lasts count task
      (shallow.nextIteration path condition update body turns task) := by
  unfold nextIteration at halted ⊢
  simp only [Act.bind_apply] at halted ⊢
  -- The update may be halted in the task where it is not outside, which is deeper.
  rcases part.across (deepens.related.execPart _ update).extends starts.outside starts.inTask
    starts.beside with alike | ⟨moment, run⟩
  · generalize deep.execPart (.update :: path) update alone = outcome at alike halted
    generalize shallow.execPart (.update :: path) update task = outcome' at alike ⊢
    cases alike with
    | halted _ moment => exact .halted ..
    | @ended other goesOn returned scopes futureless output =>
        cases other with
        | error signal => cases halted
        | ok value =>
            have middle : (shallow.loopSegment path condition update body).Starts
                (alone.showing scopes output) (task.showing scopes output) :=
              ⟨starts.outside.showing futureless output, starts.inTask.showing scopes output,
                ⟨rfl, rfl, starts.beside.structs⟩, starts.cleanAlone, starts.cleanTask⟩
            have before : (shallow.loopSegment path condition update body).Runs task
                (task.showing scopes output) :=
              .showing starts.inTask scopes output
            simp only [Outcome.of] at halted ⊢
            rw [endIteration_alone middle.outside.currentTask middle.outside.queue] at halted
            rw [endIteration_task middle.inTask]
            by_cases yields : (task.showing scopes output).executor.autoYield = true
            · rw [if_pos yields]
              refine .suspended (before.trans ?_) trivial ?_
              · exact ⟨rfl, rfl, starts.inTask.budget, starts.inTask.tidy, fun _ _ => rfl⟩
              · intro fewer one resumed resumes
                refine later ⟨middle.outside, resumes.inTask { middle.inTask with },
                  resumes.beside ⟨rfl, rfl, starts.beside.structs⟩, middle.cleanAlone, ?_⟩ halted ?_
                  (Nat.le_refl _) (by omega)
                · intro mark inside
                  exact (resumes.inside mark inside).trans (middle.cleanTask mark inside)
                · rw [← one, Nat.succ_mul] at enough
                  omega
            · rw [if_neg yields]
              exact (later middle halted enough within bounded).prepend before
  · rw [run]
    exact .halted ..

omit settling deepens lasting part later in
theorem loop_encloses_body {turns : Nat} (within : turns < shallow.turns) :
    (shallow.loopSegment path condition update body).Encloses
      (shallow.listSegment (.body :: path) body)
      (shallow.loopEnding path condition update body) (shallow.turns - 1)
      (fun positions => positions) (fun _ => True) := by
  have total : 0 + (shallow.turns - 1) + 1 = shallow.turns := by omega
  have encloses := @loop_encloses shallow path condition update body 0 (shallow.turns - 1) total
  simp only [Nat.zero_add] at encloses
  exact encloses

omit lasting in
theorem body_goesOn (plain : arePlain body = true) {alone middle task moment : Session}
    (starts : (shallow.loopSegment path condition update body).Starts alone task)
    {result : Except Signal Unit}
    (run : deep.execBlock (.body :: path) body alone = .of middle result)
    (ended : deep.nextIteration path condition update body more middle = .halted moment)
    (goesOn : ∀ turns outcome after,
      (shallow.listSegment (.body :: path) body).Completes outcome result after →
        shallow.loopEnding path condition update body turns outcome =
          shallow.nextIteration path condition update body turns after)
    {turns count : Nat} (enough : count * shallow.turns + turns ≤ more)
    (within : turns < shallow.turns) (bounded : count ≤ limit) :
    (shallow.loopSegment path condition update body).Lasts count task
      (shallow.loopEnding path condition update body turns
        (shallow.execBlock (.body :: path) body task)) := by
  have longer := (deepens.related.execBlock (.body :: path) body).extends
  obtain ⟨calm, pends⟩ := (execBlock_follows settling (.body :: path) plain).pends longer longer
    (loop_starts_body starts) run count
  refine pends.enclose (loop_encloses_body within) (fun _ _ => rfl) turns ?_ starts.inTask trivial
  intro left fewer start outcome which inTask _ ended'
  obtain ⟨after, completes, beside, runs, clean⟩ := ended'
  have enough' : fewer * shallow.turns + left ≤ more := by
    rcases which with ⟨rfl, rfl⟩ | ⟨rfl, less⟩
    · exact enough
    · have below := Nat.mul_le_mul_right shallow.turns less
      rw [Nat.succ_mul] at below
      omega
  have within' : left ≤ shallow.turns := by
    rcases which with ⟨rfl, -⟩ | ⟨rfl, -⟩ <;> omega
  have bounded' : fewer ≤ limit := by
    rcases which with ⟨-, rfl⟩ | ⟨-, less⟩ <;> omega
  rw [goesOn _ _ _ completes]
  refine (nextIteration_lasts deepens part later ⟨calm.alone, runs.inTask inTask, beside, ?_,
    clean⟩ ended enough' within' bounded').prepend (runs.widen fun _ inside => inside)
  intro mark inside
  exact (calm.reads mark).trans (starts.cleanAlone mark inside)

theorem body_lasts (plain : arePlain body = true) {alone task moment : Session}
    (starts : (shallow.loopSegment path condition update body).Starts alone task)
    (halted : deep.loopEnding path condition update body more
      (deep.execBlock (.body :: path) body alone) = .halted moment)
    {turns count : Nat} (enough : count * shallow.turns + turns ≤ more)
    (within : turns < shallow.turns) (bounded : count ≤ limit) :
    (shallow.loopSegment path condition update body).Lasts count task
      (shallow.loopEnding path condition update body turns
        (shallow.execBlock (.body :: path) body task)) := by
  cases run : deep.execBlock (.body :: path) body alone with
  | halted moment =>
      have inner := execBlock_persists settling deepens lasting _ plain alone task
        (loop_starts_body starts) moment run count bounded
      exact inner.enclose (loop_encloses_body within) (fun _ _ => rfl) turns starts.inTask trivial
  | done value middle =>
      rw [run] at halted
      have ran : deep.execBlock (.body :: path) body alone = .of middle (.ok ()) := run
      refine body_goesOn settling deepens part later plain starts ran halted ?_ enough within bounded
      intro turns outcome after completes
      cases completes with
      | done => rfl
      | yielded impossible => exact impossible.elim
  | raised signal middle =>
      rw [run] at halted
      cases signal with
      | continueLoop =>
          have ran : deep.execBlock (.body :: path) body alone = .of middle (.error .continueLoop) :=
            run
          refine body_goesOn settling deepens part later plain starts ran halted ?_ enough within
            bounded
          intro turns outcome after completes
          cases completes
          rfl
      | _ => cases halted

end Loops

theorem looping_lasts (looks : shallow.LooksAt) {path : Path} {condition : Option Expr}
    {update : Option Stmt} {body : List Stmt} (tests : condition.all Expr.isPlain = true)
    (plain : arePlain body = true) (part : (shallow.execPart (.update :: path) update).ActsAlike)
    {alone task moment : Session}
    (starts : (shallow.loopSegment path condition update body).Starts alone task) {more : Nat}
    (halted : deep.looping path condition update body more alone = .halted moment)
    {turns count : Nat} (enough : count * shallow.turns + turns ≤ more)
    (within : turns ≤ shallow.turns) (bounded : count ≤ limit) :
    (shallow.loopSegment path condition update body).Lasts count task
      (shallow.looping path condition update body turns task) := by
  induction more generalizing alone task moment turns count with
  | zero =>
      obtain rfl : turns = 0 := by omega
      exact .halted ..
  | succ more ih =>
      cases turns with
      | zero => exact .halted ..
      | succ turns =>
          rw [looping_succ] at halted ⊢
          rcases entersBody_across deepens looks tests starts.beside
            (@get?_of_clean deep _ _ _ starts.outside.tidy starts.cleanAlone)
            (@get?_of_clean deep _ _ _ starts.inTask.tidy starts.cleanTask) with looked | run
          · generalize deep.entersBody path condition body alone = tested at looked halted
            generalize shallow.entersBody path condition body task = tested' at looked ⊢
            cases looked with
            | halted => exact .halted ..
            | raised cause => cases halted
            | done enters =>
                cases enters with
                | false => cases halted
                | true =>
                    exact body_lasts settling deepens lasting part
                      (fun starts halted => ih starts halted)
                      plain starts halted (by omega) within bounded
          · rw [run]
            exact .halted ..

theorem execLoop_persists (looks : shallow.LooksAt) {path : Path} {condition : Option Expr}
    {update : Option Stmt} {body : List Stmt} (tests : condition.all Expr.isPlain = true)
    (plain : arePlain body = true) (part : (shallow.execPart (.update :: path) update).ActsAlike)
    (enough : (limit + 1) * shallow.turns ≤ deep.turns) :
    (shallow.loopSegment path condition update body).Persists limit
      (deep.execLoop path condition update body) (shallow.execLoop path condition update body) := by
  intro alone task starts moment halted count bounded
  refine looping_lasts settling deepens lasting looks tests plain part starts halted ?_
    (Nat.le_refl _) bounded
  have fewer := Nat.mul_le_mul_right shallow.turns bounded
  rw [Nat.succ_mul] at enough
  omega

end

theorem leaveLoop_passes (key : ListKey) (init : Option Stmt) (result : Except Signal Unit)
    (session : Session) : ∃ after, leaveLoop key init result session = .of after result := by
  by_cases goesOn : ∀ fromLoop, result ≠ .error (.suspend fromLoop)
  · exact ⟨_, leaveLoop_apply goesOn session⟩
  · simp only [ne_eq, Classical.not_forall, Classical.not_not] at goesOn
    obtain ⟨fromLoop, rfl⟩ := goesOn
    exact ⟨session, rfl⟩

theorem forEnding_halted {key : ListKey} {init : Option Stmt} {outcome : Outcome Unit}
    {moment : Session} (halted : forEnding key init outcome = .halted moment) :
    ∃ moment', outcome = .halted moment' := by
  cases outcome with
  | halted moment' => exact ⟨moment', rfl⟩
  | done value after =>
      obtain ⟨left, passes⟩ := leaveLoop_passes key init (.ok ()) after
      change leaveLoop key init (.ok ()) after = _ at halted
      rw [passes] at halted
      cases halted
  | raised signal after =>
      obtain ⟨left, passes⟩ := leaveLoop_passes key init (.error signal) after
      change leaveLoop key init (.error signal) after = _ at halted
      rw [passes] at halted
      cases halted

end Interpreter

/-! ### All statements -/

section

variable {depth deep limit : Nat} (deeper : depth ≤ deep) (path : Path)

section Parts

variable (lasting : Interpreter.Lasting limit (interpreter depth) (interpreter deep))

include deeper lasting

theorem list_lasts {statement : Stmt} {turn : Turn} {list : List Stmt} (plain : arePlain list = true)
    (enters : ∀ resumed : Session, resumed.executor.positions.Tidy →
      (resumed.executor.positions.get? (.of (turn :: path) list)).isSome = true →
      Segment.CleanBetween ((interpreter (depth + 1)).statementSegment path statement)
        ((interpreter depth).listSegment (turn :: path) list) resumed.executor.positions →
      (interpreter depth).perform path statement resumed =
        (interpreter depth).execBlock (turn :: path) list resumed)
    {alone task moment : Session}
    (starts : ((interpreter (depth + 1)).statementSegment path statement).Starts alone task)
    (halted : (interpreter deep).execBlock (turn :: path) list alone = .halted moment)
    {count : Nat} (bounded : count ≤ limit) :
    ((interpreter (depth + 1)).statementSegment path statement).Lasts count task
      ((interpreter depth).execBlock (turn :: path) list task) := by
  have inner := Interpreter.execBlock_persists (interpreter_settling deep)
    (interpreter_deepens deeper) lasting (turn :: path) plain alone task
    (starts.narrow fun _ => Positions.under_of_within) moment halted count bounded
  refine inner.enclose (Segment.encloses_pass (fun _ => Positions.under_of_within)
    (fun _ _ => trivial) ?_) (fun _ _ => rfl) () starts.inTask
    fun mark inside _ => starts.cleanTask mark inside
  intro left resumed rests between resumes
  rw [exec_resumed path resumes]
  exact enters resumed resumes.tidy (Interpreter.marked_resumed resumes rests) between

theorem execIf_persists {condition : Expr} {thenBranch elseBranch : List Stmt}
    (plain : (Stmt.ifThen condition thenBranch elseBranch).isPlain = true) :
    ((interpreter (depth + 1)).statementSegment path
        (.ifThen condition thenBranch elseBranch)).Persists limit
      ((interpreter deep).execIf path condition thenBranch elseBranch)
      ((interpreter depth).execIf path condition thenBranch elseBranch) := by
  intro alone task starts moment halted count bounded
  simp only [Stmt.isPlain, Bool.and_eq_true] at plain
  have tests := @if_tests deep path condition thenBranch elseBranch alone starts.outside.tidy
    starts.cleanAlone
  rw [tests, Act.bind_apply] at halted
  rw [if_tests path starts.inTask.tidy starts.cleanTask, Act.bind_apply]
  have looked := Interpreter.evalCondition_looks (interpreter_looks depth) plain.1.1 alone task
    starts.beside.lookups starts.beside.structs
  have tests := (interpreter_deepens deeper).related.evalCondition condition
  have shorter := tests.extends.same_or_halted alone
  generalize (interpreter depth).evalCondition condition alone = tested at looked shorter
  generalize (interpreter depth).evalCondition condition task = tested' at looked ⊢
  cases looked with
  | halted => exact .halted ..
  | raised cause =>
      rcases shorter with same | ⟨moment, cut⟩
      · rw [← same] at halted
        cases halted
      · cases cut
  | done truth =>
      rcases shorter with same | ⟨moment, cut⟩
      · rw [← same] at halted
        cases truth with
        | true =>
            refine list_lasts deeper path lasting plain.1.2 ?_ starts halted bounded
            intro resumed _ marked _
            exact Interpreter.execIf_eq_then marked
        | false =>
            refine list_lasts deeper path lasting plain.2 ?_ starts halted bounded
            intro resumed tidy marked between
            exact if_resumes_else path tidy marked between
      · cases cut

theorem block_persists {body : List Stmt} (plain : (Stmt.block body).isPlain = true) :
    ((interpreter (depth + 1)).statementSegment path (.block body)).Persists limit
      ((interpreter deep).execBlock (.body :: path) body)
      ((interpreter depth).execBlock (.body :: path) body) := by
  intro alone task starts moment halted count bounded
  exact list_lasts deeper path lasting plain (fun _ _ _ _ => rfl) starts halted bounded

section Loops

variable (enough : (limit + 1) * (interpreter depth).turns ≤ (interpreter deep).turns)

include enough

theorem whileLoop_persists {condition : Expr} {body : List Stmt}
    (plain : (Stmt.whileLoop condition body).isPlain = true) :
    ((interpreter (depth + 1)).statementSegment path (.whileLoop condition body)).Persists limit
      ((interpreter deep).execLoop path (some condition) none body)
      ((interpreter depth).execLoop path (some condition) none body) := by
  intro alone task starts moment halted count bounded
  simp only [Stmt.isPlain, Bool.and_eq_true] at plain
  have inner := @Interpreter.execLoop_persists _ _ _ (interpreter_settling deep)
    (interpreter_deepens deeper) lasting (interpreter_looks depth) path (some condition) none body
    plain.1 plain.2 .pure enough alone task (starts.narrow fun _ => Positions.under_of_within)
    moment halted count bounded
  refine inner.enclose (Segment.encloses_pass (fun _ => Positions.under_of_within)
    (fun _ _ => trivial) ?_) (fun _ _ => rfl) () starts.inTask
    fun mark inside _ => starts.cleanTask mark inside
  intro left resumed _ _ resumes
  exact exec_resumed path resumes

theorem forLoop_persists {init : Option Stmt} {condition : Option Expr} {update : Option Stmt}
    {body : List Stmt} (plain : (Stmt.forLoop init condition update body).isPlain = true) :
    ((interpreter (depth + 1)).statementSegment path
        (.forLoop init condition update body)).Persists limit
      ((interpreter deep).execFor path init condition update body)
      ((interpreter depth).execFor path init condition update body) := by
  intro alone task starts moment halted count bounded
  simp only [Stmt.isPlain, Bool.and_eq_true] at plain
  obtain ⟨⟨⟨starting, tests⟩, updating⟩, inside⟩ := plain
  rw [Interpreter.execFor_fresh (for_unentered path starts.cleanAlone)] at halted
  rw [Interpreter.execFor_fresh (for_unentered path starts.cleanTask)]
  rcases (@execPart_alike depth (.init :: path) init starting).across
    ((interpreter_deepens deeper).related.execPart _ init).extends starts.outside starts.inTask
    starts.beside with alike | ⟨moment, run⟩
  · generalize (interpreter deep).execPart (.init :: path) init alone = outcome at alike halted
    generalize (interpreter depth).execPart (.init :: path) init task = outcome' at alike ⊢
    cases alike with
    | halted _ moment => exact .halted ..
    | @ended other goesOn returned scopes futureless output =>
        cases other with
        | error signal => cases halted
        | ok value =>
            have calm := starts.outside.calm_showing goesOn returned futureless output
            have entered : ((interpreter (depth + 1)).statementSegment path
                (.forLoop init condition update body)).Starts (alone.showing scopes output)
                (task.showing scopes output) :=
              ⟨calm.alone, starts.inTask.showing scopes output, ⟨rfl, rfl, starts.beside.structs⟩,
                starts.cleanAlone, starts.cleanTask⟩
            obtain ⟨moment, inLoop⟩ := Interpreter.forEnding_halted halted
            have lasts := Interpreter.execLoop_persists (interpreter_settling deep)
              (interpreter_deepens deeper) lasting (interpreter_looks depth) tests inside
              (execPart_alike (.update :: path) update updating) enough _ _ (loop_starts path entered)
              moment inLoop count bounded
            have before := (loop_entered path entered)
            have whole := lasts.enclose (@for_encloses depth path init condition update body)
              (fun _ _ => rfl) () (before.inTask entered.inTask)
              (Interpreter.InLoop.enter entered.cleanTask)
            exact (whole.prepend before).prepend (.showing starts.inTask scopes output)
  · rw [run]
    exact .halted ..

end Loops

end Parts

include deeper

theorem direct_persists {statement : Stmt} (direct : statement.isDirect = true) :
    ((interpreter (depth + 1)).statementSegment path statement).Persists limit
      ((interpreter deep).perform path statement) ((interpreter depth).perform path statement) := by
  intro alone task starts moment halted count bounded
  have alike := (interpreter_looks depth).perform path direct
  rcases alike.across ((interpreter_deepens deeper).perform path statement).extends starts.outside
    starts.inTask starts.beside with both | ⟨moment, run⟩
  · rw [halted] at both
    obtain ⟨moment, run⟩ := both.of_halted
    rw [run]
    exact .halted ..
  · rw [run]
    exact .halted ..

theorem perform_persists (lasting : Interpreter.Lasting limit (interpreter depth) (interpreter deep))
    (enough : (limit + 1) * (interpreter depth).turns ≤ (interpreter deep).turns) {statement : Stmt}
    (plain : statement.isPlain = true) :
    ((interpreter (depth + 1)).statementSegment path statement).Persists limit
      ((interpreter deep).perform path statement) ((interpreter depth).perform path statement) := by
  cases statement with
  | letVar name value => exact direct_persists deeper path plain
  | assign target value => exact direct_persists deeper path plain
  | expression value => exact direct_persists deeper path plain
  | print value => exact direct_persists deeper path plain
  | returning value => exact direct_persists deeper path plain
  | breakLoop => exact direct_persists deeper path rfl
  | continueLoop => exact direct_persists deeper path rfl
  | yield =>
      intro alone task starts moment halted
      rw [yield_alone path starts.outside.currentTask starts.outside.queue] at halted
      cases halted
  | ifThen condition thenBranch elseBranch => exact execIf_persists deeper path lasting plain
  | whileLoop condition body => exact whileLoop_persists deeper path lasting enough plain
  | forLoop init condition update body => exact forLoop_persists deeper path lasting enough plain
  | block body => exact block_persists deeper path lasting plain

end

theorem turns_enough {limit depth deep : Nat} (enough : (limit + 1) * (depth + 1) ≤ deep) :
    (limit + 1) * (interpreter depth).turns ≤ (interpreter deep).turns := by
  cases depth with
  | zero => exact Nat.zero_le _
  | succ depth =>
      obtain ⟨deep, rfl⟩ : ∃ more, deep = more + 1 :=
        ⟨deep - 1, by
          have positive : 0 < (limit + 1) * (depth + 1 + 1) := Nat.mul_pos (by omega) (by omega)
          omega⟩
      change (limit + 1) * depth ≤ deep
      simp only [Nat.mul_succ] at enough
      omega

/-- A plain statement that is halted outside of any task, however deep it may go there, does not end
in a task. -/
theorem interpreter_lasting {limit depth deep : Nat} (enough : (limit + 1) * (depth + 1) ≤ deep) :
    Interpreter.Lasting limit (interpreter depth) (interpreter deep) := by
  -- Every level of the task needs as many levels outside as the loops on it may be entered again.
  induction depth generalizing deep with
  | zero => exact fun _ _ _ _ _ _ _ _ _ _ => .halted ..
  | succ depth ih =>
      rw [Nat.mul_succ] at enough
      obtain ⟨deep, rfl⟩ : ∃ more, deep = more + 1 := ⟨deep - 1, by omega⟩
      have inner : (limit + 1) * (depth + 1) ≤ deep := by omega
      have deeper : depth ≤ deep :=
        Nat.le_trans (Nat.le_trans (Nat.le_succ depth) (Nat.le_mul_of_pos_left _ limit.succ_pos)) inner
      intro path statement plain alone task starts moment halted
      rw [interpreter_exec starts.outside.budget] at halted
      rw [interpreter_exec starts.inTask.budget]
      exact perform_persists deeper path (ih inner) (turns_enough inner) plain alone task starts moment
        halted

end CooperativeTasks
