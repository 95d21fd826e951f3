import SpecterCloud.Foundations.ConcurrentPrograms
import Mathlib.Data.List.Induction
import Mathlib.Logic.Relation

/-! What holds in every interleaving of programs: what each of them ensures, what its statements
keep, and that no committed entry of a log is lost or doubled.
-/

namespace SpecterCloud.Foundations

variable {Attempt Stmt Db Err α : Type}

/-- A statement is allowed after others that were. -/
theorem AllowedAfter.snoc {allowed : List Stmt → Stmt → Prop} {statements : List Stmt}
    {statement : Stmt} (before : AllowedAfter allowed [] statements)
    (last : allowed statements statement)
    : AllowedAfter allowed [] (statements ++ [statement]) := by
  intro earlier other later same
  rcases List.eq_nil_or_concat later with rfl | ⟨rest, final, rfl⟩
  · obtain ⟨rfl, only⟩ := List.append_inj' same rfl
    cases only
    exact last
  · rw [List.concat_eq_append, ← List.cons_append, ← List.append_assoc] at same
    obtain ⟨rfl, _⟩ := List.append_inj' same rfl
    exact before earlier other rest rfl

/-- What is allowed of all statements is allowed of the first ones. -/
theorem AllowedAfter.left {allowed : List Stmt → Stmt → Prop} {first second : List Stmt}
    (all : AllowedAfter allowed [] (first ++ second))
    : AllowedAfter allowed [] first := by
  rintro earlier statement later rfl
  exact all earlier statement (later ++ second) (by simp)

@[simp]
theorem replay_nil (run : Stmt → Db → Except Err Db) (db : Db) : replay run [] db = db := rfl

/-- The last statement is on top of the others. -/
theorem replay_snoc (run : Stmt → Db → Except Err Db) (statements : List Stmt)
    (statement : Stmt) (db : Db)
    : replay run (statements ++ [statement]) db
      = (run statement (replay run statements db)).toOption.getD (replay run statements db) := by
  simp [replay]

-----------------------------------------------------------------------------------------
-- Steps keep what programs ensure
-----------------------------------------------------------------------------------------

section Steps

variable {run : Stmt → Db → Except Err Db} {allowed : List Stmt → Stmt → Prop}
  {returns : List Stmt → List Stmt → α → Prop} {raises : List Stmt → Err → Prop}
  {stage next : Stage Stmt Db Err α} {view : Db} {committed : List Stmt}

/-- The program at the stage ensures how it ends, and what it has open is allowed. -/
structure Stage.Ensures (run : Stmt → Db → Except Err Db) (allowed : List Stmt → Stmt → Prop)
    (returns : List Stmt → List Stmt → α → Prop) (raises : List Stmt → Err → Prop)
    (committed : List Stmt) (stage : Stage Stmt Db Err α)
    : Prop where
  rest : stage.rest.Ensures run allowed returns raises committed stage.opened
  opened : AllowedAfter allowed [] stage.opened

theorem Stage.Ensures.raised {error : Err} (fits : raises committed error)
    : (Stage.raised error : Stage Stmt Db Err α).Ensures run allowed returns raises committed :=
  ⟨fits, by simp [AllowedAfter, Stage.raised, Stage.opened]⟩

/-- A program that is about to flush raises what fits when a statement is refused. -/
theorem Program.Ensures.refused {program : Program Stmt Db Err α} {opened : List Stmt}
    (ensures : program.Ensures run allowed returns raises committed opened)
    (flushes : program.Flushes) {statement : Stmt} (member : statement ∈ opened) {db : Db}
    {error : Err} (ran : run statement db = .error error)
    : raises committed error := by
  cases program with
  | flush next => exact ensures.1 statement member db error ran
  | commit next => exact ensures.1 statement member db error ran
  | done | raise | select | add => exact flushes.elim

/-- Every move but a commit keeps what is ensured. -/
theorem Stage.Moves.ensures (moves : Stage.Moves run view stage next)
    (before : stage.Ensures run allowed returns raises committed)
    : next.Ensures run allowed returns raises committed := by
  obtain ⟨rest, opened⟩ := before
  cases moves with
  | selected answers => exact ⟨(rest view).2 answers, opened⟩
  | failed fails_ => exact .raised ((rest view).1 _ fails_)
  | @added sent pending statement next =>
      have same
          : (⟨sent, pending ++ [statement], next⟩ : Stage Stmt Db Err α).opened
            = (sent ++ pending) ++ [statement] :=
        (List.append_assoc _ _ _).symm
      refine ⟨?_, ?_⟩
      · rw [same]
        exact rest.2
      · rw [same]
        exact opened.snoc rest.1
  | flushed => exact ⟨rest.2, opened⟩
  | @sent sent more statement rest_ after flushes ran =>
      have same
          : (⟨sent ++ [statement], more, rest_⟩ : Stage Stmt Db Err α).opened
            = sent ++ statement :: more := by
        simp [Stage.opened]
      refine ⟨?_, ?_⟩
      · rw [same]
        exact rest
      · rw [same]
        exact opened
  | refused flushes ran =>
      exact .raised (rest.refused flushes (by simp [Stage.opened]) ran)

end Steps

-----------------------------------------------------------------------------------------
-- In every interleaving
-----------------------------------------------------------------------------------------

section Interleavings

variable [DecidableEq Attempt] {run : Stmt → Db → Except Err Db}
  {allowed : List Stmt → Stmt → Prop} {returns : Attempt → List Stmt → List Stmt → α → Prop}
  {raises : Attempt → List Stmt → Err → Prop} {backend after : Backend Attempt Stmt Db Err α}
  {i : Attempt}

/-- Every program ensures how it ends, and committed transactions were allowed. -/
structure Backend.Ensures (run : Stmt → Db → Except Err Db) (allowed : List Stmt → Stmt → Prop)
    (returns : Attempt → List Stmt → List Stmt → α → Prop)
    (raises : Attempt → List Stmt → Err → Prop) (backend : Backend Attempt Stmt Db Err α)
    : Prop where
  stages
    : ∀ i, (backend.stages i).Ensures run allowed (returns i) (raises i) (backend.committed i)
  commits : ∀ entry ∈ backend.commits, AllowedAfter allowed [] entry.2

theorem Backend.moved_committed (backend : Backend Attempt Stmt Db Err α) (i j : Attempt)
    (stage : Stage Stmt Db Err α)
    : (backend.moved i stage).committed j = backend.committed j :=
  rfl

/-- A commit adds its transaction to those of its program. -/
theorem Backend.committing_committed (backend : Backend Attempt Stmt Db Err α) (i j : Attempt)
    (sent : List Stmt) (next : Program Stmt Db Err α)
    : (backend.committing run i sent next).committed j
      = backend.committed j ++ if i = j then sent else [] := by
  unfold Backend.committed Backend.committing
  rw [List.filter_append, List.flatMap_append]
  congr 1
  by_cases same : i = j <;> simp [same]

/-- Every move keeps what is ensured of all programs. -/
theorem Backend.Moves.ensures (moves : backend.Moves run i after)
    (before : backend.Ensures run allowed returns raises)
    : after.Ensures run allowed returns raises := by
  obtain ⟨stages, commits⟩ := before
  cases moves with
  | @stage stage moves =>
      refine ⟨fun j => ?_, commits⟩
      rw [Backend.moved_committed]
      by_cases same : j = i
      · subst same
        simpa [Backend.moved] using moves.ensures (stages j)
      · simpa [Backend.moved, Function.update_of_ne same] using stages j
  | @commit sent next reached =>
      have own := stages i
      rw [reached] at own
      refine ⟨fun j => ?_, ?_⟩
      · rw [Backend.committing_committed]
        by_cases same : j = i
        · subst same
          refine ⟨?_, ?_⟩
          · simpa [Backend.committing, Program.stage, Stage.opened] using own.rest.2
          · simp [Backend.committing, Program.stage, Stage.opened, AllowedAfter]
        · rw [if_neg fun equal => same equal.symm, List.append_nil]
          simpa [Backend.committing, Function.update_of_ne same] using stages j
      · intro entry member
        rcases List.mem_append.mp member with old | last
        · exact commits entry old
        · rw [List.mem_singleton.mp last]
          exact own.opened.left

/-- What the programs ensure is ensured at every moment of an interleaving. -/
theorem Interleaved.ensures {programs : Attempt → Program Stmt Db Err α} {db : Db}
    {history : List Attempt}
    (ensures : ∀ i, (programs i).Ensures run allowed (returns i) (raises i) [] [])
    (ran : Interleaved run programs db history backend)
    : backend.Ensures run allowed returns raises := by
  refine Runs.invariant (fun _ backend => backend.Ensures run allowed returns raises) ?_ ?_ ran
  · exact ⟨fun i => ⟨ensures i, by simp [AllowedAfter, Backend.initial, Program.stage,
      Stage.opened]⟩, by simp [Backend.initial]⟩
  · exact fun _ before stepped => (Backend.advance_moves stepped).ensures before

/-- What every move keeps, where the programs ensure what they do, holds along a run. -/
theorem Backend.Ensures.invariant {start : Backend Attempt Stmt Db Err α}
    (ensures : start.Ensures run allowed returns raises)
    (holds : Backend Attempt Stmt Db Err α → Prop) (starts : holds start)
    (next
      : ∀ {backend i after}, backend.Ensures run allowed returns raises → holds backend
          → Backend.Moves run backend i after → holds after)
    {later : List Attempt} (ran : Runs (Backend.stepping run) start later after)
    : holds after := by
  have both : after.Ensures run allowed returns raises ∧ holds after := by
    refine Runs.invariant
      (fun _ backend => backend.Ensures run allowed returns raises ∧ holds backend)
      ⟨ensures, starts⟩ ?_ ran
    rintro _ middle i after _ ⟨ensures, held⟩ stepped
    have moves := Backend.advance_moves stepped
    exact ⟨moves.ensures ensures, next ensures held moves⟩
  exact both.2

/-- A program that is over has ended as it ensures. -/
theorem Backend.Ensures.ended (ensures : backend.Ensures run allowed returns raises)
    {outcome : Except Err α} (ended : (backend.stages i).outcome = some outcome)
    : match outcome with
      | .ok value => ∃ opened, returns i (backend.committed i) opened value
      | .error error => raises i (backend.committed i) error := by
  have own := (ensures.stages i).rest
  unfold Stage.outcome at ended
  split at ended
  · rename_i value reached
    cases ended
    rw [reached] at own
    exact ⟨_, own⟩
  · rename_i error reached
    cases ended
    rw [reached] at own
    exact own
  · cases ended

end Interleavings

-----------------------------------------------------------------------------------------
-- What statements keep
-----------------------------------------------------------------------------------------

section Grows

variable {run : Stmt → Db → Except Err Db} {allowed : List Stmt → Stmt → Prop}
  {Grows : Db → Db → Prop}

/-- A preorder along which every allowed statement leads. -/
structure GrowsBy (run : Stmt → Db → Except Err Db) (allowed : List Stmt → Stmt → Prop)
    (Grows : Db → Db → Prop)
    : Prop where
  refl : ∀ db, Grows db db
  trans : ∀ a b c, Grows a b → Grows b c → Grows a c
  advances : ∀ earlier statement, allowed earlier statement → Advances Grows (run statement)

variable (grows : GrowsBy run allowed Grows)

include grows

/-- Allowed statements lead above, by induction on them from the last one. -/
theorem GrowsBy.replay {statements : List Stmt} (fits : AllowedAfter allowed [] statements)
    (db : Db)
    : Grows db (replay run statements db) := by
  induction statements using List.reverseRecOn with
  | nil => exact grows.refl db
  | append_singleton earlier statement ih =>
      have before := ih fits.left
      rw [replay_snoc]
      cases ran : run statement (Foundations.replay run earlier db) with
      | error error => exact before
      | ok next =>
          have last := grows.advances earlier statement (fits earlier statement [] rfl) ran
          exact grows.trans _ _ _ before last

variable [DecidableEq Attempt] {returns : Attempt → List Stmt → List Stmt → α → Prop}
  {raises : Attempt → List Stmt → Err → Prop} {backend after : Backend Attempt Stmt Db Err α}
  {i : Attempt}

/-- Every move leads above. -/
theorem GrowsBy.moves (ensures : backend.Ensures run allowed returns raises)
    (moves : backend.Moves run i after)
    : Grows backend.db after.db := by
  cases moves with
  | stage => exact grows.refl _
  | commit reached =>
      have own := (ensures.stages i).opened
      rw [reached] at own
      exact grows.replay own.left _

/-- Whatever is committed later is above what is committed before. -/
theorem GrowsBy.interleaved {later : List Attempt}
    (ensures : backend.Ensures run allowed returns raises)
    (ran : Runs (Backend.stepping run) backend later after)
    : Grows backend.db after.db := by
  refine ensures.invariant (fun after => Grows backend.db after.db) (grows.refl _) ?_ ran
  intro middle i after ensures above moves
  exact grows.trans _ _ _ above (grows.moves ensures moves)

end Grows

-----------------------------------------------------------------------------------------
-- Logs
-----------------------------------------------------------------------------------------

section Logs

variable {Entry : Type} {run : Stmt → Db → Except Err Db} {allowed : List Stmt → Stmt → Prop}
  {Grows : Db → Db → Prop} {log : Db → List Entry} {entries : Stmt → List Entry}

/-- Each statement appends its entries to the log, and one that has entries can still be done
when the database has grown since it was.
-/
structure LoggedBy (run : Stmt → Db → Except Err Db) (allowed : List Stmt → Stmt → Prop)
    (Grows : Db → Db → Prop) (log : Db → List Entry) (entries : Stmt → List Entry)
    : Prop where
  appends
    : ∀ earlier statement, allowed earlier statement
      → ∀ db next, run statement db = .ok next → log next = log db ++ entries statement
  stands
    : ∀ earlier statement, allowed earlier statement → entries statement ≠ []
      → ∀ db later next, Grows db later
      → run statement (replay run earlier db) = .ok next
      → ∃ again, run statement (replay run earlier later) = .ok again

/-- The statement was done after the earlier ones on a database that has grown to this one. -/
def WasDone (run : Stmt → Db → Except Err Db) (Grows : Db → Db → Prop) (db : Db)
    (earlier : List Stmt) (statement : Stmt)
    : Prop :=
  ∃ before next, Grows before db ∧ run statement (replay run earlier before) = .ok next

/-- What was done on the way to a database was done on the way to a later one. -/
theorem AllowedAfter.wasDone {db later : Db} {statements : List Stmt}
    (grows : GrowsBy run allowed Grows) (above : Grows db later)
    (done : AllowedAfter (WasDone run Grows db) [] statements)
    : AllowedAfter (WasDone run Grows later) [] statements := by
  intro earlier statement rest same
  obtain ⟨before, next, grown, ran⟩ := done earlier statement rest same
  exact ⟨before, next, grows.trans _ _ _ grown above, ran⟩

variable (logged : LoggedBy run allowed Grows log entries)

include logged

/-- Statements that were done append all of their entries, by induction on them from the last. -/
theorem LoggedBy.replay {statements : List Stmt} {db : Db}
    (fits : AllowedAfter allowed [] statements)
    (done : AllowedAfter (WasDone run Grows db) [] statements)
    : log (replay run statements db) = log db ++ statements.flatMap entries := by
  induction statements using List.reverseRecOn with
  | nil => simp
  | append_singleton earlier statement ih =>
      have before := ih fits.left done.left
      have allowedLast := fits earlier statement [] rfl
      rw [replay_snoc, List.flatMap_append, ← List.append_assoc, ← before,
        List.flatMap_singleton]
      cases ran : run statement (Foundations.replay run earlier db) with
      | ok next => exact logged.appends earlier statement allowedLast _ _ ran
      | error error =>
          -- A statement that has entries would still be done.
          have none_ : entries statement = [] := by
            by_contra some_
            obtain ⟨first, next, grown, ranFirst⟩ := done earlier statement [] rfl
            obtain ⟨again, ranAgain⟩ :=
              logged.stands earlier statement allowedLast some_ first db next grown ranFirst
            cases ran.symm.trans ranAgain
          rw [none_, List.append_nil]
          rfl

variable (grows : GrowsBy run allowed Grows) [DecidableEq Attempt]
  {returns : Attempt → List Stmt → List Stmt → α → Prop}
  {raises : Attempt → List Stmt → Err → Prop} {backend after : Backend Attempt Stmt Db Err α}
  {i : Attempt}

/-- The log has the entries of the committed transactions, and what is sent was done. -/
structure Backend.Logs (run : Stmt → Db → Except Err Db) (Grows : Db → Db → Prop)
    (log : Db → List Entry) (entries : Stmt → List Entry) (initial : Db)
    (backend : Backend Attempt Stmt Db Err α)
    : Prop where
  log
    : log backend.db
      = log initial ++ backend.commits.flatMap fun entry => entry.2.flatMap entries
  done : ∀ i, AllowedAfter (WasDone run Grows backend.db) [] (backend.stages i).sent

include grows

theorem LoggedBy.moves {initial : Db} (ensures : backend.Ensures run allowed returns raises)
    (logs : backend.Logs run Grows log entries initial) (moves : backend.Moves run i after)
    : after.Logs run Grows log entries initial := by
  obtain ⟨same, done⟩ := logs
  cases moves with
  | @stage stage moves =>
      refine ⟨same, fun j => ?_⟩
      by_cases other : j = i
      · subst other
        have own : AllowedAfter (WasDone run Grows backend.db) [] stage.sent := by
          have before := done j
          generalize backend.stages j = current at moves before
          cases moves with
          | selected | added | flushed => exact before
          | failed | refused => simp [AllowedAfter, Stage.raised]
          | sent flushes ran => exact before.snoc ⟨_, _, grows.refl _, ran⟩
        simpa [Backend.moved] using own
      · simpa [Backend.moved, Function.update_of_ne other] using done j
  | @commit sent next reached =>
      have own := (ensures.stages i).opened
      have ownDone := done i
      rw [reached] at own ownDone
      refine ⟨?_, fun j => ?_⟩
      · show log (Foundations.replay run sent backend.db) = _
        rw [logged.replay own.left ownDone, same, Backend.committing, List.flatMap_append,
          List.flatMap_singleton, List.append_assoc]
      · have above : Grows backend.db (Foundations.replay run sent backend.db) :=
          grows.replay own.left _
        by_cases other : j = i
        · subst other
          simp [Backend.committing, Program.stage, AllowedAfter]
        · simpa [Backend.committing, Function.update_of_ne other]
            using (done j).wasDone grows above

/-- In every interleaving the log grows by exactly the entries of the committed transactions, in
the order of the commits.
-/
theorem LoggedBy.interleaved {programs : Attempt → Program Stmt Db Err α} {initial : Db}
    {history : List Attempt}
    (ensures : ∀ i, (programs i).Ensures run allowed (returns i) (raises i) [] [])
    (ran : Interleaved run programs initial history backend)
    : log backend.db
      = log initial ++ backend.commits.flatMap fun entry => entry.2.flatMap entries := by
  have start : (Backend.initial initial programs).Logs run Grows log entries initial :=
    ⟨by simp [Backend.initial], by simp [AllowedAfter, Backend.initial, Program.stage]⟩
  have logs : backend.Logs run Grows log entries initial := by
    refine (Interleaved.ensures ensures .start).invariant
      (fun backend => backend.Logs run Grows log entries initial) start ?_ ran
    intro middle i after ensures logs moves
    exact logged.moves grows ensures logs moves
  exact logs.log

end Logs

-----------------------------------------------------------------------------------------
-- Programs that only read
-----------------------------------------------------------------------------------------

section Readers

variable {reads : Db → Prop} {ends : α → Prop} {fails : Err → Prop}

/-- Whatever it reads of what it may, the program sends nothing, and it ends as stated. -/
def Program.OnlyReads (reads : Db → Prop) (returns : α → Prop) (raises : Err → Prop)
    : Program Stmt Db Err α → Prop
  | .done value => returns value
  | .raise error => raises error
  | .select fails next =>
      ∀ db, reads db
        → (∀ error, fails db = some error → raises error)
          ∧ (fails db = none → (next db).OnlyReads reads returns raises)
  | _ => False

/-- The rule of sequences, by induction on the first program. -/
theorem Program.OnlyReads.bind {β : Type} {first : Program Stmt Db Err β}
    {next : β → Program Stmt Db Err α}
    (only : first.OnlyReads reads (fun value => (next value).OnlyReads reads ends fails) fails)
    : (first >>= next).OnlyReads reads ends fails := by
  show (first.andThen next).OnlyReads reads ends fails
  induction first with
  | done value => exact only
  | raise error => exact only
  | select failing rest ih =>
      intro db seen
      exact ⟨(only db seen).1, fun answers => ih db ((only db seen).2 answers)⟩
  | add | flush | commit => exact only.elim

/-- A query that always answers ends as each of its answers does. -/
theorem Program.OnlyReads.query {query : Db → α} (answers : ∀ db, reads db → ends (query db))
    : (Program.query (fun db => .ok (query db)) : Program Stmt Db Err α).OnlyReads reads ends
        fails :=
  fun db seen => ⟨nofun, fun _ => answers db seen⟩

variable [DecidableEq Attempt] {run : Stmt → Db → Except Err Db}
  {allowed : List Stmt → Stmt → Prop} {Grows : Db → Db → Prop}
  {returns : Attempt → List Stmt → List Stmt → α → Prop}
  {raises : Attempt → List Stmt → Err → Prop}
  {backend middle after : Backend Attempt Stmt Db Err α} {i j : Attempt}

/-- A program that only reads stays one, and commits nothing. -/
theorem Backend.Moves.onlyReads {rest : Program Stmt Db Err α}
    (reached : middle.stages i = rest.stage) (only : rest.OnlyReads reads ends fails)
    (seen : reads middle.db) (moves : middle.Moves run j after)
    : after.committed i = middle.committed i
      ∧ ∃ next : Program Stmt Db Err α,
          after.stages i = next.stage ∧ next.OnlyReads reads ends fails := by
  by_cases own : i = j
  · subst own
    cases moves with
    | @stage stage moves =>
        rw [Backend.moved_committed]
        refine ⟨rfl, ?_⟩
        rw [reached] at moves
        cases moves with
        | selected answers =>
            exact ⟨_, by simp [Backend.moved, Program.stage], (only _ seen).2 answers⟩
        | @failed _ _ _ _ error failed =>
            exact ⟨.raise error, by simp [Backend.moved, Program.stage, Stage.raised],
              (only _ seen).1 error failed⟩
        | added => exact only.elim
        | flushed => exact only.elim
    | commit commits =>
        have same := reached.symm.trans commits
        injection same with _ _ same
        rw [same] at only
        exact only.elim
  · cases moves with
    | stage => exact ⟨rfl, rest, by simpa [Backend.moved, own] using reached, only⟩
    | commit =>
        rw [Backend.committing_committed, if_neg fun same => own same.symm, List.append_nil]
        exact ⟨rfl, rest, by simpa [Backend.committing, own] using reached, only⟩

/-- A program that only reads, where what it reads is above what was committed before it began:
it commits nothing, and it ends as stated.
-/
theorem GrowsBy.onlyReads {program : Program Stmt Db Err α} {later : List Attempt}
    (grows : GrowsBy run allowed Grows) (ensures : backend.Ensures run allowed returns raises)
    (waits : backend.stages i = program.stage)
    (only : program.OnlyReads (Grows backend.db) ends fails)
    (ran : Runs (Backend.stepping run) backend later after)
    : after.committed i = backend.committed i
      ∧ ∀ outcome, (after.stages i).outcome = some outcome
          → match outcome with
            | .ok value => ends value
            | .error error => fails error := by
  have reading
      : Grows backend.db after.db ∧ after.committed i = backend.committed i
        ∧ ∃ next : Program Stmt Db Err α,
            after.stages i = next.stage
            ∧ next.OnlyReads (Grows backend.db) ends fails := by
    refine ensures.invariant
      (fun after =>
        Grows backend.db after.db ∧ after.committed i = backend.committed i
        ∧ ∃ next : Program Stmt Db Err α,
            after.stages i = next.stage
            ∧ next.OnlyReads (Grows backend.db) ends fails)
      ⟨grows.refl _, rfl, program, waits, only⟩ ?_ ran
    rintro middle j after ensures ⟨above, same, rest, reached, only⟩ moves
    obtain ⟨sameAfter, left⟩ := moves.onlyReads reached only above
    exact ⟨grows.trans _ _ _ above (grows.moves ensures moves), sameAfter.trans same, left⟩
  obtain ⟨_, same, rest, reached, only⟩ := reading
  refine ⟨same, fun outcome ended => ?_⟩
  rw [reached] at ended
  cases rest with
  | done value =>
      cases ended
      exact only
  | raise error =>
      cases ended
      exact only
  | select | add | flush | commit => cases ended

end Readers

-----------------------------------------------------------------------------------------
-- A program that nobody interrupts
-----------------------------------------------------------------------------------------

section Alone

variable [DecidableEq Attempt] {run : Stmt → Db → Except Err Db}
  {backend after : Backend Attempt Stmt Db Err α} {i : Attempt}

/-- Steps of one program only. -/
abbrev Backend.Alone (run : Stmt → Db → Except Err Db) (i : Attempt)
    : Backend Attempt Stmt Db Err α → Backend Attempt Stmt Db Err α → Prop :=
  Relation.ReflTransGen fun backend after => backend.advance run i = some after

/-- They are an interleaving. -/
theorem Backend.Alone.runs (alone : Backend.Alone run i backend after)
    : ∃ n, Runs (Backend.stepping run) backend (List.replicate n i) after := by
  induction alone with
  | refl => exact ⟨0, .start⟩
  | tail _ stepped ih =>
      obtain ⟨n, ran⟩ := ih
      exact ⟨n + 1, .next ran stepped⟩

/-- Steps of the program bring it to its end, with its outcome and what is then committed. -/
def Backend.EndsAlone (run : Stmt → Db → Except Err Db)
    (backend : Backend Attempt Stmt Db Err α) (i : Attempt) (outcome : Except Err α) (db : Db)
    : Prop :=
  ∃ after,
    Backend.Alone run i backend after ∧ (after.stages i).outcome = some outcome ∧ after.db = db

/-- Where a program ends from, it also ends from before. -/
theorem Backend.EndsAlone.before {middle : Backend Attempt Stmt Db Err α}
    {outcome : Except Err α} {db : Db} (alone : Backend.Alone run i backend middle)
    (ends : middle.EndsAlone run i outcome db)
    : backend.EndsAlone run i outcome db := by
  obtain ⟨after, later, ended⟩ := ends
  exact ⟨after, alone.trans later, ended⟩

theorem Backend.endsAlone_raised {error : Err}
    : (backend.moved i (.raised error)).EndsAlone run i (.error error) backend.db :=
  ⟨_, .refl, by simp [Backend.moved, Stage.outcome, Stage.raised], rfl⟩

theorem Backend.moved_moved (backend : Backend Attempt Stmt Db Err α) (i : Attempt)
    (first second : Stage Stmt Db Err α)
    : (backend.moved i first).moved i second = backend.moved i second := by
  simp [Backend.moved]

theorem Backend.moved_stage {stage : Stage Stmt Db Err α} (reached : backend.stages i = stage)
    : backend.moved i stage = backend := by
  rw [Backend.moved, ← reached, Function.update_eq_self]

theorem Backend.moved_self_stage (backend : Backend Attempt Stmt Db Err α) (i : Attempt)
    (stage : Stage Stmt Db Err α)
    : (backend.moved i stage).stages i = stage := by
  simp [Backend.moved]

/-- The other programs stay where they are. -/
theorem Backend.Alone.others (alone : Backend.Alone run i backend after) {j : Attempt}
    (other : j ≠ i)
    : after.stages j = backend.stages j := by
  induction alone with
  | refl => rfl
  | tail _ stepped ih =>
      rw [← ih]
      cases Backend.advance_moves stepped with
      | stage => simp [Backend.moved, Function.update_of_ne other]
      | commit => simp [Backend.committing, Function.update_of_ne other]

/-- The statements that wait are sent one by one, by induction on them. -/
theorem Backend.sends_alone (run : Stmt → Db → Except Err Db) {sent pending : List Stmt}
    {rest : Program Stmt Db Err α}
    (flushes : rest.Flushes) (reached : backend.stages i = ⟨sent, pending, rest⟩)
    : match runAll (pending.map run) (replay run sent backend.db) with
      | .ok view =>
          Backend.Alone run i backend (backend.moved i ⟨sent ++ pending, [], rest⟩)
          ∧ replay run (sent ++ pending) backend.db = view
      | .error error => Backend.Alone run i backend (backend.moved i (.raised error)) := by
  induction pending generalizing sent backend with
  | nil =>
      rw [List.map_nil, runAll_nil, List.append_nil, Backend.moved_stage reached]
      exact ⟨.refl, rfl⟩
  | cons statement more ih =>
      have stepped
          : backend.advance run i
            = some
                (backend.moved i
                  (Stage.send run (replay run sent backend.db) ⟨sent, statement :: more, rest⟩
                    statement more)) := by
        unfold Backend.advance
        rw [reached]
        cases rest with
        | flush | commit => rfl
        | done | raise | select | add => exact flushes.elim
      rw [List.map_cons, runAll_cons]
      cases ran : run statement (replay run sent backend.db) with
      | error error =>
          rw [Stage.send, ran] at stepped
          exact .single stepped
      | ok next =>
          rw [Stage.send, ran] at stepped
          have same : replay run (sent ++ [statement]) backend.db = next := by
            rw [replay_snoc, ran]
            rfl
          have later :=
            @ih (backend.moved i ⟨sent ++ [statement], more, rest⟩) (sent ++ [statement])
              (by simp [Backend.moved])
          rw [show (backend.moved i ⟨sent ++ [statement], more, rest⟩).db = backend.db from rfl,
            same] at later
          simp only [Backend.moved_moved, List.append_assoc, List.singleton_append] at later
          show match runAll (more.map run) next with
            | .ok view => _
            | .error error => _
          cases sentAll : runAll (more.map run) next with
          | ok view =>
              rw [sentAll] at later
              exact ⟨.head stepped later.1, later.2⟩
          | error error =>
              rw [sentAll] at later
              exact .head stepped later

variable [TransactionErrors Err]

/-- A program that nobody interrupts ends as it does on a session of its own, by induction on the
program.
-/
theorem Backend.ends_alone {sent pending : List Stmt} {rest : Program Stmt Db Err α}
    (reached : backend.stages i = ⟨sent, pending, rest⟩)
    : let result :=
        (rest.action run).run
          {
            committed := backend.db
            view := replay run sent backend.db
            pending := pending.map run
            status := .active
          }
      backend.EndsAlone run i (Action.outcome result) (Action.final result).committed := by
  induction rest generalizing backend sent pending with
  | done value => exact ⟨backend, .refl, by rw [Stage.outcome, reached]; rfl, rfl⟩
  | raise error => exact ⟨backend, .refl, by rw [Stage.outcome, reached]; rfl, rfl⟩
  | select fails next ih =>
      rw [Program.action, EStateM.run_bind, Action.select_active]
      cases answer : fails (replay run sent backend.db) with
      | some error =>
          have stepped : backend.advance run i = some (backend.moved i (.raised error)) := by
            simp only [Backend.advance, reached, answer]
          exact .before (.single stepped) Backend.endsAlone_raised
      | none =>
          have stepped
              : backend.advance run i
                = some
                    (backend.moved i ⟨sent, pending, next (replay run sent backend.db)⟩) := by
            simp only [Backend.advance, reached, answer]
          exact .before (.single stepped) (ih _ (backend.moved_self_stage i _))
  | add statement next ih =>
      rw [Program.action, EStateM.run_bind, Action.add_run]
      have stepped
          : backend.advance run i
            = some (backend.moved i ⟨sent, pending ++ [statement], next⟩) := by
        simp only [Backend.advance, reached]
      have later := ih (backend.moved_self_stage i ⟨sent, pending ++ [statement], next⟩)
      rw [List.map_append] at later
      exact .before (.single stepped) later
  | flush next ih =>
      rw [Program.action, EStateM.run_bind, Action.flush_active]
      have flushes : (Program.flush next).Flushes := trivial
      have sends := Backend.sends_alone run flushes reached
      cases sentAll : runAll (pending.map run) (replay run sent backend.db) with
      | error error =>
          rw [sentAll] at sends
          exact .before sends Backend.endsAlone_raised
      | ok view =>
          rw [sentAll] at sends
          obtain ⟨alone, rfl⟩ := sends
          have stepped
              : (backend.moved i ⟨sent ++ pending, [], .flush next⟩).advance run i
                = some (backend.moved i ⟨sent ++ pending, [], next⟩) := by
            simp only [Backend.advance, Backend.moved_self_stage, Backend.moved_moved]
          exact .before (alone.tail stepped) (ih (backend.moved_self_stage i _))
  | commit next ih =>
      rw [Program.action, EStateM.run_bind, Action.commit_active]
      have flushes : (Program.commit next).Flushes := trivial
      have sends := Backend.sends_alone run flushes reached
      cases sentAll : runAll (pending.map run) (replay run sent backend.db) with
      | error error =>
          rw [sentAll] at sends
          exact .before sends Backend.endsAlone_raised
      | ok view =>
          rw [sentAll] at sends
          obtain ⟨alone, rfl⟩ := sends
          have stepped
              : (backend.moved i ⟨sent ++ pending, [], .commit next⟩).advance run i
                = some
                    ((backend.moved i ⟨sent ++ pending, [], .commit next⟩).committing run i
                      (sent ++ pending) next) := by
            simp only [Backend.advance, Backend.moved_self_stage]
          have start
              : ((backend.moved i ⟨sent ++ pending, [], .commit next⟩).committing run i
                  (sent ++ pending) next).stages i
                = ⟨[], [], next⟩ := by
            simp [Backend.committing, Program.stage]
          exact .before (alone.tail stepped) (ih start)

end Alone

end SpecterCloud.Foundations
