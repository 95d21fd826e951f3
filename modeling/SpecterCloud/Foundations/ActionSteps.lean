import SpecterCloud.Foundations.Transactions

/-! A program on a session whose one transaction takes the steps of a `Transaction`, and how the
two are composed in parallel.
-/

namespace SpecterCloud.Foundations

variable {Db Key Err α β : Type}

/-- From wherever its transaction stands, the action ends as the steps do alone. -/
def Action.TakesSteps (action : Action Db Err α) (steps : Transaction Db Key Err α) : Prop :=
  ∀ view committed,
    let result := action.run { committed, view, pending := [], status := .active }
    (Action.outcome result, (Action.final result).committed) = steps.alone view committed

namespace Action.TakesSteps

variable {query : Db → Except Err α}

theorem pure (value : α)
    : (pure value : Action Db Err α).TakesSteps
        (Transaction.leave (.ok value) : Transaction Db Key Err α) :=
  fun _ _ => rfl

theorem throw (error : Err)
    : (throw error : Action Db Err α).TakesSteps
        (Transaction.leave (.error error) : Transaction Db Key Err α) :=
  fun _ _ => rfl

/-- A whole request ends as its steps do alone. -/
theorem perform {action : Action Db Err α} {steps : Transaction Db Key Err α}
    (takes : action.TakesSteps steps) (db : Db)
    : action.perform db = steps.alone db db :=
  takes db db

/-- A choice between two actions. -/
theorem choice {condition : Prop} [Decidable condition] {left right : Action Db Err α}
    {leftSteps rightSteps : Transaction Db Key Err α}
    (chosen : condition → left.TakesSteps leftSteps)
    (other : ¬ condition → right.TakesSteps rightSteps)
    : (if condition then left else right).TakesSteps
        (if condition then leftSteps else rightSteps) := by
  split
  · rename_i holds
    exact chosen holds
  · rename_i fails
    exact other fails

/-- A computation that raises, or answers and is followed. -/
theorem computed {computed : Except Err α} {next : α → Action Db Err β}
    {steps : Transaction Db Key Err β}
    (answered : ∀ value, computed = .ok value → (next value).TakesSteps steps)
    (failed : ∀ error, computed = .error error → steps = .leave (.error error))
    : (Action.ofExcept computed >>= next).TakesSteps steps := by
  intro view committed
  cases found : computed with
  | ok value => exact answered value found view committed
  | error error =>
      rw [failed error found]
      rfl

variable [TransactionErrors Err]

/-- A query that fails, or answers and is followed. -/
theorem selected {next : α → Action Db Err β} {steps : Db → Transaction Db Key Err β}
    (answered : ∀ db value, query db = .ok value → (next value).TakesSteps (steps db))
    (failed : ∀ db error, query db = .error error → steps db = .leave (.error error))
    : (Action.select query >>= next).TakesSteps (.select steps) := by
  intro view committed
  show (Action.outcome (EStateM.run _ _), _) = (steps view).alone view committed
  rw [EStateM.run_bind, Action.select_active]
  cases found : query view with
  | ok value => exact answered view value found view committed
  | error error =>
      rw [failed view error found]
      rfl

/-- A query that always answers. -/
theorem read {query : Db → α} {next : α → Action Db Err β} {steps : Db → Transaction Db Key Err β}
    (answered : ∀ db, (next (query db)).TakesSteps (steps db))
    : (Action.select (fun db => .ok (query db)) >>= next).TakesSteps (.select steps) := by
  refine selected ?_ (by simp)
  intro db value found
  exact Except.ok.inj found ▸ answered db

/-- A statement that is sent at once. -/
theorem executed (statement : Statement Db Key Err) {next : Unit → Action Db Err β}
    {steps : Transaction Db Key Err β} (followed : (next ()).TakesSteps steps)
    : (Action.execute statement.run >>= next).TakesSteps (.execute statement steps) := by
  intro view committed
  simp only [EStateM.run_bind, Action.execute_active, Transaction.alone]
  cases ran : statement.run view with
  | ok after => exact followed after committed
  | error error => rfl

/-- A commit with nothing left to send. -/
theorem committed (value : α)
    : (Action.commit >>= fun _ => Pure.pure value : Action Db Err α).TakesSteps
        (Transaction.commit value : Transaction Db Key Err α) :=
  fun _ _ => rfl

/-- A statement that is sent by the commit at the end. -/
theorem committedOne (statement : Statement Db Key Err) (value : α)
    : (Action.add statement.run >>= fun _ =>
          Action.commit >>= fun _ => Pure.pure value).TakesSteps
        (.execute statement (.commit value)) := by
  intro view committed
  simp only [EStateM.run_bind, Action.add_run, List.nil_append, Action.commit_active, runAll_cons,
    Transaction.alone]
  cases statement.run view <;> rfl

/-- A statement that is flushed at once. -/
theorem flushed (statement : Statement Db Key Err) {next : Unit → Action Db Err β}
    {steps : Transaction Db Key Err β} (followed : (next ()).TakesSteps steps)
    : (Action.add statement.run >>= fun _ => Action.flush >>= next).TakesSteps
        (.execute statement steps) := by
  intro view committed
  simp only [EStateM.run_bind, Action.add_run, List.nil_append, Action.flush_active, runAll_cons,
    Transaction.alone]
  cases ran : statement.run view with
  | ok after => exact followed after committed
  | error error => rfl

/-- Statements that are sent by the commit at the end. -/
theorem committedAll (statements : List (Statement Db Key Err)) (value : α)
    : (forM (statements.map Statement.run) Action.add >>= fun _ =>
          Action.commit >>= fun _ => Pure.pure value).TakesSteps
        (Transaction.executeAll statements (.commit value)) := by
  intro view committed
  simp only [EStateM.run_bind, Action.forM_add_run, List.nil_append, Action.commit_active]
  cases ran : runAll (statements.map Statement.run) view with
  | ok after =>
      rw [Transaction.alone_executeAll ran]
      rfl
  | error error =>
      rw [Transaction.alone_executeAll_error ran]
      rfl

end Action.TakesSteps

end SpecterCloud.Foundations
