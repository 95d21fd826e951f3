import SpecterCloud.Foundations.Transactions

/-! A transaction that runs alone while any of its calls can be refused: a query, a statement or
the commit, each with any error.
-/

namespace SpecterCloud.Foundations

variable {Db Key Err α : Type}

/-- How a transaction that reads `view` can end on the committed `db`. -/
inductive Transaction.MayEnd (db : Db)
    : Transaction Db Key Err α → Db → Except Err α → Db → Prop
  | selected {next : Db → Transaction Db Key Err α} {view after : Db} {outcome : Except Err α}
      (rest : Transaction.MayEnd db (next view) view outcome after)
      : Transaction.MayEnd db (.select next) view outcome after
  | selectRefused {next : Db → Transaction Db Key Err α} {view : Db} (error : Err)
      : Transaction.MayEnd db (.select next) view (.error error) db
  | executed {statement : Statement Db Key Err} {next : Transaction Db Key Err α}
      {view middle after : Db} {outcome : Except Err α} (ran : statement.run view = .ok middle)
      (rest : Transaction.MayEnd db next middle outcome after)
      : Transaction.MayEnd db (.execute statement next) view outcome after
  | executeRefused {statement : Statement Db Key Err} {next : Transaction Db Key Err α}
      {view : Db} (error : Err)
      : Transaction.MayEnd db (.execute statement next) view (.error error) db
  | committed {value : α} {view : Db}
      : Transaction.MayEnd db (.commit value) view (.ok value) view
  | commitRefused {value : α} {view : Db} (error : Err)
      : Transaction.MayEnd db (.commit value) view (.error error) db
  | left {outcome : Except Err α} {view : Db}
      : Transaction.MayEnd db (.leave outcome) view outcome db

namespace Transaction.MayEnd

variable {steps : Transaction Db Key Err α} {db view after : Db} {outcome : Except Err α}

/-- It ends as it does when nothing is refused, or it raises without a commit. -/
theorem cases (ends : steps.MayEnd db view outcome after)
    : steps.alone view db = (outcome, after)
      ∨ (∃ error, outcome = .error error) ∧ after = db := by
  induction ends with
  | selected _ ih => exact ih
  | executed ran _ ih =>
      rw [alone, ran]
      exact ih
  | committed => exact .inl rfl
  | left => exact .inl rfl
  | selectRefused error => exact .inr ⟨⟨error, rfl⟩, rfl⟩
  | executeRefused error => exact .inr ⟨⟨error, rfl⟩, rfl⟩
  | commitRefused error => exact .inr ⟨⟨error, rfl⟩, rfl⟩

/-- What it does when nothing is refused is one way to end. -/
theorem alone (steps : Transaction Db Key Err α) (view db : Db)
    : steps.MayEnd db view (steps.alone view db).1 (steps.alone view db).2 := by
  induction steps generalizing view with
  | select next ih => exact .selected (ih view view)
  | execute statement next ih =>
      rw [Transaction.alone]
      cases ran : statement.run view with
      | ok middle => exact .executed ran (ih middle)
      | error error => exact .executeRefused error
  | commit value => exact .committed
  | leave outcome => exact .left

end Transaction.MayEnd

end SpecterCloud.Foundations
