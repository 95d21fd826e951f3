import SpecterCloud.Core.Runtime

/-! The audit log writer. It only adds the row to the session: the caller commits. -/

namespace SpecterCloud.Audit

open SpecterCloud.Foundations
open SpecterCloud.Models
open SpecterCloud.Core

/-- `_VALID_DECISIONS`. -/
def validDecisions : List String := ["allow", "deny"]

/-- `write`, with its keyword arguments as the fields of the row. -/
def write (entry : AuditLog) : DbAction AuditLog := do
  if entry.decision ∉ validDecisions then
    throw
      (.valueError
        ("invalid decision '" ++ entry.decision ++ "'; must be one of "
          ++ "frozenset(\x7b'allow', 'deny'\x7d)"))
  Action.add (Database.insertAuditLog entry)
  return entry

/-- A row with a valid decision waits for the caller's commit. -/
theorem write_run {entry : AuditLog} (valid : entry.decision ∈ validDecisions)
    (session : UnitOfWork Database Raised)
    : (write entry).run session
      = .ok entry
          { session with pending := session.pending ++ [Database.insertAuditLog entry] } := by
  unfold write
  rw [if_neg (not_not.mpr valid)]
  rfl

section Committed

variable {entry : AuditLog} {db : Database} {α : Type} {next : Unit → DbAction α}

/-- A row that the database accepts is there after the caller's commit. -/
theorem write_committed (valid : entry.decision ∈ validDecisions)
    (accepted : db.AcceptsAuditLog entry) {outcome : Except Raised α} {after : Database}
    (second : (next ()).Ends (db.withAuditRow entry) outcome after)
    : (write entry >>= fun _ => Action.commit >>= next).Ends db outcome after := by
  have written
      : (write entry >>= fun _ => Action.commit : DbAction Unit).Ends db (.ok ())
          (db.withAuditRow entry) := by
    show EStateM.run _ (UnitOfWork.opened db) = _
    rw [EStateM.run_bind, write_run valid]
    simp [UnitOfWork.opened, Database.insertAuditLog_accepted accepted, Except.bind]
  rw [← bind_assoc]
  exact Action.Ends.bind written second

/-- A row whose insert fails makes the caller's commit raise. -/
theorem write_refused (valid : entry.decision ∈ validDecisions) {error : Raised}
    (refused : db.insertAuditLog entry = .error error)
    : (write entry >>= fun _ => Action.commit >>= next).Ends db (.error error) db := by
  refine ⟨{ committed := db, view := db, pending := [], status := .inactive }, ?_, rfl⟩
  rw [EStateM.run_bind, write_run valid]
  simp [UnitOfWork.opened, refused, Except.bind]

/-- A row that the database rejects makes the caller's commit raise. -/
theorem write_rejected (valid : entry.decision ∈ validDecisions)
    (rejected : ¬ db.AcceptsAuditLog entry)
    : ∃ error,
        (write entry >>= fun _ => Action.commit >>= next).Ends db (.error error) db := by
  obtain ⟨error, refused⟩ := Database.insertAuditLog_rejected rejected
  exact ⟨error, write_refused valid refused⟩

end Committed

end SpecterCloud.Audit
