import SpecterCloud.Service.ConcurrentAudit

/-! Once the revocation of a session is committed, every call that begins with its token is
refused, whatever runs at the same time.
-/

namespace SpecterCloud.Service

open SpecterCloud.Foundations
open SpecterCloud.Models
open SpecterCloud.Core
open SpecterCloud.Auth
open SpecterCloud.Api
open SpecterCloud.Service.Programs (ServiceStatement DbProgram)

/-- The session is revoked, or it has expired. -/
def Spent (now : Instant) (sess : Session) : Prop := sess.revokedAt ≠ none ∨ now > sess.expiresAt

/-- A session that is spent is found under its token hash wherever the history is kept, and it is
still spent.
-/
theorem KeepsHistory.spent {db later : Database} (kept : KeepsHistory db later) {sess : Session}
    (stored : sess ∈ db.sessions) {now : Instant} (spent : Spent now sess)
    : ∃ found, later.sessionByTokenHash sess.tokenHash = some found ∧ Spent now found := by
  obtain ⟨next, there, same⟩ := kept.sessions sess stored
  refine ⟨next, ?_, ?_⟩
  · exact (findBy_eq_some_iff later.sessionTokenHashes).mpr ⟨there, same.tokenHash⟩
  · rcases spent with revoked | expired
    · exact .inl (same.revoked revoked)
    · exact .inr (same.expiresAt ▸ expired)

section Refused

variable {runtime : Runtime} {now : Instant} {db : Database} {sess : Session} {token : String}
  (stored : sess ∈ db.sessions) (spent : Spent now sess)
  (presents : hashToken runtime token = sess.tokenHash)

include stored spent presents

/-- The lookup of its token only reads, and returns no session. -/
theorem lookupSession_spent {returns : Option Session → Prop} {raises : Raised → Prop}
    (nothing : returns none)
    : (Programs.lookupSession runtime now token).OnlyReads (KeepsHistory db) returns
        raises := by
  unfold Programs.lookupSession
  split
  · exact nothing
  · refine Program.OnlyReads.bind (Program.OnlyReads.query fun later kept => ?_)
    obtain ⟨found, same, foundSpent⟩ := kept.spent stored spent
    rw [presents, same]
    dsimp only
    split_ifs with revoked expired idle stale
    · exact nothing
    · exact nothing
    · exact nothing
    · exact absurd foundSpent (by simp [Spent, revoked, expired])
    · exact absurd foundSpent (by simp [Spent, revoked, expired])

/-- So `get_current_user` refuses. -/
theorem getCurrentUser_spent {returns : User → Prop} {cookieToken authorization : Option String}
    (asks : rawToken runtime cookieToken authorization = some token)
    : (Programs.getCurrentUser runtime now cookieToken authorization).OnlyReads
        (KeepsHistory db) returns
        (fun error => error = unauthorized "Invalid or expired session") := by
  unfold Programs.getCurrentUser
  rw [asks]
  refine Program.OnlyReads.bind ?_
  exact lookupSession_spent stored spent presents rfl

end Refused

/-- The credential of a call that asks for a user. -/
def ProgramRequest.credential : ProgramRequest → Option Credential
  | logout credential => some credential
  | me credential => some credential
  | guarded credential _ _ _ _ => some credential
  | _ => none

section Calls

variable (runtime : Runtime) (isPrintable : Char → Bool)

/-- Every call that asks for the user of a session that is spent is refused. -/
theorem ProgramCall.spent {call : ProgramCall} {db : Database} {sess : Session}
    (stored : sess ∈ db.sessions) (spent : Spent call.now sess) {credential : Credential}
    (asks : call.request.credential = some credential) {token : String}
    (sent : rawToken runtime credential.cookieToken credential.authorization = some token)
    (presents : hashToken runtime token = sess.tokenHash)
    : (call.program runtime isPrintable).OnlyReads (KeepsHistory db) (fun _ => False)
        (fun error => error = unauthorized "Invalid or expired session") := by
  obtain ⟨now, request⟩ := call
  cases request with
  | logout own =>
      obtain rfl : own = credential := Option.some.inj asks
      refine Program.OnlyReads.bind (Program.OnlyReads.bind ?_)
      exact getCurrentUser_spent stored spent presents sent
  | me own =>
      obtain rfl : own = credential := Option.some.inj asks
      refine Program.OnlyReads.bind ?_
      exact getCurrentUser_spent stored spent presents sent
  | guarded own permission target request handler =>
      obtain rfl : own = credential := Option.some.inj asks
      refine Program.OnlyReads.bind ?_
      exact getCurrentUser_spent stored spent presents sent
  | login | revoke | revokeAll | bootstrap => cases asks

variable {Attempt : Type} [DecidableEq Attempt]

/-- In any interleaving of calls: when a call begins with the token of a session that is by then
revoked, or that is expired for it, then whatever runs in between, it commits nothing and can
only end with the 401.
-/
theorem revocation_final_concurrently (calls : Attempt → ProgramCall)
    (keeps : ∀ i, (calls i).KeepsAudit) {db : Database} {history : List Attempt}
    {backend : Backend Attempt ServiceStatement Database Raised ServiceAnswer}
    (ran
      : Interleaved ServiceStatement.run (fun i => (calls i).program runtime isPrintable) db
          history backend)
    {sess : Session} (stored : sess ∈ backend.db.sessions) {i : Attempt}
    (spent : Spent (calls i).now sess) {credential : Credential}
    (asks : (calls i).request.credential = some credential) {token : String}
    (sent : rawToken runtime credential.cookieToken credential.authorization = some token)
    (presents : hashToken runtime token = sess.tokenHash)
    (waits : backend.stages i = ((calls i).program runtime isPrintable).stage)
    {later : List Attempt}
    {after : Backend Attempt ServiceStatement Database Raised ServiceAnswer}
    (more : Runs (Backend.stepping ServiceStatement.run) backend later after)
    : after.committed i = backend.committed i
      ∧ ∀ outcome, (after.stages i).outcome = some outcome
          → outcome = .error (unauthorized "Invalid or expired session") := by
  have ensures :=
    Interleaved.ensures (fun i => (calls i).commits runtime isPrintable (keeps i)) ran
  have only := ProgramCall.spent runtime isPrintable stored spent asks sent presents
  obtain ⟨nothing, ends⟩ := sendable_grows.onlyReads ensures waits only more
  refine ⟨nothing, fun outcome ended => ?_⟩
  have end_ := ends outcome ended
  cases outcome with
  | ok answer => exact end_.elim
  | error error => exact congrArg Except.error end_

end Calls

/-- The cookie of the sample after its logout, presented by two calls at the same time. -/
def sampleReturns (_ : Bool) : ProgramCall := ⟨2, .me ⟨some "a", none⟩⟩

theorem sampleReturns_refused
    : ∃ later after,
        Interleaved ServiceStatement.run
          (fun i => (sampleReturns i).program sampleRuntime fun _ => true) signedOutDatabase
          later after
        ∧ (after.stages true).outcome
          = some (.error (unauthorized "Invalid or expired session")) := by
  have played
      : (Backend.play ServiceStatement.run
            (.initial signedOutDatabase fun i =>
              (sampleReturns i).program sampleRuntime fun _ => true)
            [true, false]).any
          (fun after => (after.stages true).outcome.isSome)
        = true := by
    decide +kernel
  obtain ⟨after, ran, checked⟩ := Backend.play_finds played
  obtain ⟨outcome, ended⟩ := Option.isSome_iff_exists.mp checked
  obtain ⟨sess, found, revoked⟩
      : ∃ sess, signedOutDatabase.sessionByTokenHash (hashToken sampleRuntime "a") = some sess
          ∧ sess.revokedAt.isSome = true :=
    ⟨_, rfl, rfl⟩
  obtain ⟨stored, presents⟩ := findBy_sound found
  have spent : Spent 2 sess := .inl (Option.isSome_iff_ne_none.mp revoked)
  have refused :=
    (revocation_final_concurrently sampleRuntime (fun _ => true) sampleReturns
      (fun _ => trivial) .start stored spent (i := true) rfl rfl presents.symm rfl ran).2
  exact ⟨_, after, ran, refused outcome ended ▸ ended⟩

end SpecterCloud.Service
