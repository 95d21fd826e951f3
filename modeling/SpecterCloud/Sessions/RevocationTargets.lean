import SpecterCloud.Sessions.Logout

/-! Which sessions `revoke_all_user_sessions` revokes, and what it leaves as it was. -/

namespace SpecterCloud.Auth

open SpecterCloud.Foundations
open SpecterCloud.Models
open SpecterCloud.Core
open SpecterCloud.Api

/-- The unrevoked sessions of the user, on the transport if one is given. -/
def Targeted (userId : UUID) (transport : Option SessionTransport) (row : Session) : Prop :=
  row.userId = userId
  ∧ row.revokedAt = none
  ∧ (transport = none ∨ transport = some row.transport)

instance decidableTargeted (userId : UUID) (transport : Option SessionTransport)
    : DecidablePred (Targeted userId transport) :=
  fun _ => inferInstanceAs (Decidable (_ ∧ _ ∧ _))

/-- The row after the call: a target has its time and its reason, and another row is as it was. -/
def revokedTarget (now : Instant) (userId : UUID) (reason : String)
    (transport : Option SessionTransport) (row : Session)
    : Session :=
  if Targeted userId transport row then
    { row with revokedAt := some now, revokedReason := some reason }
  else
    row

/-- The reason fits `sessions.revoked_reason`, or there is no row to write it to. -/
def CanRevoke (userId : UUID) (reason : String) (transport : Option SessionTransport)
    (db : Database)
    : Prop :=
  FitsString 40 reason ∨ ∀ row ∈ db.sessions, ¬ Targeted userId transport row

/-- How many rows of a table are not what they were. -/
def changedRows (before after : List Session) : Nat :=
  ((before.zip after).filter (fun pair => pair.2 ≠ pair.1)).length

/-- The call has revoked its targets at one time and with its reason, and nothing else. -/
structure RevokesTargets (runtime : Runtime) (now : Instant) (userId : UUID) (reason : String)
    (transport : Option SessionTransport) (db : Database) (count : Nat) (after : Database)
    : Prop where
  sessions : after.sessions = db.sessions.map (revokedTarget now userId reason transport)
  access : after.toAccessTables = db.toAccessTables
  users : after.users = db.users
  auditLog : after.auditLog = db.auditLog
  counted : count = changedRows db.sessions after.sessions
  repeated
    : ∀ later,
        (revokeAllUserSessions later userId reason transport).perform after = (.ok 0, after)
  refused
    : ∀ row ∈ db.sessions, Targeted userId transport row
      → ∀ rawToken, hashToken runtime rawToken = row.tokenHash
      → ∀ later, (lookupSession runtime later rawToken).perform after = (.ok none, after)
  kept
    : ∀ rawToken,
        (∀ row ∈ db.sessions,
          Targeted userId transport row → row.tokenHash ≠ hashToken runtime rawToken)
        → ∀ later,
            ((lookupSession runtime later rawToken).perform after).1
            = ((lookupSession runtime later rawToken).perform db).1

section Targets

variable {runtime : Runtime} {now : Instant} {userId : UUID} {reason : String}
  {transport : Option SessionTransport} {db after : Database}

/-- No row is a target after the call. -/
theorem revokedTarget_untargeted (row : Session)
    : ¬ Targeted userId transport (revokedTarget now userId reason transport row) := by
  unfold revokedTarget
  split
  · rintro ⟨_, unrevoked, _⟩
    cases unrevoked
  · assumption

/-- The call changes its targets and no other row. -/
theorem revokedTarget_ne_iff (row : Session)
    : revokedTarget now userId reason transport row ≠ row ↔ Targeted userId transport row := by
  constructor
  · intro changed
    by_contra untargeted
    exact changed (if_neg untargeted)
  · intro target same
    have revoked := congrArg Session.revokedAt same
    rw [revokedTarget, if_pos target, target.2.1] at revoked
    cases revoked

/-- No row gets another token hash. -/
theorem revokedTarget_tokenHash (row : Session)
    : (revokedTarget now userId reason transport row).tokenHash = row.tokenHash := by
  unfold revokedTarget
  split <;> rfl

/-- The rows that the call selects are its targets. -/
theorem activeSessions_targeted (userId : UUID) (transport : Option SessionTransport)
    (db : Database)
    : activeSessions userId transport db = db.sessions.filter (Targeted userId transport) :=
  rfl

theorem activeSessions_eq_nil
    : activeSessions userId transport db = []
      ↔ ∀ row ∈ db.sessions, ¬ Targeted userId transport row := by
  simp [activeSessions_targeted, List.filter_eq_nil_iff]

/-- Revoking the selected rows revokes the targets. -/
theorem revokeAll_targets (now : Instant) (reason : String) (db : Database)
    : (revokeAll now reason (activeSessions userId transport db) db).sessions
      = db.sessions.map (revokedTarget now userId reason transport) := by
  rw [revokeAll_sessions, rewriteWhere]
  refine List.map_congr_left ?_
  intro row stored
  exact if_congr (decide_eq_true_iff.trans (mem_activeSessions_id stored)) rfl rfl

/-- Nor does it touch another table, by induction on the selected rows. -/
theorem revokeAll_elsewhere (now : Instant) (reason : String) (sessions : List Session)
    (db : Database)
    : (revokeAll now reason sessions db).toAccessTables = db.toAccessTables
      ∧ (revokeAll now reason sessions db).users = db.users
      ∧ (revokeAll now reason sessions db).auditLog = db.auditLog := by
  induction sessions generalizing db with
  | nil => exact ⟨rfl, rfl, rfl⟩
  | cons sess rest ih => exact ih (db.writeSession sess.id (revocation now reason))

/-- The rows that changed are as many as were selected. -/
theorem changedRows_revoked (rows : List Session)
    : changedRows rows (rows.map (revokedTarget now userId reason transport))
      = (rows.filter (Targeted userId transport)).length := by
  rw [changedRows, ← List.map_prod_left_eq_zip, List.filter_map, List.length_map]
  congr 1
  refine List.filter_congr ?_
  intro row _
  rw [Function.comp_apply, decide_eq_decide]
  exact revokedTarget_ne_iff row

/-- No session is a target on rows that the call has left. -/
theorem activeSessions_revoked
    (sessions : after.sessions = db.sessions.map (revokedTarget now userId reason transport))
    : activeSessions userId transport after = [] := by
  rw [activeSessions_eq_nil, sessions]
  intro row member
  obtain ⟨old, _, rfl⟩ := List.mem_map.mp member
  exact revokedTarget_untargeted old

/-- Lookup by a token hash finds the same row, as the call left it. -/
theorem revoked_sessionByTokenHash
    (sessions : after.sessions = db.sessions.map (revokedTarget now userId reason transport))
    (tokenHash : String)
    : after.sessionByTokenHash tokenHash
      = (db.sessionByTokenHash tokenHash).map (revokedTarget now userId reason transport) := by
  unfold Database.sessionByTokenHash findBy
  rw [sessions, List.find?_map]
  congr 2
  funext row
  rw [Function.comp_apply, revokedTarget_tokenHash]

/-- The token of a target has no live session. -/
theorem liveSession_of_target
    (sessions : after.sessions = db.sessions.map (revokedTarget now userId reason transport))
    {row : Session} (stored : row ∈ db.sessions) (target : Targeted userId transport row)
    {rawToken : String} (hash : hashToken runtime rawToken = row.tokenHash) (later : Instant)
    : liveSession runtime later rawToken after = none := by
  have found : db.sessionByTokenHash (hashToken runtime rawToken) = some row :=
    (findBy_eq_some_iff db.sessionTokenHashes).mpr ⟨stored, hash.symm⟩
  have dead : ¬ Live later (revokedTarget now userId reason transport row) := by
    intro live
    have unrevoked := live.unrevoked
    rw [revokedTarget, if_pos target] at unrevoked
    cases unrevoked
  unfold liveSession
  rw [revoked_sessionByTokenHash sessions, found]
  simp [dead]

/-- Any other token has the live session that it had. -/
theorem liveSession_of_other
    (sessions : after.sessions = db.sessions.map (revokedTarget now userId reason transport))
    {rawToken : String}
    (other
      : ∀ row ∈ db.sessions,
          Targeted userId transport row → row.tokenHash ≠ hashToken runtime rawToken)
    (later : Instant)
    : liveSession runtime later rawToken after = liveSession runtime later rawToken db := by
  unfold liveSession
  rw [revoked_sessionByTokenHash sessions]
  cases found : db.sessionByTokenHash (hashToken runtime rawToken) with
  | none => rfl
  | some row =>
      obtain ⟨stored, hash⟩ := findBy_sound found
      have untargeted : ¬ Targeted userId transport row :=
        fun target => other row stored target hash
      rw [Option.map_some, revokedTarget, if_neg untargeted]

/-- What a lookup returns is the live session of its token. -/
theorem lookupSession_returns (runtime : Runtime) (later : Instant) (rawToken : String)
    (db : Database)
    : ((lookupSession runtime later rawToken).perform db).1
      = .ok ((liveSession runtime later rawToken db).map (seen later)) := by
  cases live : liveSession runtime later rawToken db with
  | none => rw [(lookupSession_rejects live).perform, Option.map_none]
  | some sess => rw [(lookupSession_finds live).perform, Option.map_some]

/-- A call that leaves the rows so has revoked its targets. -/
theorem RevokesTargets.of_sessions
    (sessions : after.sessions = db.sessions.map (revokedTarget now userId reason transport))
    (access : after.toAccessTables = db.toAccessTables) (users : after.users = db.users)
    (auditLog : after.auditLog = db.auditLog)
    : RevokesTargets runtime now userId reason transport db
        (activeSessions userId transport db).length after where
  sessions := sessions
  access := access
  users := users
  auditLog := auditLog
  counted := by rw [sessions, changedRows_revoked, activeSessions_targeted]
  repeated := fun later =>
    (revokeAllUserSessions_idle (activeSessions_revoked sessions)).perform
  refused := fun row stored target rawToken hash later =>
    (lookupSession_rejects (liveSession_of_target sessions stored target hash later)).perform
  kept := by
    intro rawToken other later
    rw [lookupSession_returns, lookupSession_returns, liveSession_of_other sessions other]

end Targets

/-- For every database, user, reason and transport: where the reason fits its column, or there is
nothing to revoke, the call revokes exactly its targets and returns how many they are; otherwise
it raises and changes nothing.
-/
theorem revokeAllUserSessions_targets (runtime : Runtime) (now : Instant) (userId : UUID)
    (reason : String) (transport : Option SessionTransport) (db : Database)
    : let ended := (revokeAllUserSessions now userId reason transport).perform db
      (CanRevoke userId reason transport db
        → ∃ count,
            ended.1 = .ok count
            ∧ RevokesTargets runtime now userId reason transport db count ended.2)
      ∧ (¬ CanRevoke userId reason transport db
        → ended = (.error (.dataError "sessions"), db)) := by
  intro ended
  by_cases idle : activeSessions userId transport db = []
  · have untargeted := activeSessions_eq_nil.mp idle
    have unchanged
        : db.sessions = db.sessions.map (revokedTarget now userId reason transport) := by
      have same : ∀ row ∈ db.sessions, revokedTarget now userId reason transport row = row :=
        fun row stored => if_neg (untargeted row stored)
      rw [List.map_congr_left same, List.map_id']
    have returned : ended = (.ok (activeSessions userId transport db).length, db) := by
      rw [idle]
      exact (revokeAllUserSessions_idle idle).perform
    refine ⟨fun _ => ?_, fun blocked => absurd (.inr untargeted) blocked⟩
    rw [returned]
    exact ⟨_, rfl, .of_sessions unchanged rfl rfl rfl⟩
  · by_cases fits : FitsString 40 reason
    · have returned : ended = (.ok _, _) := (revokeAllUserSessions_revokes idle fits).perform
      obtain ⟨access, users, auditLog⟩ :=
        revokeAll_elsewhere now reason (activeSessions userId transport db) db
      refine ⟨fun _ => ?_, fun blocked => absurd (.inl fits) blocked⟩
      rw [returned]
      exact ⟨_, rfl, .of_sessions (revokeAll_targets now reason db) access users auditLog⟩
    · refine ⟨?_, fun _ => (revokeAllUserSessions_rejected idle fits).perform⟩
      rintro (fitting | untargeted)
      · exact absurd fitting fits
      · exact absurd (activeSessions_eq_nil.mpr untargeted) idle

/-- A reason that is a character too long for its column makes the call raise, and the session
stays active.
-/
theorem longReason_revokes_nothing
    : let reason := String.ofList (List.replicate 41 'a')
      (revokeAllUserSessions 0 sampleUser.id reason none).perform (signedIn .cookie)
        = (.error (.dataError "sessions"), signedIn .cookie)
      ∧ ∃ row ∈ (signedIn .cookie).sessions,
          row.userId = sampleUser.id ∧ row.revokedAt = none := by
  have active : activeSessions sampleUser.id none (signedIn .cookie) ≠ [] := by decide
  exact ⟨(revokeAllUserSessions_rejected active (not_fitsString_replicate 40 'a')).perform,
    _, List.mem_cons_self, rfl, rfl⟩

end SpecterCloud.Auth
