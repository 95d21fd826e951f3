import SpecterCloud.Api.AuthRoutes

/-! What the requests around sessions keep of the database, from what their statements keep. -/

namespace SpecterCloud.Auth

open SpecterCloud.Foundations
open SpecterCloud.Models
open SpecterCloud.Core
open SpecterCloud.Api

/-- The relation holds along the INSERTs and the revocations of the requests. -/
structure KeptByRequests (Grows : Database → Database → Prop) : Prop where
  refl : ∀ db, Grows db db
  trans : ∀ a b c, Grows a b → Grows b c → Grows a c
  insertSession : ∀ row, Advances Grows (Database.insertSession row)
  insertAuditLog : ∀ row, Advances Grows (Database.insertAuditLog row)
  revoke
    : ∀ sessionId now reason,
        Advances Grows (Database.updateSession sessionId (revocation now reason))

/-- The relation holds along every refresh of `last_seen_at`. -/
def KeptByTouch (Grows : Database → Database → Prop) : Prop :=
  ∀ sessionId now,
    Advances Grows (Database.updateSession sessionId { lastSeenAt := some now })

/-- The relation holds along every update of a user. -/
def KeptByUserUpdates (Grows : Database → Database → Prop) : Prop :=
  ∀ userId columns now, Advances Grows (Database.updateUser userId columns now)

section Requests

variable {Grows : Database → Database → Prop} (kept : KeptByRequests Grows)

include kept

section Sessions

variable (runtime : Runtime) (draws : Draws) (now : Instant)

theorem createSession_respects (userId : UUID) (transport : SessionTransport)
    (userAgent : Option String) (ipAddress : Option IpAddress)
    : Action.Respects Grows
        (createSession runtime draws now userId transport userAgent ipAddress) :=
  (Action.Respects.add (kept.insertSession _)).bind fun _ =>
    (Action.Respects.flush kept.trans).bind fun _ => Action.Respects.pure _

theorem lookupSession_respects (touches : KeptByTouch Grows) (token : String)
    : Action.Respects Grows (lookupSession runtime now token) := by
  unfold lookupSession
  split
  · exact Action.Respects.pure _
  refine (Action.Respects.select _).bind fun found => ?_
  cases found with
  | none => exact Action.Respects.pure _
  | some sess =>
      show Action.Respects Grows (if _ then _ else _)
      split
      · exact Action.Respects.pure _
      split
      · exact Action.Respects.pure _
      split
      · exact Action.Respects.pure _
      split
      · exact (Action.Respects.add (touches _ _)).bind fun _ =>
          (Action.Respects.commit kept.trans).bind fun _ => Action.Respects.pure _
      · exact Action.Respects.pure _

theorem revokeSession_respects (sessionId : UUID) (reason : String)
    : Action.Respects Grows (revokeSession now sessionId reason) := by
  refine (Action.Respects.select _).bind fun found => ?_
  cases found with
  | none => exact Action.Respects.pure _
  | some sess =>
      show Action.Respects Grows (if _ then _ else _)
      split
      · exact Action.Respects.pure _
      · exact (Action.Respects.add (kept.revoke _ _ _)).bind fun _ =>
          (Action.Respects.commit kept.trans).bind fun _ => Action.Respects.pure _

theorem revokeAllUserSessions_respects (userId : UUID) (reason : String)
    (transport : Option SessionTransport)
    : Action.Respects Grows (revokeAllUserSessions now userId reason transport) := by
  refine (Action.Respects.select _).bind fun sessions => ?_
  show Action.Respects Grows (if _ then _ else _)
  split
  · exact Action.Respects.pure _
  · refine (Action.Respects.forM_add ?_).bind fun _ =>
      (Action.Respects.commit kept.trans).bind fun _ => Action.Respects.pure _
    intro statement member
    obtain ⟨sess, _, rfl⟩ := List.mem_map.mp member
    exact kept.revoke _ _ _

theorem getCurrentUser_respects (touches : KeptByTouch Grows)
    (cookieToken authorization : Option String)
    : Action.Respects Grows (getCurrentUser runtime now cookieToken authorization) := by
  unfold getCurrentUser
  split
  · exact Action.Respects.throw _
  refine (lookupSession_respects kept runtime now touches _).bind fun found => ?_
  cases found with
  | none => exact Action.Respects.throw _
  | some sess =>
      refine (Action.Respects.select _).bind fun found => ?_
      cases found with
      | none => exact Action.Respects.throw _
      | some user =>
          show Action.Respects Grows (if _ then _ else _)
          split
          · exact Action.Respects.throw _
          · exact Action.Respects.pure _

end Sessions

section Logins

variable (updates : KeptByUserUpdates Grows) (runtime : Runtime) (draws : Draws)
  (now : Instant)

include updates

theorem completeLogin_respects (attempt : LoginAttempt) (user : User)
    : Action.Respects Grows (completeLogin runtime draws now attempt user) :=
  (Action.Respects.ofExcept _).bind fun _ =>
    (Action.Respects.add (updates _ _ _)).bind fun _ =>
      (createSession_respects kept runtime draws now _ _ _ _).bind fun _ =>
        (Action.Respects.commit kept.trans).bind fun _ => Action.Respects.pure _

theorem attemptLogin_respects (attempt : LoginAttempt)
    : Action.Respects Grows (attemptLogin runtime draws now attempt) := by
  refine (Action.Respects.select _).bind fun found => ?_
  cases found with
  | none => exact (Action.Respects.ofExcept _).bind fun _ => Action.Respects.pure _
  | some user =>
      show Action.Respects Grows (if _ then _ else _)
      split
      · exact Action.Respects.pure _
      split
      · exact Action.Respects.pure _
      split
      · exact (Action.Respects.add (updates _ _ _)).bind fun _ =>
          (Action.Respects.commit kept.trans).bind fun _ => Action.Respects.pure _
      · exact completeLogin_respects kept updates runtime draws now attempt user

end Logins

section Routes

variable (runtime : Runtime)

theorem write_respects (entry : AuditLog) : Action.Respects Grows (Audit.write entry) := by
  have added
      : Action.Respects Grows
          (do
            Action.add (Database.insertAuditLog entry)
            return entry) :=
    (Action.Respects.add (kept.insertAuditLog entry)).bind fun _ => Action.Respects.pure _
  unfold Audit.write
  split
  · exact (Action.Respects.throw _).bind fun _ => added
  · exact added

/-- What `login` does after the attempt adds an audit row. -/
theorem answerLogin_respects (payload : LoginRequest) (request : Request) (result : LoginResult)
    : Action.Respects Grows (answerLogin runtime payload request result) := by
  cases result <;>
    exact (write_respects kept _).bind fun _ =>
      (Action.Respects.commit kept.trans).bind fun _ => by
        first
        | exact Action.Respects.throw _
        | exact Action.Respects.pure _

/-- What the logout route does for the user that it has authenticated. -/
theorem logout_respects (now : Instant) (user : User) (cookieToken : Option String)
    : Action.Respects Grows (logout runtime now user cookieToken) := by
  refine Action.Respects.bind ?_ fun _ =>
    (write_respects kept _).bind fun _ =>
      (Action.Respects.commit kept.trans).bind fun _ => Action.Respects.pure _
  unfold revokeCookieSession
  split
  · exact Action.Respects.pure _
  refine (Action.Respects.select _).bind fun found => ?_
  cases found with
  | none => exact Action.Respects.pure _
  | some sess => exact (revokeSession_respects kept now _ _).bind fun _ => Action.Respects.pure _

end Routes

end Requests

end SpecterCloud.Auth
