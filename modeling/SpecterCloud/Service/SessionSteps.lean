import SpecterCloud.Auditing.LoginRequests
import SpecterCloud.Service.KeptHistory
import SpecterCloud.Sessions.Logout

/-! What each call does to the rows of `sessions`: a login adds one, any other call leaves the
rows of the same sessions.
-/

namespace SpecterCloud.Service

open SpecterCloud.Foundations
open SpecterCloud.Models
open SpecterCloud.Core
open SpecterCloud.Auth
open SpecterCloud.Api
open SpecterCloud.Scripts

/-- The token that a request presents. -/
def ServiceRequest.presented (runtime : Runtime) : ServiceRequest → Option String
  | logout credential => rawToken runtime credential.cookieToken credential.authorization
  | me credential => rawToken runtime credential.cookieToken credential.authorization
  | guarded credential _ _ _ _ =>
      rawToken runtime credential.cookieToken credential.authorization
  | _ => none

/-- The call presents the token of the row. -/
def Presents (runtime : Runtime) (row : Session) (call : ServiceCall) : Prop :=
  ∃ token,
    call.request.presented runtime = some token ∧ row.tokenHash = hashToken runtime token

/-- The event is the login that created the row. -/
def Creates (runtime : Runtime) (row : Session) : ServiceEvent → Prop
  | (⟨now, .login draws _ _⟩, .loggedIn response) =>
      response.cookie.value = draws.token
      ∧ row.tokenHash = hashToken runtime draws.token
      ∧ row.userId = response.user.id
      ∧ row.transport = .cookie
      ∧ row.expiresAt = now + days sessionTtlDays
  | _ => False

/-- The event ends the session of the row: a logout with its cookie, or a revocation. -/
def Ends (runtime : Runtime) (row : Session) : ServiceEvent → Prop
  | (⟨_, .logout credential⟩, .loggedOut _) =>
      ∃ token, credential.cookieToken = some token ∧ row.tokenHash = hashToken runtime token
  | (⟨_, .revoke sessionId _⟩, .revoked _) => row.id = sessionId
  | (⟨_, .revokeAll userId _ transport⟩, .revokedAll _) =>
      row.userId = userId ∧ (transport = none ∨ transport = some row.transport)
  | _ => False

/-- The row after a call that creates no session. It is seen again only by its token. -/
structure Refreshed (runtime : Runtime) (call : ServiceCall) (row next : Session) : Prop where
  keeps : KeepsSession row next
  seen
    : next.lastSeenAt = row.lastSeenAt
      ∨ (next.lastSeenAt = call.now ∧ Presents runtime row call)

/-- Every row is one from before the call. -/
def SessionsRefreshed (runtime : Runtime) (call : ServiceCall) (before after : Database)
    : Prop :=
  ∀ next ∈ after.sessions, ∃ row ∈ before.sessions, Refreshed runtime call row next

/-- The sessions are left alone. -/
def SameSessions (before after : Database) : Prop := after.sessions = before.sessions

section Relations

variable {runtime : Runtime} {call : ServiceCall} {before middle after : Database}

/-- Rows of one session are ended by the same events. -/
theorem KeepsSession.ends_iff {row next : Session} (keeps : KeepsSession row next)
    (event : ServiceEvent)
    : Ends runtime next event ↔ Ends runtime row event := by
  obtain ⟨⟨now, request⟩, answer⟩ := event
  cases request <;> cases answer <;>
    simp [Ends, keeps.tokenHash, keeps.id, keeps.userId, keeps.transport]

theorem KeepsSession.creates_iff {row next : Session} (keeps : KeepsSession row next)
    (event : ServiceEvent)
    : Creates runtime next event ↔ Creates runtime row event := by
  obtain ⟨⟨now, request⟩, answer⟩ := event
  cases request <;> cases answer <;>
    simp [Creates, keeps.tokenHash, keeps.userId, keeps.transport, keeps.expiresAt]

theorem KeepsSession.presents_iff {row next : Session} (keeps : KeepsSession row next)
    (other : ServiceCall)
    : Presents runtime next other ↔ Presents runtime row other := by
  rw [Presents, Presents, keeps.tokenHash]

theorem SameSessions.refreshed (same : SameSessions before after)
    : SessionsRefreshed runtime call before after := by
  intro row stored
  rw [same] at stored
  exact ⟨row, stored, KeepsSession.refl row, .inl rfl⟩

theorem SessionsRefreshed.trans (first : SessionsRefreshed runtime call before middle)
    (second : SessionsRefreshed runtime call middle after)
    : SessionsRefreshed runtime call before after := by
  intro next stored
  obtain ⟨between, storedBetween, refreshed⟩ := second next stored
  obtain ⟨row, storedBefore, refreshedBefore⟩ := first between storedBetween
  refine ⟨row, storedBefore, refreshedBefore.keeps.trans refreshed.keeps, ?_⟩
  rcases refreshed.seen with same | ⟨now, presents⟩
  · rw [same]
    exact refreshedBefore.seen
  · exact .inr ⟨now, (refreshedBefore.keeps.presents_iff call).mp presents⟩

/-- An update of one row refreshes it, if what it writes does. -/
theorem SessionsRefreshed.writeSession {db : Database} {sessionId : UUID}
    {columns : SessionColumns}
    (written
      : ∀ row ∈ db.sessions, row.id = sessionId
        → Refreshed runtime call row (columns.write row))
    : SessionsRefreshed runtime call db (db.writeSession sessionId columns) := by
  intro next stored
  obtain ⟨row, old, rfl⟩ := mem_rewriteWhere.mp stored
  refine ⟨row, old, ?_⟩
  split
  · rename_i hit
    exact written row old (of_decide_eq_true hit)
  · exact ⟨KeepsSession.refl row, .inl rfl⟩

/-- A revocation shows nothing new of when a session was seen. -/
theorem revocation_refreshes (now : Instant) (reason : String) (row : Session)
    : Refreshed runtime call row ((revocation now reason).write row) :=
  ⟨⟨rfl, rfl, rfl, rfl, rfl, rfl, rfl, rfl, fun _ => nofun⟩, .inl rfl⟩

end Relations

-----------------------------------------------------------------------------------------
-- Requests with a credential
-----------------------------------------------------------------------------------------

section Credentials

variable {runtime : Runtime} {db : Database}

/-- The lookup of a token refreshes the row that it has found. -/
theorem touch_refreshes {call : ServiceCall} {token : String} {sess : Session}
    (presented : call.request.presented runtime = some token)
    (found : db.sessionByTokenHash (hashToken runtime token) = some sess)
    : SessionsRefreshed runtime call db (touch call.now sess db) := by
  obtain ⟨stored, tokenHash⟩ := findBy_sound found
  unfold touch
  split
  · refine SessionsRefreshed.writeSession fun row old same => ?_
    obtain rfl : row = sess := eq_of_key_eq db.sessionIds old stored same
    exact ⟨⟨rfl, rfl, rfl, rfl, rfl, rfl, rfl, rfl, id⟩, .inr ⟨rfl, token, presented, tokenHash⟩⟩
  · exact SameSessions.refreshed rfl

/-- The dependency answers or raises, and refreshes no other rows than that of its token. -/
theorem currentUser_ends (runtime : Runtime) (call : ServiceCall) (credential : Credential)
    (presented
      : call.request.presented runtime
        = rawToken runtime credential.cookieToken credential.authorization)
    (db : Database)
    : ∃ outcome after,
        (currentUser runtime call.now credential).Ends db outcome after
        ∧ SessionsRefreshed runtime call db after := by
  cases token : rawToken runtime credential.cookieToken credential.authorization with
  | none =>
      refine ⟨.error (unauthorized "Authentication required"), db, ?_, SameSessions.refreshed rfl⟩
      unfold currentUser getCurrentUser
      rw [token]
      exact Action.Ends.throw _
  | some token_ =>
      rw [token] at presented
      cases live : liveSession runtime call.now token_ db with
      | none =>
          exact ⟨_, db, getCurrentUser_rejects token live, SameSessions.refreshed rfl⟩
      | some sess =>
          obtain ⟨_, found, _⟩ := liveSession_found live
          exact ⟨_, _, getCurrentUser_resolves token live, touch_refreshes presented found⟩

/-- A request that goes on from the dependency without writing sessions. -/
theorem currentUser_follows {α : Type} (runtime : Runtime) (call : ServiceCall)
    (credential : Credential) {next : User → DbAction α}
    (presented
      : call.request.presented runtime
        = rawToken runtime credential.cookieToken credential.authorization)
    (spares : ∀ user, Action.Respects SameSessions (next user)) (db : Database)
    : SessionsRefreshed runtime call db
        ((currentUser runtime call.now credential >>= next).perform db).2 := by
  obtain ⟨outcome, middle, ends, refreshed⟩ := currentUser_ends runtime call credential presented db
  cases outcome with
  | error error =>
      rw [ends.raise.perform]
      exact refreshed
  | ok user =>
      have same : SameSessions middle ((next user).perform middle).2 :=
        (spares user).perform (fun _ => rfl) middle
      have joined
          : ((currentUser runtime call.now credential >>= next).perform db).2
            = ((next user).perform middle).2 := by
        unfold Action.perform
        rw [EStateM.run_bind, show (currentUser runtime call.now credential).run _ = _ from ends]
      rw [joined]
      exact refreshed.trans same.refreshed

end Credentials

-----------------------------------------------------------------------------------------
-- Every call
-----------------------------------------------------------------------------------------

/-- What an event does to the sessions. -/
structure StepsSessions (runtime : Runtime) (event : ServiceEvent) (before after : Database)
    : Prop where
  rows
    : ∀ next ∈ after.sessions,
        (∃ row ∈ before.sessions, Refreshed runtime event.1 row next)
        ∨ (Creates runtime next event ∧ next.lastSeenAt = event.1.now)
  ended : ∀ next ∈ after.sessions, Ends runtime next event → next.revokedAt ≠ none

section Calls

variable {runtime : Runtime} {isPrintable : Char → Bool} {now : Instant} {db : Database}

/-- What a call does to the sessions, as the step of its event. -/
def CallSteps (runtime : Runtime) (isPrintable : Char → Bool) (db : Database)
    (call : ServiceCall)
    : Prop :=
  StepsSessions runtime (call, (serveService runtime isPrintable db call).1) db
    (serveService runtime isPrintable db call).2

theorem StepsSessions.of_call {call : ServiceCall} {answer : ServiceAnswer} {after : Database}
    (steps : StepsSessions runtime (call, answer) db after)
    (served : serveService runtime isPrintable db call = (answer, after))
    : CallSteps runtime isPrintable db call := by
  rw [CallSteps, served]
  exact steps

/-- An event that ends no session and creates none. -/
theorem StepsSessions.refreshes {call : ServiceCall} {answer : ServiceAnswer}
    {after : Database} (refreshed : SessionsRefreshed runtime call db after)
    (endless : ∀ row, ¬ Ends runtime row (call, answer))
    : StepsSessions runtime (call, answer) db after where
  rows := fun next stored => .inl (refreshed next stored)
  ended := fun next _ ends => absurd ends (endless next)

/-- A request that raised ends no session. -/
theorem raised_endless (runtime : Runtime) (call : ServiceCall) (error : Raised)
    (row : Session)
    : ¬ Ends runtime row (call, .raised error) := by
  obtain ⟨now, request⟩ := call
  cases request <;> exact not_false

theorem me_steps (credential : Credential)
    : CallSteps runtime isPrintable db ⟨now, .me credential⟩ := by
  have refreshed
      : SessionsRefreshed runtime ⟨now, .me credential⟩ db
          ((meRequest runtime now credential).perform db).2 :=
    currentUser_follows runtime ⟨now, .me credential⟩ credential rfl
      (fun _ => Action.Respects.pure _) db
  rw [CallSteps, serveService, answeredBy_snd]
  refine StepsSessions.refreshes refreshed fun row => ?_
  unfold answeredBy
  split <;> exact not_false

/-- Sessions that are left alone twice are left alone. -/
theorem SameSessions.trans (a b c : Database) (first : SameSessions a b)
    (second : SameSessions b c)
    : SameSessions a c :=
  Eq.trans second first

/-- An audit row leaves the sessions alone. -/
theorem SameSessions.insertAuditLog (row : AuditLog)
    : Advances SameSessions (Database.insertAuditLog row) := by
  intro db next ran
  obtain rfl := Database.insertAuditLog_ok ran
  rfl

theorem guarded_steps {credential : Credential} {permission : Permission}
    {target : Option (Request → Database → Except Raised UUID)} {request : Request}
    {handler : User → DbAction Unit}
    (spares : ∀ user, Action.Respects SameSessions (handler user))
    : CallSteps runtime isPrintable db
        ⟨now, .guarded credential permission target request handler⟩ := by
  have checked (user : User)
      : Action.Respects SameSessions
          (requirePermission runtime permission (target.map lookupResolver) request user
            >>= handler) :=
    (requirePermission_grows SameSessions.trans SameSessions.insertAuditLog runtime permission
      target request user).bind spares
  have refreshed :=
    currentUser_follows runtime ⟨now, .guarded credential permission target request handler⟩
      credential rfl checked db
  refine StepsSessions.refreshes ?_ (fun row => not_false)
  rw [← bind_assoc] at refreshed
  exact refreshed

theorem logout_steps (credential : Credential)
    : CallSteps runtime isPrintable db ⟨now, .logout credential⟩ := by
  obtain ⟨outcome, after, ends, refreshed⟩ :=
    currentUser_ends runtime ⟨now, .logout credential⟩ credential rfl db
  cases outcome with
  | error error =>
      refine (StepsSessions.refreshes refreshed (raised_endless runtime _ error)).of_call ?_
      simp only [serveService]
      exact congrArg (answeredBy _) ends.raise.perform
  | ok user =>
      obtain ⟨token, sess, accepted⟩ :=
        accepted_of_authenticated (congrArg Prod.fst ends.perform)
      have touched
          : SessionsRefreshed runtime ⟨now, .logout credential⟩ db (touch now sess db) :=
        touch_refreshes accepted.presented accepted.found
      obtain ⟨cookieToken, authorization⟩ := credential
      cases cookieToken with
      | none =>
          have steps
              : StepsSessions runtime (⟨now, .logout ⟨none, authorization⟩⟩, .loggedOut loggedOut)
                  db ((touch now sess db).withAuditRow (logoutEntry user)) :=
            .refreshes touched (fun row ⟨_, none_, _⟩ => nomatch none_)
          refine steps.of_call ?_
          simp only [serveService]
          exact congrArg (answeredBy _) accepted.bearer.perform
      | some cookie =>
          obtain rfl : cookie = token := Option.some.inj accepted.presented
          have revoked
              : SessionsRefreshed runtime ⟨now, .logout ⟨some cookie, authorization⟩⟩
                  (touch now sess db)
                  ((touch now sess db).writeSession (seen now sess).id
                    (revocation now "logout")) :=
            .writeSession fun row _ _ => revocation_refreshes now "logout" row
          have found :=
            Database.writeSession_sessionByTokenHash (seen now sess).id
              (revocation now "logout") (touch now sess db) (hashToken runtime cookie)
          rw [accepted.touched] at found
          simp only [Option.map_some, if_true] at found
          have steps
              : StepsSessions runtime
                  (⟨now, .logout ⟨some cookie, authorization⟩⟩, .loggedOut loggedOut) db
                  (((touch now sess db).writeSession (seen now sess).id
                    (revocation now "logout")).withAuditRow (logoutEntry user)) := by
            refine ⟨fun next stored => .inl (touched.trans revoked next stored), ?_⟩
            rintro next stored ⟨_, carried, tokenHash⟩
            obtain rfl := Option.some.inj carried
            have same :=
              (findBy_eq_some_iff (Database.sessionTokenHashes _)).mpr ⟨stored, tokenHash⟩
            obtain rfl := Option.some.inj (same.symm.trans found)
            nofun
          refine steps.of_call ?_
          simp only [serveService]
          exact congrArg (answeredBy _) accepted.cookie.perform

theorem revoke_steps (sessionId : UUID) (reason : String)
    : CallSteps runtime isPrintable db ⟨now, .revoke sessionId reason⟩ := by
  by_cases active : ∃ sess, db.sessionById sessionId = some sess ∧ sess.revokedAt = none
  · obtain ⟨sess, found, unrevoked⟩ := active
    by_cases fits : FitsString 40 reason
    · have steps
          : StepsSessions runtime (⟨now, .revoke sessionId reason⟩, .revoked true) db
              (db.writeSession sessionId (revocation now reason)) := by
        have refreshed
            : SessionsRefreshed runtime ⟨now, .revoke sessionId reason⟩ db
                (db.writeSession sessionId (revocation now reason)) :=
          .writeSession fun row _ _ => revocation_refreshes now reason row
        refine ⟨fun next stored => .inl (refreshed next stored), ?_⟩
        intro next stored same
        obtain ⟨row, _, rfl⟩ := mem_rewriteWhere.mp stored
        have hit : row.id = sessionId := by
          revert same
          split <;> exact id
        rw [if_pos (decide_eq_true hit)]
        nofun
      refine steps.of_call ?_
      simp only [serveService]
      exact congrArg (answeredBy _) (revokeSession_revokes found unrevoked fits).perform
    · refine (StepsSessions.refreshes (SameSessions.refreshed rfl)
        (raised_endless runtime _ (.dataError "sessions"))).of_call ?_
      simp only [serveService]
      exact congrArg (answeredBy _) (revokeSession_rejected found unrevoked fits).perform
  · have idle : ∀ sess, db.sessionById sessionId = some sess → sess.revokedAt ≠ none :=
      fun sess found unrevoked => active ⟨sess, found, unrevoked⟩
    have steps
        : StepsSessions runtime (⟨now, .revoke sessionId reason⟩, .revoked false) db db := by
      refine ⟨fun next stored => .inl (SameSessions.refreshed rfl next stored), ?_⟩
      intro next stored same
      exact idle next ((findBy_eq_some_iff db.sessionIds).mpr ⟨stored, same⟩)
    refine steps.of_call ?_
    simp only [serveService]
    exact congrArg (answeredBy _) (revokeSession_idle idle).perform

theorem revokeAll_steps (userId : UUID) (reason : String)
    (transport : Option SessionTransport)
    : CallSteps runtime isPrintable db ⟨now, .revokeAll userId reason transport⟩ := by
  by_cases none_ : activeSessions userId transport db = []
  · have steps
        : StepsSessions runtime (⟨now, .revokeAll userId reason transport⟩, .revokedAll 0) db
            db := by
      refine ⟨fun next stored => .inl (SameSessions.refreshed rfl next stored), ?_⟩
      intro next stored covers unrevoked
      have selected := (mem_activeSessions_id stored).mpr ⟨covers.1, unrevoked, covers.2⟩
      rw [none_] at selected
      cases selected
    refine steps.of_call ?_
    simp only [serveService]
    exact congrArg (answeredBy _) (revokeAllUserSessions_idle none_).perform
  by_cases fits : FitsString 40 reason
  · have steps
        : StepsSessions runtime
            (⟨now, .revokeAll userId reason transport⟩,
              .revokedAll (activeSessions userId transport db).length)
            db (revokeAll now reason (activeSessions userId transport db) db) := by
      have member {next : Session}
          (stored
            : next ∈ (revokeAll now reason (activeSessions userId transport db) db).sessions)
          : ∃ row ∈ db.sessions,
              next
              = if row.id ∈ (activeSessions userId transport db).map Session.id then
                  (revocation now reason).write row
                else row := by
        rw [revokeAll_sessions] at stored
        obtain ⟨row, old, rfl⟩ := mem_rewriteWhere.mp stored
        exact ⟨row, old, by simp only [decide_eq_true_eq]⟩
      constructor
      · intro next stored
        obtain ⟨row, old, rfl⟩ := member stored
        refine .inl ⟨row, old, ?_⟩
        split
        · exact revocation_refreshes now reason row
        · exact ⟨KeepsSession.refl row, .inl rfl⟩
      · intro next stored covers
        obtain ⟨row, old, rfl⟩ := member stored
        split at covers
        · rename_i selected
          rw [if_pos selected]
          nofun
        · rename_i unselected
          rw [if_neg unselected]
          intro unrevoked
          exact unselected ((mem_activeSessions_id old).mpr ⟨covers.1, unrevoked, covers.2⟩)
    refine steps.of_call ?_
    simp only [serveService]
    exact congrArg (answeredBy _) (revokeAllUserSessions_revokes none_ fits).perform
  · refine (StepsSessions.refreshes (SameSessions.refreshed rfl)
      (raised_endless runtime _ (.dataError "sessions"))).of_call ?_
    simp only [serveService]
    exact congrArg (answeredBy _) (revokeAllUserSessions_rejected none_ fits).perform

theorem SameSessions.bootstraps : KeptByBootstrap SameSessions where
  insertOrg := by
    intro row _ db next ran
    obtain ⟨accepted, rfl⟩ := Database.insertOrg_ok ran
    rfl
  insertUser := by
    intro row _ db next ran
    obtain ⟨accepted, rfl⟩ := Database.insertUser_ok ran
    rfl
  insertUserRole := by
    intro row _ db next ran
    obtain ⟨accepted, rfl⟩ := Database.insertUserRole_ok ran
    rfl

theorem bootstrap_steps (draws : BootstrapDraws) (orgId : UUID) (email password name : String)
    : CallSteps runtime isPrintable db ⟨now, .bootstrap draws orgId email password name⟩ := by
  have same
      : SameSessions db
          ((bootstrap runtime isPrintable draws now orgId email password name).perform db).2 :=
    (bootstrap_grows SameSessions.trans SameSessions.bootstraps
      runtime isPrintable draws now orgId email password name).perform (fun _ => rfl) db
  rw [CallSteps, serveService, answeredBy_snd]
  refine StepsSessions.refreshes same.refreshed fun row => ?_
  unfold answeredBy
  split <;> exact not_false

-----------------------------------------------------------------------------------------
-- Logins
-----------------------------------------------------------------------------------------

/-- The body of a 200 of the login route, with its cookie. -/
def loginResponse (runtime : Runtime) (user : User) (rawToken : String) : LoginResponse where
  user := UserView.fromModel user
  cookie :=
    {
      key := sessionCookieName
      value := rawToken
      maxAge := sessionTtlDays * 24 * 60 * 60
      httponly := true
      secure := runtime.settings.sessionCookieSecure
      samesite := runtime.settings.sessionCookieSamesite
      path := "/"
    }

/-- An audit row that is written before a request raises leaves no other answer. -/
theorem audited_raises {α : Type} (entry : AuditLog) (error : Raised) (db : Database)
    : ∃ raised,
        (Action.perform
            (Audit.write entry >>= fun _ => Action.commit >>= fun _ =>
              (throw error : DbAction α))
            db).1
        = .error raised := by
  unfold Action.perform
  rw [EStateM.run_bind]
  cases (Audit.write entry).run (.opened db) with
  | error raised session => exact ⟨raised, rfl⟩
  | ok value session =>
      simp only [EStateM.run_bind]
      cases (Action.commit : DbAction Unit).run session with
      | error raised stopped => exact ⟨raised, rfl⟩
      | ok _ stopped => exact ⟨error, rfl⟩

/-- A login that succeeds answers with its token once its audit row is committed. -/
theorem answerLogin_succeeds (runtime : Runtime) (payload : LoginRequest) {request : Request}
    {user : User} (rawToken : String) (sess : Session)
    (userAgent : NullOr (FitsString 500) request.userAgent)
    (known : user.id ∈ db.users.map User.id)
    : (answerLogin runtime payload request (.success user rawToken sess)).Ends db
        (.ok (loginResponse runtime user rawToken)) (db.withAuditRow (successEntry request user)) :=
  Audit.write_committed (resultEntry_valid runtime payload request (.success user rawToken sess))
    (loginEntry_accepted (by decide) trivial known userAgent) (Action.Ends.pure _)

/-- How a login request ends: refused, with the sessions as they were, or with a session for an
account whose password was verified.
-/
inductive LoginServed (runtime : Runtime) (draws : Draws) (now : Instant)
    (payload : LoginRequest) (request : Request) (db : Database)
    : Except Raised LoginResponse × Database → Prop
  | refused {error : Raised} {after : Database} (same : SameSessions db after)
      : LoginServed runtime draws now payload request db (.error error, after)
  | admitted {user : User} {rehashed : Option String}
      (reaches : Reaches runtime (loginAttempt payload request) db user)
      (verified : verifyPassword runtime payload.password user.passwordHash = true)
      (accepted
        : (db.writeUser user.id (successColumns now rehashed) now).AcceptsSession
            (loginSession runtime draws now (loginAttempt payload request) user))
      : LoginServed runtime draws now payload request db
          (.ok (loginResponse runtime user draws.token),
            ((db.writeUser user.id (successColumns now rehashed) now).withSession _
              accepted).withAuditRow (successEntry request user))

/-- A request whose attempt found no session to create is refused. -/
theorem LoginServed.of_refusal {draws : Draws} {payload : LoginRequest} {request : Request}
    {result : LoginResult} {middle : Database} {entry : AuditLog} {error : Raised}
    (ends
      : (attemptLogin runtime draws now (loginAttempt payload request)).Ends db (.ok result)
          middle)
    (same : SameSessions db middle)
    (answer
      : answerLogin runtime payload request result
        = (Audit.write entry >>= fun _ => Action.commit >>= fun _ => throw error))
    : LoginServed runtime draws now payload request db
        ((login runtime draws now payload request).perform db) := by
  have kept : SameSessions middle ((answerLogin runtime payload request result).perform middle).2 :=
    (answerLogin_grows SameSessions.trans SameSessions.insertAuditLog runtime payload request
      result).perform (fun _ => rfl) middle
  obtain ⟨raised, answered⟩ := audited_raises entry error middle
  rw [← answer] at answered
  rw [login_answers ends, show (answerLogin runtime payload request result).perform middle
      = (.error raised, _) from Prod.ext answered rfl]
  exact .refused (SameSessions.trans _ _ _ same kept)

theorem login_served (runtime : Runtime) (draws : Draws) (now : Instant)
    (payload : LoginRequest) (request : Request) (db : Database)
    : LoginServed runtime draws now payload request db
        ((login runtime draws now payload request).perform db) := by
  obtain ⟨outcome, middle, ways, ends⟩ :=
    attemptLogin_cases runtime draws now (loginAttempt payload request) db
  cases ways with
  | unsendable _ =>
      rw [show (login runtime draws now payload request).perform db = _ from ends.raise.perform]
      exact .refused rfl
  | unknown _ => exact .of_refusal ends rfl rfl
  | inactive _ _ => exact .of_refusal ends rfl rfl
  | locked _ _ _ => exact .of_refusal ends rfl rfl
  | failed _ _ _ => exact .of_refusal ends rfl rfl
  | @succeeded user rehashed reaches _ verified _ accepted =>
      have known
          : user.id
            ∈ ((db.writeUser user.id (successColumns now rehashed) now).withSession _
                accepted).users.map User.id := by
        show user.id ∈ (db.writeUser user.id _ now).users.map User.id
        rw [Database.writeUser_ids]
        exact List.mem_map_of_mem
          (findBy_sound (Database.userByEmail_answered reaches.found).2).1
      have answered :=
        answerLogin_succeeds runtime payload draws.token
          (loginSession runtime draws now (loginAttempt payload request) user)
          accepted.fits.userAgent
          (show ((successColumns now rehashed).write now user).id ∈ _ from known)
      rw [show (login runtime draws now payload request).perform db = _ from
        (ends.bind answered).perform]
      exact .admitted reaches verified accepted
  | raised _ _ _ _ =>
      rw [show (login runtime draws now payload request).perform db = _ from ends.raise.perform]
      exact .refused rfl

theorem login_steps (draws : Draws) (payload : LoginRequest) (request : Request)
    : CallSteps runtime isPrintable db ⟨now, .login draws payload request⟩ := by
  have served := login_served runtime draws now payload request db
  cases ended : (login runtime draws now payload request).perform db with
  | mk outcome after =>
      rw [ended] at served
      cases served with
      | @refused error after same =>
          refine (StepsSessions.refreshes same.refreshed
            (raised_endless runtime _ error)).of_call ?_
          simp only [serveService]
          exact congrArg (answeredBy _) ended
      | @admitted user rehashed reaches verified accepted =>
          have steps
              : StepsSessions runtime
                  (⟨now, .login draws payload request⟩,
                    .loggedIn (loginResponse runtime user draws.token))
                  db
                  (((db.writeUser user.id (successColumns now rehashed) now).withSession _
                    accepted).withAuditRow (successEntry request user)) := by
            refine ⟨fun next stored => ?_, fun _ _ => False.elim⟩
            rcases List.mem_append.mp stored with old | new
            · exact .inl ⟨next, old, KeepsSession.refl next, .inl rfl⟩
            · obtain rfl := List.mem_singleton.mp new
              exact .inr ⟨⟨rfl, rfl, rfl, rfl, rfl⟩, rfl⟩
          refine steps.of_call ?_
          simp only [serveService]
          exact congrArg (answeredBy _) ended

/-- What every call does to the sessions. -/
theorem serveService_steps (runtime : Runtime) (isPrintable : Char → Bool) (call : ServiceCall)
    (handled
      : call.request.HandledBy
          (fun handler => ∀ user, Action.Respects SameSessions (handler user)))
    (db : Database)
    : CallSteps runtime isPrintable db call := by
  obtain ⟨now, request⟩ := call
  cases request with
  | login draws payload request => exact login_steps draws payload request
  | logout credential => exact logout_steps credential
  | me credential => exact me_steps credential
  | guarded credential permission target request handler => exact guarded_steps handled
  | revoke sessionId reason => exact revoke_steps sessionId reason
  | revokeAll userId reason transport => exact revokeAll_steps userId reason transport
  | bootstrap draws orgId email password name =>
      exact bootstrap_steps draws orgId email password name

end Calls

end SpecterCloud.Service
