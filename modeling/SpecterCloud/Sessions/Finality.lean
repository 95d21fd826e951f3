import SpecterCloud.Sessions.Histories
import SpecterCloud.Sessions.Logout

/-! A token that was rejected stays rejected: no step makes a session live again, and a session
that is not live does not become so with time.
-/

namespace SpecterCloud.Auth

open SpecterCloud.Foundations
open SpecterCloud.Models
open SpecterCloud.Core
open SpecterCloud.Api

/-- A step of a run: a login, a call of the session module, or a logout request. -/
inductive AccountRequest
  | login (draws : Draws) (attempt : LoginAttempt)
  | session (request : SessionRequest)
  | logout (cookieToken authorization : Option String)

/-- A step at the instant that the clocks show. -/
structure AccountCall where
  now : Instant
  request : AccountRequest

inductive AccountAnswer
  | loggedIn (ended : Except Raised LoginResult)
  | session (answer : SessionAnswer)
  | loggedOut (ended : Except Raised LogoutResponse)

abbrev AccountEvent := AccountCall × AccountAnswer

/-- A step as a request of its own. -/
def serveAccount (runtime : Runtime) (db : Database) (call : AccountCall)
    : AccountAnswer × Database :=
  match call.request with
  | .login draws attempt =>
      let ended := (attemptLogin runtime draws call.now attempt).perform db
      (.loggedIn ended.1, ended.2)
  | .session request =>
      let ended := serveSession runtime db ⟨call.now, request⟩
      (.session ended.1, ended.2)
  | .logout cookieToken authorization =>
      let ended := (logoutRequest runtime call.now cookieToken authorization).perform db
      (.loggedOut ended.1, ended.2)

/-- Time does not go back. -/
def TimelyCall (history : List AccountEvent) (call : AccountCall) : Prop :=
  ∀ event ∈ history, event.1.now ≤ call.now

/-- Runs of steps from a database. -/
abbrev AccountRuns (runtime : Runtime) (initial : Database) (history : List AccountEvent)
    (db : Database)
    : Prop :=
  Runs (served TimelyCall (serveAccount runtime)) initial history db

/-- A run goes on with any timely step. -/
theorem AccountRuns.serve {runtime : Runtime} {initial db : Database}
    {history : List AccountEvent} (ran : AccountRuns runtime initial history db)
    (call : AccountCall) (timely : TimelyCall history call)
    : AccountRuns runtime initial ((call, (serveAccount runtime db call).1) :: history)
        (serveAccount runtime db call).2 :=
  .next ran ⟨timely, Prod.ext rfl rfl⟩

-----------------------------------------------------------------------------------------
-- No step makes a session live
-----------------------------------------------------------------------------------------

/-- Every session stays under its token hash, and is live at `now` only if it was before. -/
def SessionsDecline (now : Instant) (before after : Database) : Prop :=
  ∀ old ∈ before.sessions, ∃ new ∈ after.sessions,
    new.tokenHash = old.tokenHash ∧ (Live now new → Live now old)

section Decline

variable (runtime : Runtime) {now : Instant} {db : Database}

theorem SessionsDecline.of_eq {before after : Database}
    (same : after.sessions = before.sessions)
    : SessionsDecline now before after :=
  fun old stored => ⟨old, same ▸ stored, rfl, id⟩

theorem SessionsDecline.trans (a b c : Database) (first : SessionsDecline now a b)
    (second : SessionsDecline now b c)
    : SessionsDecline now a c := by
  intro old stored
  obtain ⟨middle, kept, tokenHash, live⟩ := first old stored
  obtain ⟨new, keptAgain, tokenHashAgain, liveAgain⟩ := second middle kept
  exact ⟨new, keptAgain, tokenHashAgain.trans tokenHash, live ∘ liveAgain⟩

/-- An update of a session declines if what it writes is live only where it was. -/
theorem decline_writeSession {sessionId : UUID} {columns : SessionColumns}
    (declines
      : ∀ row ∈ db.sessions, row.id = sessionId → Live now (columns.write row) → Live now row)
    : SessionsDecline now db (db.writeSession sessionId columns) := by
  intro old stored
  refine ⟨if old.id = sessionId then columns.write old else old,
    mem_rewriteWhere.mpr ⟨old, stored, by simp⟩, ?_⟩
  split
  · rename_i hit
    exact ⟨rfl, declines old stored hit⟩
  · exact ⟨rfl, id⟩

/-- A revoked session is live at no time. -/
theorem revocation_dead {at_ : Instant} {reason : String} {row : Session}
    : ¬ Live now ((revocation at_ reason).write row) :=
  fun live => nomatch live.unrevoked

theorem SessionsDecline.kept : KeptByRequests (SessionsDecline now) where
  refl := fun _ => .of_eq rfl
  trans := SessionsDecline.trans
  insertSession := by
    intro row db next ran
    obtain ⟨accepted, rfl⟩ := Database.insertSession_ok ran
    exact fun old stored => ⟨old, List.mem_append_left _ stored, rfl, id⟩
  insertAuditLog := by
    intro row db next ran
    obtain rfl := Database.insertAuditLog_ok ran
    exact .of_eq rfl
  revoke := by
    intro sessionId at_ reason db next ran
    obtain rfl := Database.updateSession_ok ran
    exact decline_writeSession fun _ _ _ live => absurd live revocation_dead

theorem decline_updateUser : KeptByUserUpdates (SessionsDecline now) := by
  intro userId columns at_ db next ran
  obtain rfl := Database.updateUser_ok ran
  exact .of_eq rfl

/-- A lookup refreshes only a session that it has found live. -/
theorem touch_declines {runtime : Runtime} {token : String} {sess : Session}
    (live : liveSession runtime now token db = some sess)
    : SessionsDecline now db (touch now sess db) := by
  obtain ⟨_, found, alive⟩ := liveSession_found live
  unfold touch
  split
  · refine decline_writeSession fun row stored same _ => ?_
    exact eq_of_key_eq db.sessionIds stored (findBy_sound found).1 same ▸ alive
  · exact .of_eq rfl

theorem lookupSession_declines (token : String)
    : SessionsDecline now db ((lookupSession runtime now token).perform db).2 := by
  cases live : liveSession runtime now token db with
  | none =>
      rw [(lookupSession_rejects live).perform]
      exact .of_eq rfl
  | some sess =>
      rw [(lookupSession_finds live).perform]
      exact touch_declines live

/-- The credential of a request is looked up once, and no session becomes live by that. -/
theorem getCurrentUser_declines (cookieToken authorization : Option String)
    : ∃ outcome after,
        (getCurrentUser runtime now cookieToken authorization).Ends db outcome after
        ∧ SessionsDecline now db after := by
  cases presented : rawToken runtime cookieToken authorization with
  | none =>
      refine ⟨.error (unauthorized "Authentication required"), db, ?_, .of_eq rfl⟩
      unfold getCurrentUser
      rw [presented]
      exact Action.Ends.throw _
  | some token =>
      cases live : liveSession runtime now token db with
      | none => exact ⟨_, db, getCurrentUser_rejects presented live, .of_eq rfl⟩
      | some sess => exact ⟨_, _, getCurrentUser_resolves presented live, touch_declines live⟩

/-- No call of the session module makes a session live. -/
theorem serveSession_declines (request : SessionRequest)
    : SessionsDecline now db (serveSession runtime db ⟨now, request⟩).2 := by
  have kept : KeptByRequests (SessionsDecline now) := SessionsDecline.kept
  have after {α : Type} (answer : α → SessionAnswer) (ended : Except Raised α × Database)
      : (answered answer ended).2 = ended.2 := by
    unfold answered
    split <;> rfl
  cases request with
  | create draws userId transport userAgent ipAddress =>
      have created :=
        createSession_respects kept runtime draws now userId transport userAgent ipAddress
      rw [serveSession, after]
      refine (created.bind fun _ => ?_).perform kept.refl db
      exact (Action.Respects.commit kept.trans).bind fun _ => Action.Respects.pure _
  | lookup token =>
      rw [serveSession, after]
      exact lookupSession_declines runtime token
  | revoke sessionId reason =>
      rw [serveSession, after]
      exact (revokeSession_respects kept now sessionId reason).perform kept.refl db
  | revokeAll userId reason transport =>
      rw [serveSession, after]
      exact (revokeAllUserSessions_respects kept now userId reason transport).perform kept.refl
        db

/-- No step makes a session live. -/
theorem serveAccount_declines (call : AccountCall)
    : SessionsDecline call.now db (serveAccount runtime db call).2 := by
  have kept : KeptByRequests (SessionsDecline call.now) := SessionsDecline.kept
  obtain ⟨now, request⟩ := call
  cases request with
  | login draws attempt =>
      exact (attemptLogin_respects kept decline_updateUser runtime draws now attempt).perform
        kept.refl db
  | session request => exact serveSession_declines runtime request
  | logout cookieToken authorization =>
      obtain ⟨outcome, middle, dependency, declines⟩ :=
        getCurrentUser_declines runtime cookieToken authorization
      exact Action.Respects.follows dependency declines fun user =>
        logout_respects kept runtime now user cookieToken

end Decline

-----------------------------------------------------------------------------------------
-- Rejection
-----------------------------------------------------------------------------------------

/-- The token has a session, which from the end of the history on is live at no time. -/
def Rejected (runtime : Runtime) (token : String) (history : List AccountEvent) (db : Database)
    : Prop :=
  ∃ sess,
    db.sessionByTokenHash (hashToken runtime token) = some sess
    ∧ ∀ now, (∀ event ∈ history, event.1.now ≤ now) → ¬ Live now sess

/-- A session that is live was live before, as long as nothing happened to it. -/
theorem Live.earlier {sess : Session} {now later : Instant} (live : Live later sess)
    (before : now ≤ later)
    : Live now sess where
  unrevoked := live.unrevoked
  unexpired := Int.le_trans before live.unexpired
  recent := Int.le_trans (Int.sub_le_sub_right before _) live.recent

section Rejections

variable {runtime : Runtime} {token : String} {initial db : Database}
  {history : List AccountEvent}

/-- The token of a session that is not live is rejected from then on. -/
theorem rejected_of_dead {event : AccountEvent} {sess : Session} (present : token ≠ "")
    (found : db.sessionByTokenHash (hashToken runtime token) = some sess)
    (dead : liveSession runtime event.1.now token db = none)
    : Rejected runtime token (event :: history) db := by
  refine ⟨sess, found, ?_⟩
  intro now timely live
  have alive : Live event.1.now sess := live.earlier (timely event List.mem_cons_self)
  simp [liveSession, present, found, alive] at dead

/-- A rejected token has no live session. -/
theorem Rejected.dead {now : Instant} (rejected : Rejected runtime token history db)
    (timely : ∀ event ∈ history, event.1.now ≤ now)
    : liveSession runtime now token db = none := by
  obtain ⟨sess, found, dead⟩ := rejected
  unfold liveSession
  rw [found]
  simp [dead now timely]

/-- A step leaves a rejected token rejected. -/
theorem Rejected.step {event : AccountEvent} {after : Database}
    (rejected : Rejected runtime token history db)
    (stepped : served TimelyCall (serveAccount runtime) history db event after)
    : Rejected runtime token (event :: history) after := by
  obtain ⟨sess, found, dead⟩ := rejected
  obtain ⟨timely, answered⟩ := stepped
  obtain ⟨stored, hash⟩ := findBy_sound found
  have declines : SessionsDecline event.1.now db (serveAccount runtime db event.1).2 :=
    serveAccount_declines runtime event.1
  rw [answered] at declines
  obtain ⟨new, kept, sameHash, live⟩ := declines sess stored
  refine ⟨new, (findBy_eq_some_iff after.sessionTokenHashes).mpr ⟨kept, sameHash.trans hash⟩, ?_⟩
  -- Live later, the new row would be live now, and so would the old one have been.
  intro now later alive
  exact dead event.1.now timely (live (alive.earlier (later event List.mem_cons_self)))

/-- A token that is rejected once is rejected after every further step. -/
theorem Rejected.run {newer : List AccountEvent} {middle : Database}
    (reached : AccountRuns runtime initial history middle)
    (rejected : Rejected runtime token history middle)
    (ran : AccountRuns runtime initial (newer ++ history) db)
    : Rejected runtime token (newer ++ history) db := by
  induction newer generalizing db with
  | nil =>
      obtain rfl := Runs.served_unique reached ran
      exact rejected
  | cons event rest ih =>
      cases ran with
      | next before stepped => exact (ih before).step stepped

/-- A lookup that answers nothing was for a token without a live session. -/
theorem serveAccount_refused {now : Instant} {after : Database}
    (refused
      : serveAccount runtime db ⟨now, .session (.lookup token)⟩
        = (.session (.found none), after))
    : liveSession runtime now token db = none := by
  cases live : liveSession runtime now token db with
  | none => rfl
  | some sess =>
      simp only [serveAccount, serveSession, (lookupSession_finds live).perform] at refused
      cases refused

/-- The lookup of a token without a live session answers nothing and changes nothing. -/
theorem serveAccount_rejects {now : Instant} (dead : liveSession runtime now token db = none)
    : serveAccount runtime db ⟨now, .session (.lookup token)⟩
      = (.session (.found none), db) := by
  simp only [serveAccount, serveSession, (lookupSession_rejects dead).perform]
  rfl

end Rejections

/-- In a run of steps from any database, once a lookup of the token of an existing session has
answered nothing, so does every later lookup of that token, whatever lies in between.
-/
theorem rejection_final (runtime : Runtime) (token : String) (initial existing db : Database)
    (newer between earlier : List AccountEvent) (rejectedAt later : Instant) (sess : Session)
    (answer : AccountAnswer) (reached : AccountRuns runtime initial earlier existing)
    (found : existing.sessionByTokenHash (hashToken runtime token) = some sess)
    (ran
      : AccountRuns runtime initial
          (newer ++ (⟨later, .session (.lookup token)⟩, answer) :: between
            ++ (⟨rejectedAt, .session (.lookup token)⟩, .session (.found none)) :: earlier)
          db)
    : answer = .session (.found none) := by
  rw [List.append_assoc, List.cons_append] at ran
  obtain ⟨state, _, before, looked⟩ := ran.at_event
  have dead : liveSession runtime later token state = none := by
    by_cases present : token = ""
    · exact if_pos present
    obtain ⟨again, middle, reachedAgain, refused⟩ := before.at_event
    obtain rfl := Runs.served_unique reached reachedAgain
    have deadBefore := serveAccount_refused refused.2
    obtain rfl : existing = middle :=
      congrArg Prod.snd ((serveAccount_rejects deadBefore).symm.trans refused.2)
    have rejected
        : Rejected runtime token
            ((⟨rejectedAt, .session (.lookup token)⟩, .session (.found none)) :: earlier)
            existing :=
      rejected_of_dead present found deadBefore
    exact (rejected.run (.next reached refused) before).dead looked.1
  exact congrArg Prod.fst (looked.2.symm.trans (serveAccount_rejects dead))

/-- A login of the user of the sample database. -/
def sampleRelogin : AccountCall :=
  ⟨days 8, .login ⟨"b", 2, "somesalt"⟩ ⟨"admin@specter.example", "password", .cookie, none, none⟩⟩

/-- A session that was idle for eight days stays rejected after its user has logged in again. -/
theorem idle_session_stays_rejected
    : let relogin := serveAccount sampleRuntime (signedIn .cookie) sampleRelogin
      let lookup := serveAccount sampleRuntime relogin.2 ⟨days 9, .session (.lookup "a")⟩
      lookup.1 = .session (.found none) := by
  intro relogin lookup
  have found
      : (signedIn .cookie).sessionByTokenHash (hashToken sampleRuntime "a")
        = some
            (newSession sampleRuntime ⟨"a", 1, "somesalt"⟩ 0 sampleUser.id .cookie none none) :=
    rfl
  have dead : liveSession sampleRuntime (days 8) "a" (signedIn .cookie) = none := by
    rw [liveSession, found]
    decide
  have idle
      : AccountRuns sampleRuntime (signedIn .cookie)
          [(⟨days 8, .session (.lookup "a")⟩, .session (.found none))] (signedIn .cookie) :=
    .next .start ⟨List.forall_mem_nil _, serveAccount_rejects dead⟩
  have again := idle.serve sampleRelogin (by simp [TimelyCall, sampleRelogin])
  have later := again.serve ⟨days 9, .session (.lookup "a")⟩
    (by simp [TimelyCall, sampleRelogin, days])
  exact rejection_final sampleRuntime "a" (signedIn .cookie) (signedIn .cookie) lookup.2 []
    [(sampleRelogin, relogin.1)] [] (days 8) (days 9) _ lookup.1 .start found later

end SpecterCloud.Auth
