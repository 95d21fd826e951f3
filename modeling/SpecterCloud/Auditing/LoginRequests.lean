import SpecterCloud.Api.AuthRoutes

/-! Login requests: which of them leave the one audit row that belongs to them. -/

namespace SpecterCloud.Api

open SpecterCloud.Foundations
open SpecterCloud.Models
open SpecterCloud.Core
open SpecterCloud.Auth

/-- The request committed one audit row: an allow that names the user of the session it
committed, or, without a session, a deny that names the attempted email.
-/
def LoginAudited (runtime : Runtime) (payload : LoginRequest) (db after : Database) : Prop :=
  ∃ row,
    after.auditLog = db.auditLog ++ [row]
    ∧ ((row.decision = "allow"
          ∧ ∃ session, ∃ user ∈ db.users,
              after.sessions = db.sessions ++ [session]
              ∧ user.email = normalizeEmail runtime payload.email
              ∧ session.userId = user.id
              ∧ row.userId = some user.id)
        ∨ (row.decision = "deny"
            ∧ after.sessions = db.sessions
            ∧ ∃ extra,
                row.extra = some extra
                ∧ ("attempted_email", .text (normalizeEmail runtime payload.email)) ∈ extra))

section Login

variable {runtime : Runtime} {draws : Draws} {now : Instant} {payload : LoginRequest}
  {request : Request} {db : Database}

/-- A request that leaves the audit log as it was is not audited. -/
theorem LoginAudited.changed {after : Database} (same : after.auditLog = db.auditLog)
    : ¬ LoginAudited runtime payload db after := by
  rintro ⟨row, appended, _⟩
  rw [same] at appended
  simp at appended

/-- A row of the login route is accepted when the User-Agent fits and its own texts do. -/
theorem loginEntry_accepted {action decision : String} {userId : Option UUID}
    {reason : Option String} {extra : Option (List (String × ExtraValue))}
    (texts : FitsString 60 action ∧ FitsString 10 decision ∧ NullOr Storable reason)
    (storable : NullOr (fun extra => ∀ item ∈ extra, Storable item.1 ∧ item.2.Storable) extra)
    (known : NullOr (· ∈ db.users.map User.id) userId)
    (userAgent : NullOr (FitsString 500) request.userAgent)
    : db.AcceptsAuditLog (loginEntry request action decision userId reason extra) := by
  refine ⟨?_, known, trivial, trivial, trivial⟩
  exact
    {
      action := texts.1
      permission := trivial
      resourceType := trivial
      resourceId := trivial
      decision := texts.2.1
      reason := texts.2.2
      userAgent
      extra := storable
    }

/-- The row that belongs to a result. -/
def resultEntry (runtime : Runtime) (payload : LoginRequest) (request : Request)
    : LoginResult → AuditLog
  | .invalid => failedEntry runtime payload request
  | .locked untilTime => lockedEntry runtime payload request untilTime
  | .success user _ _ => successEntry request user

/-- The row of a refusal is accepted when the User-Agent and the email fit. -/
theorem resultEntry_accepted {result : LoginResult}
    (storable : Storable (normalizeEmail runtime payload.email))
    (userAgent : NullOr (FitsString 500) request.userAgent)
    (known : ∀ user token session, result = .success user token session
      → user.id ∈ db.users.map User.id)
    : db.AcceptsAuditLog (resultEntry runtime payload request result) := by
  cases result with
  | invalid =>
      have extra
          : ∀ item ∈
                [("attempted_email", ExtraValue.text (normalizeEmail runtime payload.email))],
              Storable item.1 ∧ item.2.Storable := by
        simpa using ⟨by decide, storable⟩
      exact loginEntry_accepted (by decide) extra trivial userAgent
  | locked untilTime =>
      have extra
          : ∀ item ∈
                [("attempted_email", ExtraValue.text (normalizeEmail runtime payload.email)),
                  ("locked_until", ExtraValue.isoformat untilTime)],
              Storable item.1 ∧ item.2.Storable := by
        simpa using ⟨⟨by decide, storable⟩, by decide, trivial⟩
      exact loginEntry_accepted (by decide) extra trivial userAgent
  | success user token session =>
      exact loginEntry_accepted (by decide) trivial (known user token session rfl) userAgent

/-- Every row of the route records the User-Agent as it came. -/
theorem resultEntry_userAgent (result : LoginResult)
    : (resultEntry runtime payload request result).userAgent = request.userAgent := by
  cases result <;> rfl

theorem resultEntry_valid (runtime : Runtime) (payload : LoginRequest) (request : Request)
    (result : LoginResult)
    : (resultEntry runtime payload request result).decision ∈ Audit.validDecisions := by
  cases result <;> exact List.mem_of_elem_eq_true rfl

/-- The answer to a result commits the row of the result if the database accepts it. -/
theorem answerLogin_records {result : LoginResult}
    (accepted : db.AcceptsAuditLog (resultEntry runtime payload request result))
    : ∃ outcome,
        (answerLogin runtime payload request result).Ends db outcome
          (db.withAuditRow (resultEntry runtime payload request result)) := by
  have valid := resultEntry_valid runtime payload request result
  cases result with
  | invalid => exact ⟨_, Audit.write_committed valid accepted (Action.Ends.throw _)⟩
  | locked untilTime => exact ⟨_, Audit.write_committed valid accepted (Action.Ends.throw _)⟩
  | success user token session =>
      exact ⟨_, Audit.write_committed valid accepted (Action.Ends.pure _)⟩

/-- Otherwise its insert raises. -/
theorem answerLogin_raises {result : LoginResult}
    (rejected : ¬ db.AcceptsAuditLog (resultEntry runtime payload request result))
    : ∃ outcome, (answerLogin runtime payload request result).Ends db outcome db := by
  have valid := resultEntry_valid runtime payload request result
  cases result with
  | invalid =>
      obtain ⟨error, raised⟩ := Audit.write_rejected valid rejected
      exact ⟨_, raised⟩
  | locked untilTime =>
      obtain ⟨error, raised⟩ := Audit.write_rejected valid rejected
      exact ⟨_, raised⟩
  | success user token session =>
      obtain ⟨error, raised⟩ := Audit.write_rejected valid rejected
      exact ⟨_, raised⟩

/-- After an attempt that answers, the request commits the row of the result if it can. -/
theorem login_records {result : LoginResult} {middle : Database}
    (ends
      : (attemptLogin runtime draws now (loginAttempt payload request)).Ends db (.ok result)
          middle)
    (accepted : middle.AcceptsAuditLog (resultEntry runtime payload request result))
    : ((login runtime draws now payload request).perform db).2
      = middle.withAuditRow (resultEntry runtime payload request result) := by
  obtain ⟨outcome, answered⟩ := answerLogin_records accepted
  exact congrArg Prod.snd (ends.bind answered).perform

/-- Otherwise what the attempt committed stays without a row. -/
theorem login_loses {result : LoginResult} {middle : Database}
    (ends
      : (attemptLogin runtime draws now (loginAttempt payload request)).Ends db (.ok result)
          middle)
    (rejected : ¬ middle.AcceptsAuditLog (resultEntry runtime payload request result))
    : ((login runtime draws now payload request).perform db).2 = middle := by
  obtain ⟨outcome, answered⟩ := answerLogin_raises rejected
  exact congrArg Prod.snd (ends.bind answered).perform

/-- A request whose attempt raises commits nothing. -/
theorem login_raises {error : Raised}
    (ends
      : (attemptLogin runtime draws now (loginAttempt payload request)).Ends db (.error error)
          db)
    : ((login runtime draws now payload request).perform db).2 = db :=
  congrArg Prod.snd (Action.Ends.raise ends).perform

/-- The session of a login is accepted when its User-Agent fits and its draws are fresh. -/
theorem loginSession_accepted {attempt : LoginAttempt} {user : User} {columns : UserColumns}
    (freshToken : hashToken runtime draws.token ∉ db.sessions.map Session.tokenHash)
    (freshId : draws.sessionId ∉ db.sessions.map Session.id)
    (stored : user ∈ db.users) (userAgent : NullOr (FitsString 500) attempt.userAgent)
    : (db.writeUser user.id columns now).AcceptsSession
        (loginSession runtime draws now attempt user) := by
  have known : user.id ∈ (db.writeUser user.id columns now).users.map User.id := by
    rw [Database.writeUser_ids]
    exact List.mem_map_of_mem stored
  exact ⟨⟨runtime.sha256Hex_fits draws.token, userAgent, trivial⟩, freshId, freshToken, known⟩

/-- A deny row on a database with the old sessions and audit rows is what has to be left. -/
theorem LoginAudited.denied {middle : Database} {entry : AuditLog}
    {extra : List (String × ExtraValue)}
    (same : middle.auditLog = db.auditLog ∧ middle.sessions = db.sessions)
    (decision : entry.decision = "deny") (recorded : entry.extra = some extra)
    (email
      : ("attempted_email", ExtraValue.text (normalizeEmail runtime payload.email)) ∈ extra)
    : LoginAudited runtime payload db (middle.withAuditRow entry) :=
  ⟨entry, by simp [Database.withAuditRow, same.1],
    .inr ⟨decision, same.2, extra, recorded, email⟩⟩

/-- A new hash is always found, for the password of a request is not empty. -/
theorem rehash_payload (runtime : Runtime) (payload : LoginRequest) (salt hashed : String)
    : ∃ rehashed, rehash runtime salt payload.password hashed = .ok rehashed := by
  refine rehash_computes ?_ hashed
  intro empty
  have length := payload.passwordLength.1
  simp [empty] at length

/-- A refusal that leaves the sessions and the audit log alone is audited as a denial. -/
theorem login_refused_audited (userAgent : NullOr (FitsString 500) request.userAgent)
    (storable : Storable (normalizeEmail runtime payload.email)) {middle : Database}
    {result : LoginResult} {extra : List (String × ExtraValue)}
    (ends
      : (attemptLogin runtime draws now (loginAttempt payload request)).Ends db (.ok result)
          middle)
    (same : middle.auditLog = db.auditLog ∧ middle.sessions = db.sessions)
    (denied : (resultEntry runtime payload request result).decision = "deny")
    (recorded : (resultEntry runtime payload request result).extra = some extra)
    (email
      : ("attempted_email", ExtraValue.text (normalizeEmail runtime payload.email)) ∈ extra)
    : LoginAudited runtime payload db
        ((login runtime draws now payload request).perform db).2 := by
  have accepted : middle.AcceptsAuditLog (resultEntry runtime payload request result) := by
    refine resultEntry_accepted storable userAgent ?_
    intro user token session succeeded
    rw [succeeded] at denied
    exact absurd denied (by simp [resultEntry, successEntry, loginEntry])
  rw [login_records ends accepted]
  exact LoginAudited.denied same denied recorded email

/-- A request whose User-Agent and email fit leaves its audit row, however it ends. -/
theorem login_audits
    (freshToken : hashToken runtime draws.token ∉ db.sessions.map Session.tokenHash)
    (freshId : draws.sessionId ∉ db.sessions.map Session.id)
    (userAgent : NullOr (FitsString 500) request.userAgent)
    (storable : Storable (normalizeEmail runtime payload.email))
    : LoginAudited runtime payload db
        ((login runtime draws now payload request).perform db).2 := by
  obtain ⟨outcome, after, ways, ends⟩ :=
    attemptLogin_cases runtime draws now (loginAttempt payload request) db
  cases ways with
  | unsendable unstorable => exact absurd storable unstorable
  | unknown =>
      exact login_refused_audited userAgent storable ends ⟨rfl, rfl⟩ rfl rfl List.mem_cons_self
  | inactive =>
      exact login_refused_audited userAgent storable ends ⟨rfl, rfl⟩ rfl rfl List.mem_cons_self
  | failed =>
      exact login_refused_audited userAgent storable ends ⟨rfl, rfl⟩ rfl rfl List.mem_cons_self
  | locked =>
      exact login_refused_audited userAgent storable ends ⟨rfl, rfl⟩ rfl rfl List.mem_cons_self
  | @succeeded user rehashed reaches unlocked verified hashed accepted =>
      obtain ⟨stored, email⟩ :=
        findBy_sound (Database.userByEmail_answered reaches.found).2
      rw [login_records ends (resultEntry_accepted storable userAgent ?_)]
      · exact ⟨_, rfl, .inl ⟨rfl, _, user, stored, rfl, email, rfl, rfl⟩⟩
      · intro granted token session same
        cases same
        show user.id
            ∈ (db.writeUser user.id (successColumns now rehashed) now).users.map User.id
        rw [Database.writeUser_ids]
        exact List.mem_map_of_mem stored
  | @raised user _ reaches unlocked verified rejected =>
      -- the draws are fresh and the User-Agent fits, so the session would have been accepted
      obtain ⟨stored, _⟩ := findBy_sound (Database.userByEmail_answered reaches.found).2
      obtain ⟨rehashed, hashed⟩ :=
        rehash_payload runtime payload draws.salt user.passwordHash
      exact absurd (loginSession_accepted freshToken freshId stored userAgent)
        (rejected rehashed hashed)

/-- A request whose User-Agent or email does not fit leaves no audit row, however it ends. -/
theorem login_unaudited
    (unfit
      : ¬ (NullOr (FitsString 500) request.userAgent
            ∧ Storable (normalizeEmail runtime payload.email)))
    : ((login runtime draws now payload request).perform db).2.auditLog = db.auditLog := by
  obtain ⟨outcome, after, ways, ends⟩ :=
    attemptLogin_cases runtime draws now (loginAttempt payload request) db
  have lost {middle : Database} {result : LoginResult} {answer : Option User}
      (ends
        : (attemptLogin runtime draws now (loginAttempt payload request)).Ends db (.ok result)
            middle)
      (answered : db.userByEmail (normalizeEmail runtime payload.email) = .ok answer)
      : ((login runtime draws now payload request).perform db).2 = middle := by
    refine login_loses ends ?_
    intro accepted
    have userAgent := accepted.fits.userAgent
    rw [resultEntry_userAgent] at userAgent
    exact unfit ⟨userAgent, (Database.userByEmail_answered answered).1⟩
  cases ways with
  | unsendable => rw [login_raises ends]
  | unknown found => rw [lost ends found]
  | inactive found => rw [lost ends found]
  | locked reaches => rw [lost ends reaches.found]
  | failed reaches =>
      rw [lost ends reaches.found]
      rfl
  | succeeded reaches =>
      rw [lost ends reaches.found]
      rfl
  | raised => rw [login_raises ends]

end Login

/-- A login request leaves its one audit row exactly when the User-Agent fits its column and
the normalised email is text that the database can hold; otherwise the insert, or already the
query for the email, raises, and an attempt that was counted stays unaudited.
-/
theorem login_audited (runtime : Runtime) (draws : Draws) (now : Instant)
    (payload : LoginRequest) (request : Request) (db : Database)
    (freshToken : hashToken runtime draws.token ∉ db.sessions.map Session.tokenHash)
    (freshId : draws.sessionId ∉ db.sessions.map Session.id)
    : LoginAudited runtime payload db
        ((login runtime draws now payload request).perform db).2
      ↔ NullOr (FitsString 500) request.userAgent
        ∧ Storable (normalizeEmail runtime payload.email) := by
  constructor
  · intro audited
    by_contra unfit
    exact LoginAudited.changed (login_unaudited unfit) audited
  · rintro ⟨userAgent, storable⟩
    exact login_audits freshToken freshId userAgent storable

/-- A login with a wrong password. -/
def sampleLogin : LoginRequest where
  email := "admin@specter.example"
  password := "guess"
  emailLength := by decide
  passwordLength := by decide

/-- A request whose User-Agent is one character too long for its column. -/
def longRequest : Request where
  userAgent := some (String.ofList (List.replicate 501 'a'))

theorem longRequest_unfit : ¬ NullOr (FitsString 500) longRequest.userAgent :=
  not_fitsString_replicate 500 'a'

/-- A wrong password under a User-Agent of 501 characters is counted and leaves no audit row. -/
theorem login_longUserAgent_unaudited
    : let after :=
        ((login sampleRuntime ⟨"a", 1, "somesalt"⟩ 0 sampleLogin longRequest).perform
          sampleDatabase).2
      hashToken sampleRuntime "a" ∉ sampleDatabase.sessions.map Session.tokenHash
      ∧ 1 ∉ sampleDatabase.sessions.map Session.id
      ∧ after.users.map User.failedLoginCount = [1]
      ∧ ¬ LoginAudited sampleRuntime sampleLogin sampleDatabase after := by
  intro after
  have counted
      : (attemptLogin sampleRuntime ⟨"a", 1, "somesalt"⟩ 0
            (loginAttempt sampleLogin longRequest)).Ends
          sampleDatabase (.ok .invalid)
          (sampleDatabase.writeUser 7 (failureColumns 0 sampleUser) 0) := by
    rfl
  have rejected
      : ¬ (sampleDatabase.writeUser 7 (failureColumns 0 sampleUser) 0).AcceptsAuditLog
            (resultEntry sampleRuntime sampleLogin longRequest .invalid) :=
    fun accepted => longRequest_unfit accepted.fits.userAgent
  have ended : after = _ := login_loses counted rejected
  refine ⟨nofun, nofun, ?_, ?_⟩
  · rw [ended]
    rfl
  · exact LoginAudited.changed (login_unaudited fun fits => longRequest_unfit fits.1)

/-- The same login under a short User-Agent leaves its row. -/
theorem login_shortUserAgent_audited
    : LoginAudited sampleRuntime sampleLogin sampleDatabase
        ((login sampleRuntime ⟨"a", 1, "somesalt"⟩ 0 sampleLogin
          { userAgent := some "curl/8.5.0" }).perform sampleDatabase).2 :=
  (login_audited sampleRuntime ⟨"a", 1, "somesalt"⟩ 0 sampleLogin
    { userAgent := some "curl/8.5.0" } sampleDatabase nofun nofun).mpr
    ⟨by decide, by decide⟩

end SpecterCloud.Api
