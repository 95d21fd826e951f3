import SpecterCloud.Authorization.CheckSpecification
import SpecterCloud.Service.SessionSteps
import SpecterCloud.Sessions.Histories

/-! Whoever is let through has logged in: over whole runs, a request that is authenticated
presents the cookie of a login of its user that is neither too old nor ended.
-/

namespace SpecterCloud.Service

open SpecterCloud.Foundations
open SpecterCloud.Models
open SpecterCloud.Core
open SpecterCloud.Auth
open SpecterCloud.Api

/-- The tokens that a request draws or presents. -/
def ServiceRequest.Handles (runtime : Runtime) (tokens : String → Prop)
    (request : ServiceRequest)
    : Prop :=
  (∀ token, request.presented runtime = some token → tokens token)
  ∧ match request with
    | .login draws _ _ => tokens draws.token
    | _ => True

/-- Handlers leave the sessions to the modelled code, and all tokens are among `tokens`. -/
structure TokenCalls (runtime : Runtime) (tokens : String → Prop) (call : ServiceCall) : Prop where
  handled
    : call.request.HandledBy
        (fun handler => ∀ user, Action.Respects SameSessions (handler user))
  handles : call.request.Handles runtime tokens

/-- Runs in which SHA-256 never sees two tokens of one hash. -/
abbrev TokenRuns (runtime : Runtime) (isPrintable : Char → Bool) (tokens : String → Prop)
    (initial : Database) (history : List ServiceEvent) (db : Database)
    : Prop :=
  ServiceRuns runtime isPrintable (fun _ call => TokenCalls runtime tokens call) initial history db

/-- What the history says of a row: its login, that nothing ended it since if it is unrevoked,
and the call by which it was last seen.
-/
def Recorded (runtime : Runtime) (history : List ServiceEvent) (row : Session) : Prop :=
  ∃ later login earlier,
    history = later ++ login :: earlier
    ∧ Creates runtime row login
    ∧ (row.revokedAt = none → ∀ event ∈ later, ¬ Ends runtime row event)
    ∧ (row.lastSeenAt = login.1.now
      ∨ ∃ use ∈ later, Presents runtime row use.1 ∧ row.lastSeenAt = use.1.now)

section Runs

variable {runtime : Runtime} {isPrintable : Char → Bool} {tokens : String → Prop}
  {initial db after : Database} {history : List ServiceEvent} {event : ServiceEvent}

/-- A row that a call has created is recorded by its login. -/
theorem Recorded.new {row : Session} (history : List ServiceEvent)
    (creates : Creates runtime row event) (seen : row.lastSeenAt = event.1.now)
    : Recorded runtime (event :: history) row :=
  ⟨[], event, history, rfl, creates, fun _ _ none_ => absurd none_ List.not_mem_nil, .inl seen⟩

/-- A row that goes on stays recorded, if the event has not ended it. -/
theorem Recorded.refreshed {row next : Session} (recorded : Recorded runtime history row)
    (refreshed : Refreshed runtime event.1 row next)
    (unended : next.revokedAt = none → ¬ Ends runtime next event)
    : Recorded runtime (event :: history) next := by
  obtain ⟨later, login, earlier, rfl, creates, standing, seen⟩ := recorded
  have same := refreshed.keeps
  refine ⟨event :: later, login, earlier, rfl, (same.creates_iff login).mpr creates, ?_, ?_⟩
  · intro unrevoked
    refine List.forall_mem_cons.mpr ⟨unended unrevoked, fun other member ends => ?_⟩
    have unrevokedBefore : row.revokedAt = none := by
      by_contra revoked
      exact same.revoked revoked unrevoked
    exact standing unrevokedBefore other member ((same.ends_iff other).mp ends)
  · rcases refreshed.seen with kept | ⟨now, presents⟩
    · rw [kept]
      refine seen.imp_right ?_
      rintro ⟨use, member, presents, at_⟩
      exact ⟨use, List.mem_cons_of_mem _ member, (same.presents_iff use.1).mpr presents, at_⟩
    · exact .inr ⟨event, List.mem_cons_self, (same.presents_iff event.1).mpr presents, now⟩

/-- After every run the history records every row, by induction on the run. -/
theorem TokenRuns.recorded (fresh : initial.sessions = [])
    (ran : TokenRuns runtime isPrintable tokens initial history db)
    : ∀ row ∈ db.sessions, Recorded runtime history row := by
  refine Runs.invariant
    (fun history db => ∀ row ∈ db.sessions, Recorded runtime history row) ?_ ?_ ran
  · intro row stored
    rw [fresh] at stored
    cases stored
  · intro history db event after _ recorded stepped next stored
    obtain ⟨call, answer⟩ := event
    have steps := serveService_steps runtime isPrintable call stepped.1.handled db
    rw [CallSteps, stepped.2] at steps
    have unended : next.revokedAt = none → ¬ Ends runtime next (call, answer) :=
      fun unrevoked ends => steps.ended next stored ends unrevoked
    rcases steps.rows next stored with ⟨row, old, refreshed⟩ | ⟨creates, seen⟩
    · exact (recorded row old).refreshed refreshed unended
    · exact .new history creates seen

end Runs

-----------------------------------------------------------------------------------------
-- The login behind a request
-----------------------------------------------------------------------------------------

/-- A login that was answered with 200. -/
structure Login where
  now : Instant
  draws : Draws
  payload : LoginRequest
  request : Request
  response : LoginResponse

def Login.event (login : Login) : ServiceEvent :=
  (⟨login.now, .login login.draws login.payload login.request⟩, .loggedIn login.response)

/-- The event signs the user out of what the cookie was issued for. -/
def SignsOut (token : String) (userId : UUID) : ServiceEvent → Prop
  | (⟨_, .logout credential⟩, .loggedOut _) => credential.cookieToken = some token
  | (⟨_, .revokeAll revokedId _ transport⟩, .revokedAll _) =>
      revokedId = userId ∧ (transport = none ∨ transport = some .cookie)
  | _ => False

/-- The login gave the token to the user at most 30 days before `now`. Since then it was presented
within seven days, unless it was given within seven days, and nothing has signed the user out.
-/
structure Login.Backs (runtime : Runtime) (login : Login) (later : List ServiceEvent)
    (now : Instant) (token : String) (userId : UUID)
    : Prop where
  cookie : login.response.cookie.value = token
  user : login.response.user.id = userId
  unexpired : now ≤ login.now + days 30
  recent
    : now ≤ login.now + days 7
      ∨ ∃ use ∈ later,
          use.1.request.presented runtime = some token ∧ now ≤ use.1.now + days 7
  standing : ∀ event ∈ later, ¬ SignsOut token userId event

/-- On the database of the login its user was active, and the password verified. -/
def Login.Verified (runtime : Runtime) (login : Login) (before : Database) : Prop :=
  ∃ account ∈ before.users,
    account.id = login.response.user.id
    ∧ account.email = normalizeEmail runtime login.payload.email
    ∧ account.isActive = true
    ∧ verifyPassword runtime login.payload.password account.passwordHash = true

/-- A login in the history that stands behind a token of the user. -/
def HasLogin (runtime : Runtime) (isPrintable : Char → Bool) (tokens : String → Prop)
    (initial : Database) (history : List ServiceEvent) (now : Instant) (token : String)
    (userId : UUID)
    : Prop :=
  ∃ later login earlier before,
    history = later ++ Login.event login :: earlier
    ∧ login.Backs runtime later now token userId
    ∧ TokenRuns runtime isPrintable tokens initial earlier before
    ∧ login.Verified runtime before

section Access

variable {runtime : Runtime} {isPrintable : Char → Bool} {tokens : String → Prop}
  {initial db : Database} {history : List ServiceEvent}

/-- What creates a row is a login that was answered with 200. -/
theorem Creates.login {row : Session} {event : ServiceEvent}
    (creates : Creates runtime row event)
    : ∃ login : Login,
        event = login.event
        ∧ login.response.cookie.value = login.draws.token
        ∧ row.tokenHash = hashToken runtime login.draws.token
        ∧ row.userId = login.response.user.id
        ∧ row.transport = .cookie
        ∧ row.expiresAt = login.now + days sessionTtlDays := by
  obtain ⟨⟨now, request⟩, answer⟩ := event
  cases request with
  | login draws payload request =>
      cases answer with
      | loggedIn response => exact ⟨⟨now, draws, payload, request, response⟩, rfl, creates⟩
      | _ => exact absurd creates not_false
  | _ => cases answer <;> exact absurd creates not_false

/-- What signs the user out of a cookie ends the row of the cookie. -/
theorem SignsOut.ends {row : Session} {token : String} {userId : UUID} {event : ServiceEvent}
    (signsOut : SignsOut token userId event) (tokenHash : row.tokenHash = hashToken runtime token)
    (owner : row.userId = userId) (transport : row.transport = .cookie)
    : Ends runtime row event := by
  obtain ⟨⟨now, request⟩, answer⟩ := event
  cases request with
  | logout credential =>
      cases answer with
      | loggedOut _ => exact ⟨token, signsOut, tokenHash⟩
      | _ => exact absurd signsOut not_false
  | revokeAll revokedId reason onTransport =>
      cases answer with
      | revokedAll _ =>
          refine ⟨owner.trans signsOut.1.symm, ?_⟩
          rw [transport]
          exact signsOut.2
      | _ => exact absurd signsOut not_false
  | _ => cases answer <;> exact absurd signsOut not_false

/-- A login that was answered with 200 had verified the password of an active user. -/
theorem Login.verified_of_served {login : Login} {before after : Database}
    (served
      : serveService runtime isPrintable before
          ⟨login.now, .login login.draws login.payload login.request⟩
        = (.loggedIn login.response, after))
    : login.Verified runtime before := by
  have ways :=
    login_served runtime login.draws login.now login.payload login.request before
  simp only [serveService] at served
  cases ended : (Api.login runtime login.draws login.now login.payload login.request).perform
      before with
  | mk outcome next =>
      rw [ended] at ways served
      cases ways with
      | refused _ => cases served
      | @admitted user rehashed reaches verified accepted =>
          have answered : loginResponse runtime user login.draws.token = login.response :=
            ServiceAnswer.loggedIn.inj (congrArg Prod.fst served)
          obtain ⟨stored, email⟩ :=
            findBy_sound (Database.userByEmail_answered reaches.found).2
          refine ⟨user, stored, ?_, email, reaches.active, verified⟩
          rw [← answered]
          rfl

/-- Every event of a run was permitted. -/
theorem TokenRuns.permitted (ran : TokenRuns runtime isPrintable tokens initial history db)
    {event : ServiceEvent} (member : event ∈ history)
    : TokenCalls runtime tokens event.1 := by
  obtain ⟨later, earlier, rfl⟩ := List.append_of_mem member
  obtain ⟨before, after, _, stepped⟩ := ran.at_event
  exact stepped.1

/-- A recorded row that is live for a token was made by a login that stands behind the token. -/
theorem Recorded.hasLogin (injective : CollisionFree runtime tokens)
    (ran : TokenRuns runtime isPrintable tokens initial history db) {row : Session}
    (recorded : Recorded runtime history row) {now : Instant} (live : Live now row)
    {token : String} (known : tokens token) (tokenHash : row.tokenHash = hashToken runtime token)
    : HasLogin runtime isPrintable tokens initial history now token row.userId := by
  obtain ⟨later, event, earlier, rfl, creates, standing, seen⟩ := recorded
  obtain ⟨login, rfl, cookie, created, owner, transport, expiresAt⟩ := creates.login
  have member : login.event ∈ later ++ login.event :: earlier := by simp
  have drawn : tokens login.draws.token := (ran.permitted member).handles.2
  have same : login.draws.token = token :=
    injective _ _ drawn known (created.symm.trans tokenHash)
  obtain ⟨before, after, ranBefore, stepped⟩ := ran.at_event
  refine ⟨later, login, earlier, before, rfl, ?_, ranBefore,
    Login.verified_of_served stepped.2⟩
  refine ⟨cookie.trans same, owner.symm, expiresAt ▸ live.unexpired, ?_, ?_⟩
  · have recent : now ≤ row.lastSeenAt + days 7 := Int.le_add_of_sub_right_le live.recent
    rcases seen with atLogin | ⟨use, member, ⟨presentedToken, presented, sameHash⟩, at_⟩
    · rw [show row.lastSeenAt = login.now from atLogin] at recent
      exact .inl recent
    · have shown : tokens presentedToken :=
        (ran.permitted (List.mem_append_left _ member)).handles.1 _ presented
      obtain rfl : presentedToken = token :=
        injective _ _ shown known (sameHash.symm.trans tokenHash)
      exact .inr ⟨use, member, presented, at_ ▸ recent⟩
  · intro other member signsOut
    exact standing live.unrevoked other member (signsOut.ends tokenHash rfl transport)

/-- A login of the run stands behind the token of a user that the dependency answers. -/
theorem currentUser_hasLogin {now : Instant} {credential : Credential} {user : User}
    (injective : CollisionFree runtime tokens) (fresh : initial.sessions = [])
    (ran : TokenRuns runtime isPrintable tokens initial history db)
    (known
      : ∀ token, rawToken runtime credential.cookieToken credential.authorization = some token
        → tokens token)
    (authenticated : ((currentUser runtime now credential).perform db).1 = .ok user)
    : user ∈ db.users
      ∧ user.isActive = true
      ∧ ∃ token,
          rawToken runtime credential.cookieToken credential.authorization = some token
          ∧ HasLogin runtime isPrintable tokens initial history now token user.id := by
  obtain ⟨token, sess, presented, live, stored, ends⟩ :=
    getCurrentUser_authenticates authenticated
  obtain ⟨_, found, alive⟩ := liveSession_found live
  obtain ⟨row, tokenHash⟩ := findBy_sound found
  have resolved := (getCurrentUser_resolves presented live).perform
  rw [ends.perform] at resolved
  have owner : activeUser db sess = some user := by
    cases owned : activeUser db sess with
    | none =>
        rw [owned] at resolved
        cases congrArg Prod.fst resolved
    | some other =>
        rw [owned] at resolved
        cases congrArg Prod.fst resolved
        rfl
  obtain ⟨byId, active⟩ := Option.filter_eq_some_iff.mp owner
  refine ⟨stored, by simpa using active, token, presented, ?_⟩
  rw [(findBy_sound byId).2]
  exact (ran.recorded fresh sess row).hasLogin injective ran alive (known token presented)
    tokenHash

/-- A request that is authenticated on the database of a run presents a token of its user, who is
active, and a login of the run stands behind the token.
-/
theorem access_follows_login (runtime : Runtime) (isPrintable : Char → Bool)
    (tokens : String → Prop) (injective : CollisionFree runtime tokens) (initial db : Database)
    (fresh : initial.sessions = []) (history : List ServiceEvent)
    (ran : TokenRuns runtime isPrintable tokens initial history db) (now : Instant)
    (credential : Credential)
    (known
      : ∀ token, rawToken runtime credential.cookieToken credential.authorization = some token
        → tokens token)
    (user : User)
    (authenticated : ((currentUser runtime now credential).perform db).1 = .ok user)
    : user ∈ db.users
      ∧ user.isActive = true
      ∧ ∃ token,
          rawToken runtime credential.cookieToken credential.authorization = some token
          ∧ HasLogin runtime isPrintable tokens initial history now token user.id :=
  currentUser_hasLogin injective fresh ran known authenticated

/-- The sign-in of the sample user is a run in which `a` is the only token. -/
theorem sampleSignIn_runs
    : TokenRuns sampleRuntime (fun _ => true) (· = "a") sampleDatabase
        [(sampleSignIn, (serveSample sampleDatabase sampleSignIn).1)] signedInDatabase :=
  .next .start ⟨⟨trivial, nofun, rfl⟩, rfl⟩

theorem sampleToken_collisionFree : CollisionFree sampleRuntime (· = "a") :=
  fun _ _ isLeft isRight _ => isLeft.trans isRight.symm

/-- Behind the cookie of the sample user stands the sign-in. -/
theorem sampleSignIn_backs_access
    : HasLogin sampleRuntime (fun _ => true) (· = "a") sampleDatabase
        [(sampleSignIn, (serveSample sampleDatabase sampleSignIn).1)] 1 "a" 7 := by
  obtain ⟨user, authenticated, named⟩
      : ∃ user,
          ((currentUser sampleRuntime 1 ⟨some "a", none⟩).perform signedInDatabase).1 = .ok user
          ∧ user.id = 7 :=
    ⟨_, rfl, rfl⟩
  obtain ⟨_, _, token, presented, login⟩ :=
    access_follows_login sampleRuntime (fun _ => true) (· = "a") sampleToken_collisionFree
      sampleDatabase signedInDatabase rfl _ sampleSignIn_runs 1 ⟨some "a", none⟩
      (fun token presented => (Option.some.inj presented).symm) user authenticated
  obtain rfl : "a" = token := Option.some.inj presented
  exact named ▸ login

/-- Where the target of a guarded request is looked up: the database of the request, but for the
time at which its session was seen.
-/
structure Resolves (db : Database) (target : Option (Request → Database → Except Raised UUID))
    (request : Request) (user : User) (targetOrgId : UUID) (view : Database)
    : Prop where
  access : view.toAccessTables = db.toAccessTables
  users : view.users = db.users
  resolved
    : match target with
      | none => targetOrgId = user.orgId
      | some query => query request view = .ok targetOrgId

/-- A resolver that looks the target up leaves the session as it was, or raises. -/
theorem resolveTarget_cases (target : Option (Request → Database → Except Raised UUID))
    (request : Request) (user : User) (view : Database)
    : (∃ targetOrgId,
          (resolveTarget (target.map lookupResolver) request user).run (.opened view)
            = .ok targetOrgId (.opened view)
          ∧ match target with
            | none => targetOrgId = user.orgId
            | some query => query request view = .ok targetOrgId)
      ∨ ∃ error,
          (resolveTarget (target.map lookupResolver) request user).Ends view (.error error)
            view := by
  cases target with
  | none => exact .inl ⟨user.orgId, rfl, rfl⟩
  | some query =>
      have selected
          : (Action.select (query request) : DbAction UUID).Ends view (query request view)
              view :=
        Action.Ends.select _
      cases found : query request view with
      | ok targetOrgId =>
          rw [found] at selected
          exact .inl ⟨targetOrgId, selected, found⟩
      | error error =>
          rw [found] at selected
          exact .inr ⟨error, selected⟩

/-- Whom the checker lets through holds the permission at the target or above it. -/
theorem requirePermission_passes {permission : Permission}
    {target : Option (Request → Database → Except Raised UUID)} {request : Request}
    {user passed : User} {view : Database}
    (passes
      : ((requirePermission runtime permission (target.map lookupResolver) request user).perform
            view).1
        = .ok passed)
    : passed = user
      ∧ ∃ targetOrgId,
          (match target with
            | none => targetOrgId = user.orgId
            | some query => query request view = .ok targetOrgId)
          ∧ (checkPermission view.toAccessTables user permission targetOrgId).allowed = true := by
  rcases resolveTarget_cases target request user view with
    ⟨targetOrgId, ran, resolved⟩ | ⟨error, raised⟩
  · cases allowed : (checkPermission view.toAccessTables user permission targetOrgId).allowed with
    | true =>
        unfold Action.perform at passes
        rw [requirePermission_allowed ran rfl allowed] at passes
        exact ⟨(Except.ok.inj passes).symm, targetOrgId, resolved, allowed⟩
    | false =>
        rw [requirePermission_denied ran rfl allowed] at passes
        split at passes <;> cases passes
  · have ends
        : (requirePermission runtime permission (target.map lookupResolver) request user).Ends
            view (.error error) view :=
      raised.raise
    rw [ends.perform] at passes
    cases passes

/-- What `require_permission` lets through comes from a login of the user and from a grant: a
request that passes the guard presents a token behind which a login stands, and on the database
of the request the user holds an unrevoked grant of a role with the permission, at the target org
or at most ten steps above it.
-/
theorem guarded_access_follows_login (runtime : Runtime) (isPrintable : Char → Bool)
    (tokens : String → Prop) (injective : CollisionFree runtime tokens) (initial db : Database)
    (fresh : initial.sessions = []) (history : List ServiceEvent)
    (ran : TokenRuns runtime isPrintable tokens initial history db) (now : Instant)
    (credential : Credential)
    (known
      : ∀ token, rawToken runtime credential.cookieToken credential.authorization = some token
        → tokens token)
    (permission : Permission) (target : Option (Request → Database → Except Raised UUID))
    (request : Request) (user : User)
    (passed
      : ((guardedUser runtime now credential permission (target.map lookupResolver)
            request).perform db).1
        = .ok user)
    : (∃ token,
          rawToken runtime credential.cookieToken credential.authorization = some token
          ∧ HasLogin runtime isPrintable tokens initial history now token user.id)
      ∧ ∃ targetOrgId view,
          Resolves db target request user targetOrgId view
          ∧ ∃ k ≤ maxHierarchyDepth, ∃ org role,
              orgAbove db.toAccessTables targetOrgId k = some org
              ∧ Grants db.toAccessTables user.id permission org.id role := by
  cases dependency : ((currentUser runtime now credential).perform db).1 with
  | error error =>
      obtain ⟨outcome, after, ends, _⟩ :=
        currentUser_ends runtime ⟨now, .me credential⟩ credential rfl db
      obtain rfl : outcome = .error error := by
        rw [← dependency, ends.perform]
      have raises
          : (guardedUser runtime now credential permission (target.map lookupResolver)
              request).Ends db (.error error) after :=
        ends.raise
      rw [raises.perform] at passed
      cases passed
  | ok authenticated =>
      obtain ⟨_, _, token, presented, login⟩ :=
        currentUser_hasLogin injective fresh ran known dependency
      obtain ⟨token_, sess, _, _, _, ends⟩ := getCurrentUser_authenticates dependency
      have view : (touch now sess db).toAccessTables = db.toAccessTables := by
        unfold touch
        split <;> rfl
      have users : (touch now sess db).users = db.users := by
        unfold touch
        split <;> rfl
      have joined
          : ((guardedUser runtime now credential permission (target.map lookupResolver)
                request).perform db).1
            = ((requirePermission runtime permission (target.map lookupResolver) request
                authenticated).perform (touch now sess db)).1 := by
        unfold guardedUser Action.perform
        rw [EStateM.run_bind, show (currentUser runtime now credential).run _ = _ from ends]
      rw [joined] at passed
      obtain ⟨rfl, targetOrgId, resolved, allowed⟩ := requirePermission_passes passed
      rw [view] at allowed
      refine ⟨⟨token, presented, login⟩, targetOrgId, _, ⟨view, users, resolved⟩, ?_⟩
      rcases checkPermission_cases db.toAccessTables user permission targetOrgId with
        ⟨k, capped, org, role, first, grants, _⟩ | ⟨_, denied⟩
      · exact ⟨k, capped, org, role, first.met.1, grants⟩
      · rw [denied] at allowed
        cases allowed

/-- The sample user may invite users to the home org, by a grant there or above it. -/
theorem sampleSignIn_may_invite
    : ∃ k ≤ maxHierarchyDepth, ∃ org role,
        orgAbove sampleDatabase.toAccessTables 1 k = some org
        ∧ Grants sampleDatabase.toAccessTables 7 .userInvite org.id role := by
  obtain ⟨user, passed, named, home⟩
      : ∃ user,
          ((guardedUser sampleRuntime 1 ⟨some "a", none⟩ .userInvite (none.map lookupResolver)
              {}).perform signedInDatabase).1
            = .ok user
          ∧ user.id = 7
          ∧ user.orgId = 1 :=
    ⟨_, rfl, rfl, rfl⟩
  obtain ⟨_, targetOrgId, view, resolves, granted⟩ :=
    guarded_access_follows_login sampleRuntime (fun _ => true) (· = "a")
      sampleToken_collisionFree sampleDatabase signedInDatabase rfl _ sampleSignIn_runs 1
      ⟨some "a", none⟩ (fun token presented => (Option.some.inj presented).symm) .userInvite
      none {} user passed
  obtain rfl : targetOrgId = 1 := Eq.trans resolves.resolved home
  exact named ▸ granted

end Access

end SpecterCloud.Service
