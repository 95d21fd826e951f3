import SpecterCloud.Service.ConcurrentCalls
import SpecterCloud.Service.KeptHistory

/-! Requests that run concurrently, in any interleaving of their queries, statements and commits:
no audit row is lost or doubled, and the history is kept.
-/

namespace SpecterCloud.Service

open SpecterCloud.Foundations
open SpecterCloud.Models
open SpecterCloud.Core
open SpecterCloud.Auth
open SpecterCloud.Api
open SpecterCloud.Scripts
open SpecterCloud.Service.Programs (ServiceStatement DbProgram)

/-- The 403 of a check that denies. -/
def insufficientPermissions : Raised := .httpException 403 "Insufficient permissions" []

/-- The audit row of a statement, if it has one. -/
def auditRow : ServiceStatement → List AuditLog
  | .insertAuditLog row => [row]
  | _ => []

def auditRows (statements : List ServiceStatement) : List AuditLog := statements.flatMap auditRow

/-- A statement of a handler keeps the history and leaves the audit log alone. -/
structure HandlerStatement (run : Database → Except Raised Database) : Prop where
  keeps : Advances KeepsHistory run
  auditLog : ∀ {db next}, run db = .ok next → next.auditLog = db.auditLog

/-- What the service sends. An audit row is the first statement of its transaction, and no
revocation is taken back.
-/
def Sendable (opened : List ServiceStatement) : ServiceStatement → Prop
  | .insertAuditLog _ => opened = []
  | .updateSession _ columns => columns.revokedAt ≠ some none
  | .handled run => HandlerStatement run
  | _ => True

@[simp]
theorem auditRows_nil : auditRows [] = [] := rfl

@[simp]
theorem auditRows_append (first second : List ServiceStatement)
    : auditRows (first ++ second) = auditRows first ++ auditRows second :=
  List.flatMap_append

-----------------------------------------------------------------------------------------
-- The history and the audit log
-----------------------------------------------------------------------------------------

section Kept

variable {db later next : Database}

/-- Everything that the service sends keeps the history. -/
theorem sendable_grows : GrowsBy ServiceStatement.run Sendable KeepsHistory where
  refl := KeepsHistory.refl
  trans := KeepsHistory.trans
  advances := by
    intro opened statement sendable db next ran
    cases statement with
    | insertSession row => exact KeepsHistory.requests.insertSession row ran
    | insertAuditLog row => exact KeepsHistory.requests.insertAuditLog row ran
    | updateSession sessionId columns =>
        obtain rfl := Database.updateSession_ok ran
        exact .writeSession sessionId sendable
    | updateUser userId columns now => exact KeepsHistory.updates userId columns now ran
    | insertOrg row => exact KeepsHistory.insertOrg row ran
    | insertUser row => exact KeepsHistory.insertUser row ran
    | insertUserRole row => exact KeepsHistory.insertUserRole row ran
    | handled run => exact sendable.keeps ran

/-- What is accepted once is accepted where the history is kept. -/
theorem KeepsHistory.acceptsAuditLog (kept : KeepsHistory db later) {row : AuditLog}
    (accepted : db.AcceptsAuditLog row)
    : later.AcceptsAuditLog row := by
  have users {id : UUID} (known : id ∈ db.users.map User.id) : id ∈ later.users.map User.id := by
    obtain ⟨user, stored, rfl⟩ := List.mem_map.mp known
    obtain ⟨next, there, same⟩ := kept.users user stored
    exact same.id ▸ List.mem_map_of_mem there
  have orgs {id : UUID} (known : id ∈ db.orgs.map Org.id) : id ∈ later.orgs.map Org.id :=
    List.map_subset _ kept.orgs.subset known
  have lifted {α : Type} {accepts other : α → Prop}
      (implies : ∀ {value}, accepts value → other value) {value : Option α}
      (held : NullOr accepts value)
      : NullOr other value := by
    cases value with
    | none => trivial
    | some value => exact implies held
  refine ⟨accepted.fits, lifted users accepted.userId, lifted orgs accepted.targetOrgId, ?_,
    lifted orgs accepted.matchedOrgId⟩
  rw [kept.roles]
  exact accepted.matchedRoleId

/-- The audit log has the audit rows of the statements. -/
theorem sendable_logged
    : LoggedBy ServiceStatement.run Sendable KeepsHistory (fun db => db.auditLog)
        auditRow where
  appends := by
    intro opened statement sendable db next ran
    cases statement with
    | insertSession row =>
        obtain ⟨accepted, rfl⟩ := Database.insertSession_ok ran
        exact (List.append_nil _).symm
    | insertAuditLog row =>
        obtain rfl := Database.insertAuditLog_ok ran
        rfl
    | updateSession sessionId columns =>
        obtain rfl := Database.updateSession_ok ran
        exact (List.append_nil _).symm
    | updateUser userId columns now =>
        obtain rfl := Database.updateUser_ok ran
        exact (List.append_nil _).symm
    | insertOrg row =>
        obtain ⟨accepted, rfl⟩ := Database.insertOrg_ok ran
        exact (List.append_nil _).symm
    | insertUser row =>
        obtain ⟨accepted, rfl⟩ := Database.insertUser_ok ran
        exact (List.append_nil _).symm
    | insertUserRole row =>
        obtain ⟨accepted, rfl⟩ := Database.insertUserRole_ok ran
        exact (List.append_nil _).symm
    | handled run => exact (sendable.auditLog ran).trans (List.append_nil _).symm
  stands := by
    intro opened statement sendable some_ db later next kept ran
    cases statement with
    | insertAuditLog row =>
        obtain rfl : opened = [] := sendable
        have accepted : db.AcceptsAuditLog row := by
          by_contra rejected
          obtain ⟨error, raised⟩ := Database.insertAuditLog_rejected rejected
          cases raised.symm.trans ran
        exact ⟨_, Database.insertAuditLog_accepted (kept.acceptsAuditLog accepted)⟩
    | _ => exact absurd rfl some_

end Kept

-----------------------------------------------------------------------------------------
-- Programs without audit rows
-----------------------------------------------------------------------------------------

section Quiet

variable {α β : Type} {may : Raised → Prop}

/-- The program starts and returns outside a transaction, and commits no audit row. It raises
nothing but what it may.
-/
def Quiet (may : Raised → Prop) (program : DbProgram α) : Prop :=
  ∀ rows committed,
    auditRows committed = rows
    → program.Ensures ServiceStatement.run Sendable
        (fun committed opened _ => auditRows committed = rows ∧ opened = [])
        (fun committed error => auditRows committed = rows ∧ may error) committed []

theorem Quiet.pure (value : α) : Quiet may (pure value : DbProgram α) :=
  fun _ _ same => ⟨same, rfl⟩

theorem Quiet.raise {error : Raised} (raised : may error)
    : Quiet may (.raise error : DbProgram α) :=
  fun _ _ same => ⟨same, raised⟩

theorem Quiet.bind {first : DbProgram β} {next : β → DbProgram α} (quiet : Quiet may first)
    (followed : ∀ value, Quiet may (next value))
    : Quiet may (first >>= next) := by
  intro rows committed same
  refine Program.Ensures.bind ((quiet rows committed same).imp ?_ fun _ _ raised => raised)
  rintro after opened value ⟨sameAfter, rfl⟩
  exact followed value rows after sameAfter

theorem Quiet.query {query : Database → Except Raised α}
    (fails : ∀ db error, query db = .error error → may error)
    : Quiet may (Program.query query : DbProgram α) :=
  fun _ _ same =>
    Program.Ensures.query (fun _ _ _ => ⟨same, rfl⟩) fun db error raised =>
      ⟨same, fails db error raised⟩

/-- A query that always answers. -/
theorem Quiet.read {query : Database → α}
    : Quiet may (Program.query (fun db => .ok (query db)) : DbProgram α) :=
  Quiet.query nofun

theorem Quiet.ofExcept {computed : Except Raised α}
    (fails : ∀ error, computed = .error error → may error)
    : Quiet may (Program.ofExcept computed : DbProgram α) :=
  fun _ _ same =>
    Program.Ensures.ofExcept (fun _ _ => ⟨same, rfl⟩) fun error raised =>
      ⟨same, fails error raised⟩

/-- The error is not an answer that the service gives on purpose. -/
def Unanswered : Raised → Prop
  | .httpException _ _ _ => False
  | _ => True

theorem Unanswered.ne {error : Raised} (unanswered : Unanswered error)
    : error ≠ insufficientPermissions := by
  rintro rfl
  exact unanswered

/-- A statement of the service itself fails with no answer, by cases on the statement. -/
theorem fails_unanswered {statement : ServiceStatement} {db : Database} {error : Raised}
    (ran : statement.run db = .error error) (own : ∀ run, statement ≠ .handled run)
    : Unanswered error := by
  cases statement with
  | handled run => exact absurd rfl (own run)
  | updateSession sessionId columns | updateUser userId columns now =>
      simp only [ServiceStatement.run, Database.updateSession, Database.updateUser] at ran
      split at ran
      · cases ran
      · cases ran
        trivial
  | insertSession row | insertAuditLog row | insertOrg row | insertUser row
  | insertUserRole row =>
      simp only [ServiceStatement.run, Database.insertSession, Database.insertAuditLog,
        Database.insertOrg, Database.insertUser, Database.insertUserRole] at ran
      split_ifs at ran <;> cases ran <;> trivial

theorem insertAuditLog_unanswered {row : AuditLog} {db : Database} {error : Raised}
    (ran : (ServiceStatement.insertAuditLog row).run db = .error error)
    : Unanswered error :=
  fails_unanswered ran nofun

/-- Statements of the service itself without an audit row. -/
def Plain : ServiceStatement → Prop
  | .insertAuditLog _ => False
  | .handled _ => False
  | .updateSession _ columns => columns.revokedAt ≠ some none
  | _ => True

section PlainStatements

variable {statement : ServiceStatement} (plain : Plain statement)

include plain

theorem Plain.row : auditRow statement = [] := by
  cases statement with
  | insertAuditLog row => exact plain.elim
  | _ => rfl

theorem Plain.sendable (opened : List ServiceStatement) : Sendable opened statement := by
  cases statement with
  | insertAuditLog row => exact plain.elim
  | handled run => exact plain.elim
  | updateSession sessionId columns => exact plain
  | _ => trivial

theorem Plain.raises {db : Database} {error : Raised} (ran : statement.run db = .error error)
    : Unanswered error := by
  refine fails_unanswered ran fun run same => ?_
  rw [same] at plain
  exact plain

end PlainStatements

/-- From inside a transaction of plain statements, the program commits them or raises. -/
def Closing (may : Raised → Prop) (program : DbProgram α) : Prop :=
  ∀ rows committed opened,
    auditRows committed = rows
    → (∀ statement ∈ opened, Plain statement)
    → program.Ensures ServiceStatement.run Sendable
        (fun committed opened _ => auditRows committed = rows ∧ opened = [])
        (fun committed error => auditRows committed = rows ∧ may error) committed opened

theorem Closing.quiet {program : DbProgram α} (closing : Closing may program)
    : Quiet may program :=
  fun rows committed same => closing rows committed [] same (List.forall_mem_nil _)

theorem Closing.raise {error : Raised} (raised : may error)
    : Closing may (.raise error : DbProgram α) :=
  fun _ _ _ same _ => ⟨same, raised⟩

theorem Closing.queried {query : Database → Except Raised β} {next : β → DbProgram α}
    (fails : ∀ db error, query db = .error error → may error)
    (followed : ∀ value, Closing may (next value))
    : Closing may (Program.query query >>= next) := by
  intro rows committed opened same plain
  refine Program.Ensures.bind (Program.Ensures.query ?_ ?_)
  · exact fun _ value _ => followed value rows committed opened same plain
  · exact fun db error raised => ⟨same, fails db error raised⟩

theorem Closing.read {query : Database → β} {next : β → DbProgram α}
    (followed : ∀ value, Closing may (next value))
    : Closing may (Program.query (fun db => .ok (query db)) >>= next) :=
  Closing.queried nofun followed

theorem Closing.computed {computed : Except Raised β} {next : β → DbProgram α}
    (fails : ∀ error, computed = .error error → may error)
    (followed : ∀ value, Closing may (next value))
    : Closing may (Program.ofExcept computed >>= next) := by
  intro rows committed opened same plain
  refine Program.Ensures.bind (Program.Ensures.ofExcept ?_ ?_)
  · exact fun value _ => followed value rows committed opened same plain
  · exact fun error raised => ⟨same, fails error raised⟩

theorem Closing.add {statement : ServiceStatement} {next : DbProgram α} (plain : Plain statement)
    (followed : Closing may next)
    : Closing may (.add statement next) := by
  intro rows committed opened same plainOpened
  refine ⟨plain.sendable opened, followed rows committed _ same ?_⟩
  intro other member
  rcases List.mem_append.mp member with old | last
  · exact plainOpened other old
  · exact List.mem_singleton.mp last ▸ plain

variable (raised : ∀ error, Unanswered error → may error)

include raised

theorem Closing.flush {next : DbProgram α} (followed : Closing may next)
    : Closing may (.flush next) := by
  intro rows committed opened same plain
  refine
    ⟨fun statement member db error ran => ⟨same, ?_⟩,
      followed rows committed opened same plain⟩
  exact raised error ((plain statement member).raises ran)

theorem Closing.commit (value : α) : Closing may (.commit (.done value) : DbProgram α) := by
  intro rows committed opened same plain
  refine ⟨fun statement member db error ran => ⟨same, ?_⟩, ?_, rfl⟩
  · exact raised error ((plain statement member).raises ran)
  · have none_ : auditRows opened = [] :=
      List.flatMap_eq_nil_iff.mpr fun statement member => (plain statement member).row
    simp [same, none_]

/-- Plain statements that are committed, by induction on them. -/
theorem Closing.committedAll {statements : List ServiceStatement}
    (plain : ∀ statement ∈ statements, Plain statement) (value : α)
    : Closing may
        (do
          Program.addAll statements
          .commit (.done value)
          : DbProgram α) := by
  induction statements with
  | nil => exact Closing.commit raised value
  | cons statement rest ih =>
      refine .add (plain statement (.head _)) (ih ?_)
      exact fun other member => plain other (.tail _ member)

/-- One plain statement that is committed. -/
theorem Closing.committed {statement : ServiceStatement} (plain : Plain statement) (value : α)
    : Closing may (.add statement (.commit (.done value)) : DbProgram α) :=
  .add plain (.commit raised value)

end Quiet

-----------------------------------------------------------------------------------------
-- What the programs commit
-----------------------------------------------------------------------------------------

section Programs

variable {may : Raised → Prop} (raised : ∀ error, Unanswered error → may error)
  (runtime : Runtime) (now : Instant)

theorem hashPassword_unanswered {salt plain : String} {error : Raised}
    (failed : hashPassword runtime salt plain = .error error)
    : Unanswered error := by
  unfold hashPassword at failed
  split at failed
  · cases failed
    trivial
  · cases failed

theorem userByEmail_unanswered {email : String} {db : Database} {error : Raised}
    (failed : db.userByEmail email = .error error)
    : Unanswered error := by
  unfold Database.userByEmail at failed
  split at failed
  · cases failed
  · cases failed
    trivial

include raised

theorem lookupSession_quiet (rawToken : String)
    : Quiet may (Programs.lookupSession runtime now rawToken) := by
  unfold Programs.lookupSession
  split
  · exact .pure _
  · refine .bind .read fun found => ?_
    cases found with
    | none => exact .pure _
    | some sess =>
        dsimp only
        split_ifs
        · exact .pure _
        · exact .pure _
        · exact .pure _
        · exact (Closing.committed raised (by simp [Plain]) _).quiet
        · exact .pure _

theorem revokeSession_quiet (sessionId : UUID) (reason : String)
    : Quiet may (Programs.revokeSession now sessionId reason) := by
  refine .bind .read fun found => ?_
  cases found with
  | none => exact .pure _
  | some sess =>
      dsimp only
      split_ifs
      · exact .pure _
      · exact (Closing.committed raised (by simp [Plain, revocation]) _).quiet

theorem revokeAllUserSessions_quiet (userId : UUID) (reason : String)
    (transport : Option SessionTransport)
    : Quiet may (Programs.revokeAllUserSessions now userId reason transport) := by
  refine .bind .read fun sessions => ?_
  split_ifs
  · exact .pure _
  · refine (Closing.committedAll raised ?_ _).quiet
    intro statement member
    obtain ⟨sess, _, rfl⟩ := List.mem_map.mp member
    simp [Plain, revocation]

theorem revokeCookieSession_quiet (cookieToken : Option String)
    : Quiet may (Programs.revokeCookieSession runtime now cookieToken) := by
  unfold Programs.revokeCookieSession
  cases cookieToken.filter (fun token => token ≠ "") with
  | none => exact .pure _
  | some token =>
      refine .bind .read fun found => ?_
      cases found with
      | none => exact .pure _
      | some sess => exact .bind (revokeSession_quiet raised now _ _) fun _ => .pure _

theorem attemptLogin_quiet (draws : Draws) (attempt : LoginAttempt)
    : Quiet may (Programs.attemptLogin runtime now draws attempt) := by
  refine .bind (.query ?_) fun found => ?_
  · exact fun db error failed => raised _ (userByEmail_unanswered failed)
  cases found with
  | none =>
      refine .bind (.ofExcept fun _ failed => ?_) fun _ => .pure _
      exact raised _ (hashPassword_unanswered runtime failed)
  | some user =>
      dsimp only
      split_ifs
      · exact .pure _
      · cases user.lockedUntil.filter (fun untilTime => untilTime > now) with
        | some untilTime => exact .pure _
        | none =>
            refine (Closing.committed raised ?_ _).quiet
            exact trivial
      · cases user.lockedUntil.filter (fun untilTime => untilTime > now) with
        | some untilTime => exact .pure _
        | none =>
            refine (Closing.computed (fun error failed => ?_) fun rehashed => ?_).quiet
            · refine raised _ ?_
              unfold rehash at failed
              split at failed
              · cases hashed : hashPassword runtime draws.salt attempt.password with
                | ok hash =>
                    rw [hashed] at failed
                    cases failed
                | error other =>
                    rw [hashed] at failed
                    cases failed
                    exact hashPassword_unanswered runtime hashed
              · cases failed
            · refine .add trivial ?_
              exact .add trivial (.flush raised (.commit raised _))

theorem bootstrap_quiet (isPrintable : Char → Bool) (draws : BootstrapDraws) (orgId : UUID)
    (email password name : String)
    : Quiet may
        (Programs.bootstrap runtime isPrintable draws now orgId email password name) := by
  have grants (userId : UUID) (adminRole : Role)
      : Closing may (Programs.grantRoles orgId userId adminRole) := by
    refine .read fun found => ?_
    cases found with
    | none => exact .raise (raised _ trivial)
    | some developerRole =>
        refine .committedAll raised ?_ _
        intro statement member
        obtain ⟨row, _, rfl⟩ := List.mem_map.mp member
        exact trivial
  have creates (email name : String) (adminRole : Role)
      : Closing may
          (Programs.createAdmin runtime isPrintable draws now orgId email password name
            adminRole) := by
    refine .queried (fun _ _ failed => raised _ (userByEmail_unanswered failed)) fun found => ?_
    cases found with
    | some user => exact .raise (raised _ trivial)
    | none =>
        refine .computed (fun _ failed => raised _ (hashPassword_unanswered runtime failed)) ?_
        exact fun passwordHash => .add trivial (.flush raised (grants _ _))
  refine .bind .read fun found => ?_
  cases found with
  | none => exact .raise (raised _ trivial)
  | some adminRole =>
      refine .bind .read fun grant => ?_
      cases grant with
      | some _ => exact .pure _
      | none =>
          refine .bind .read fun org => ?_
          cases org with
          | none =>
              refine (Closing.add ?_ (.flush raised (creates _ _ _))).quiet
              exact trivial
          | some _ => exact (creates _ _ _).quiet

end Programs

/-- A user is resolved without audit rows. -/
theorem getCurrentUser_quiet (runtime : Runtime) (now : Instant)
    (cookieToken authorization : Option String)
    : Quiet (fun error => error ≠ insufficientPermissions)
        (Programs.getCurrentUser runtime now cookieToken authorization) := by
  have raised (error : Raised) (unanswered : Unanswered error)
      : error ≠ insufficientPermissions :=
    unanswered.ne
  unfold Programs.getCurrentUser
  cases rawToken runtime cookieToken authorization with
  | none => exact .raise (by decide)
  | some token =>
      refine .bind (lookupSession_quiet raised runtime now token) fun found => ?_
      cases found with
      | none => exact .raise (by decide)
      | some sess =>
          refine .bind .read fun found => ?_
          cases found with
          | none => exact .raise (by decide)
          | some user =>
              dsimp only
              split_ifs
              · exact .raise (by decide)
              · exact .pure _

-----------------------------------------------------------------------------------------
-- What the audited programs commit
-----------------------------------------------------------------------------------------

section Audited

variable {α : Type}

/-- An audit row that is committed on its own, and what follows. -/
theorem writes_ensures {returns : List ServiceStatement → List ServiceStatement → α → Prop}
    {raises : List ServiceStatement → Raised → Prop} {entry : AuditLog} {next : DbProgram α}
    {committed : List ServiceStatement} (valid : entry.decision ∈ Audit.validDecisions)
    (raised : ∀ error, Unanswered error → raises committed error)
    (followed
      : next.Ensures ServiceStatement.run Sendable returns raises
          (committed ++ [.insertAuditLog entry]) [])
    : (Programs.write entry >>= fun _ => .commit next).Ensures ServiceStatement.run Sendable
        returns raises committed [] := by
  refine Program.Ensures.bind ?_
  rw [Programs.write, if_neg (not_not_intro valid)]
  refine ⟨rfl, fun statement member db error ran => ?_, followed⟩
  obtain rfl := List.mem_singleton.mp member
  exact raised error (insertAuditLog_unanswered ran)

/-- The audit rows of a login, by what it answers. -/
inductive LoginAudited (runtime : Runtime) (payload : LoginRequest) (request : Request)
    : Except Raised LoginResponse → List AuditLog → Prop
  | success {response : LoginResponse} (user : User)
      (same : response.user = UserView.fromModel user)
      : LoginAudited runtime payload request (.ok response) [successEntry request user]
  | failed
      : LoginAudited runtime payload request
          (.error (.httpException 401 "Invalid credentials" []))
          [failedEntry runtime payload request]
  | locked (untilTime : Instant)
      : LoginAudited runtime payload request
          (.error
            (.httpException 423 "Account temporarily locked due to repeated failed attempts"
              []))
          [lockedEntry runtime payload request untilTime]
  | unanswered {error : Raised} (unanswered : Unanswered error)
      : LoginAudited runtime payload request (.error error) []

/-- The program commits the rows that fit how it ends. -/
def Commits (audited : Except Raised α → List AuditLog → Prop) (program : DbProgram α) : Prop :=
  program.Ensures ServiceStatement.run Sendable
    (fun committed _ value => audited (.ok value) (auditRows committed))
    (fun committed error => audited (.error error) (auditRows committed)) [] []

variable (runtime : Runtime) (now : Instant)

theorem login_commits (draws : Draws) (payload : LoginRequest) (request : Request)
    : Commits (LoginAudited runtime payload request)
        (Programs.login runtime now draws payload request) := by
  have attempted :=
    attemptLogin_quiet (fun _ unanswered => unanswered) runtime now draws
      (loginAttempt payload request) [] [] rfl
  refine Program.Ensures.bind (attempted.imp ?_ ?_)
  · rintro committed opened result ⟨none_, rfl⟩
    have unanswered (error : Raised) (unanswered : Unanswered error)
        : LoginAudited runtime payload request (.error error) (auditRows committed) := by
      rw [none_]
      exact .unanswered unanswered
    have rows (entry : AuditLog)
        : auditRows (committed ++ [.insertAuditLog entry]) = [entry] := by
      rw [auditRows_append, none_]
      rfl
    cases result with
    | invalid =>
        refine writes_ensures (.tail _ (.head _)) unanswered ?_
        show LoginAudited _ _ _ _ (auditRows (committed ++ _))
        rw [rows]
        exact .failed
    | locked untilTime =>
        refine writes_ensures (.tail _ (.head _)) unanswered ?_
        show LoginAudited _ _ _ _ (auditRows (committed ++ _))
        rw [rows]
        exact .locked untilTime
    | success user rawToken created =>
        refine writes_ensures (.head _) unanswered ?_
        show LoginAudited _ _ _ _ (auditRows (committed ++ _))
        rw [rows]
        exact .success user rfl
  · rintro committed error ⟨none_, unanswered⟩
    rw [none_]
    exact .unanswered unanswered

/-- The audit rows of a logout, by what it answers. -/
inductive LogoutAudited : Except Raised LogoutResponse → List AuditLog → Prop
  | loggedOut {response : LogoutResponse} (user : User)
      : LogoutAudited (.ok response) [logoutEntry user]
  | raised {error : Raised} : LogoutAudited (.error error) []

theorem logoutRequest_commits (cookieToken authorization : Option String)
    : Commits LogoutAudited (Programs.logoutRequest runtime now cookieToken authorization) := by
  have raises (committed : List ServiceStatement) (error : Raised)
      (none_ : auditRows committed = [])
      : LogoutAudited (.error error) (auditRows committed) := by
    rw [none_]
    exact .raised
  have user := getCurrentUser_quiet runtime now cookieToken authorization [] [] rfl
  refine Program.Ensures.bind (user.imp ?_ fun committed error ended => raises _ _ ended.1)
  rintro committed opened user ⟨none_, rfl⟩
  have revoked :=
    revokeCookieSession_quiet (fun _ unanswered => unanswered) runtime now cookieToken []
      committed none_
  refine Program.Ensures.bind (revoked.imp ?_ fun committed error ended => raises _ _ ended.1)
  rintro committed opened _ ⟨none_, rfl⟩
  refine writes_ensures (.head _) (fun error _ => raises _ _ none_) ?_
  show LogoutAudited _ (auditRows (committed ++ _))
  rw [auditRows_append, none_]
  exact .loggedOut user

end Audited

-----------------------------------------------------------------------------------------
-- Guarded routes
-----------------------------------------------------------------------------------------

section Guarded

variable {α : Type}

/-- A handler's program: its statements keep the history and leave the audit log alone, and it
does not raise the 403 of the check.
-/
def Handles (handler : DbProgram α) : Prop :=
  handler.Ensures ServiceStatement.run
    (fun _ statement => ∃ run, statement = .handled run ∧ HandlerStatement run)
    (fun _ _ _ => True) (fun _ error => error ≠ insufficientPermissions) [] []

/-- The row is open before the handler's statements, or it is committed. -/
def RowStands (row : AuditLog) (handled committed opened : List ServiceStatement) : Prop :=
  (opened = .insertAuditLog row :: handled ∧ auditRows committed = [])
  ∨ (opened = handled ∧ auditRows committed = [row])

section Row

variable {row : AuditLog} {handled committed opened : List ServiceStatement}
  (stands : RowStands row handled committed opened)

include stands

theorem RowStands.rows : auditRows committed = [] ∨ auditRows committed = [row] :=
  stands.imp And.right And.right

/-- A refused statement is not answered by the 403 of the check. -/
theorem RowStands.refused
    (flushes
      : ∀ statement ∈ handled, ∀ db error, statement.run db = .error error
          → error ≠ insufficientPermissions)
    : ∀ statement ∈ opened, ∀ db error, statement.run db = .error error
        → (auditRows committed = [] ∨ auditRows committed = [row])
          ∧ error ≠ insufficientPermissions := by
  intro statement member db error ran
  refine ⟨stands.rows, ?_⟩
  rcases stands with ⟨rfl, _⟩ | ⟨rfl, _⟩
  · rcases List.mem_cons.mp member with rfl | later
    · exact (insertAuditLog_unanswered ran).ne
    · exact flushes statement later db error ran
  · exact flushes statement member db error ran

theorem RowStands.added (statement : ServiceStatement)
    : RowStands row (handled ++ [statement]) committed (opened ++ [statement]) := by
  rcases stands with ⟨rfl, none_⟩ | ⟨rfl, one⟩
  · exact .inl ⟨rfl, none_⟩
  · exact .inr ⟨rfl, one⟩

theorem RowStands.commits (own : auditRows handled = [])
    : RowStands row [] (committed ++ opened) [] := by
  refine .inr ⟨rfl, ?_⟩
  rcases stands with ⟨rfl, none_⟩ | ⟨rfl, one⟩
  · rw [auditRows_append, none_, ← List.singleton_append, auditRows_append, own]
    rfl
  · rw [auditRows_append, one, own]
    rfl

end Row

/-- The row of the check is committed once or not at all, by induction on the handler. -/
theorem Handles.after_row {handler : DbProgram α} {row : AuditLog}
    {before handled committed opened : List ServiceStatement}
    (handles
      : handler.Ensures ServiceStatement.run
          (fun _ statement => ∃ run, statement = .handled run ∧ HandlerStatement run)
          (fun _ _ _ => True) (fun _ error => error ≠ insufficientPermissions) before handled)
    (own : auditRows handled = []) (stands : RowStands row handled committed opened)
    : handler.Ensures ServiceStatement.run Sendable
        (fun committed _ _ => auditRows committed = [] ∨ auditRows committed = [row])
        (fun committed error =>
          (auditRows committed = [] ∨ auditRows committed = [row])
          ∧ error ≠ insufficientPermissions)
        committed opened := by
  induction handler generalizing before handled committed opened with
  | done value => exact stands.rows
  | raise error => exact ⟨stands.rows, handles⟩
  | select fails next ih =>
      intro db
      refine ⟨fun error failed => ⟨stands.rows, (handles db).1 error failed⟩, fun answers => ?_⟩
      exact ih db ((handles db).2 answers) own stands
  | add statement next ih =>
      obtain ⟨⟨run, rfl, keeps⟩, rest⟩ := handles
      refine ⟨keeps, ih rest ?_ (stands.added _)⟩
      rw [auditRows_append, own]
      rfl
  | flush next ih => exact ⟨stands.refused handles.1, ih handles.2 own stands⟩
  | commit next ih => exact ⟨stands.refused handles.1, ih handles.2 rfl (stands.commits own)⟩

/-- The audit rows of a guarded request, by how it ends. -/
inductive GuardAudited (runtime : Runtime) (permission : Permission) (request : Request)
    : Except Raised ServiceAnswer → List AuditLog → Prop
  | denied (user : User) (targetOrgId : UUID) {result : PermissionCheckResult}
      (denied : result.allowed = false)
      : GuardAudited runtime permission request (.error insufficientPermissions)
          [decisionEntry runtime request user permission targetOrgId result]
  | granted {outcome : Except Raised ServiceAnswer} (user : User) (targetOrgId : UUID)
      {result : PermissionCheckResult} (allowed : result.allowed = true)
      (passed : outcome ≠ .error insufficientPermissions)
      : GuardAudited runtime permission request outcome
          [decisionEntry runtime request user permission targetOrgId result]
  | uncommitted {outcome : Except Raised ServiceAnswer}
      (passed : outcome ≠ .error insufficientPermissions)
      : GuardAudited runtime permission request outcome []

/-- The row of a check has one of the two decisions. -/
theorem decisionEntry_valid (runtime : Runtime) (request : Request) (user : User)
    (permission : Permission) (targetOrgId : UUID) (result : PermissionCheckResult)
    : (decisionEntry runtime request user permission targetOrgId result).decision
      ∈ Audit.validDecisions := by
  unfold decisionEntry
  dsimp only
  split_ifs
  · exact .head _
  · exact .tail _ (.head _)

section Dependency

variable (runtime : Runtime) (permission : Permission)
  {target : Option (Request → Database → Except Raised UUID)} (request : Request)
  (resolves
    : ∀ query ∈ target, ∀ db error, query request db = .error error
        → error ≠ insufficientPermissions)

include resolves

/-- The org that a check is about is found without audit rows. -/
theorem resolveTarget_quiet (user : User)
    : Quiet (fun error => error ≠ insufficientPermissions)
        (Programs.resolveTarget target request user) := by
  cases target with
  | none => exact .pure _
  | some query => exact .query fun db error failed => resolves query rfl db error failed

/-- The dependency commits the row of a denial, and hands the open row of a grant on. -/
theorem requirePermission_ensures {raises : List ServiceStatement → Raised → Prop}
    {returns : List ServiceStatement → List ServiceStatement → User → Prop}
    {committed : List ServiceStatement} (user : User) (none_ : auditRows committed = [])
    (failed
      : ∀ committed error, auditRows committed = [] → error ≠ insufficientPermissions
          → raises committed error)
    (denied
      : ∀ committed targetOrgId (result : PermissionCheckResult), result.allowed = false
          → auditRows committed
            = [decisionEntry runtime request user permission targetOrgId result]
          → raises committed insufficientPermissions)
    (granted
      : ∀ committed targetOrgId (result : PermissionCheckResult), result.allowed = true
          → auditRows committed = []
          → returns committed
              [.insertAuditLog
                (decisionEntry runtime request user permission targetOrgId result)]
              user)
    : (Programs.requirePermission runtime permission target request user).Ensures
        ServiceStatement.run Sendable returns raises committed [] := by
  have resolved := resolveTarget_quiet request resolves user [] committed none_
  refine Program.Ensures.bind
    (resolved.imp ?_ fun committed error ended => failed _ _ ended.1 ended.2)
  rintro committed opened targetOrgId ⟨none_, rfl⟩
  refine Program.Ensures.bind (Program.Ensures.query (fun db result _ => ?_) nofun)
  refine Program.Ensures.bind ?_
  rw [Programs.write, if_neg (not_not_intro (decisionEntry_valid _ _ _ _ _ _))]
  refine ⟨rfl, ?_⟩
  cases allowed : result.allowed with
  | false =>
      refine ⟨fun statement member db error ran => ?_, ?_⟩
      · obtain rfl := List.mem_singleton.mp member
        exact failed _ _ none_ (insertAuditLog_unanswered ran).ne
      · refine denied _ targetOrgId result allowed ?_
        rw [auditRows_append, none_]
        rfl
  | true => exact granted _ targetOrgId result allowed none_

theorem guardedRequest_commits (now : Instant) (credential : Credential)
    {handler : User → DbProgram ServiceAnswer} (handles : ∀ user, Handles (handler user))
    : Commits (GuardAudited runtime permission request)
        (Programs.guardedRequest runtime now credential permission target request handler) := by
  have failed (committed : List ServiceStatement) (error : Raised)
      (none_ : auditRows committed = []) (other : error ≠ insufficientPermissions)
      : GuardAudited runtime permission request (.error error) (auditRows committed) := by
    rw [none_]
    exact .uncommitted fun same => other (Except.error.inj same)
  have user :=
    getCurrentUser_quiet runtime now credential.cookieToken credential.authorization [] [] rfl
  refine Program.Ensures.bind
    (user.imp ?_ fun committed error ended => failed _ _ ended.1 ended.2)
  rintro committed opened user ⟨none_, rfl⟩
  refine Program.Ensures.bind
    (requirePermission_ensures runtime permission request resolves user none_ failed ?_ ?_)
  · intro committed targetOrgId result denied one
    rw [one]
    exact .denied user targetOrgId denied
  · intro committed targetOrgId result allowed none_
    have ends (committed : List ServiceStatement) (outcome : Except Raised ServiceAnswer)
        (rows
          : auditRows committed = []
            ∨ auditRows committed
              = [decisionEntry runtime request user permission targetOrgId result])
        (passed : outcome ≠ .error insufficientPermissions)
        : GuardAudited runtime permission request outcome (auditRows committed) := by
      rcases rows with none_ | one
      · rw [none_]
        exact .uncommitted passed
      · rw [one]
        exact .granted user targetOrgId allowed passed
    refine Program.Ensures.imp ?_ ?_
      (Handles.after_row (handles user) rfl (.inl ⟨rfl, none_⟩))
    · exact fun committed _ answer rows => ends committed (.ok answer) rows nofun
    · exact fun committed error ended =>
        ends _ _ ended.1 fun same => ended.2 (Except.error.inj same)

end Dependency

end Guarded

-----------------------------------------------------------------------------------------
-- Calls that run concurrently
-----------------------------------------------------------------------------------------

section Calls

variable (runtime : Runtime) (isPrintable : Char → Bool)

/-- What a guarded route brings keeps to the audit log: its resolver and its handler do not raise
the 403 of the check, and the handler's statements keep the history.
-/
def ProgramCall.KeepsAudit (call : ProgramCall) : Prop :=
  match call.request with
  | .guarded _ _ target request handler =>
      (∀ query ∈ target, ∀ db error, query request db = .error error
        → error ≠ insufficientPermissions)
      ∧ ∀ user, Handles (handler user)
  | _ => True

/-- The audit rows that fit how a call ends. -/
def ProgramCall.Audited (call : ProgramCall) (outcome : Except Raised ServiceAnswer)
    (rows : List AuditLog)
    : Prop :=
  match call.request with
  | .login _ payload request =>
      ∃ ended, outcome = Except.map .loggedIn ended
        ∧ LoginAudited runtime payload request ended rows
  | .logout _ => ∃ ended, outcome = Except.map .loggedOut ended ∧ LogoutAudited ended rows
  | .guarded _ permission _ request _ => GuardAudited runtime permission request outcome rows
  | _ => rows = []

variable {α : Type}

/-- The answer of a program that has committed what fits. -/
theorem Commits.answered {audited : Except Raised α → List AuditLog → Prop}
    {program : DbProgram α} (commits : Commits audited program) (answer : α → ServiceAnswer)
    : Commits
        (fun outcome rows => ∃ ended, outcome = Except.map answer ended ∧ audited ended rows)
        (do
          let value ← program
          return answer value) := by
  refine Program.Ensures.bind (Program.Ensures.imp ?_ ?_ commits)
  · exact fun committed opened value fits => ⟨.ok value, rfl, fits⟩
  · exact fun committed error fits => ⟨.error error, rfl, fits⟩

/-- A program without audit rows commits none. -/
theorem Quiet.commits {may : Raised → Prop} {program : DbProgram α} (quiet : Quiet may program)
    (answer : α → ServiceAnswer)
    : Commits (fun _ rows => rows = [])
        (do
          let value ← program
          return answer value) := by
  refine Program.Ensures.bind (Program.Ensures.imp ?_ ?_ (quiet [] [] rfl))
  · exact fun committed opened value ended => ended.1
  · exact fun committed error ended => ended.1

/-- Every call commits the audit rows that fit its end. -/
theorem ProgramCall.commits (call : ProgramCall) (keeps : call.KeepsAudit)
    : Commits (call.Audited runtime) (call.program runtime isPrintable) := by
  obtain ⟨now, request⟩ := call
  have raised (error : Raised) (_ : Unanswered error) : True := trivial
  cases request with
  | login draws payload request =>
      exact (login_commits runtime now draws payload request).answered .loggedIn
  | logout credential =>
      exact (logoutRequest_commits runtime now credential.cookieToken
        credential.authorization).answered .loggedOut
  | me credential =>
      exact (getCurrentUser_quiet runtime now credential.cookieToken
        credential.authorization).commits fun user => .profile (UserView.fromModel user)
  | guarded credential permission target request handler =>
      refine
        guardedRequest_commits runtime permission request keeps.1 now credential
          fun user => ?_
      refine Program.Ensures.bind ((keeps.2 user).imp ?_ fun _ _ raises => raises)
      exact fun _ _ _ _ => trivial
  | revoke sessionId reason =>
      exact (revokeSession_quiet raised now sessionId reason).commits .revoked
  | revokeAll userId reason transport =>
      exact (revokeAllUserSessions_quiet raised now userId reason transport).commits .revokedAll
  | bootstrap draws orgId email password name =>
      exact (bootstrap_quiet raised runtime now isPrintable draws orgId email password
        name).commits .bootstrapped

variable {Attempt : Type} [DecidableEq Attempt]

/-- However calls are interleaved, query by query and statement by statement: the audit log has
the rows that they have committed and no others, every call that is over has committed the rows
that fit its answer, and the history is kept from then on.
-/
theorem concurrent_calls_audited (calls : Attempt → ProgramCall)
    (keeps : ∀ i, (calls i).KeepsAudit) {db : Database} {history : List Attempt}
    {backend : Backend Attempt ServiceStatement Database Raised ServiceAnswer}
    (ran
      : Interleaved ServiceStatement.run (fun i => (calls i).program runtime isPrintable) db
          history backend)
    : backend.db.auditLog
        = db.auditLog ++ backend.commits.flatMap (fun transaction => auditRows transaction.2)
      ∧ (∀ i outcome, (backend.stages i).outcome = some outcome
          → (calls i).Audited runtime outcome (auditRows (backend.committed i)))
      ∧ ∀ later after, Runs (Backend.stepping ServiceStatement.run) backend later after
          → KeepsHistory backend.db after.db := by
  have commits (i : Attempt) := (calls i).commits runtime isPrintable (keeps i)
  have ensures := Interleaved.ensures commits ran
  refine ⟨?_, ?_, ?_⟩
  · exact sendable_logged.interleaved sendable_grows commits ran
  · intro i outcome ended
    have fits := ensures.ended ended
    cases outcome with
    | ok answer =>
        obtain ⟨opened, fits⟩ := fits
        exact fits
    | error error => exact fits
  · exact fun later after more => sendable_grows.interleaved ensures more

end Calls

/-- The two sign-ins take turns: each has its own audit row, in the order of their commits. -/
theorem sampleSignIns_audited
    : ∃ history backend,
        Interleaved ServiceStatement.run
          (fun i => (sampleSignIns i).program sampleRuntime fun _ => true) sampleDatabase history
          backend
        ∧ (∀ i, ∃ outcome, (backend.stages i).outcome = some outcome
            ∧ (sampleSignIns i).Audited sampleRuntime outcome (auditRows (backend.committed i)))
        ∧ backend.db.auditLog.map AuditLog.action = ["login.failed", "login.success"] := by
  have found
      : (sampleSignInsBackend.play ServiceStatement.run
            [true, false, false, true, true, true, false, true, true, true, false, true, true,
              true]).any
          (fun backend =>
            (backend.stages true).outcome.isSome && (backend.stages false).outcome.isSome
              && backend.db.auditLog.map AuditLog.action = ["login.failed", "login.success"])
        = true := by
    decide
  obtain ⟨backend, ran, checked⟩ := Backend.play_finds found
  simp only [Bool.and_eq_true, Option.isSome_iff_exists, decide_eq_true_eq] at checked
  obtain ⟨⟨⟨signedIn, ended⟩, ⟨refused, raised⟩⟩, logged⟩ := checked
  have keeps (i : Bool) : (sampleSignIns i).KeepsAudit := by cases i <;> trivial
  have audited :=
    (concurrent_calls_audited sampleRuntime (fun _ => true) sampleSignIns keeps ran).2.1
  refine ⟨_, backend, ran, fun i => ?_, logged⟩
  cases i with
  | true => exact ⟨signedIn, ended, audited true signedIn ended⟩
  | false => exact ⟨refused, raised, audited false refused raised⟩

end SpecterCloud.Service
