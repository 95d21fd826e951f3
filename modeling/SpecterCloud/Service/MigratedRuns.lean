import SpecterCloud.Migrations.Statements
import SpecterCloud.Service.KeptHistory
import Mathlib.Data.Int.Interval

/-! The service on a migrated database: whatever calls it serves, it only sends statements that
the tables take, and these lead to tables that hold what the calls have left.
-/

namespace SpecterCloud.Service

open SpecterCloud.Foundations
open SpecterCloud.Foundations.Relational
open SpecterCloud.Models
open SpecterCloud.Migrations
open SpecterCloud.Core
open SpecterCloud.Auth
open SpecterCloud.Api

-----------------------------------------------------------------------------------------
-- What is written
-----------------------------------------------------------------------------------------

/-- What the service writes in a database: orgs without a parent, users and counts of failed
logins that their column takes, and grants that nobody gave.
-/
def Writes (db : Database) : DbStatement → Prop
  | .insertOrg row => row.parentOrgId = none
  | .insertUser row => row.failedLoginCount = 0
  | .insertUserRole row => row.grantedBy = none
  | .updateUser _ columns _ =>
      (∀ user ∈ db.users, fitsBits 32 user.failedLoginCount = true)
        → NullOr (fun count => fitsBits 32 count = true) columns.failedLoginCount
  | _ => True

/-- Statements of the service that lead from one database to another. -/
inductive Written : List DbStatement → Database → Database → Prop
  | nothing (db : Database) : Written [] db db
  | next {statement : DbStatement} {rest : List DbStatement} {before middle after : Database}
      (writes : Writes before statement) (ran : statement.run before = .ok middle)
      (others : Written rest middle after)
      : Written (statement :: rest) before after

/-- Some statements of the service lead from one database to the other. -/
def LeadsTo (before after : Database) : Prop := ∃ statements, Written statements before after

theorem Written.append {first second : List DbStatement} {a b c : Database}
    (written : Written first a b) (more : Written second b c)
    : Written (first ++ second) a c := by
  induction written with
  | nothing => exact more
  | next writes ran _ ih => exact .next writes ran (ih more)

theorem LeadsTo.refl (db : Database) : LeadsTo db db := ⟨[], .nothing db⟩

theorem LeadsTo.trans (a b c : Database) : LeadsTo a b → LeadsTo b c → LeadsTo a c :=
  fun ⟨_, first⟩ ⟨_, second⟩ => ⟨_, first.append second⟩

/-- One statement leads to what it reaches. -/
theorem LeadsTo.single (statement : DbStatement) {before after : Database}
    (writes : Writes before statement) (ran : statement.run before = .ok after)
    : LeadsTo before after :=
  ⟨[statement], .next writes ran (.nothing after)⟩

theorem LeadsTo.requests : KeptByRequests LeadsTo where
  refl := LeadsTo.refl
  trans := LeadsTo.trans
  insertSession := fun row _ _ ran => .single (.insertSession row) trivial ran
  insertAuditLog := fun row _ _ ran => .single (.insertAuditLog 0 row) trivial ran
  revoke := fun sessionId now reason _ _ ran =>
    .single (.updateSession sessionId (revocation now reason)) trivial ran

theorem LeadsTo.touches : KeptByTouch LeadsTo := fun sessionId now _ _ ran =>
  .single (.updateSession sessionId { lastSeenAt := some now }) trivial ran

theorem LeadsTo.bootstraps : KeptByBootstrap LeadsTo where
  insertOrg := fun row root _ _ ran => .single (.insertOrg row) root ran
  insertUser := fun row counted _ _ ran => .single (.insertUser row) counted ran
  insertUserRole := fun row ungranted _ _ ran => .single (.insertUserRole row) ungranted ran

/-- The count after a failed login fits like the one before it. -/
theorem failureColumns_fit (now : Instant) {user : User}
    (fits : fitsBits 32 user.failedLoginCount = true)
    : NullOr (fun count => fitsBits 32 count = true)
        (failureColumns now user).failedLoginCount := by
  have few : lockoutThreshold = 5 := rfl
  unfold failureColumns
  dsimp only
  split
  · exact of_decide_eq_true rfl
  · simp only [fitsBits, NullOr, Bool.and_eq_true, decide_eq_true_eq] at fits ⊢
    omega

/-- An attempt writes the columns of the user, and then the session. -/
theorem attempt_leadsTo {runtime : Runtime} {draws : Draws} {now : Instant}
    {attempt : LoginAttempt} {db middle : Database} {outcome : Except Raised LoginResult}
    (ways : AttemptEnds runtime draws now attempt db outcome middle)
    : LeadsTo db middle := by
  have updates {user : User} (columns : UserColumns)
      (reaches : Reaches runtime attempt db user)
      (counted
        : fitsBits 32 user.failedLoginCount = true
          → NullOr (fun count => fitsBits 32 count = true) columns.failedLoginCount)
      (fits : NullOr (FitsString 128) columns.passwordHash)
      : LeadsTo db (db.writeUser user.id columns now) := by
    have stored := (findBy_sound (Database.userByEmail_answered reaches.found).2).1
    exact .single (.updateUser user.id columns now)
      (fun allFit => counted (allFit user stored)) (if_pos fits)
  cases ways with
  | unsendable | unknown | inactive | locked | raised => exact LeadsTo.refl db
  | @failed user reaches =>
      refine updates (failureColumns now user) reaches (failureColumns_fit now) ?_
      rw [failureColumns_passwordHash]
      trivial
  | @succeeded user rehashed reaches _ _ hashed accepted =>
      refine .trans _ _ _
        (updates (successColumns now rehashed) reaches (fun _ => of_decide_eq_true rfl)
          (rehash_fits hashed))
        ?_
      exact .single (.insertSession _) trivial (Database.insertSession_accepted accepted)

/-- A login writes what its attempt does, and its audit row. -/
theorem login_leadsTo (runtime : Runtime) (draws : Draws) (now : Instant)
    (payload : LoginRequest) (request : Request) (db : Database)
    : LeadsTo db ((login runtime draws now payload request).perform db).2 := by
  obtain ⟨outcome, middle, ways, ends⟩ :=
    attemptLogin_cases runtime draws now (loginAttempt payload request) db
  have attempted := attempt_leadsTo ways
  cases outcome with
  | error error =>
      rw [show (login runtime draws now payload request).perform db = _
        from ends.raise.perform]
      exact attempted
  | ok result =>
      rw [login_answers ends]
      refine attempted.trans _ _ _ ?_
      exact (answerLogin_respects LeadsTo.requests runtime payload request result).perform
        LeadsTo.refl middle

/-- A handler whose own statements are statements of the service. -/
def WritingHandler (handler : User → DbAction Unit) : Prop :=
  ∀ user, Action.Respects LeadsTo (handler user)

-----------------------------------------------------------------------------------------
-- On the tables
-----------------------------------------------------------------------------------------

/-- Statements on a migrated database, each with the time at which its transaction began. -/
def executeAll (document : List (String × ExtraValue) → String)
    : List (Instant × DbStatement) → MigratedStore → Except Refusal MigratedStore
  | [], store => .ok store
  | (now, statement) :: rest, store =>
      (statement.sql document).execute now store >>= executeAll document rest

/-- A number that the sequence of `audit_log.id` has not given yet. -/
theorem exists_fresh_id {ids : List Int} (few : ids.length < 2 ^ 63)
    : ∃ id, id ∉ ids ∧ fitsBits 64 id = true := by
  have fewer : ids.toFinset.card < (Finset.Ico (0 : Int) (2 ^ 63)).card := by
    rw [Int.card_Ico]
    exact (List.toFinset_card_le ids).trans_lt (by simpa using few)
  obtain ⟨id, within, fresh⟩ := Finset.exists_mem_notMem_of_card_lt_card fewer
  refine ⟨id, fun given => fresh (List.mem_toFinset.mpr given), ?_⟩
  rw [Finset.mem_Ico] at within
  simp only [fitsBits, Bool.and_eq_true, decide_eq_true_eq]
  omega

/-- The statement with an id for the audit row. -/
def numbered (id : Int) : DbStatement → DbStatement
  | .insertAuditLog _ row => .insertAuditLog id row
  | statement => statement

theorem numbered_run (id : Int) (statement : DbStatement)
    : (numbered id statement).run = statement.run := by
  cases statement <;> rfl

/-- What the service writes is sound under an id that is new. -/
theorem writes_sound {records : StoredRecords} {db after : Database} {statement : DbStatement}
    (writes : Writes db statement) (ran : statement.run db = .ok after)
    (shows : records.Shows db) (consistent : records.Consistent) {id : Int}
    (fresh : id ∉ records.auditLog.map Prod.fst) (fits : fitsBits 64 id = true)
    : (numbered id statement).Sound records := by
  cases statement with
  | insertSession row => trivial
  | insertAuditLog _ row =>
      have accepted : db.AcceptsAuditLog row := DbStatement.accepted_of_run ran
      exact ⟨fresh, fits, accepted.fits.extra⟩
  | insertOrg row => exact writes
  | insertUser row =>
      have none_ : row.failedLoginCount = 0 := writes
      show fitsBits 32 row.failedLoginCount = true
      rw [none_]
      rfl
  | insertUserRole row => exact writes
  | updateUser userId columns now =>
      refine writes fun user stored => consistent.users.counts user ?_
      exact shows.users ▸ stored
  | updateSession sessionId columns => trivial

/-- No statement takes audit rows away. -/
theorem run_auditLog {statement : DbStatement} {db after : Database}
    (ran : statement.run db = .ok after)
    : db.auditLog <+: after.auditLog := by
  cases statement with
  | insertSession row => exact (KeepsHistory.requests.insertSession row ran).auditLog
  | insertAuditLog _ row => exact (KeepsHistory.requests.insertAuditLog row ran).auditLog
  | insertOrg row =>
      obtain ⟨_, rfl⟩ := Database.insertOrg_ok ran
      exact List.prefix_rfl
  | insertUser row =>
      obtain ⟨_, rfl⟩ := Database.insertUser_ok ran
      exact List.prefix_rfl
  | insertUserRole row =>
      obtain ⟨_, rfl⟩ := Database.insertUserRole_ok ran
      exact List.prefix_rfl
  | updateUser id columns now => exact (KeepsHistory.updates id columns now ran).auditLog
  | updateSession id columns =>
      obtain rfl := Database.updateSession_ok ran
      exact List.prefix_rfl

theorem Written.auditLog {statements : List DbStatement} {before after : Database}
    (written : Written statements before after)
    : before.auditLog <+: after.auditLog := by
  induction written with
  | nothing => exact List.prefix_rfl
  | next _ ran _ ih => exact (run_auditLog ran).trans ih

/-- What the service has written is, under new ids for its audit rows, what the server does to
the tables; by induction on the statements, with the store and the times open.
-/
theorem Written.executed (document : List (String × ExtraValue) → String)
    {statements : List DbStatement} {before after : Database}
    (written : Written statements before after) {records : StoredRecords}
    (consistent : records.Consistent) (shows : records.Shows before)
    (few : after.auditLog.length < 2 ^ 63)
    : ∃ (sent : List DbStatement) (reached : StoredRecords),
        runAll (sent.map DbStatement.run) before = .ok after
        ∧ ∀ (times : List Instant) (store : MigratedStore),
            times.length = sent.length → Holds document store records before
            → ∃ result,
                executeAll document (times.zip sent) store = .ok result
                ∧ Holds document result reached after := by
  induction written generalizing records with
  | nothing db =>
      refine ⟨[], records, rfl, fun times store _ holds => ⟨store, ?_, holds⟩⟩
      rw [List.zip_nil_right]
      rfl
  | @next statement rest before middle after writes ran others ih =>
      have fewer : (records.auditLog.map Prod.fst).length < 2 ^ 63 := by
        have same : (records.auditLog.map Prod.fst).length = before.auditLog.length := by
          rw [shows.auditLog, List.length_map, List.length_map]
        rw [same]
        exact ((run_auditLog ran).trans others.auditLog).length_le.trans_lt few
      obtain ⟨id, fresh, fits⟩ := exists_fresh_id fewer
      have sound := writes_sound writes ran shows consistent fresh fits
      have ranNumbered : (numbered id statement).run before = .ok middle :=
        (congrFun (numbered_run id statement) before).trans ran
      have accepted := DbStatement.accepted_of_run ranNumbered
      have changed : ((numbered id statement).change records).Consistent := by
        obtain rfl := shows.unique consistent
        exact (numbered id statement).change_consistent consistent sound accepted
      have showsMiddle : ((numbered id statement).change records).Shows middle := by
        obtain ⟨reached, ranThere, showsThere⟩ := DbStatement.run_accepted shows accepted
        rwa [Except.ok.inj (ranNumbered.symm.trans ranThere)]
      obtain ⟨sent, reached, ranRest, executes⟩ := ih changed showsMiddle few
      refine ⟨numbered id statement :: sent, reached, ?_, ?_⟩
      · rw [List.map_cons, runAll_cons, ranNumbered]
        exact ranRest
      · intro times store lengths holds
        obtain ⟨now, later, rfl⟩ := List.exists_cons_of_length_eq_add_one lengths
        obtain ⟨between, executed, holdsBetween⟩ := holds.executed now sound ranNumbered
        obtain ⟨result, executedRest, holdsAfter⟩ :=
          executes later between (Nat.succ.inj lengths) holdsBetween
        refine ⟨result, ?_, holdsAfter⟩
        rw [List.zip_cons_cons, executeAll, executed]
        exact executedRest

-----------------------------------------------------------------------------------------
-- Over runs
-----------------------------------------------------------------------------------------

theorem LeadsTo.serves {runtime : Runtime} {isPrintable : Char → Bool} {initial db : Database}
    {history : List ServiceEvent}
    (ran
      : ServiceRuns runtime isPrintable
          (fun _ call => call.request.HandledBy WritingHandler) initial history db)
    : LeadsTo initial db := by
  induction ran with
  | start => exact LeadsTo.refl initial
  | @next _ state _ event _ stepped ih =>
      have served :=
        serveService_grows LeadsTo.requests LeadsTo.touches runtime isPrintable event.1
          (fun _ _ _ _ => login_leadsTo runtime _ _ _ _)
          (fun _ _ _ _ _ _ =>
            bootstrapped_grows LeadsTo.requests LeadsTo.bootstraps runtime isPrintable _ _ _ _ _ _)
          stepped.1 state
      rw [stepped.2] at served
      exact ih.trans _ _ _ served

/-- The records of the sample database. -/
def sampleRecords : StoredRecords where
  orgs := sampleDatabase.orgs
  drones := []
  droneApiKeys := []
  users := sampleDatabase.users
  roles := sampleDatabase.roles
  userRoles := sampleDatabase.userRoles.map (fun grant => (grant, none))
  sessions := []
  auditLog := []

theorem sampleRecords_consistent : sampleRecords.Consistent where
  orgs := ⟨by decide, by decide, by decide, by decide⟩
  drones := ⟨by decide, by decide, by decide, by decide⟩
  droneApiKeys := ⟨by decide, by decide, by decide⟩
  users := ⟨by decide, by decide, by decide, by decide, by decide⟩
  roles := ⟨by decide, by decide, by decide, by decide⟩
  userRoles := ⟨by decide, by decide, by decide, by decide, by decide, by decide⟩
  sessions := ⟨by decide, by decide, by decide, by decide⟩
  auditLog := (auditLogConsistent_iff _ _ _ _).mpr (by simp [sampleRecords])

theorem sampleRecords_show : sampleRecords.Shows sampleDatabase :=
  ⟨rfl, rfl, rfl, rfl, rfl, rfl⟩

end SpecterCloud.Service
