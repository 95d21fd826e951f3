import SpecterCloud.Service.KeptHistory
import SpecterCloud.Service.Programs

/-! The calls of the service as programs. One that nobody interrupts answers and leaves what the
service does when it serves the call on its own.
-/

namespace SpecterCloud.Service

open SpecterCloud.Foundations
open SpecterCloud.Models
open SpecterCloud.Core
open SpecterCloud.Auth
open SpecterCloud.Api
open SpecterCloud.Scripts
open SpecterCloud.Service.Programs (ServiceStatement DbProgram)

/-- Requests as programs; see `ServiceRequest`. -/
inductive ProgramRequest
  | login (draws : Draws) (payload : LoginRequest) (request : Request)
  | logout (credential : Credential)
  | me (credential : Credential)
  | guarded (credential : Credential) (permission : Permission)
      (target : Option (Request → Database → Except Raised UUID)) (request : Request)
      (handler : User → DbProgram Unit)
  | revoke (sessionId : UUID) (reason : String)
  | revokeAll (userId : UUID) (reason : String) (transport : Option SessionTransport)
  | bootstrap (draws : BootstrapDraws) (orgId : UUID) (email password name : String)

structure ProgramCall where
  now : Instant
  request : ProgramRequest

/-- The request that the service serves on its own, with its handler on a session. -/
def ProgramRequest.served : ProgramRequest → ServiceRequest
  | login draws payload request => .login draws payload request
  | logout credential => .logout credential
  | me credential => .me credential
  | guarded credential permission target request handler =>
      .guarded credential permission target request fun user =>
        (handler user).action ServiceStatement.run
  | revoke sessionId reason => .revoke sessionId reason
  | revokeAll userId reason transport => .revokeAll userId reason transport
  | bootstrap draws orgId email password name => .bootstrap draws orgId email password name

def ProgramCall.served (call : ProgramCall) : ServiceCall := ⟨call.now, call.request.served⟩

section Calls

variable (runtime : Runtime) (isPrintable : Char → Bool)

/-- What a call does, step by step. -/
def ProgramCall.program (call : ProgramCall) : DbProgram ServiceAnswer :=
  match call.request with
  | .login draws payload request => do
      let response ← Programs.login runtime call.now draws payload request
      return .loggedIn response
  | .logout credential => do
      let response ←
        Programs.logoutRequest runtime call.now credential.cookieToken credential.authorization
      return .loggedOut response
  | .me credential => do
      let user ←
        Programs.getCurrentUser runtime call.now credential.cookieToken credential.authorization
      return .profile (UserView.fromModel user)
  | .guarded credential permission target request handler =>
      Programs.guardedRequest runtime call.now credential permission target request
        fun user => do
          handler user
          return .guarded (.ok user)
  | .revoke sessionId reason => do
      let transitioned ← Programs.revokeSession call.now sessionId reason
      return .revoked transitioned
  | .revokeAll userId reason transport => do
      let count ← Programs.revokeAllUserSessions call.now userId reason transport
      return .revokedAll count
  | .bootstrap draws orgId email password name => do
      let created ←
        Programs.bootstrap runtime isPrintable draws call.now orgId email password name
      return .bootstrapped created

/-- The answer tells how the program ended. That of a guarded route tells how its dependency did,
so a handler may still have raised.
-/
inductive Answers : Except Raised ServiceAnswer → ServiceAnswer → Prop
  | returned (answer : ServiceAnswer) : Answers (.ok answer) answer
  | raised (error : Raised) : Answers (.error error) (.raised error)
  | refused (error : Raised) : Answers (.error error) (.guarded (.error error))
  | failed (user : User) (error : Raised) : Answers (.error error) (.guarded (.ok user))

/-- The ending answers what was served, and leaves the same. -/
structure SameEnd (ended : Except Raised ServiceAnswer × Database)
    (served : ServiceAnswer × Database)
    : Prop where
  answers : Answers ended.1 served.1
  db : ended.2 = served.2

/-- A request and the program that answers its value end the same. -/
theorem sameEnd_answered {α : Type} (action : DbAction α) (answer : α → ServiceAnswer)
    (db : Database)
    : SameEnd
        (Action.perform
          (do
            let value ← action
            return answer value)
          db)
        (answeredBy answer (action.perform db)) := by
  unfold Action.perform
  rw [EStateM.run_bind]
  cases action.run (.opened db) with
  | ok value session => exact ⟨.returned _, rfl⟩
  | error error session => exact ⟨.raised error, rfl⟩

/-- So do a guarded request and its program, whatever the dependency and the handler do. -/
theorem sameEnd_guarded (dependency : DbAction User) (handler : User → DbAction Unit)
    (db : Database)
    : SameEnd
        (Action.perform
          (do
            let user ← dependency
            handler user
            return ServiceAnswer.guarded (.ok user))
          db)
        (.guarded (dependency.perform db).1, ((dependency >>= handler).perform db).2) := by
  unfold Action.perform
  rw [EStateM.run_bind, EStateM.run_bind]
  cases dependency.run (.opened db) with
  | error error session => exact ⟨.refused error, rfl⟩
  | ok user session =>
      dsimp only
      rw [EStateM.run_bind]
      cases (handler user).run session with
      | ok _ after => exact ⟨.returned _, rfl⟩
      | error error after => exact ⟨.failed user error, rfl⟩

/-- A call and its program end the same on a session of its own. -/
theorem ProgramCall.sameEnd (call : ProgramCall) (db : Database)
    : SameEnd (((call.program runtime isPrintable).action ServiceStatement.run).perform db)
        (serveService runtime isPrintable db call.served) := by
  obtain ⟨now, request⟩ := call
  cases request with
  | login draws payload request =>
      rw [ProgramCall.program, Program.action_bind, Programs.login_action]
      exact sameEnd_answered _ _ db
  | logout credential =>
      rw [ProgramCall.program, Program.action_bind, Programs.logoutRequest_action]
      exact sameEnd_answered _ _ db
  | me credential =>
      rw [ProgramCall.program, Program.action_bind, Programs.getCurrentUser_action]
      have viewed
          : (do
              let user ←
                getCurrentUser runtime now credential.cookieToken credential.authorization
              return ServiceAnswer.profile (UserView.fromModel user))
            = (do
              let view ← meRequest runtime now credential
              return ServiceAnswer.profile view) := by
        unfold meRequest currentUser
        rw [bind_assoc]
        rfl
      have same := sameEnd_answered (meRequest runtime now credential) .profile db
      rw [← viewed] at same
      exact same
  | guarded credential permission target request handler =>
      rw [ProgramCall.program, Programs.guardedRequest_action]
      simp only [Program.action_bind, Program.action_pure]
      exact sameEnd_guarded _ _ db
  | revoke sessionId reason =>
      rw [ProgramCall.program, Program.action_bind, Programs.revokeSession_action]
      exact sameEnd_answered _ _ db
  | revokeAll userId reason transport =>
      rw [ProgramCall.program, Program.action_bind, Programs.revokeAllUserSessions_action]
      exact sameEnd_answered _ _ db
  | bootstrap draws orgId email password name =>
      rw [ProgramCall.program, Program.action_bind, Programs.bootstrap_action]
      exact sameEnd_answered _ _ db

variable {Attempt : Type} [DecidableEq Attempt]

/-- From any moment at which a call has not begun, its steps alone bring it to its end: it
answers what the service does that serves it on its own, leaves the same, and moves no other
call.
-/
theorem uninterrupted_call_served (call : ProgramCall)
    {backend : Backend Attempt ServiceStatement Database Raised ServiceAnswer} {i : Attempt}
    (waits : backend.stages i = (call.program runtime isPrintable).stage)
    : ∃ steps after,
        Runs (Backend.stepping ServiceStatement.run) backend (List.replicate steps i) after
        ∧ (∃ outcome, (after.stages i).outcome = some outcome
            ∧ Answers outcome (serveService runtime isPrintable backend.db call.served).1)
        ∧ after.db = (serveService runtime isPrintable backend.db call.served).2
        ∧ ∀ j, j ≠ i → after.stages j = backend.stages j := by
  obtain ⟨after, alone, ended, same⟩ := Backend.ends_alone waits
  obtain ⟨answers, served⟩ := call.sameEnd runtime isPrintable backend.db
  obtain ⟨steps, ran⟩ := alone.runs
  exact ⟨steps, after, ran, ⟨_, ended, answers⟩, same.trans served, fun j other =>
    alone.others other⟩

end Calls

/-- The sign-in of the sample and, at the same time, one for an email that nobody has. -/
def sampleSignIns : Bool → ProgramCall
  | true => ⟨0, .login ⟨"a", 1, "somesalt"⟩ samplePayload {}⟩
  | false =>
      ⟨0, .login ⟨"b", 2, "somesalt"⟩
        { samplePayload with email := "nobody", emailLength := by decide } {}⟩

def sampleSignInsBackend : Backend Bool ServiceStatement Database Raised ServiceAnswer :=
  .initial sampleDatabase fun i => (sampleSignIns i).program sampleRuntime fun _ => true

/-- Before the other sign-in does anything, the one of the sample may come to its end. -/
theorem sampleSignIns_uninterrupted
    : ∃ steps after,
        Runs (Backend.stepping ServiceStatement.run) sampleSignInsBackend
          (List.replicate steps true) after
        ∧ after.db = signedInDatabase
        ∧ after.stages false = sampleSignInsBackend.stages false := by
  obtain ⟨steps, after, ran, _, same, others⟩ :=
    uninterrupted_call_served sampleRuntime (fun _ => true) (sampleSignIns true)
      (show sampleSignInsBackend.stages true = _ from rfl)
  exact ⟨steps, after, ran, same, others false nofun⟩

end SpecterCloud.Service
