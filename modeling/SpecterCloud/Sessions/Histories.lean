import SpecterCloud.Auth.Sessions
import SpecterCloud.Foundations.Runs

/-! Sequential runs of the session calls, and what their histories say of a session. -/

namespace SpecterCloud.Auth

open SpecterCloud.Foundations
open SpecterCloud.Models
open SpecterCloud.Core

/-- A call of the session module. -/
inductive SessionRequest
  | create (draws : Draws) (userId : UUID) (transport : SessionTransport)
      (userAgent : Option String) (ipAddress : Option IpAddress)
  | lookup (token : String)
  | revoke (sessionId : UUID) (reason : String)
  | revokeAll (userId : UUID) (reason : String) (transport : Option SessionTransport)

/-- A call at the instant that the clocks of the application and the database show. -/
structure TimedRequest where
  now : Instant
  request : SessionRequest

inductive SessionAnswer
  | created (token : String) (session : Session)
  | found (session : Option Session)
  | revoked (transitioned : Bool)
  | revokedAll (count : Nat)
  | raised

abbrev SessionEvent := TimedRequest × SessionAnswer

/-- The answer of a call, or that it raised. -/
def answered {α : Type} (answer : α → SessionAnswer) (ended : Except Raised α × Database)
    : SessionAnswer × Database :=
  match ended.1 with
  | .ok value => (answer value, ended.2)
  | .error _ => (.raised, ended.2)

/-- A call as a request of its own; whoever creates a session also commits it. -/
def serveSession (runtime : Runtime) (db : Database) (call : TimedRequest)
    : SessionAnswer × Database :=
  match call.request with
  | .create draws userId transport userAgent ipAddress =>
      answered (fun (token, session) => .created token session)
        (Action.perform
          (do
            let created ←
              createSession runtime draws call.now userId transport userAgent ipAddress
            Action.commit
            return created)
          db)
  | .lookup token => answered .found ((lookupSession runtime call.now token).perform db)
  | .revoke sessionId reason =>
      answered .revoked ((revokeSession call.now sessionId reason).perform db)
  | .revokeAll userId reason transport =>
      answered .revokedAll ((revokeAllUserSessions call.now userId reason transport).perform db)

/-- The tokens that a call draws or presents are among `tokens`, and drawn ones not empty. -/
def SessionRequest.Presents (tokens : String → Prop) : SessionRequest → Prop
  | create draws _ _ _ _ => tokens draws.token ∧ draws.token ≠ ""
  | lookup token => tokens token
  | _ => True

/-- Time does not go back. -/
structure PermittedRequest (tokens : String → Prop) (history : List SessionEvent)
    (call : TimedRequest)
    : Prop where
  presents : call.request.Presents tokens
  later : ∀ event ∈ history, event.1.now ≤ call.now

/-- Runs from a database without sessions. -/
def SessionRuns (runtime : Runtime) (tokens : String → Prop) (initial : Database)
    (history : List SessionEvent) (db : Database)
    : Prop :=
  initial.sessions = []
  ∧ Runs (served (PermittedRequest tokens) (serveSession runtime)) initial history db

/-- SHA-256 is injective on the tokens. -/
def CollisionFree (runtime : Runtime) (tokens : String → Prop) : Prop :=
  ∀ left right, tokens left → tokens right
    → hashToken runtime left = hashToken runtime right → left = right

/-- `create_session` returned the token for the session, and `later` happened since then. -/
def Issued (history later : List SessionEvent) (creation : SessionEvent) (token : String)
    (session : Session)
    : Prop :=
  ∃ earlier,
    history = later ++ creation :: earlier ∧ creation.2 = .created token session

/-- The event is a revocation of the session that did not raise. -/
def Covers (session : Session) : SessionEvent → Prop
  | (⟨_, .revoke sessionId _⟩, .revoked _) => sessionId = session.id
  | (⟨_, .revokeAll userId _ transport⟩, .revokedAll _) =>
      userId = session.userId ∧ (transport = none ∨ transport = some session.transport)
  | _ => False

/-- The event is a lookup that returned the session. -/
def Returns (sessionId : UUID) : SessionEvent → Bool
  | (_, .found (some session)) => session.id = sessionId
  | _ => false

/-- The time of the last lookup that returned the session, or else of its creation. -/
def lastUse (sessionId : UUID) (creation : SessionEvent) (later : List SessionEvent) : Instant :=
  ((later.find? (Returns sessionId)).getD creation).1.now

/-- By the history alone the session is valid for the token: created at most 30 days ago, not
revoked since, and used at most `idle` ago.
-/
def ValidFor (history : List SessionEvent) (token : String) (sessionId : UUID)
    (now : Instant) (idle : Int)
    : Prop :=
  ∃ later creation session,
    Issued history later creation token session
    ∧ session.id = sessionId
    ∧ now ≤ creation.1.now + days 30
    ∧ (∀ event ∈ later, ¬ Covers session event)
    ∧ now ≤ lastUse sessionId creation later + idle

end SpecterCloud.Auth
