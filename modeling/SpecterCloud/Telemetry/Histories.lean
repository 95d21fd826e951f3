import SpecterCloud.Api.Telemetry
import SpecterCloud.Foundations.Broker
import SpecterCloud.Foundations.Runs

/-! Runs of ingest requests and telemetry streams, whose steps interleave in any order, and what
their histories say.
-/

namespace SpecterCloud.Api

open SpecterCloud.Foundations
open SpecterCloud.Models
open SpecterCloud.Core
open SpecterCloud.Auth

/-- A request to ingest a payload that the validation has accepted. -/
structure IngestRequest (Payload : Type) where
  xApiKey : Option String
  payload : Payload

/-- The ingest requests, and the `drone_id` that each stream asks for. -/
structure TelemetryTraffic (Payload : Type) where
  requests : Nat → IngestRequest Payload
  queries : Nat → String

/-- How far a request has come: before its dependencies, refused by them, or in its handler. -/
inductive IngestProgress
  | waiting
  | refused (error : Raised)
  | running (program : RedisProgram IngestResponse)

/-- How far `telemetry_generator` has come. -/
inductive StreamStage
  | starting
  | listening
  | closed
deriving DecidableEq

/-- A stream with the frames that it has yielded. -/
structure TelemetryStream where
  stage : StreamStage
  frames : List String

structure TelemetryWorld where
  fleet : FleetTables
  ingest : Nat → IngestProgress
  broker : Broker Nat String PubSubMessage
  streams : Nat → TelemetryStream

/-- No request and no stream has done anything yet. -/
def TelemetryWorld.initial (fleet : FleetTables) : TelemetryWorld where
  fleet
  ingest := fun _ => .waiting
  broker := .empty
  streams := fun _ => ⟨.starting, []⟩

/-- What Redis does for a command. No one is subscribed to what a `SET` writes. -/
def RedisCommand.execute (broker : Broker Nat String PubSubMessage)
    : RedisCommand → Broker Nat String PubSubMessage
  | set _ _ _ => broker
  | publish channel message => broker.publish channel (.message channel message)

/-- A step of a run: the dependency of a request ends, Redis is sent a command, a stream
subscribes, reads a message or is closed, or something else changes the tables.
-/
inductive TelemetryEvent
  | authenticated (request : Nat) (now : Instant) (outcome : Except Raised Drone)
  | commanded (request : Nat) (command : RedisCommand) (outcome : RedisOutcome)
  | subscribed (stream : Nat)
  | read (stream : Nat)
  | closed (stream : Nat)
  | fleetChanged

section Steps

variable {Payload : Type} (sha256Hex : String → HexDigest) (modelDumpJson : Payload → String)
  (traffic : TelemetryTraffic Payload)

/-- The steps that the requests and the streams can take. The one query of a verification
settles its answer, so a verification is one step: what others do to the tables before it ends
is a change after it. A request that raises or is cancelled later takes no further step.
-/
inductive TelemetryStep (world : TelemetryWorld) : TelemetryEvent → TelemetryWorld → Prop
  | accepted {request : Nat} {now : Instant} {drone : Drone} {fleet : FleetTables}
      (waiting : world.ingest request = .waiting)
      (ran
        : (getCurrentDrone sha256Hex now (traffic.requests request).xApiKey).perform world.fleet
          = (.ok drone, fleet))
      : TelemetryStep world (.authenticated request now (.ok drone))
          { world with
            fleet
            ingest :=
              Function.update world.ingest request
                (.running
                  (ingestTelemetry modelDumpJson (traffic.requests request).payload drone)) }
  | refused {request : Nat} {now : Instant} {error : Raised} {fleet : FleetTables}
      (waiting : world.ingest request = .waiting)
      (ran
        : (getCurrentDrone sha256Hex now (traffic.requests request).xApiKey).perform world.fleet
          = (.error error, fleet))
      : TelemetryStep world (.authenticated request now (.error error))
          { world with
            fleet
            ingest := Function.update world.ingest request (.refused error) }
  | commanded {request : Nat} {command : RedisCommand} {outcome : RedisOutcome}
      {next : Bool → RedisProgram IngestResponse}
      (awaits : world.ingest request = .running (.awaits command next))
      : TelemetryStep world (.commanded request command outcome)
          { world with
            ingest := Function.update world.ingest request (.running (next outcome.raises))
            broker := if outcome.executed then command.execute world.broker else world.broker }
  | subscribed {stream : Nat} (starting : (world.streams stream).stage = .starting)
      : TelemetryStep world (.subscribed stream)
          { world with
            broker :=
              world.broker.subscribe stream (streamChannel (traffic.queries stream))
                (.subscribe (streamChannel (traffic.queries stream)) 1)
            streams :=
              Function.update world.streams stream
                { world.streams stream with stage := .listening } }
  | read {stream : Nat} {message : PubSubMessage} {rest : List PubSubMessage}
      (listening : (world.streams stream).stage = .listening)
      (unread : world.broker.unread stream = message :: rest)
      : TelemetryStep world (.read stream)
          { world with
            broker := world.broker.read stream rest
            streams :=
              Function.update world.streams stream
                { world.streams stream with
                  frames := (world.streams stream).frames ++ (telemetryYield message).toList } }
  | closed {stream : Nat} (listening : (world.streams stream).stage = .listening)
      : TelemetryStep world (.closed stream)
          { world with
            broker := world.broker.unsubscribe stream
            streams :=
              Function.update world.streams stream
                { world.streams stream with stage := .closed } }
  | fleetChanged (fleet : FleetTables)
      : TelemetryStep world .fleetChanged { world with fleet }

/-- Runs of the requests and the streams from the tables. -/
abbrev TelemetryRuns (fleet : FleetTables) (history : List TelemetryEvent)
    (world : TelemetryWorld)
    : Prop :=
  Runs (fun _ => TelemetryStep sha256Hex modelDumpJson traffic) (.initial fleet) history world

end Steps

/-- The frames of a stream: those that it has yielded, and those of the messages that Redis has
delivered to it and it has not read yet.
-/
def TelemetryWorld.received (world : TelemetryWorld) (stream : Nat) : List String :=
  (world.streams stream).frames ++ (world.broker.unread stream).filterMap telemetryYield

-----------------------------------------------------------------------------------------
-- What a history says
-----------------------------------------------------------------------------------------

/-- The drone as which the event verified the key of the request. -/
def TelemetryEvent.verified (request : Nat) : TelemetryEvent → Option Drone
  | .authenticated other _ (.ok drone) => if other = request then some drone else none
  | _ => none

/-- The drone as which the key of the request was verified. -/
def verifiedAs (request : Nat) (history : List TelemetryEvent) : Option Drone :=
  history.findSome? (TelemetryEvent.verified request)

/-- The request whose payload Redis published with the event. -/
def TelemetryEvent.published : TelemetryEvent → Option Nat
  | .commanded request (.publish _ _) outcome => if outcome.executed then some request else none
  | _ => none

/-- The stream is subscribed. -/
def listening (stream : Nat) : List TelemetryEvent → Bool
  | [] => false
  | .subscribed other :: earlier => other = stream || listening stream earlier
  | .closed other :: earlier => other ≠ stream && listening stream earlier
  | _ :: earlier => listening stream earlier

/-- The requests that Redis published while the stream was subscribed, the earliest first. -/
def heard (stream : Nat) : List TelemetryEvent → List Nat
  | [] => []
  | event :: earlier =>
      heard stream earlier ++ if listening stream earlier then event.published.toList else []

/-- The request was verified as the drone that the query names. -/
def verifiedFor (query : String) (history : List TelemetryEvent) (request : Nat) : Bool :=
  (verifiedAs request history).any (fun drone => uuidText drone.id = query)

/-- The frame of a request. -/
def requestFrame {Payload : Type} (modelDumpJson : Payload → String)
    (traffic : TelemetryTraffic Payload) (request : Nat)
    : String :=
  telemetryFrame (modelDumpJson (traffic.requests request).payload)

/-- The requests that a stream heard and that were verified as the drone that it asks for. -/
def asked {Payload : Type} (traffic : TelemetryTraffic Payload) (stream : Nat)
    (history : List TelemetryEvent)
    : List Nat :=
  (heard stream history).filter (verifiedFor (traffic.queries stream) history)

end SpecterCloud.Api
