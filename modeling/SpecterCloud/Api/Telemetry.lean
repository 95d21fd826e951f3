import SpecterCloud.Auth.Dependencies
import SpecterCloud.Core.UuidText
import SpecterCloud.Foundations.LineFrames

/-! The telemetry routes: `POST /api/v1/ingest/telemetry` and `GET /api/v1/stream/telemetry`.
A payload and its `model_dump_json` are parameters.
-/

namespace SpecterCloud.Api

open SpecterCloud.Foundations
open SpecterCloud.Models
open SpecterCloud.Core

/-- A command that the application sends to Redis. -/
inductive RedisCommand
  | set (key value : String) (ex : Nat)
  | publish (channel message : String)
deriving DecidableEq

/-- What became of a command. An unacknowledged one was executed, but its reply was lost. -/
inductive RedisOutcome
  | acknowledged
  | unacknowledged
  | lost
deriving DecidableEq

/-- The server has executed the command. -/
def RedisOutcome.executed : RedisOutcome → Bool
  | acknowledged | unacknowledged => true
  | lost => false

/-- The client raises a `RedisError`. -/
def RedisOutcome.raises : RedisOutcome → Bool
  | acknowledged => false
  | unacknowledged | lost => true

/-- What a handler still does: it awaits a command, and goes on knowing whether that raised. -/
inductive RedisProgram (α : Type)
  | finished (answer : α)
  | awaits (command : RedisCommand) (next : Bool → RedisProgram α)

/-- `try: await …; await …`, with one answer after the block and one in `except RedisError`. -/
def RedisProgram.attempt {α : Type} (answer failed : α) : List RedisCommand → RedisProgram α
  | [] => .finished answer
  | command :: rest =>
      .awaits command fun raised =>
        if raised then .finished failed else attempt answer failed rest

-----------------------------------------------------------------------------------------
-- Ingest
-----------------------------------------------------------------------------------------

structure IngestResponse where
  status : String
deriving DecidableEq

section Ingest

variable {Payload : Type} (modelDumpJson : Payload → String) (payload : Payload) (drone : Drone)

/-- `f"drone:{drone.id}:telemetry"` in `ingest_telemetry`. -/
def ingestChannel (drone : Drone) : String := "drone:" ++ uuidText drone.id ++ ":telemetry"

/-- The commands of `ingest_telemetry`. -/
def ingestCommands : List RedisCommand :=
  let data := modelDumpJson payload
  [.set (ingestChannel drone) data 10, .publish (ingestChannel drone) data]

/-- `ingest_telemetry`. A `RedisError` is logged, and answered in the same way. -/
def ingestTelemetry : RedisProgram IngestResponse :=
  .attempt ⟨"ok"⟩ ⟨"ok"⟩ (ingestCommands modelDumpJson payload drone)

end Ingest

-----------------------------------------------------------------------------------------
-- Stream
-----------------------------------------------------------------------------------------

/-- A message that `pubsub.listen()` yields: the confirmation of a subscription, with the
number of subscriptions, or a published message.
-/
inductive PubSubMessage
  | subscribe (channel : String) (count : Nat)
  | message (channel data : String)
deriving DecidableEq

/-- `f"drone:{drone_id}:telemetry"` in `telemetry_generator`. -/
def streamChannel (droneId : String) : String := "drone:" ++ droneId ++ ":telemetry"

/-- `f"data: {message['data']}\n\n"`. -/
def telemetryFrame (data : String) : String := "data: " ++ data ++ "\n\n"

/-- What `telemetry_generator` yields for a message. -/
def telemetryYield : PubSubMessage → Option String
  | .subscribe _ _ => none
  | .message _ data => some (telemetryFrame data)

/-- The characters that end a line of an event stream. -/
def isLineBreak (c : Char) : Bool := c = '\n' || c = '\r'

/-- The data that the lines of an event stream carry. -/
def eventStreamData (stream : String) : List String :=
  (framedWords "data: ".toList isLineBreak stream.toList).map String.ofList

/-- Text without a line break. -/
def SingleLine (text : String) : Prop := ∀ c ∈ text.toList, isLineBreak c = false

theorem singleLine_of_all {text : String}
    (all : text.toList.all (fun c => !isLineBreak c) = true)
    : SingleLine text :=
  fun c member => by simpa using List.all_eq_true.mp all c member

-----------------------------------------------------------------------------------------
-- Names and frames
-----------------------------------------------------------------------------------------

/-- The two names of a channel agree exactly on the drone's id as `str` writes it. -/
theorem ingestChannel_eq_iff {drone : Drone} {droneId : String}
    : ingestChannel drone = streamChannel droneId ↔ uuidText drone.id = droneId := by
  simp [ingestChannel, streamChannel]

/-- No two drones share a channel. -/
theorem ingestChannel_injective {drone other : Drone}
    (same : ingestChannel drone = ingestChannel other)
    : drone.id = other.id := by
  have named : ingestChannel drone = streamChannel (uuidText other.id) := same
  exact uuidText_injective (ingestChannel_eq_iff.mp named)

/-- The data of frames is read back from the stream that they make up. -/
theorem eventStreamData_frames {texts : List String} (single : ∀ text ∈ texts, SingleLine text)
    : eventStreamData (String.join (texts.map telemetryFrame)) = texts := by
  have written
      : (String.join (texts.map telemetryFrame)).toList
        = (texts.map String.toList).flatMap (lineFrame "data: ".toList '\n') := by
    simp [telemetryFrame, lineFrame, List.flatMap_map]
  have lines : ∀ word ∈ texts.map String.toList, ∀ c ∈ word, isLineBreak c = false := by
    intro word member
    obtain ⟨text, sent, rfl⟩ := List.mem_map.mp member
    exact single text sent
  have header : SingleLine "data: " := singleLine_of_all (by decide)
  rw [eventStreamData, written, framedWords_lineFrames (by decide) (by decide) header lines,
    List.map_map]
  simp

end SpecterCloud.Api
