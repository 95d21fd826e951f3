import SpecterCloud.Telemetry.Requests
import SpecterCloud.Keys.Verification

/-! Telemetry reaches the streams that ask for the drone whose key was verified, and no others:
the streams of a channel receive what is published on it, in order and once, and a handler
publishes on the channel of its drone only.
-/

namespace SpecterCloud.Api

open SpecterCloud.Foundations
open SpecterCloud.Models
open SpecterCloud.Core
open SpecterCloud.Auth

section Streams

variable {Payload : Type} {sha256Hex : String → HexDigest} {modelDumpJson : Payload → String}
  {traffic : TelemetryTraffic Payload} {fleet : FleetTables} {history : List TelemetryEvent}
  {world after : TelemetryWorld} {event : TelemetryEvent}

/-- What a stream heard is among what was published, in the order of the history. -/
theorem heard_sublist (stream : Nat) (history : List TelemetryEvent)
    : (heard stream history).Sublist (history.filterMap TelemetryEvent.published).reverse := by
  induction history with
  | nil => exact List.Sublist.refl _
  | cons event earlier ih =>
      have new
          : (if listening stream earlier then event.published.toList else []).Sublist
              event.published.toList := by
        split
        · exact List.Sublist.refl _
        · exact List.nil_sublist _
      have published
          : ((event :: earlier).filterMap TelemetryEvent.published).reverse
            = (earlier.filterMap TelemetryEvent.published).reverse ++ event.published.toList := by
        cases found : event.published <;> simp [found]
      rw [published]
      exact ih.append new

/-- A stream hears no request twice. -/
theorem TelemetryRuns.heard_once
    (ran : TelemetryRuns sha256Hex modelDumpJson traffic fleet history world) (stream : Nat)
    : (heard stream history).Nodup :=
  (heard_sublist stream history).nodup (List.nodup_reverse.mpr ran.published_once)

/-- Every stream is subscribed to its channel while it is listening, and to nothing else. -/
def TopicsFit (traffic : TelemetryTraffic Payload) (history : List TelemetryEvent)
    (world : TelemetryWorld)
    : Prop :=
  ∀ stream,
    world.broker.topic stream
    = if listening stream history then some (streamChannel (traffic.queries stream)) else none

/-- A step leaves the subscriptions fitting. -/
theorem TelemetryStep.topics (topics : TopicsFit traffic history world)
    (stepped : TelemetryStep sha256Hex modelDumpJson traffic world event after)
    : TopicsFit traffic (event :: history) after := by
  intro stream
  have before := topics stream
  cases stepped with
  | accepted | refused | read | fleetChanged => exact before
  | @commanded request command outcome next awaits =>
      have same
          : (if outcome.executed then command.execute world.broker else world.broker).topic
            = world.broker.topic := by
        cases command <;> split <;> rfl
      exact (congrFun same stream).trans before
  | @subscribed other starting =>
      simp only [Broker.topic_subscribe, listening]
      by_cases same : stream = other
      · subst same
        simp
      · simp [same, Ne.symm same, before]
  | @closed other open_ =>
      simp only [Broker.topic_unsubscribe, listening]
      by_cases same : stream = other
      · subst same
        simp
      · simp [same, Ne.symm same, before]

theorem TelemetryRuns.topics
    (ran : TelemetryRuns sha256Hex modelDumpJson traffic fleet history world)
    : TopicsFit traffic history world := by
  refine Runs.invariant (TopicsFit traffic) ?_ ?_ ran
  · exact fun _ => rfl
  · exact fun _ topics stepped => stepped.topics topics

/-- The request that the event publishes, if the stream is listening and asks for its drone. -/
def publishedFor (traffic : TelemetryTraffic Payload) (stream : Nat)
    (history : List TelemetryEvent) (event : TelemetryEvent)
    : List Nat :=
  (if listening stream history then event.published.toList else []).filter
    (verifiedFor (traffic.queries stream) history)

/-- An event that publishes nothing does so for every stream. -/
theorem publishedFor_nothing {stream : Nat} (unpublished : event.published = none)
    : publishedFor traffic stream history event = [] := by
  simp [publishedFor, unpublished]

/-- A request is published for the streams that are subscribed to the channel of its drone. -/
theorem TelemetryRuns.publishedFor_verified {request : Nat} {drone : Drone}
    (ran : TelemetryRuns sha256Hex modelDumpJson traffic fleet history world)
    (verified : verifiedAs request history = some drone)
    (published : event.published = some request) (stream : Nat)
    : publishedFor traffic stream history event
      = if world.broker.topic stream = some (ingestChannel drone) then [request] else [] := by
  have known : verifiedFor (traffic.queries stream) history request
      = decide (ingestChannel drone = streamChannel (traffic.queries stream)) := by
    simp [verifiedFor, verified, ingestChannel_eq_iff]
  rw [publishedFor, published, ran.topics stream]
  cases listening stream history with
  | false => simp
  | true =>
      by_cases own : ingestChannel drone = streamChannel (traffic.queries stream)
      · simp [known, own]
      · simp [known, own, Ne.symm own]

/-- What a stream asks for of what it hears grows by what the event publishes for it. -/
theorem TelemetryRuns.asked_cons
    (ran : TelemetryRuns sha256Hex modelDumpJson traffic fleet history world)
    (stepped : TelemetryStep sha256Hex modelDumpJson traffic world event after) (stream : Nat)
    : asked traffic stream (event :: history)
      = asked traffic stream history ++ publishedFor traffic stream history event := by
  have stays {request : Nat} (verified : ∃ drone, verifiedAs request history = some drone)
      : verifiedFor (traffic.queries stream) (event :: history) request
        = verifiedFor (traffic.queries stream) history request := by
    obtain ⟨drone, verified⟩ := verified
    rw [verifiedFor, verifiedFor, stepped.verified ran.fits verified, verified]
  rw [asked, heard, List.filter_append, asked, publishedFor]
  congr 1
  · refine List.filter_congr fun request member => stays ?_
    have published := (heard_sublist stream history).subset member
    exact ran.published_verified (List.mem_reverse.mp published)
  · refine List.filter_congr fun request member => stays ?_
    have published : event.published = some request := by
      split at member
      · exact Option.mem_toList.mp member
      · cases member
    obtain ⟨_, _, _, rfl, _⟩ := published_commanded published
    obtain ⟨_, drone, verified, _⟩ := stepped.commands ran.fits
    exact ⟨drone, verified⟩

/-- A stream receives the frame of what is published on its channel. -/
theorem received_publish {ingest : Nat → IngestProgress} {channel data : String} {stream : Nat}
    : ({ world with
          ingest
          broker := world.broker.publish channel (.message channel data) }).received stream
      = world.received stream
        ++ if world.broker.topic stream = some channel then [telemetryFrame data] else [] := by
  simp only [TelemetryWorld.received, Broker.unread_publish, List.filterMap_append]
  split <;> simp [telemetryYield]

/-- A stream receives the frame of what the event publishes, if it is listening and asks for the
drone that the request was verified as, and nothing otherwise.
-/
theorem TelemetryRuns.received_step
    (ran : TelemetryRuns sha256Hex modelDumpJson traffic fleet history world)
    (stepped : TelemetryStep sha256Hex modelDumpJson traffic world event after) (stream : Nat)
    : after.received stream
      = world.received stream
        ++ (publishedFor traffic stream history event).map
            (requestFrame modelDumpJson traffic) := by
  cases stepped with
  | accepted | refused | fleetChanged =>
      rw [publishedFor_nothing rfl, List.map_nil, List.append_nil]
      rfl
  | @commanded request command outcome next awaits =>
      cases command with
      | set key value ex =>
          rw [publishedFor_nothing rfl, List.map_nil, List.append_nil]
          simp [TelemetryWorld.received, RedisCommand.execute]
      | publish channel message =>
          have taken : TelemetryStep sha256Hex modelDumpJson traffic world
              (.commanded request (.publish channel message) outcome) _ :=
            .commanded awaits
          obtain ⟨_, drone, verified, listed⟩ := taken.commands ran.fits
          obtain ⟨rfl, rfl⟩ :
              channel = ingestChannel drone
              ∧ message = modelDumpJson (traffic.requests request).payload := by
            simpa [ingestCommands] using listed
          cases executed : outcome.executed with
          | false =>
              have unpublished
                  : (TelemetryEvent.commanded request
                        (.publish (ingestChannel drone)
                          (modelDumpJson (traffic.requests request).payload)) outcome).published
                    = none := by
                simp [TelemetryEvent.published, executed]
              rw [publishedFor_nothing unpublished, List.map_nil, List.append_nil]
              simp [TelemetryWorld.received]
          | true =>
              have published
                  : (TelemetryEvent.commanded request
                        (.publish (ingestChannel drone)
                          (modelDumpJson (traffic.requests request).payload)) outcome).published
                    = some request := by
                simp [TelemetryEvent.published, executed]
              rw [ran.publishedFor_verified verified published, if_pos rfl,
                RedisCommand.execute, received_publish]
              split <;> rfl
  | @subscribed other starting =>
      rw [publishedFor_nothing rfl, List.map_nil, List.append_nil]
      by_cases same : stream = other
      · subst same
        simp [TelemetryWorld.received, Broker.unread_subscribe, telemetryYield]
      · simp [TelemetryWorld.received, Broker.unread_subscribe, same]
  | @read other message rest open_ unread =>
      rw [publishedFor_nothing rfl, List.map_nil, List.append_nil]
      by_cases same : stream = other
      · subst same
        cases message <;>
          simp [TelemetryWorld.received, unread, List.filterMap_cons, telemetryYield]
      · simp [TelemetryWorld.received, same]
  | @closed other open_ =>
      rw [publishedFor_nothing rfl, List.map_nil, List.append_nil]
      by_cases same : stream = other
      · subst same
        simp [TelemetryWorld.received]
      · simp [TelemetryWorld.received, same]

/-- In every run a stream receives the frames of the requests that it asks for. -/
theorem TelemetryRuns.received
    (ran : TelemetryRuns sha256Hex modelDumpJson traffic fleet history world) (stream : Nat)
    : world.received stream
      = (asked traffic stream history).map (requestFrame modelDumpJson traffic) := by
  induction ran with
  | start => rfl
  | @next history world after event ran stepped ih =>
      have before : TelemetryRuns sha256Hex modelDumpJson traffic fleet history world := ran
      rw [before.received_step stepped, before.asked_cons stepped, List.map_append, ih]

end Streams

/-- In every run, whatever the keys, the payloads and the failures of Redis: a stream receives,
in the order of their publication and each once, the frames of exactly those requests that Redis
published while it was subscribed and whose key was verified as the drone that it asks for; a
request is verified by what `verify_api_key` answers for its key, and sends nothing to the
channel of another drone; and payloads can be read back from their frames.
-/
theorem telemetry_routed {Payload : Type} (sha256Hex : String → HexDigest)
    (modelDumpJson : Payload → String) (traffic : TelemetryTraffic Payload)
    (fleet : FleetTables) (history : List TelemetryEvent) (world : TelemetryWorld)
    (singleLine : ∀ payload, SingleLine (modelDumpJson payload))
    (ran : TelemetryRuns sha256Hex modelDumpJson traffic fleet history world)
    : (∀ stream,
        world.received stream
          = ((heard stream history).filter
              (verifiedFor (traffic.queries stream) history)).map
                (requestFrame modelDumpJson traffic)
        ∧ (heard stream history).Nodup
        ∧ (world.broker.unread stream = []
          → (world.streams stream).frames = world.received stream))
      ∧ (∀ request drone,
          verifiedAs request history = some drone
          → ∃ newer earlier reached now raw,
              history = newer ++ .authenticated request now (.ok drone) :: earlier
              ∧ TelemetryRuns sha256Hex modelDumpJson traffic fleet earlier reached
              ∧ (traffic.requests request).xApiKey = some raw
              ∧ ((verifyApiKey sha256Hex now raw).perform reached.fleet).1
                = .ok (some drone))
      ∧ (∀ request command outcome,
          .commanded request command outcome ∈ history
          → ∃ drone,
              verifiedAs request history = some drone
              ∧ command ∈ ingestCommands modelDumpJson (traffic.requests request).payload drone
              ∧ ∀ (other : Drone) (message : String),
                  other.id ≠ drone.id → command ≠ .publish (ingestChannel other) message)
      ∧ ∀ payloads : List Payload,
          eventStreamData
              (String.join (payloads.map (fun payload => telemetryFrame (modelDumpJson payload))))
            = payloads.map modelDumpJson := by
  refine ⟨fun stream => ⟨ran.received stream, ran.heard_once stream, ?_⟩,
    fun _ _ verified => ran.verified_by_key verified, ?_, ?_⟩
  · intro allRead
    simp [TelemetryWorld.received, allRead]
  · intro request command outcome sent
    obtain ⟨drone, verified, listed⟩ := ran.commands sent
    refine ⟨drone, verified, listed, ?_⟩
    rintro other message apart rfl
    obtain ⟨own, _⟩ :
        ingestChannel other = ingestChannel drone
        ∧ message = modelDumpJson (traffic.requests request).payload := by
      simpa [ingestCommands] using listed
    exact apart (ingestChannel_injective own)
  · intro payloads
    have single : ∀ text ∈ payloads.map modelDumpJson, SingleLine text :=
      List.forall_mem_map.mpr fun payload _ => singleLine payload
    have recovered := eventStreamData_frames single
    rwa [List.map_map] at recovered

/-- The dump of a payload that differs only in `armed`. -/
def sampleDumpJson (armed : Bool) : String :=
  "\x7b\"lat\":28.6139,\"lon\":77.209,\"alt\":42.0,\"speed\":12.5,\"heading\":356,\"battery\":88.0,"
    ++ "\"voltage\":16.2,\"armed\":" ++ (if armed then "true" else "false")
    ++ ",\"flight_mode\":\"STABILIZE\",\"gps_fix_type\":3,\"satellites\":14\x7d"

theorem sampleDumpJson_singleLine (armed : Bool) : SingleLine (sampleDumpJson armed) := by
  apply singleLine_of_all
  -- the parts of the dump one by one, since the text as a whole is long to evaluate
  unfold sampleDumpJson
  rewrite [String.toList_append, String.toList_append, String.toList_append]
  cases armed <;> decide +kernel

/-- The second drone sends a payload, and a stream asks for it. -/
def sampleTraffic : TelemetryTraffic Bool where
  requests := fun _ => ⟨some "sk_drone_0a1b2c3d_b", true⟩
  queries := fun _ => uuidText 3

/-- The fleet of the two drones. -/
def sampleTables : FleetTables := sampleFleet sampleKeys sampleKeys_ids sampleKeys_drones

def sampleRelay : Drone := ⟨3, "relay", 1, true⟩

/-- A stream subscribes, a request is verified and sends its commands, and the stream reads the
confirmation and the message. The request never gets the reply to its publication.
-/
def sampleTelemetry : List TelemetryEvent :=
  [
    .read 0,
    .read 0,
    .commanded 0 (.publish (ingestChannel sampleRelay) (sampleDumpJson true)) .unacknowledged,
    .commanded 0 (.set (ingestChannel sampleRelay) (sampleDumpJson true) 10) .acknowledged,
    .authenticated 0 0 (.ok sampleRelay),
    .subscribed 0
  ]

/-- The stream of the run has received the payload. -/
theorem sampleTelemetry_received
    : ∃ world,
        TelemetryRuns sampleSha256Hex sampleDumpJson sampleTraffic sampleTables sampleTelemetry
          world
        ∧ (world.streams 0).frames = [telemetryFrame (sampleDumpJson true)] := by
  have distinct : (sampleKeys.map DroneApiKey.hashedKey).Nodup := by decide
  have authentic
      : Authenticates sampleSha256Hex "sk_drone_0a1b2c3d_b" sampleTables
          (sampleKey 11 3 "sk_drone_0a1b2c3d_b" none) sampleRelay :=
    ⟨⟨"b", by decide⟩, .tail _ (.head _), rfl, rfl, .tail _ (.head _), rfl, rfl⟩
  have verified
      : (verifyApiKey sampleSha256Hex 0 "sk_drone_0a1b2c3d_b").Ends sampleTables
          (.ok (some sampleRelay)) _ :=
    verifyApiKey_accepts distinct authentic
  have accepted := getCurrentDrone_ok_iff.mpr ⟨_, rfl, verified.perform⟩
  have opened
      : TelemetryRuns sampleSha256Hex sampleDumpJson sampleTraffic sampleTables [.subscribed 0] _ :=
    .next .start (.subscribed rfl)
  have sent
      : TelemetryRuns sampleSha256Hex sampleDumpJson sampleTraffic sampleTables
          (sampleTelemetry.drop 2) _ :=
    .next (.next (.next opened (.accepted rfl accepted)) (.commanded rfl)) (.commanded rfl)
  have read
      : TelemetryRuns sampleSha256Hex sampleDumpJson sampleTraffic sampleTables sampleTelemetry _ :=
    .next (.next sent (.read rfl rfl)) (.read rfl rfl)
  refine ⟨_, read, ?_⟩
  obtain ⟨streams, _⟩ :=
    telemetry_routed sampleSha256Hex sampleDumpJson sampleTraffic sampleTables sampleTelemetry _
      sampleDumpJson_singleLine read
  obtain ⟨received, _, allRead⟩ := streams 0
  have own : verifiedFor (sampleTraffic.queries 0) sampleTelemetry 0 = true := by
    show decide (uuidText sampleRelay.id = uuidText 3) = true
    exact decide_eq_true rfl
  rw [allRead rfl, received, show heard 0 sampleTelemetry = [0] from rfl,
    List.filter_cons_of_pos own]
  rfl

end SpecterCloud.Api
