import SpecterCloud.Telemetry.Histories

/-! What the requests of a run have sent: a handler sends the commands of the drone that its
request was verified as, and publishes once at most.
-/

namespace SpecterCloud.Api

open SpecterCloud.Foundations
open SpecterCloud.Models
open SpecterCloud.Core
open SpecterCloud.Auth

variable {Payload : Type} {sha256Hex : String → HexDigest} {modelDumpJson : Payload → String}
  {traffic : TelemetryTraffic Payload} {fleet : FleetTables} {history : List TelemetryEvent}
  {world after : TelemetryWorld} {event : TelemetryEvent} {request : Nat}

/-- A verification that the event makes is the latest. -/
theorem verifiedAs_cons
    : verifiedAs request (event :: history)
      = (event.verified request).or (verifiedAs request history) := by
  rw [verifiedAs, List.findSome?_cons]
  cases event.verified request <;> rfl

/-- A request that the event publishes, or that was published before. -/
theorem mem_published_cons
    : request ∈ (event :: history).filterMap TelemetryEvent.published
      ↔ event.published = some request
        ∨ request ∈ history.filterMap TelemetryEvent.published := by
  simp [List.mem_filterMap]

/-- A request is verified by the end of its dependency. -/
theorem verified_authenticated {drone : Drone} (verified : event.verified request = some drone)
    : ∃ now, event = .authenticated request now (.ok drone) := by
  cases event with
  | commanded | subscribed | read | closed | fleetChanged => cases verified
  | authenticated other now outcome =>
      cases outcome with
      | error => cases verified
      | ok found =>
          obtain ⟨rfl, same⟩ := Option.ite_none_right_eq_some.mp verified
          cases same
          exact ⟨now, rfl⟩

/-- A request is published by a command that it sends. -/
theorem published_commanded (published : event.published = some request)
    : ∃ channel message outcome,
        event = .commanded request (.publish channel message) outcome
        ∧ outcome.executed = true := by
  cases event with
  | authenticated | subscribed | read | closed | fleetChanged => cases published
  | commanded other command outcome =>
      cases command with
      | set => cases published
      | publish channel message =>
          obtain ⟨executed, same⟩ := Option.ite_none_right_eq_some.mp published
          cases same
          exact ⟨channel, message, outcome, rfl, executed⟩

/-- A program that still awaits a command goes on with the rest, or with nothing if that raised. -/
theorem attempt_awaits {answer : IngestResponse} {commands : List RedisCommand}
    {command : RedisCommand} {next : Bool → RedisProgram IngestResponse}
    (awaits : RedisProgram.attempt answer answer commands = .awaits command next)
    : ∃ rest,
        commands = command :: rest
        ∧ ∀ raised, next raised = .attempt answer answer (if raised then [] else rest) := by
  cases commands with
  | nil => cases awaits
  | cons first rest =>
      cases awaits
      refine ⟨rest, rfl, ?_⟩
      rintro (_ | _) <;> rfl

/-- How far a request has come, by the history: its handler has the commands of its verified
drone to send, and none after the publication.
-/
def IngestProgress.Fits (modelDumpJson : Payload → String) (payload : Payload) (request : Nat)
    (history : List TelemetryEvent)
    : IngestProgress → Prop
  | waiting | refused _ =>
      verifiedAs request history = none
      ∧ request ∉ history.filterMap TelemetryEvent.published
  | running program =>
      ∃ drone rest,
        verifiedAs request history = some drone
        ∧ rest <:+ ingestCommands modelDumpJson payload drone
        ∧ program = .attempt ⟨"ok"⟩ ⟨"ok"⟩ rest
        ∧ (request ∈ history.filterMap TelemetryEvent.published → rest = [])

/-- An event that is not about a request leaves it fitting. -/
theorem IngestProgress.Fits.cons {payload : Payload} {progress : IngestProgress}
    (fits : progress.Fits modelDumpJson payload request history)
    (verified : event.verified request = none) (published : event.published ≠ some request)
    : progress.Fits modelDumpJson payload request (event :: history) := by
  cases progress with
  | waiting | refused _ =>
      obtain ⟨unverified, unpublished⟩ := fits
      refine ⟨?_, ?_⟩
      · rw [verifiedAs_cons, verified, unverified]
        rfl
      · rw [mem_published_cons]
        exact not_or.mpr ⟨published, unpublished⟩
  | running program =>
      obtain ⟨drone, rest, verifiedBefore, suffix, same, last⟩ := fits
      refine ⟨drone, rest, ?_, suffix, same, ?_⟩
      · rw [verifiedAs_cons, verified, verifiedBefore]
        rfl
      · rw [mem_published_cons]
        exact fun either => last (either.resolve_left published)

/-- The publication is the last command of a handler. -/
theorem ingestCommands_publish {payload : Payload} {drone : Drone} {channel message : String}
    {rest : List RedisCommand}
    (suffix : .publish channel message :: rest <:+ ingestCommands modelDumpJson payload drone)
    : rest = [] := by
  have last : (channel = ingestChannel drone ∧ message = modelDumpJson payload) ∧ rest = [] := by
    simpa [ingestCommands, List.suffix_cons_iff] using suffix
  exact last.2

/-- All requests are as far as the history says. -/
def RequestsFit (modelDumpJson : Payload → String) (traffic : TelemetryTraffic Payload)
    (history : List TelemetryEvent) (world : TelemetryWorld)
    : Prop :=
  ∀ request,
    (world.ingest request).Fits modelDumpJson (traffic.requests request).payload request history

/-- A step leaves every request fitting. -/
theorem TelemetryStep.fits (fits : RequestsFit modelDumpJson traffic history world)
    (stepped : TelemetryStep sha256Hex modelDumpJson traffic world event after)
    : RequestsFit modelDumpJson traffic (event :: history) after := by
  intro i
  have before := fits i
  cases stepped with
  | @accepted request now drone fleet waiting ran =>
      by_cases same : i = request
      · subst same
        rw [waiting] at before
        simp only [Function.update_self]
        refine ⟨drone, _, ?_, List.suffix_refl _, rfl, ?_⟩
        · simp [verifiedAs_cons, TelemetryEvent.verified]
        · rw [mem_published_cons]
          exact fun either => absurd (either.resolve_left nofun) before.2
      · simp only [Function.update_of_ne same]
        exact before.cons (if_neg (Ne.symm same)) nofun
  | @refused request now error fleet waiting ran =>
      by_cases same : i = request
      · subst same
        rw [waiting] at before
        simp only [Function.update_self]
        exact before.cons rfl nofun
      · simp only [Function.update_of_ne same]
        exact before.cons rfl nofun
  | @commanded request command outcome next awaits =>
      by_cases same : i = request
      · subst same
        rw [awaits] at before
        simp only [Function.update_self]
        obtain ⟨drone, commands, verified, suffix, program, last⟩ := before
        obtain ⟨rest, rfl, goesOn⟩ := attempt_awaits program.symm
        refine ⟨drone, _, ?_, ?_, goesOn outcome.raises, ?_⟩
        · rw [verifiedAs_cons, verified]
          rfl
        · split
          · exact List.nil_suffix
          · exact (List.suffix_cons _ _).trans suffix
        · rw [mem_published_cons]
          rintro (published | published)
          · cases command with
            | set => cases published
            | publish channel message => simp [ingestCommands_publish suffix]
          · cases last published
      · simp only [Function.update_of_ne same]
        refine before.cons rfl ?_
        cases command with
        | set => nofun
        | publish channel message =>
            simp [TelemetryEvent.published, Ne.symm same]
  | subscribed | read | closed | fleetChanged => exact before.cons rfl nofun

/-- Every request fits the history, in every run. -/
theorem TelemetryRuns.fits
    (ran : TelemetryRuns sha256Hex modelDumpJson traffic fleet history world)
    : RequestsFit modelDumpJson traffic history world := by
  refine Runs.invariant (RequestsFit modelDumpJson traffic) ?_ ?_ ran
  · exact fun _ => ⟨rfl, nofun⟩
  · exact fun _ fits stepped => stepped.fits fits

/-- A verified request stays verified as its drone. -/
theorem TelemetryStep.verified (fits : RequestsFit modelDumpJson traffic history world)
    (stepped : TelemetryStep sha256Hex modelDumpJson traffic world event after) {drone : Drone}
    (verified : verifiedAs request history = some drone)
    : verifiedAs request (event :: history) = some drone := by
  have before := fits request
  rw [verifiedAs_cons]
  cases stepped with
  | @accepted other now otherDrone fleet waiting ran =>
      by_cases same : other = request
      · subst same
        rw [waiting] at before
        cases before.1.symm.trans verified
      · rw [TelemetryEvent.verified, if_neg same]
        exact verified
  | refused | commanded | subscribed | read | closed | fleetChanged => exact verified

/-- A command is one of those of the drone that the request was verified as, and nothing of the
request was published before.
-/
theorem TelemetryStep.commands (fits : RequestsFit modelDumpJson traffic history world)
    {command : RedisCommand} {outcome : RedisOutcome}
    (stepped
      : TelemetryStep sha256Hex modelDumpJson traffic world (.commanded request command outcome)
          after)
    : request ∉ history.filterMap TelemetryEvent.published
      ∧ ∃ drone,
          verifiedAs request history = some drone
          ∧ command ∈ ingestCommands modelDumpJson (traffic.requests request).payload drone := by
  have before := fits request
  cases stepped with
  | commanded awaits =>
      rw [awaits] at before
      obtain ⟨drone, commands, verified, suffix, program, last⟩ := before
      obtain ⟨rest, rfl, _⟩ := attempt_awaits program.symm
      refine ⟨fun published => ?_, drone, verified, suffix.subset List.mem_cons_self⟩
      cases last published

/-- In every run each command of a request is one of those of the drone that the request was
verified as.
-/
theorem TelemetryRuns.commands
    (ran : TelemetryRuns sha256Hex modelDumpJson traffic fleet history world)
    {command : RedisCommand} {outcome : RedisOutcome}
    (sent : .commanded request command outcome ∈ history)
    : ∃ drone,
        verifiedAs request history = some drone
        ∧ command ∈ ingestCommands modelDumpJson (traffic.requests request).payload drone := by
  induction ran with
  | start => cases sent
  | @next history world after event ran stepped ih =>
      have fits := TelemetryRuns.fits ran
      rcases List.mem_cons.mp sent with rfl | earlier
      · obtain ⟨_, drone, verified, listed⟩ := stepped.commands fits
        exact ⟨drone, stepped.verified fits verified, listed⟩
      · obtain ⟨drone, verified, listed⟩ := ih earlier
        exact ⟨drone, stepped.verified fits verified, listed⟩

/-- In every run a request is published once at most. -/
theorem TelemetryRuns.published_once
    (ran : TelemetryRuns sha256Hex modelDumpJson traffic fleet history world)
    : (history.filterMap TelemetryEvent.published).Nodup := by
  induction ran with
  | start => exact List.nodup_nil
  | @next history world after event ran stepped ih =>
      have fits := TelemetryRuns.fits ran
      cases published : event.published with
      | none => rwa [List.filterMap_cons_none published]
      | some request =>
          rw [List.filterMap_cons_some published]
          refine List.nodup_cons.mpr ⟨?_, ih⟩
          obtain ⟨_, _, _, rfl, _⟩ := published_commanded published
          exact (stepped.commands fits).1

/-- Everything that was published belongs to a verified request. -/
theorem TelemetryRuns.published_verified
    (ran : TelemetryRuns sha256Hex modelDumpJson traffic fleet history world)
    (published : request ∈ history.filterMap TelemetryEvent.published)
    : ∃ drone, verifiedAs request history = some drone := by
  obtain ⟨event, happened, published⟩ := List.mem_filterMap.mp published
  obtain ⟨_, _, _, rfl, _⟩ := published_commanded published
  obtain ⟨drone, verified, _⟩ := ran.commands happened
  exact ⟨drone, verified⟩

/-- A request was verified as a drone by what `verify_api_key` answered for its key. -/
theorem TelemetryRuns.verified_by_key
    (ran : TelemetryRuns sha256Hex modelDumpJson traffic fleet history world)
    {drone : Drone} (verified : verifiedAs request history = some drone)
    : ∃ newer earlier reached now raw,
        history = newer ++ .authenticated request now (.ok drone) :: earlier
        ∧ TelemetryRuns sha256Hex modelDumpJson traffic fleet earlier reached
        ∧ (traffic.requests request).xApiKey = some raw
        ∧ ((verifyApiKey sha256Hex now raw).perform reached.fleet).1 = .ok (some drone) := by
  obtain ⟨event, happened, verified⟩ := List.exists_of_findSome?_eq_some verified
  obtain ⟨now, rfl⟩ := verified_authenticated verified
  obtain ⟨newer, earlier, rfl⟩ := List.append_of_mem happened
  obtain ⟨reached, after, before, stepped⟩ := Runs.at_event ran
  cases stepped with
  | accepted waiting answered =>
      obtain ⟨raw, presented, accepted⟩ := getCurrentDrone_ok_iff.mp answered
      exact ⟨newer, earlier, reached, now, raw, rfl, before, presented,
        congrArg Prod.fst accepted⟩

end SpecterCloud.Api
