import SpecterCloud.Auth.ApiKeys

/-! The scripts of the operators: `mint_key.py` and `revoke_key.py`. -/

namespace SpecterCloud.Scripts

open SpecterCloud.Foundations
open SpecterCloud.Models
open SpecterCloud.Auth

/-- The row that `mint` inserts. -/
def mintedKey (sha256Hex : String → HexDigest) (draws : KeyDraws) (droneId : UUID)
    (label : String)
    : DroneApiKey :=
  let (_, keyPrefix, hashedKey) := generateApiKey sha256Hex draws
  {
    id := draws.keyId
    droneId
    keyPrefix
    hashedKey
    label
    lastUsedAt := none
    revokedAt := none
  }

/-- `mint`. -/
def mint (sha256Hex : String → HexDigest) (draws : KeyDraws)
    (orgSlug droneSlug label : String)
    : FleetAction String := do
  match ← Action.select (fun db => db.orgBySlug orgSlug) with
  | none => throw (.valueError ("Organization '" ++ orgSlug ++ "' not found"))
  | some org =>
      match ← Action.select (fun db => db.droneByPlace org.id droneSlug) with
      | none =>
          throw
            (.valueError
              ("Drone '" ++ droneSlug ++ "' not found in organization '" ++ orgSlug ++ "'"))
      | some drone =>
          match ← Action.select (fun db => scalarOneOrNone (db.unrevokedKeys drone.id)) with
          | some _ =>
              throw
                (.valueError
                  ("active api key for the Drone '" ++ droneSlug
                    ++ "' available, revoke it first"))
          | none => do
              Action.execute (FleetTables.insertKey (mintedKey sha256Hex draws drone.id label))
              Action.commit
              return (generateApiKey sha256Hex draws).1

/-- `UPDATE … WHERE prefix = …`; text that cannot be sent is an error. -/
def revokePrefix (now : Instant) (keyPrefix : String) (db : FleetTables)
    : Except Raised (Nat × FleetTables) :=
  if Storable keyPrefix then
    .ok
      (db.revokedCount (fun key => key.keyPrefix = keyPrefix),
        db.revokeKeys now (fun key => key.keyPrefix = keyPrefix))
  else
    .error (.dataError "drone_api_keys")

/-- `revoke_by_prefix`: the number of rows affected. -/
def revokeByPrefix (now : Instant) (keyPrefix : String) : FleetAction Nat := do
  let rowsAffected ← Action.executeReturning (revokePrefix now keyPrefix)
  Action.commit
  return rowsAffected

/-- `UPDATE … WHERE drone_id = …`. -/
def revokeDrone (now : Instant) (droneId : UUID) (db : FleetTables)
    : Except Raised (Nat × FleetTables) :=
  .ok
    (db.revokedCount (fun key => key.droneId = droneId),
      db.revokeKeys now (fun key => key.droneId = droneId))

/-- `revoke_by_drone`: the number of rows affected. -/
def revokeByDrone (now : Instant) (orgSlug droneSlug : String) : FleetAction Nat := do
  match ← Action.select (fun db => db.orgBySlug orgSlug) with
  | none => throw (.valueError ("No org '" ++ orgSlug ++ "' found!"))
  | some org =>
      match ← Action.select (fun db => db.droneByPlace org.id droneSlug) with
      | none =>
          throw
            (.valueError ("No drone '" ++ droneSlug ++ "' found in org '" ++ orgSlug ++ "'!"))
      | some drone => do
          let rowsAffected ← Action.executeReturning (revokeDrone now drone.id)
          Action.commit
          return rowsAffected

-----------------------------------------------------------------------------------------
-- What the scripts do
-----------------------------------------------------------------------------------------

section Scripts

variable {sha256Hex : String → HexDigest} {draws : KeyDraws} {now : Instant}
  {orgSlug droneSlug label : String} {db : FleetTables} {droneId : UUID}

/-- Every way a mint can end. Only several unrevoked keys of the drone are several rows. -/
inductive MintEnds (sha256Hex : String → HexDigest) (draws : KeyDraws)
    (orgSlug droneSlug label : String) (db : FleetTables)
    : Except Raised String → FleetTables → Prop
  | raised {error : Raised}
      (several
        : error = .multipleResultsFound
          → ∃ droneId,
              db.Names orgSlug droneSlug droneId ∧ 1 < (db.unrevokedKeys droneId).length)
      : MintEnds sha256Hex draws orgSlug droneSlug label db (.error error) db
  | minted {droneId : UUID} (names : db.Names orgSlug droneSlug droneId)
      (idle : db.unrevokedKeys droneId = [])
      (accepted : db.AcceptsKey (mintedKey sha256Hex draws droneId label))
      : MintEnds sha256Hex draws orgSlug droneSlug label db (.ok draws.rawKey)
          (db.withKey _ accepted)

/-- The mint for a named drone comes to the query for its unrevoked keys. -/
theorem mint_named (names : db.Names orgSlug droneSlug droneId) {outcome : Except Raised String}
    {after : FleetTables}
    (rest
      : Action.Ends
          (do
            match ← Action.select (fun db => scalarOneOrNone (db.unrevokedKeys droneId)) with
            | some _ =>
                throw
                  (.valueError
                    ("active api key for the Drone '" ++ droneSlug
                      ++ "' available, revoke it first"))
            | none => do
                Action.execute (FleetTables.insertKey (mintedKey sha256Hex draws droneId label))
                Action.commit
                return (generateApiKey sha256Hex draws).1)
          db outcome after)
    : (mint sha256Hex draws orgSlug droneSlug label).Ends db outcome after := by
  obtain ⟨org, drone, foundOrg, found, rfl⟩ := names.found
  exact Action.Ends.selected foundOrg (Action.Ends.selected found rest)

/-- A mint ends in one of the listed ways. -/
theorem mint_cases (sha256Hex : String → HexDigest) (draws : KeyDraws)
    (orgSlug droneSlug label : String) (db : FleetTables)
    : ∃ outcome after,
        MintEnds sha256Hex draws orgSlug droneSlug label db outcome after
        ∧ (mint sha256Hex draws orgSlug droneSlug label).Ends db outcome after := by
  by_cases named : ∃ droneId, db.Names orgSlug droneSlug droneId
  · obtain ⟨droneId, names⟩ := named
    match held : db.unrevokedKeys droneId with
    | [] =>
        have none_ : scalarOneOrNone (db.unrevokedKeys droneId) = .ok none := by rw [held]; rfl
        by_cases accepted : db.AcceptsKey (mintedKey sha256Hex draws droneId label)
        · refine ⟨_, _, .minted names held accepted, mint_named names ?_⟩
          exact Action.Ends.selected none_ (Action.Ends.executed
            (FleetTables.insertKey_accepted accepted) (Action.Ends.pure _))
        · obtain ⟨error, refused, other⟩ := FleetTables.insertKey_rejected accepted
          refine ⟨.error error, db, .raised (fun several => absurd several other), ?_⟩
          exact mint_named names (Action.Ends.selected none_ (Action.Ends.refused refused))
    | [key] =>
        have one : scalarOneOrNone (db.unrevokedKeys droneId) = .ok (some key) := by
          rw [held]
          rfl
        refine ⟨_, db, .raised ?_, mint_named names (.selected one (.throw _))⟩
        simp
    | key :: other :: rest =>
        have several
            : scalarOneOrNone (db.unrevokedKeys droneId) = .error .multipleResultsFound := by
          rw [held]
          rfl
        refine ⟨_, db, .raised ?_, mint_named names (.unanswered several)⟩
        exact fun _ => ⟨droneId, names, by simp [held]⟩
  · rcases FleetTables.not_found (fun droneId names => named ⟨droneId, names⟩) with
      unsendable | none_ | ⟨org, foundOrg, unsendable | none_⟩
    · refine ⟨_, db, .raised ?_, .unanswered unsendable⟩
      simp
    · refine ⟨_, db, .raised ?_, .selected none_ (.throw _)⟩
      simp
    · refine ⟨_, db, .raised ?_, .selected foundOrg (.unanswered unsendable)⟩
      simp
    · refine ⟨_, db, .raised ?_, .selected foundOrg (.selected none_ (.throw _))⟩
      simp

/-- Revoking a prefix revokes the unrevoked keys under it. -/
theorem revokeByPrefix_revokes {keyPrefix : String} (storable : Storable keyPrefix)
    : (revokeByPrefix now keyPrefix).Ends db
        (.ok (db.revokedCount (fun key => key.keyPrefix = keyPrefix)))
        (db.revokeKeys now (fun key => key.keyPrefix = keyPrefix)) :=
  Action.Ends.returned (if_pos storable) (Action.Ends.pure _)

/-- A prefix that no text value can hold is refused. -/
theorem revokeByPrefix_rejected {keyPrefix : String} (unstorable : ¬ Storable keyPrefix)
    : (revokeByPrefix now keyPrefix).Ends db (.error (.dataError "drone_api_keys")) db :=
  Action.Ends.refusedReturning (if_neg unstorable)

/-- Revoking by the drone revokes the unrevoked keys of the named drone. -/
theorem revokeByDrone_revokes (names : db.Names orgSlug droneSlug droneId)
    : (revokeByDrone now orgSlug droneSlug).Ends db
        (.ok (db.revokedCount (fun key => key.droneId = droneId)))
        (db.revokeKeys now (fun key => key.droneId = droneId)) := by
  obtain ⟨org, drone, foundOrg, found, rfl⟩ := names.found
  refine Action.Ends.selected foundOrg (Action.Ends.selected found ?_)
  exact Action.Ends.returned rfl (Action.Ends.pure _)

/-- Where no drone is named the script raises, and nothing changes. -/
theorem revokeByDrone_rejected (now : Instant)
    (unnamed : ∀ droneId, ¬ db.Names orgSlug droneSlug droneId)
    : ∃ error,
        (revokeByDrone now orgSlug droneSlug).Ends db (.error error) db
        ∧ error ≠ .multipleResultsFound := by
  rcases FleetTables.not_found unnamed with
    unsendable | none_ | ⟨org, foundOrg, unsendable | none_⟩
  · refine ⟨_, .unanswered unsendable, ?_⟩
    simp
  · refine ⟨_, .selected none_ (.throw _), ?_⟩
    simp
  · refine ⟨_, .selected foundOrg (.unanswered unsendable), ?_⟩
    simp
  · refine ⟨_, .selected foundOrg (.selected none_ (.throw _)), ?_⟩
    simp

end Scripts

end SpecterCloud.Scripts
