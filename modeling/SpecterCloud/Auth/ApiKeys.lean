import SpecterCloud.Core.PythonInt

/-! Drone API keys: generation, parsing and verification. SHA-256 is a parameter. -/

namespace SpecterCloud.Auth

open SpecterCloud.Foundations
open SpecterCloud.Models
open SpecterCloud.Core

/-- `KEY_TAG`. -/
def keyTag : String := "sk_drone_"

/-- `PREFIX_BYTES`. -/
def prefixBytes : Nat := 4

/-- `LAST_USED_DEBOUNCE_SECONDS`. -/
def lastUsedDebounceSeconds : Int := 60

/-- A program on a session of the key code. -/
abbrev FleetAction (α : Type) := Action FleetTables Raised α

/-- What a mint draws: the values of `token_hex(PREFIX_BYTES)` and `token_urlsafe(SECRET_BYTES)`,
and the id of the row.
-/
structure KeyDraws where
  keyPrefix : String
  secret : String
  keyId : UUID
  prefixLength : keyPrefix.length = prefixBytes * 2
  prefixDigits : ∀ c ∈ keyPrefix.toList, c ∈ hexDigits
  secretPresent : secret ≠ ""

/-- `hash_key`. -/
def hashKey (sha256Hex : String → HexDigest) (raw : String) : HexDigest := sha256Hex raw

/-- The raw key of a drawn prefix and secret. -/
def KeyDraws.rawKey (draws : KeyDraws) : String :=
  keyTag ++ draws.keyPrefix ++ "_" ++ draws.secret

/-- `generate_api_key`: the raw key, its prefix and its hash. -/
def generateApiKey (sha256Hex : String → HexDigest) (draws : KeyDraws)
    : String × String × HexDigest :=
  (draws.rawKey, draws.keyPrefix, hashKey sha256Hex draws.rawKey)

/-- `parse_key`: the prefix and the secret. -/
def parseKey (raw : String) : Option (String × String) :=
  match (afterTag keyTag raw).bind (splitOnce '_') with
  | none => none
  | some (keyPrefix, secret) =>
      if keyPrefix.length ≠ prefixBytes * 2 ∨ secret = "" then
        none
      else if !intParses keyPrefix then
        none
      else
        some (keyPrefix, secret)

/-- `verify_api_key`. The hashes are hexadecimal text, which `compare_digest` accepts. -/
def verifyApiKey (sha256Hex : String → HexDigest) (now : Instant) (raw : String)
    : FleetAction (Option Drone) :=
  match parseKey raw with
  | none => return none
  | some (keyPrefix, _) => do
      let rows ← Action.select (fun db => db.keysByPrefix keyPrefix)
      if rows = [] then
        return none
      else
        match rows.find? (fun (apiKey, _) => hashKey sha256Hex raw = apiKey.hashedKey) with
        | none => return none
        | some (apiKey, drone) =>
            if apiKey.revokedAt ≠ none then
              return none
            else if !drone.isActive then
              return none
            else do
              Action.execute
                (fun db =>
                  .ok (db.touchKey apiKey.id now (now - seconds lastUsedDebounceSeconds)))
              Action.commit
              return some drone

-----------------------------------------------------------------------------------------
-- Parsing
-----------------------------------------------------------------------------------------

/-- A key that parses has a prefix that can be sent to the database. -/
theorem parseKey_storable {raw keyPrefix secret : String}
    (parsed : parseKey raw = some (keyPrefix, secret))
    : Storable keyPrefix := by
  unfold parseKey at parsed
  split at parsed
  · cases parsed
  split at parsed
  · cases parsed
  split at parsed
  · cases parsed
  · rename_i parses
    cases parsed
    exact intParses_storable (by simpa using parses)

/-- A drawn prefix has no underscore. -/
theorem KeyDraws.prefix_underscore (draws : KeyDraws) : '_' ∉ draws.keyPrefix.toList :=
  fun member => (plainDigit_of_mem (draws.prefixDigits '_' member)).underscore rfl

/-- A generated key parses into what it was made of. -/
theorem KeyDraws.parseKey_rawKey (draws : KeyDraws)
    : parseKey draws.rawKey = some (draws.keyPrefix, draws.secret) := by
  have tagged
      : afterTag keyTag draws.rawKey
        = some (draws.keyPrefix ++ String.singleton '_' ++ draws.secret) := by
    rw [← afterTag_append keyTag, rawKey]
    simp only [String.append_assoc]
    rfl
  have cut := splitOnce_append draws.secret draws.prefix_underscore
  have present : draws.keyPrefix ≠ "" := by
    intro empty
    have length := draws.prefixLength
    rw [empty] at length
    cases length
  have wellFormed : ¬ (draws.keyPrefix.length ≠ prefixBytes * 2 ∨ draws.secret = "") := by
    simp [draws.prefixLength, draws.secretPresent]
  simp only [parseKey, tagged, Option.bind_some, cut, if_neg wellFormed,
    intParses_hexDigits present draws.prefixDigits]
  rfl

-----------------------------------------------------------------------------------------
-- Verification
-----------------------------------------------------------------------------------------

section Verification

variable {sha256Hex : String → HexDigest} {now : Instant} {raw : String} {db : FleetTables}
  {key : DroneApiKey} {drone : Drone}

/-- The stored key that a raw key is, and its drone, both in use. -/
structure Authenticates (sha256Hex : String → HexDigest) (raw : String) (db : FleetTables)
    (key : DroneApiKey) (drone : Drone)
    : Prop where
  parsed : ∃ secret, parseKey raw = some (key.keyPrefix, secret)
  stored : key ∈ db.droneApiKeys
  hashedKey : key.hashedKey = hashKey sha256Hex raw
  unrevoked : key.revokedAt = none
  owner : drone ∈ db.drones
  droneId : drone.id = key.droneId
  active : drone.isActive = true

/-- The first key of a raw key's hash under its prefix, with its drone, if both are in use. -/
def matchedKey (sha256Hex : String → HexDigest) (raw : String) (db : FleetTables)
    : Option (DroneApiKey × Drone) :=
  (parseKey raw).bind fun (keyPrefix, _) =>
    match db.keysByPrefix keyPrefix with
    | .error _ => none
    | .ok rows =>
        (rows.find? (fun (apiKey, _) => hashKey sha256Hex raw = apiKey.hashedKey)).filter
          (fun (apiKey, drone) => apiKey.revokedAt = none ∧ drone.isActive = true)

/-- The tables as a verification leaves them. -/
def touchMatched (now : Instant) (matched : Option (DroneApiKey × Drone)) (db : FleetTables)
    : FleetTables :=
  match matched with
  | none => db
  | some (apiKey, _) => db.touchKey apiKey.id now (now - seconds lastUsedDebounceSeconds)

/-- The first row of a raw key's hash, if its key and its drone are in use. -/
def matchedRow (sha256Hex : String → HexDigest) (raw : String)
    (rows : List (DroneApiKey × Drone))
    : Option (DroneApiKey × Drone) :=
  (rows.find? (fun (apiKey, _) => hashKey sha256Hex raw = apiKey.hashedKey)).filter
    (fun (apiKey, drone) => apiKey.revokedAt = none ∧ drone.isActive = true)

/-- What a verification does once it knows the match. -/
def answerMatch (now : Instant) : Option (DroneApiKey × Drone) → FleetAction (Option Drone)
  | none => return none
  | some (apiKey, drone) => do
      Action.execute
        (fun db => .ok (db.touchKey apiKey.id now (now - seconds lastUsedDebounceSeconds)))
      Action.commit
      return some drone

/-- A verification whose key parses answers the match in the rows of its query. -/
theorem verifyApiKey_parsed {keyPrefix secret : String} (sha256Hex : String → HexDigest)
    (now : Instant) (parsed : parseKey raw = some (keyPrefix, secret))
    : verifyApiKey sha256Hex now raw
      = Action.select (fun db => db.keysByPrefix keyPrefix) >>= fun rows =>
          answerMatch now (matchedRow sha256Hex raw rows) := by
  simp only [verifyApiKey, parsed]
  congr 1
  funext rows
  unfold matchedRow
  cases found : rows.find? (fun (apiKey, _) => hashKey sha256Hex raw = apiKey.hashedKey) with
  | none =>
      simp only [Option.filter_none]
      split <;> rfl
  | some row =>
      obtain ⟨apiKey, drone⟩ := row
      rw [if_neg (List.ne_nil_of_mem (List.mem_of_find?_eq_some found))]
      by_cases unrevoked : apiKey.revokedAt = none
      · cases active : drone.isActive with
        | false =>
            simp only [Option.filter_some, unrevoked, active]
            rfl
        | true =>
            simp only [Option.filter_some, unrevoked, active]
            rfl
      · simp only [Option.filter_some, unrevoked, ne_eq, not_false_eq_true, if_true]
        rfl

/-- A key that parses matches in the rows under its prefix. -/
theorem matchedKey_parsed {keyPrefix secret : String} {rows : List (DroneApiKey × Drone)}
    (parsed : parseKey raw = some (keyPrefix, secret))
    (answered : db.keysByPrefix keyPrefix = .ok rows)
    : matchedKey sha256Hex raw db = matchedRow sha256Hex raw rows := by
  simp only [matchedKey, parsed, Option.bind_some, answered]
  rfl

/-- A verification answers with the drone of the first match. -/
theorem verifyApiKey_ends (sha256Hex : String → HexDigest) (now : Instant) (raw : String)
    (db : FleetTables)
    : (verifyApiKey sha256Hex now raw).Ends db
        (.ok ((matchedKey sha256Hex raw db).map Prod.snd))
        (touchMatched now (matchedKey sha256Hex raw db) db) := by
  cases parsed : parseKey raw with
  | none =>
      simp only [verifyApiKey, matchedKey, parsed]
      exact Action.Ends.pure _
  | some parts =>
      obtain ⟨keyPrefix, secret⟩ := parts
      obtain ⟨rows, answered, _⟩ := db.keysByPrefix_storable (parseKey_storable parsed)
      rw [verifyApiKey_parsed sha256Hex now parsed, matchedKey_parsed parsed answered]
      refine Action.Ends.selected answered ?_
      cases matchedRow sha256Hex raw rows with
      | none => exact Action.Ends.pure _
      | some row => exact Action.Ends.executed rfl (Action.Ends.pure _)

/-- A match is a stored key in use. -/
theorem matchedKey_authenticates (matched : matchedKey sha256Hex raw db = some (key, drone))
    : Authenticates sha256Hex raw db key drone := by
  obtain ⟨⟨keyPrefix, secret⟩, parsed, matched⟩ := Option.bind_eq_some_iff.mp matched
  obtain ⟨rows, answered, joined⟩ := db.keysByPrefix_storable (parseKey_storable parsed)
  simp only [answered] at matched
  obtain ⟨found, used⟩ := Option.filter_eq_some_iff.mp matched
  obtain ⟨unrevoked, active⟩ := of_decide_eq_true used
  obtain ⟨stored, rfl, owner, droneId⟩ :=
    (joined key drone).mp (List.mem_of_find?_eq_some found)
  have hashed : hashKey sha256Hex raw = key.hashedKey := by simpa using List.find?_some found
  exact ⟨⟨secret, parsed⟩, stored, hashed.symm, unrevoked, owner, droneId, active⟩

/-- Where no two keys have one hash, a stored key in use is the match. -/
theorem Authenticates.matched (distinct : (db.droneApiKeys.map DroneApiKey.hashedKey).Nodup)
    (authentic : Authenticates sha256Hex raw db key drone)
    : matchedKey sha256Hex raw db = some (key, drone) := by
  obtain ⟨⟨secret, parsed⟩, stored, hashed, unrevoked, owner, droneId, active⟩ := authentic
  obtain ⟨rows, answered, joined⟩ :=
    db.keysByPrefix_storable (parseKey_storable parsed)
  have joinedKey : (key, drone) ∈ rows := (joined key drone).mpr ⟨stored, rfl, owner, droneId⟩
  have found
      : rows.find? (fun (apiKey, _) => hashKey sha256Hex raw = apiKey.hashedKey)
        = some (key, drone) := by
    cases first : rows.find? (fun (apiKey, _) => hashKey sha256Hex raw = apiKey.hashedKey) with
    | none =>
        have missed := List.find?_eq_none.mp first _ joinedKey
        exact absurd hashed.symm (by simpa using missed)
    | some row =>
        obtain ⟨other, otherDrone⟩ := row
        obtain ⟨storedOther, _, ownerOther, droneIdOther⟩ :=
          (joined other otherDrone).mp (List.mem_of_find?_eq_some first)
        have hashedOther : hashKey sha256Hex raw = other.hashedKey := by
          simpa using List.find?_some first
        obtain rfl := eq_of_key_eq distinct storedOther stored
          (hashedOther.symm.trans hashed.symm)
        obtain rfl := eq_of_key_eq db.droneIds ownerOther owner
          (droneIdOther.trans droneId.symm)
        rfl
  simp [matchedKey, parsed, answered, found, unrevoked, active]

/-- A raw key that authenticates no drone is answered by nothing, and nothing changes. -/
theorem verifyApiKey_rejects (unknown : ∀ key drone, ¬ Authenticates sha256Hex raw db key drone)
    : (verifyApiKey sha256Hex now raw).Ends db (.ok none) db := by
  have ends := verifyApiKey_ends sha256Hex now raw db
  cases matched : matchedKey sha256Hex raw db with
  | none =>
      rw [matched] at ends
      exact ends
  | some row => exact absurd (matchedKey_authenticates matched) (unknown row.1 row.2)

/-- Where no two keys have one hash, a raw key that authenticates a drone is answered by it. -/
theorem verifyApiKey_accepts (distinct : (db.droneApiKeys.map DroneApiKey.hashedKey).Nodup)
    (authentic : Authenticates sha256Hex raw db key drone)
    : (verifyApiKey sha256Hex now raw).Ends db (.ok (some drone))
        (db.touchKey key.id now (now - seconds lastUsedDebounceSeconds)) := by
  have ends := verifyApiKey_ends sha256Hex now raw db
  rw [authentic.matched distinct] at ends
  exact ends

end Verification

end SpecterCloud.Auth
