import SpecterCloud.Auth.ApiKeys

/-! Verification accepts exactly the keys in use, whatever keys share their prefixes and in
whatever order the rows are stored.
-/

namespace SpecterCloud.Auth

open SpecterCloud.Foundations
open SpecterCloud.Models
open SpecterCloud.Core

/-- No table changes but for `last_used_at` of one key. -/
structure ChangesLastUsed (id : UUID) (before after : FleetTables) : Prop where
  orgs : after.orgs = before.orgs
  drones : after.drones = before.drones
  keys
    : List.Forall₂
        (fun old new =>
          new = { old with lastUsedAt := new.lastUsedAt } ∧ (old.id ≠ id → new = old))
        before.droneApiKeys after.droneApiKeys

theorem touchKey_changes (id : UUID) (now staleBefore : Instant) (db : FleetTables)
    : ChangesLastUsed id db (db.touchKey id now staleBefore) := by
  refine ⟨rfl, rfl, ?_⟩
  rw [show (db.touchKey id now staleBefore).droneApiKeys = rewriteWhere _ _ _ from rfl,
    rewriteWhere, List.forall₂_map_right_iff]
  refine List.forall₂_same.mpr fun key _ => ?_
  split
  · rename_i touched
    simp only [Bool.and_eq_true, decide_eq_true_eq] at touched
    exact ⟨rfl, fun other => absurd touched.1 other⟩
  · exact ⟨rfl, fun _ => rfl⟩

section Answers

variable {sha256Hex : String → HexDigest} {now : Instant} {raw : String}
  {db other : FleetTables}

/-- A verification always answers. -/
theorem verifyApiKey_answers (sha256Hex : String → HexDigest) (now : Instant) (raw : String)
    (distinct : (db.droneApiKeys.map DroneApiKey.hashedKey).Nodup)
    : (∃ key drone,
        Authenticates sha256Hex raw db key drone
        ∧ (verifyApiKey sha256Hex now raw).perform db
          = (.ok (some drone), db.touchKey key.id now (now - seconds lastUsedDebounceSeconds)))
      ∨ ((∀ key drone, ¬ Authenticates sha256Hex raw db key drone)
        ∧ (verifyApiKey sha256Hex now raw).perform db = (.ok none, db)) := by
  by_cases known : ∃ key drone, Authenticates sha256Hex raw db key drone
  · obtain ⟨key, drone, authentic⟩ := known
    exact .inl ⟨key, drone, authentic, (verifyApiKey_accepts distinct authentic).perform⟩
  · have unknown : ∀ key drone, ¬ Authenticates sha256Hex raw db key drone :=
      fun key drone authentic => known ⟨key, drone, authentic⟩
    exact .inr ⟨unknown, (verifyApiKey_rejects unknown).perform⟩

/-- The drone of a key in use is the answer, and it is the only one. -/
theorem verifyApiKey_answer_iff {drone : Drone}
    (distinct : (db.droneApiKeys.map DroneApiKey.hashedKey).Nodup)
    : ((verifyApiKey sha256Hex now raw).perform db).1 = .ok (some drone)
      ↔ ∃ key, Authenticates sha256Hex raw db key drone := by
  constructor
  · intro answered
    rcases verifyApiKey_answers sha256Hex now raw distinct with
      ⟨key, other, authentic, ran⟩ | ⟨_, ran⟩
    · rw [ran] at answered
      cases answered
      exact ⟨key, authentic⟩
    · rw [ran] at answered
      cases answered
  · rintro ⟨key, authentic⟩
    rw [(verifyApiKey_accepts distinct authentic).perform]

/-- What authenticates does not depend on the order of the rows. -/
theorem Authenticates.perm {key : DroneApiKey} {drone : Drone}
    (authentic : Authenticates sha256Hex raw db key drone)
    (keys : db.droneApiKeys.Perm other.droneApiKeys) (drones : db.drones.Perm other.drones)
    : Authenticates sha256Hex raw other key drone :=
  { authentic with
    stored := keys.mem_iff.mp authentic.stored
    owner := drones.mem_iff.mp authentic.owner }

end Answers

/-- For all tables in which no two keys have one hash, and every text: the answer is a drone
exactly when the text is a key of it in use; it is the same for every order of the rows; an
answer without a drone changes nothing, and one with a drone at most `last_used_at` of the key.
-/
theorem verifyApiKey_exact (sha256Hex : String → HexDigest) (now : Instant) (raw : String)
    (db : FleetTables) (distinct : (db.droneApiKeys.map DroneApiKey.hashedKey).Nodup)
    : ∃ answer after,
        (verifyApiKey sha256Hex now raw).perform db = (.ok answer, after)
        ∧ (∀ drone, answer = some drone ↔ ∃ key, Authenticates sha256Hex raw db key drone)
        ∧ (∀ other : FleetTables,
            db.droneApiKeys.Perm other.droneApiKeys → db.drones.Perm other.drones
            → ((verifyApiKey sha256Hex now raw).perform other).1 = .ok answer)
        ∧ (answer = none → after = db)
        ∧ (∀ drone,
            answer = some drone
            → ∃ key,
                Authenticates sha256Hex raw db key drone
                ∧ ChangesLastUsed key.id db after) := by
  have same
      : ∀ {other : FleetTables} {drone : Drone},
          db.droneApiKeys.Perm other.droneApiKeys → db.drones.Perm other.drones
          → ((∃ key, Authenticates sha256Hex raw db key drone)
            ↔ ∃ key, Authenticates sha256Hex raw other key drone) := by
    intro other drone keys drones
    exact ⟨fun ⟨key, authentic⟩ => ⟨key, authentic.perm keys drones⟩,
      fun ⟨key, authentic⟩ => ⟨key, authentic.perm keys.symm drones.symm⟩⟩
  have iff := @verifyApiKey_answer_iff sha256Hex now raw db
  rcases verifyApiKey_answers sha256Hex now raw distinct with
    ⟨key, drone, authentic, ran⟩ | ⟨unknown, ran⟩
  · refine ⟨some drone, _, ran, ?_, ?_, nofun, ?_⟩
    · intro wanted
      rw [← iff distinct, ran]
      simp
    · intro other keys drones
      have distinctOther := (keys.map DroneApiKey.hashedKey).nodup_iff.mp distinct
      exact (verifyApiKey_answer_iff distinctOther).mpr ((same keys drones).mp ⟨key, authentic⟩)
    · intro _ found
      cases found
      exact ⟨key, authentic, touchKey_changes _ _ _ db⟩
  · refine ⟨none, _, ran, ?_, ?_, fun _ => rfl, nofun⟩
    · intro wanted
      rw [← iff distinct, ran]
      simp
    · intro other keys drones
      have unknownOther : ∀ key drone, ¬ Authenticates sha256Hex raw other key drone :=
        fun key drone authentic => unknown key drone (authentic.perm keys.symm drones.symm)
      rw [(verifyApiKey_rejects unknownOther).perform]

-----------------------------------------------------------------------------------------
-- Two keys under one prefix
-----------------------------------------------------------------------------------------

/-- The digest of `sk_drone_0a1b2c3d_a`. -/
def sampleDigestA : String := "faa892e5e99ecc297d0eccfdf282409b81e04795a376d7269075071b7751241a"

/-- The digest of `sk_drone_0a1b2c3d_b`. -/
def sampleDigestB : String := "a45cb8cffcc3a8fc2bcc712b04ff86171f648f0c903b8bea5a7ffec90b50f3ce"

theorem sampleDigestA_digits : ∀ c ∈ sampleDigestA.toList, c ∈ hexDigits :=
  hexDigits_of_all (by decide)

theorem sampleDigestB_digits : ∀ c ∈ sampleDigestB.toList, c ∈ hexDigits :=
  hexDigits_of_all (by decide)

/-- SHA-256 on the two sample keys. -/
def sampleSha256Hex (raw : String) : HexDigest :=
  if raw = "sk_drone_0a1b2c3d_a" then
    ⟨sampleDigestA, rfl, sampleDigestA_digits⟩
  else
    ⟨sampleDigestB, rfl, sampleDigestB_digits⟩

/-- A key under the prefix of the samples. -/
def sampleKey (id droneId : UUID) (raw : String) (revokedAt : Option Instant) : DroneApiKey :=
  {
    id
    droneId
    keyPrefix := "0a1b2c3d"
    hashedKey := hashKey sampleSha256Hex raw
    label := "initial"
    lastUsedAt := none
    revokedAt
  }

/-- Two drones of one org, with the given keys. -/
def sampleFleet (droneApiKeys : List DroneApiKey)
    (droneApiKeyIds : (droneApiKeys.map DroneApiKey.id).Nodup)
    (keyDrones : ∀ key ∈ droneApiKeys, key.droneId ∈ [(2 : UUID), 3])
    : FleetTables where
  orgs := [⟨1, "Specter", "specter", none⟩]
  drones := [⟨2, "scout", 1, true⟩, ⟨3, "relay", 1, true⟩]
  droneApiKeys
  orgIds := List.nodup_singleton _
  orgSlugs := List.nodup_singleton _
  droneIds := by simp
  dronePlaces := by simp [Drone.place]
  droneApiKeyIds
  keyDrones
  orgSlugsStorable := by simp [Storable]
  droneSlugsStorable := by simp [Storable]

/-- The first drone's key is revoked, and the second drone has one under the same prefix. -/
def sampleKeys : List DroneApiKey :=
  [sampleKey 10 2 "sk_drone_0a1b2c3d_a" (some 0), sampleKey 11 3 "sk_drone_0a1b2c3d_b" none]

theorem sampleKeys_ids : (sampleKeys.map DroneApiKey.id).Nodup := by decide

theorem sampleKeys_drones : ∀ key ∈ sampleKeys, key.droneId ∈ [(2 : UUID), 3] := by decide

/-- The same keys in the other order. -/
def sampleKeysReversed : List DroneApiKey :=
  [sampleKey 11 3 "sk_drone_0a1b2c3d_b" none, sampleKey 10 2 "sk_drone_0a1b2c3d_a" (some 0)]

theorem sampleKeysReversed_ids : (sampleKeysReversed.map DroneApiKey.id).Nodup := by decide

theorem sampleKeysReversed_drones
    : ∀ key ∈ sampleKeysReversed, key.droneId ∈ [(2 : UUID), 3] := by
  decide

/-- The key in use is accepted beside the revoked key of its prefix, in both orders. -/
theorem sampleKeys_verified
    : ((verifyApiKey sampleSha256Hex 0 "sk_drone_0a1b2c3d_b").perform
          (sampleFleet sampleKeys sampleKeys_ids sampleKeys_drones)).1
        = .ok (some ⟨3, "relay", 1, true⟩)
      ∧ ((verifyApiKey sampleSha256Hex 0 "sk_drone_0a1b2c3d_b").perform
          (sampleFleet sampleKeysReversed sampleKeysReversed_ids sampleKeysReversed_drones)).1
        = .ok (some ⟨3, "relay", 1, true⟩) := by
  have distinct : (sampleKeys.map DroneApiKey.hashedKey).Nodup := by decide
  obtain ⟨answer, after, ran, accepts, perm, _⟩ :=
    verifyApiKey_exact sampleSha256Hex 0 "sk_drone_0a1b2c3d_b"
      (sampleFleet sampleKeys sampleKeys_ids sampleKeys_drones) distinct
  have known : answer = some ⟨3, "relay", 1, true⟩ := by
    refine (accepts _).mpr ⟨sampleKey 11 3 "sk_drone_0a1b2c3d_b" none, ?_⟩
    exact ⟨⟨"b", by decide⟩, .tail _ (.head _), rfl, rfl, .tail _ (.head _), rfl, rfl⟩
  subst known
  exact ⟨congrArg Prod.fst ran, perm _ (.swap _ _ _) (.refl _)⟩

end SpecterCloud.Auth
