import SpecterCloud.Keys.Histories
import SpecterCloud.Keys.Verification

/-! Over whole runs, a key is accepted from its mint to its revocation, while its drone is
active.
-/

namespace SpecterCloud.Auth

open SpecterCloud.Foundations
open SpecterCloud.Models
open SpecterCloud.Scripts

variable {sha256Hex : String → HexDigest} {keys : String → Prop} {initial db after : FleetTables}
  {history : List KeyEvent} {event : KeyEvent} {raw : String} {droneId : UUID}

/-- What a drone keeps when its `is_active` changes. -/
def identity (drone : Drone) : (UUID × String) × UUID := (drone.place, drone.id)

/-- The orgs and the identities of the drones stay as they are. -/
structure SameFleet (before after : FleetTables) : Prop where
  orgs : after.orgs = before.orgs
  drones : after.drones.map identity = before.drones.map identity

theorem SameFleet.refl (db : FleetTables) : SameFleet db db := ⟨rfl, rfl⟩

theorem SameFleet.trans {a b c : FleetTables} (first : SameFleet a b) (second : SameFleet b c)
    : SameFleet a c :=
  ⟨second.orgs.trans first.orgs, second.drones.trans first.drones⟩

/-- The same fleet has the same names. -/
theorem SameFleet.names (same : SameFleet db after) {orgSlug droneSlug : String}
    : after.Names orgSlug droneSlug droneId ↔ db.Names orgSlug droneSlug droneId := by
  have identified
      : ∀ fleet : FleetTables,
          fleet.Names orgSlug droneSlug droneId
          ↔ ∃ org ∈ fleet.orgs,
              org.slug = orgSlug
              ∧ ((org.id, droneSlug), droneId) ∈ fleet.drones.map identity := by
    intro fleet
    simp [FleetTables.Names, identity]
  rw [identified, identified, same.orgs, same.drones]

/-- The drone that is named in a fleet is named in what the fleet was. -/
theorem SameFleet.named (same : SameFleet db after) {orgSlug droneSlug : String} {owner : UUID}
    (names : after.Names orgSlug droneSlug owner)
    : db.Names orgSlug droneSlug droneId ↔ owner = droneId := by
  rw [← same.names]
  exact ⟨names.unique, fun owned => owned ▸ names⟩

theorem setActive_same (isActive : Bool) (db : FleetTables)
    : SameFleet db (db.setActive droneId isActive) := by
  have keeps
      : ∀ drone : Drone, identity { drone with isActive := isActive } = identity drone :=
    fun _ => rfl
  exact ⟨rfl, map_rewriteWhere keeps db.drones⟩

/-- A stored row is the raw key, unrevoked and of the drone. -/
structure IsKey (sha256Hex : String → HexDigest) (raw : String) (droneId : UUID)
    (key : DroneApiKey)
    : Prop where
  parsed : ∃ secret, parseKey raw = some (key.keyPrefix, secret)
  hashedKey : key.hashedKey = hashKey sha256Hex raw
  droneId : key.droneId = droneId
  unrevoked : key.revokedAt = none

/-- The rows of a fleet are what the history has made of them. -/
structure KeyLedger (sha256Hex : String → HexDigest) (keys : String → Prop)
    (initial : FleetTables) (history : List KeyEvent) (db : FleetTables)
    : Prop where
  fleet : SameFleet initial db
  generated
    : ∀ key ∈ db.droneApiKeys, ∃ draws : KeyDraws, ∃ event ∈ history,
        keys draws.rawKey
        ∧ key.hashedKey = hashKey sha256Hex draws.rawKey
        ∧ Generated draws.secret event
  distinct : (db.droneApiKeys.map DroneApiKey.hashedKey).Nodup
  single : ∀ droneId, (db.unrevokedKeys droneId).length ≤ 1
  inUse
    : ∀ raw droneId, keys raw
      → (KeyInUse initial history raw droneId
        ↔ ∃ key ∈ db.droneApiKeys, IsKey sha256Hex raw droneId key)

/-- One more event keeps a key in use, unless it mints or revokes it. -/
theorem keyInUse_cons
    : KeyInUse initial (event :: history) raw droneId
      ↔ Mints initial raw droneId event
        ∨ (KeyInUse initial history raw droneId ∧ ¬ NamesKey initial raw droneId event) :=
  since_cons

-----------------------------------------------------------------------------------------
-- Changes of the tables
-----------------------------------------------------------------------------------------

/-- An event that rewrites the rows in place keeps the ledger if it revokes the keys that it
names, and no others.
-/
theorem KeyLedger.rewrite (ledger : KeyLedger sha256Hex keys initial history db)
    (fleet : SameFleet db after) (change : DroneApiKey → DroneApiKey)
    (rewritten : after.droneApiKeys = db.droneApiKeys.map change)
    (hashedKey : ∀ key, (change key).hashedKey = key.hashedKey)
    (narrows
      : ∀ key, (change key).revokedAt = none
        → key.revokedAt = none ∧ (change key).droneId = key.droneId)
    (unminted : ∀ raw droneId, ¬ Mints initial raw droneId event)
    (fate
      : ∀ raw droneId, ∀ key ∈ db.droneApiKeys,
          IsKey sha256Hex raw droneId (change key)
          ↔ IsKey sha256Hex raw droneId key ∧ ¬ NamesKey initial raw droneId event)
    : KeyLedger sha256Hex keys initial (event :: history) after where
  fleet := ledger.fleet.trans fleet
  generated := by
    intro key member
    rw [rewritten] at member
    obtain ⟨old, stored, rfl⟩ := List.mem_map.mp member
    obtain ⟨draws, generation, earlier, known, hashed, generated⟩ := ledger.generated old stored
    exact ⟨draws, generation, .tail _ earlier, known, (hashedKey old).trans hashed, generated⟩
  distinct := by
    have same : DroneApiKey.hashedKey ∘ change = DroneApiKey.hashedKey := funext hashedKey
    rw [rewritten, List.map_map, same]
    exact ledger.distinct
  single := by
    intro droneId
    refine Nat.le_trans ?_ (ledger.single droneId)
    unfold FleetTables.unrevokedKeys
    rw [rewritten, ← List.countP_eq_length_filter, ← List.countP_eq_length_filter,
      List.countP_map]
    refine List.countP_mono_left fun key _ unrevoked => ?_
    simp only [Function.comp_apply, decide_eq_true_eq] at unrevoked ⊢
    obtain ⟨before, same⟩ := narrows key unrevoked.2
    exact ⟨same ▸ unrevoked.1, before⟩
  inUse := by
    intro raw droneId known
    rw [keyInUse_cons, ledger.inUse raw droneId known, rewritten]
    constructor
    · rintro (mints | ⟨⟨key, stored, isKey⟩, unnamed⟩)
      · exact absurd mints (unminted raw droneId)
      · exact ⟨change key, List.mem_map_of_mem stored,
          (fate raw droneId key stored).mpr ⟨isKey, unnamed⟩⟩
    · rintro ⟨_, member, isKey⟩
      obtain ⟨key, stored, rfl⟩ := List.mem_map.mp member
      obtain ⟨before, unnamed⟩ := (fate raw droneId key stored).mp isKey
      exact .inr ⟨⟨key, stored, before⟩, unnamed⟩

/-- An event that leaves the keys alone keeps the ledger if it names no key in use. -/
theorem KeyLedger.idle (ledger : KeyLedger sha256Hex keys initial history db)
    (fleet : SameFleet db after) (untouched : after.droneApiKeys = db.droneApiKeys)
    (unminted : ∀ raw droneId, ¬ Mints initial raw droneId event)
    (unnamed : ∀ raw droneId, ¬ NamesKey initial raw droneId event)
    : KeyLedger sha256Hex keys initial (event :: history) after := by
  refine ledger.rewrite fleet id (by simpa using untouched) (fun _ => rfl) ?_ unminted ?_
  · exact fun key unrevoked => ⟨unrevoked, rfl⟩
  · exact fun raw droneId key _ => ⟨fun isKey => ⟨isKey, unnamed raw droneId⟩, And.left⟩

/-- A revocation keeps the ledger if it matches the keys that it names. -/
theorem KeyLedger.revoke (ledger : KeyLedger sha256Hex keys initial history db) (now : Instant)
    (matching : DroneApiKey → Bool) (unminted : ∀ raw droneId, ¬ Mints initial raw droneId event)
    (matched
      : ∀ raw droneId key, IsKey sha256Hex raw droneId key
        → (matching key = true ↔ NamesKey initial raw droneId event))
    : KeyLedger sha256Hex keys initial (event :: history) (db.revokeKeys now matching) := by
  refine ledger.rewrite ⟨rfl, rfl⟩ _ rfl ?_ ?_ unminted ?_
  · intro key
    split <;> rfl
  · intro key unrevoked
    split at unrevoked
    · cases unrevoked
    · rename_i untouched
      rw [if_neg untouched]
      exact ⟨unrevoked, rfl⟩
  · intro raw droneId key _
    split
    · rename_i hit
      simp only [Bool.and_eq_true, decide_eq_true_eq] at hit
      refine iff_of_false (fun isKey => nomatch isKey.unrevoked) ?_
      exact fun ⟨isKey, unnamed⟩ => unnamed ((matched raw droneId key isKey).mp hit.1)
    · rename_i missed
      refine ⟨fun isKey => ⟨isKey, fun named => missed ?_⟩, And.left⟩
      simp [(matched raw droneId key isKey).mpr named, isKey.unrevoked]

/-- A use of a key keeps the ledger. -/
theorem KeyLedger.touch (ledger : KeyLedger sha256Hex keys initial history db) (id : UUID)
    (now staleBefore : Instant) (unminted : ∀ raw droneId, ¬ Mints initial raw droneId event)
    (unnamed : ∀ raw droneId, ¬ NamesKey initial raw droneId event)
    : KeyLedger sha256Hex keys initial (event :: history) (db.touchKey id now staleBefore) := by
  refine ledger.rewrite ⟨rfl, rfl⟩ _ rfl ?_ ?_ unminted ?_
  · intro key
    split <;> rfl
  · intro key unrevoked
    split at unrevoked <;> split <;> exact ⟨unrevoked, rfl⟩
  · intro raw droneId key _
    have same : ∀ lastUsedAt,
        IsKey sha256Hex raw droneId { key with lastUsedAt := lastUsedAt }
        ↔ IsKey sha256Hex raw droneId key :=
      fun _ => ⟨fun ⟨a, b, c, d⟩ => ⟨a, b, c, d⟩, fun ⟨a, b, c, d⟩ => ⟨a, b, c, d⟩⟩
    split
    · rw [same, and_iff_left (unnamed raw droneId)]
    · rw [and_iff_left (unnamed raw droneId)]

/-- Raw keys with different secrets are different. -/
theorem KeyDraws.rawKey_inj {left right : KeyDraws} (same : left.rawKey = right.rawKey)
    : left.secret = right.secret := by
  have parsed := left.parseKey_rawKey
  rw [same, right.parseKey_rawKey] at parsed
  exact (congrArg Prod.snd (Option.some.inj parsed)).symm

section Mints

variable {draws : KeyDraws} {orgSlug droneSlug label : String} {now : Instant}

/-- The hash of a fresh key is not stored yet. -/
theorem KeyLedger.fresh (ledger : KeyLedger sha256Hex keys initial history db)
    (distinguished : KeysDistinguished sha256Hex keys) (known : keys draws.rawKey)
    (fresh : ∀ event ∈ history, ¬ Generated draws.secret event)
    : hashKey sha256Hex draws.rawKey ∉ db.droneApiKeys.map DroneApiKey.hashedKey := by
  intro member
  obtain ⟨key, stored, same⟩ := List.mem_map.mp member
  obtain ⟨other, event, earlier, knownOther, hashed, generated⟩ := ledger.generated key stored
  have sameRaw := distinguished _ _ knownOther known (hashed.symm.trans same)
  exact fresh event earlier (KeyDraws.rawKey_inj sameRaw ▸ generated)

/-- The new row is the raw key that the mint returns, for the drone. -/
theorem mintedKey_isKey {owner : UUID} (distinguished : KeysDistinguished sha256Hex keys)
    (known : keys draws.rawKey) (knownRaw : keys raw)
    : IsKey sha256Hex raw droneId (mintedKey sha256Hex draws owner label)
      ↔ draws.rawKey = raw ∧ owner = droneId := by
  constructor
  · rintro ⟨_, hashed, owned, _⟩
    exact ⟨distinguished _ _ known knownRaw hashed, owned⟩
  · rintro ⟨rfl, rfl⟩
    exact ⟨⟨draws.secret, draws.parseKey_rawKey⟩, rfl, rfl, rfl⟩

/-- A mint keeps the ledger. -/
theorem KeyLedger.mint {owner : UUID} (ledger : KeyLedger sha256Hex keys initial history db)
    (distinguished : KeysDistinguished sha256Hex keys) (known : keys draws.rawKey)
    (fresh : ∀ event ∈ history, ¬ Generated draws.secret event)
    (names : db.Names orgSlug droneSlug owner) (idle : db.unrevokedKeys owner = [])
    (accepted : db.AcceptsKey (mintedKey sha256Hex draws owner label))
    : KeyLedger sha256Hex keys initial
        ((⟨now, .mint draws orgSlug droneSlug label⟩, .minted draws.rawKey) :: history)
        (db.withKey _ accepted) where
  fleet := ledger.fleet.trans ⟨rfl, rfl⟩
  generated := by
    intro key member
    rcases List.mem_append.mp member with stored | new
    · obtain ⟨draws, event, earlier, known⟩ := ledger.generated key stored
      exact ⟨draws, event, .tail _ earlier, known⟩
    · obtain rfl := List.mem_singleton.mp new
      exact ⟨draws, _, .head _, known, rfl, rfl⟩
  distinct := nodup_append_fresh ledger.distinct (ledger.fresh distinguished known fresh)
  single := by
    intro droneId
    rw [FleetTables.unrevokedKeys_withKey]
    by_cases same : owner = droneId
    · subst same
      simp [idle, mintedKey]
    · simpa [mintedKey, same] using ledger.single droneId
  inUse := by
    intro raw droneId knownRaw
    have minted
        : Mints initial raw droneId
              (⟨now, .mint draws orgSlug droneSlug label⟩, .minted draws.rawKey)
          ↔ IsKey sha256Hex raw droneId (mintedKey sha256Hex draws owner label) := by
      rw [mintedKey_isKey distinguished known knownRaw, ← ledger.fleet.named names]
      rfl
    rw [keyInUse_cons, ledger.inUse raw droneId knownRaw, minted]
    constructor
    · rintro (isKey | ⟨⟨key, stored, isKey⟩, _⟩)
      · exact ⟨_, List.mem_append_right _ (List.mem_singleton.mpr rfl), isKey⟩
      · exact ⟨key, List.mem_append_left _ stored, isKey⟩
    · rintro ⟨key, member, isKey⟩
      rcases List.mem_append.mp member with stored | new
      · exact .inr ⟨⟨key, stored, isKey⟩, not_false⟩
      · exact .inl (List.mem_singleton.mp new ▸ isKey)

end Mints

-----------------------------------------------------------------------------------------
-- The calls keep the ledger
-----------------------------------------------------------------------------------------

section Calls

variable {call : KeyCall}

/-- The ledger after a call. -/
def LedgerAfter (sha256Hex : String → HexDigest) (keys : String → Prop) (initial : FleetTables)
    (history : List KeyEvent) (db : FleetTables) (call : KeyCall)
    : Prop :=
  KeyLedger sha256Hex keys initial ((call, (serveKey sha256Hex db call).1) :: history)
    (serveKey sha256Hex db call).2

/-- A mint keeps the ledger, also one that raises. -/
theorem KeyLedger.mintCall (ledger : KeyLedger sha256Hex keys initial history db)
    (distinguished : KeysDistinguished sha256Hex keys) {draws : KeyDraws}
    {orgSlug droneSlug label : String} {now : Instant} (known : keys draws.rawKey)
    (fresh : ∀ event ∈ history, ¬ Generated draws.secret event)
    : LedgerAfter sha256Hex keys initial history db
        ⟨now, .mint draws orgSlug droneSlug label⟩ := by
  obtain ⟨outcome, after, ways, ends⟩ :=
    mint_cases sha256Hex draws orgSlug droneSlug label db
  rw [LedgerAfter, serveKey_mint, ends.perform]
  cases ways with
  | raised several =>
      exact ledger.idle (.refl db) rfl (fun _ _ => not_false) (fun _ _ => not_false)
  | minted names idle accepted =>
      exact ledger.mint distinguished known fresh names idle accepted

theorem KeyLedger.revokeByPrefixCall (ledger : KeyLedger sha256Hex keys initial history db)
    (now : Instant) (keyPrefix : String)
    : LedgerAfter sha256Hex keys initial history db ⟨now, .revokeByPrefix keyPrefix⟩ := by
  rw [LedgerAfter, serveKey_revokeByPrefix]
  by_cases storable : Storable keyPrefix
  · rw [(revokeByPrefix_revokes storable).perform]
    refine ledger.revoke now _ (fun _ _ => not_false) ?_
    intro raw droneId key isKey
    obtain ⟨secret, parsed⟩ := isKey.parsed
    rw [decide_eq_true_eq, NamesKey, parsed]
    simp
  · -- a prefix that cannot be sent is no prefix of a key
    rw [(revokeByPrefix_rejected storable).perform]
    refine ledger.idle (.refl db) rfl (fun _ _ => not_false) ?_
    rintro raw droneId ⟨secret, parsed⟩
    exact storable (parseKey_storable parsed)

theorem KeyLedger.revokeByDroneCall (ledger : KeyLedger sha256Hex keys initial history db)
    (now : Instant) (orgSlug droneSlug : String)
    : LedgerAfter sha256Hex keys initial history db ⟨now, .revokeByDrone orgSlug droneSlug⟩ := by
  rw [LedgerAfter, serveKey_revokeByDrone]
  by_cases named : ∃ droneId, db.Names orgSlug droneSlug droneId
  · obtain ⟨owner, names⟩ := named
    rw [(revokeByDrone_revokes names).perform]
    refine ledger.revoke now _ (fun _ _ => not_false) ?_
    intro raw droneId key isKey
    rw [decide_eq_true_eq, isKey.droneId, NamesKey, ledger.fleet.named names]
    exact eq_comm
  · have unnamed : ∀ droneId, ¬ db.Names orgSlug droneSlug droneId :=
      fun droneId names => named ⟨droneId, names⟩
    obtain ⟨error, ends, _⟩ := revokeByDrone_rejected now unnamed
    rw [ends.perform]
    refine ledger.idle (.refl db) rfl (fun _ _ => not_false) ?_
    exact fun raw droneId names => unnamed droneId (ledger.fleet.names.mpr names)

theorem KeyLedger.verifyCall (ledger : KeyLedger sha256Hex keys initial history db)
    (now : Instant) (raw : String)
    : LedgerAfter sha256Hex keys initial history db ⟨now, .verify raw⟩ := by
  rw [LedgerAfter, serveKey_verify]
  rcases verifyApiKey_answers sha256Hex now raw ledger.distinct with
    ⟨key, drone, _, ran⟩ | ⟨_, ran⟩
  · rw [ran]
    exact ledger.touch _ _ _ (fun _ _ => not_false) (fun _ _ => not_false)
  · rw [ran]
    exact ledger.idle (.refl db) rfl (fun _ _ => not_false) (fun _ _ => not_false)

/-- Every permitted call keeps the ledger. -/
theorem KeyLedger.step (ledger : KeyLedger sha256Hex keys initial history db)
    (distinguished : KeysDistinguished sha256Hex keys)
    (permitted : PermittedKeyCall keys history call)
    : LedgerAfter sha256Hex keys initial history db call := by
  obtain ⟨now, request⟩ := call
  cases request with
  | mint draws orgSlug droneSlug label =>
      exact ledger.mintCall distinguished permitted.presents permitted.fresh
  | revokeByPrefix keyPrefix => exact ledger.revokeByPrefixCall now keyPrefix
  | revokeByDrone orgSlug droneSlug => exact ledger.revokeByDroneCall now orgSlug droneSlug
  | verify raw => exact ledger.verifyCall now raw
  | setActive droneId isActive =>
      exact ledger.idle (setActive_same isActive db) rfl (fun _ _ => not_false)
        (fun _ _ => not_false)

/-- The ledger holds after every run. -/
theorem KeyRuns.ledger (distinguished : KeysDistinguished sha256Hex keys)
    (ran : KeyRuns sha256Hex keys initial history db)
    : KeyLedger sha256Hex keys initial history db := by
  obtain ⟨empty, ran⟩ := ran
  refine Runs.invariant (fun history db => KeyLedger sha256Hex keys initial history db) ?_ ?_ ran
  · exact
      {
        fleet := .refl initial
        generated := by simp [empty]
        distinct := by simp [empty]
        single := by simp [FleetTables.unrevokedKeys, empty]
        inUse := by
          intro raw droneId _
          simp [KeyInUse, not_since_nil, empty]
      }
  · rintro history db ⟨call, answer⟩ after _ ledger ⟨permitted, ended⟩
    have next := ledger.step distinguished permitted
    rw [LedgerAfter, ended] at next
    exact next

end Calls

-----------------------------------------------------------------------------------------
-- Whole runs
-----------------------------------------------------------------------------------------

/-- A key authenticates a drone exactly when the history has it in use and the drone is active.
-/
theorem KeyLedger.authenticates (ledger : KeyLedger sha256Hex keys initial history db)
    (known : keys raw) {drone : Drone}
    : (∃ key, Authenticates sha256Hex raw db key drone)
      ↔ KeyInUse initial history raw drone.id ∧ drone ∈ db.drones ∧ drone.isActive = true := by
  rw [ledger.inUse raw drone.id known]
  constructor
  · rintro ⟨key, parsed, stored, hashed, unrevoked, owner, droneId, active⟩
    exact ⟨⟨key, stored, parsed, hashed, droneId.symm, unrevoked⟩, owner, active⟩
  · rintro ⟨⟨key, stored, parsed, hashed, droneId, unrevoked⟩, owner, active⟩
    exact ⟨key, parsed, stored, hashed, unrevoked, owner, droneId.symm, active⟩

/-- A call that raises leaves the tables as they are, and with at most one unrevoked key for
each drone it does not raise for several rows.
-/
theorem serveKey_raised (single : ∀ droneId, (db.unrevokedKeys droneId).length ≤ 1)
    (distinct : (db.droneApiKeys.map DroneApiKey.hashedKey).Nodup) (call : KeyCall)
    {error : Raised} (raised : (serveKey sha256Hex db call).1 = .raised error)
    : (serveKey sha256Hex db call).2 = db ∧ error ≠ .multipleResultsFound := by
  obtain ⟨now, request⟩ := call
  cases request with
  | mint draws orgSlug droneSlug label =>
      obtain ⟨outcome, after, ways, ends⟩ :=
        mint_cases sha256Hex draws orgSlug droneSlug label db
      rw [serveKey_mint, ends.perform] at raised ⊢
      cases ways with
      | raised several =>
          cases raised
          refine ⟨rfl, fun multiple => ?_⟩
          obtain ⟨droneId, _, many⟩ := several multiple
          exact absurd many (Nat.not_lt.mpr (single droneId))
      | minted => cases raised
  | revokeByPrefix keyPrefix =>
      by_cases storable : Storable keyPrefix
      · rw [serveKey_revokeByPrefix, (revokeByPrefix_revokes storable).perform] at raised
        cases raised
      · rw [serveKey_revokeByPrefix, (revokeByPrefix_rejected storable).perform] at raised ⊢
        cases raised
        exact ⟨rfl, by simp⟩
  | revokeByDrone orgSlug droneSlug =>
      by_cases named : ∃ droneId, db.Names orgSlug droneSlug droneId
      · obtain ⟨owner, names⟩ := named
        rw [serveKey_revokeByDrone, (revokeByDrone_revokes names).perform] at raised
        cases raised
      · obtain ⟨_, ends, other⟩ :=
          revokeByDrone_rejected now (fun droneId names => named ⟨droneId, names⟩)
        rw [serveKey_revokeByDrone, ends.perform] at raised ⊢
        cases raised
        exact ⟨rfl, other⟩
  | verify raw =>
      rcases verifyApiKey_answers sha256Hex now raw distinct with
        ⟨key, drone, _, ran⟩ | ⟨_, ran⟩ <;>
      · rw [serveKey_verify, ran] at raised
        cases raised
  | setActive droneId isActive => cases raised

/-- After every run from an empty table: a verification returns a drone exactly when the raw key
was minted for it and neither its prefix nor the drone was named by a revocation since, and the
drone is active now; each drone has at most one unrevoked key, so no mint finds several rows; and
a call that raises changes nothing.
-/
theorem droneKeys_lifecycle (sha256Hex : String → HexDigest) (keys : String → Prop)
    (distinguished : KeysDistinguished sha256Hex keys) (initial : FleetTables)
    (history : List KeyEvent) (db : FleetTables)
    (ran : KeyRuns sha256Hex keys initial history db)
    : (∀ now raw drone, keys raw
        → (((verifyApiKey sha256Hex now raw).perform db).1 = .ok (some drone)
          ↔ KeyInUse initial history raw drone.id ∧ drone ∈ db.drones ∧ drone.isActive = true))
      ∧ (∀ droneId, (db.unrevokedKeys droneId).length ≤ 1)
      ∧ (∀ call error,
          (serveKey sha256Hex db call).1 = .raised error
          → (serveKey sha256Hex db call).2 = db ∧ error ≠ .multipleResultsFound) := by
  have ledger := ran.ledger distinguished
  refine ⟨?_, ledger.single, fun call error => serveKey_raised ledger.single ledger.distinct call⟩
  intro now raw drone known
  rw [verifyApiKey_answer_iff ledger.distinct, ledger.authenticates known]

theorem sampleDraws_digits : ∀ c ∈ "0a1b2c3d".toList, c ∈ hexDigits :=
  hexDigits_of_all (by decide)

theorem sampleDraws_length : "0a1b2c3d".length = prefixBytes * 2 := rfl

/-- The draws of the key `sk_drone_0a1b2c3d_a`. -/
def sampleDraws : KeyDraws where
  keyPrefix := "0a1b2c3d"
  secret := "a"
  keyId := 10
  prefixLength := sampleDraws_length
  prefixDigits := sampleDraws_digits
  secretPresent := nofun

/-- The first drone's key is minted in a fleet without keys. -/
def sampleMint : KeyCall := ⟨0, .mint sampleDraws "specter" "scout" "initial"⟩

theorem noKeys_ids : (([] : List DroneApiKey).map DroneApiKey.id).Nodup := .nil

theorem noKeys_drones : ∀ key ∈ ([] : List DroneApiKey), key.droneId ∈ [(2 : UUID), 3] :=
  List.forall_mem_nil _

def sampleUnkeyedFleet : FleetTables := sampleFleet [] noKeys_ids noKeys_drones

/-- A key that has just been minted is accepted. -/
theorem sampleMint_verified
    : ((verifyApiKey sampleSha256Hex 1 sampleDraws.rawKey).perform
        (serveKey sampleSha256Hex sampleUnkeyedFleet sampleMint).2).1
      = .ok (some ⟨2, "scout", 1, true⟩) := by
  have distinguished : KeysDistinguished sampleSha256Hex (· = sampleDraws.rawKey) :=
    fun _ _ left right _ => left.trans right.symm
  have minted
      : (serveKey sampleSha256Hex sampleUnkeyedFleet sampleMint).1
        = .minted sampleDraws.rawKey := by
    rfl
  have ran
      : KeyRuns sampleSha256Hex (· = sampleDraws.rawKey) sampleUnkeyedFleet
          [(sampleMint, .minted sampleDraws.rawKey)]
          (serveKey sampleSha256Hex sampleUnkeyedFleet sampleMint).2 :=
    ⟨rfl, .next .start ⟨⟨rfl, nofun⟩, minted ▸ rfl⟩⟩
  have lifecycle := droneKeys_lifecycle sampleSha256Hex (· = sampleDraws.rawKey) distinguished
    sampleUnkeyedFleet _ _ ran
  refine (lifecycle.1 1 sampleDraws.rawKey _ rfl).mpr ⟨?_, ?_, rfl⟩
  · refine keyInUse_cons.mpr (.inl ⟨rfl, _, .head _, rfl, _, .head _, rfl, rfl⟩)
  · exact .head _

end SpecterCloud.Auth
