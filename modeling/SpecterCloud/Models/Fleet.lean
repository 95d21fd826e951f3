import SpecterCloud.Models.Database

/-! The drones with their API keys, and the statements that the key code sends. -/

namespace SpecterCloud.Models

open SpecterCloud.Foundations

/-- The digits of `hex` and `hexdigest`. -/
def hexDigits : List Char := "0123456789abcdef".toList

theorem hexDigits_of_all {text : String}
    (all : text.toList.all (fun c => hexDigits.contains c) = true)
    : ∀ c ∈ text.toList, c ∈ hexDigits :=
  fun c member => by simpa using List.all_eq_true.mp all c member

/-- A SHA-256 digest as `hexdigest` writes it. -/
structure HexDigest where
  text : String
  length : text.length = 64
  digits : ∀ c ∈ text.toList, c ∈ hexDigits
deriving DecidableEq

structure Drone where
  id : UUID
  slug : String
  orgId : UUID
  isActive : Bool
deriving DecidableEq

/-- The columns of `uq_drone_org_slug`. -/
def Drone.place (drone : Drone) : UUID × String := (drone.orgId, drone.slug)

/-- `keyPrefix` is the column `prefix`. -/
structure DroneApiKey where
  id : UUID
  droneId : UUID
  keyPrefix : String
  hashedKey : HexDigest
  label : String
  lastUsedAt : Option Instant
  revokedAt : Option Instant
deriving DecidableEq

/-- The lengths and text that the columns of `drone_api_keys` accept. -/
structure DroneApiKey.Fits (row : DroneApiKey) : Prop where
  keyPrefix : FitsString 16 row.keyPrefix
  label : FitsString 80 row.label

instance (row : DroneApiKey) : Decidable row.Fits :=
  decidable_of_iff (FitsString 16 row.keyPrefix ∧ FitsString 80 row.label)
    ⟨fun ⟨a, b⟩ => ⟨a, b⟩, fun ⟨a, b⟩ => ⟨a, b⟩⟩

/-- The tables that the key code reads and writes, with their keys and references. -/
structure FleetTables where
  orgs : List Org
  drones : List Drone
  droneApiKeys : List DroneApiKey
  orgIds : (orgs.map Org.id).Nodup
  orgSlugs : (orgs.map Org.slug).Nodup
  droneIds : (drones.map Drone.id).Nodup
  dronePlaces : (drones.map Drone.place).Nodup
  droneApiKeyIds : (droneApiKeys.map DroneApiKey.id).Nodup
  keyDrones : ∀ key ∈ droneApiKeys, key.droneId ∈ drones.map Drone.id
  orgSlugsStorable : ∀ org ∈ orgs, Storable org.slug
  droneSlugsStorable : ∀ drone ∈ drones, Storable drone.slug

/-- `scalar_one_or_none`. -/
def scalarOneOrNone {α : Type} : List α → Except Raised (Option α)
  | [] => .ok none
  | [value] => .ok (some value)
  | _ => .error .multipleResultsFound

namespace FleetTables

def droneById (db : FleetTables) (id : UUID) : Option Drone := findBy Drone.id id db.drones

/-- `select(Org).where(Org.slug == slug)`. -/
def orgBySlug (db : FleetTables) (slug : String) : Except Raised (Option Org) :=
  if Storable slug then .ok (findBy Org.slug slug db.orgs) else .error (.dataError "orgs")

/-- `select(Drone).where(Drone.org_id == org_id, Drone.slug == slug)`. -/
def droneByPlace (db : FleetTables) (orgId : UUID) (slug : String)
    : Except Raised (Option Drone) :=
  if Storable slug then
    .ok (findBy Drone.place (orgId, slug) db.drones)
  else
    .error (.dataError "drones")

/-- The unrevoked keys of a drone. -/
def unrevokedKeys (db : FleetTables) (droneId : UUID) : List DroneApiKey :=
  db.droneApiKeys.filter (fun key => key.droneId = droneId ∧ key.revokedAt = none)

/-- The keys under a prefix, each joined with its drone. -/
def keysByPrefix (db : FleetTables) (keyPrefix : String)
    : Except Raised (List (DroneApiKey × Drone)) :=
  if Storable keyPrefix then
    .ok
      ((db.droneApiKeys.filter (fun key => key.keyPrefix = keyPrefix)).filterMap
        (fun key => (db.droneById key.droneId).map (fun drone => (key, drone))))
  else
    .error (.dataError "drone_api_keys")

-----------------------------------------------------------------------------------------
-- Statements
-----------------------------------------------------------------------------------------

/-- The tables with the matching keys rewritten in place. -/
def rewriteKeys (matching : DroneApiKey → Bool) (change : DroneApiKey → DroneApiKey)
    (id : ∀ key, (change key).id = key.id) (droneId : ∀ key, (change key).droneId = key.droneId)
    (db : FleetTables)
    : FleetTables :=
  { db with
    droneApiKeys := rewriteWhere matching change db.droneApiKeys
    droneApiKeyIds := nodup_rewriteWhere db.droneApiKeyIds id
    keyDrones := by
      intro key member
      obtain ⟨old, stored, rfl⟩ := mem_rewriteWhere.mp member
      have known := db.keyDrones old stored
      split
      · rw [droneId]
        exact known
      · exact known }

/-- `UPDATE drone_api_keys SET revoked_at = now() WHERE …`, of keys not revoked yet. -/
def revokeKeys (now : Instant) (matching : DroneApiKey → Bool) (db : FleetTables)
    : FleetTables :=
  db.rewriteKeys (fun key => matching key && decide (key.revokedAt = none))
    (fun key => { key with revokedAt := some now }) (fun _ => rfl) (fun _ => rfl)

/-- The number of rows that `revokeKeys` updates. -/
def revokedCount (matching : DroneApiKey → Bool) (db : FleetTables) : Nat :=
  db.droneApiKeys.countP (fun key => matching key && decide (key.revokedAt = none))

/-- `UPDATE drone_api_keys SET last_used_at = now() WHERE id = … AND (last_used_at IS NULL OR
last_used_at < …)`.
-/
def touchKey (id : UUID) (now staleBefore : Instant) (db : FleetTables) : FleetTables :=
  db.rewriteKeys
    (fun key => decide (key.id = id) && key.lastUsedAt.all (fun used => used < staleBefore))
    (fun key => { key with lastUsedAt := some now }) (fun _ => rfl) (fun _ => rfl)

/-- A change of `drones.is_active`, which the repository leaves to its operators. -/
def setActive (droneId : UUID) (isActive : Bool) (db : FleetTables) : FleetTables :=
  { db with
    drones :=
      rewriteWhere (fun drone => drone.id = droneId)
        (fun drone => { drone with isActive := isActive }) db.drones
    droneIds := nodup_rewriteWhere db.droneIds (fun _ => rfl)
    dronePlaces := nodup_rewriteWhere db.dronePlaces (fun _ => rfl)
    keyDrones := by
      intro key stored
      have keeps : ∀ drone : Drone, { drone with isActive := isActive }.id = drone.id :=
        fun _ => rfl
      rw [map_rewriteWhere keeps]
      exact db.keyDrones key stored
    droneSlugsStorable := by
      intro drone member
      obtain ⟨old, stored, rfl⟩ := mem_rewriteWhere.mp member
      have storable := db.droneSlugsStorable old stored
      split <;> exact storable }

/-- The limits, key and reference that a row of `drone_api_keys` has to meet. -/
structure AcceptsKey (db : FleetTables) (row : DroneApiKey) : Prop where
  fits : row.Fits
  freshId : row.id ∉ db.droneApiKeys.map DroneApiKey.id
  droneId : row.droneId ∈ db.drones.map Drone.id

/-- The tables with one more key. -/
def withKey (db : FleetTables) (row : DroneApiKey) (accepted : db.AcceptsKey row)
    : FleetTables :=
  { db with
    droneApiKeys := db.droneApiKeys ++ [row]
    droneApiKeyIds := nodup_append_fresh db.droneApiKeyIds accepted.freshId
    keyDrones := by
      intro key member
      rcases List.mem_append.mp member with stored | new
      · exact db.keyDrones key stored
      · exact List.mem_singleton.mp new ▸ accepted.droneId }

/-- `INSERT INTO drone_api_keys`: column limits, then the key, then the reference. -/
def insertKey (row : DroneApiKey) (db : FleetTables) : Except Raised FleetTables :=
  if fits : ¬ row.Fits then
    .error (.dataError "drone_api_keys")
  else if freshId : (db.droneApiKeys.map DroneApiKey.id).contains row.id then
    .error (.integrityError "drone_api_keys.id")
  else if droneId : ¬ (db.drones.map Drone.id).contains row.droneId then
    .error (.integrityError "drone_api_keys.drone_id")
  else
    .ok
      (db.withKey row
        ⟨not_not.mp fits, mt List.contains_iff_mem.mpr freshId,
          List.contains_iff_mem.mp (not_not.mp droneId)⟩)

-----------------------------------------------------------------------------------------
-- What the queries find and the statements do
-----------------------------------------------------------------------------------------

section Facts

variable {db : FleetTables}

/-- An accepted key is appended and nothing else changes. -/
theorem insertKey_accepted {row : DroneApiKey} (accepted : db.AcceptsKey row)
    : db.insertKey row = .ok (db.withKey row accepted) := by
  unfold insertKey
  rw [dif_neg (not_not.mpr accepted.fits),
    dif_neg (mt List.contains_iff_mem.mp accepted.freshId),
    dif_neg (not_not.mpr (List.contains_iff_mem.mpr accepted.droneId))]

/-- A key that breaks a limit, the primary key or the reference makes the insert raise. -/
theorem insertKey_rejected {row : DroneApiKey} (rejected : ¬ db.AcceptsKey row)
    : ∃ error, db.insertKey row = .error error ∧ error ≠ .multipleResultsFound := by
  unfold insertKey
  split
  · exact ⟨_, rfl, nofun⟩
  rename_i fits
  split
  · exact ⟨_, rfl, nofun⟩
  rename_i freshId
  split
  · exact ⟨_, rfl, nofun⟩
  rename_i droneId
  exact absurd ⟨not_not.mp fits, mt List.contains_iff_mem.mpr freshId,
    List.contains_iff_mem.mp (not_not.mp droneId)⟩ rejected

/-- A new key that is not revoked is one more of its drone. -/
theorem unrevokedKeys_withKey {row : DroneApiKey} (accepted : db.AcceptsKey row)
    (droneId : UUID)
    : (db.withKey row accepted).unrevokedKeys droneId
      = db.unrevokedKeys droneId
        ++ [row].filter (fun key => key.droneId = droneId ∧ key.revokedAt = none) :=
  List.filter_append ..

/-- Drones are found under their ids. -/
theorem droneById_eq_some {id : UUID} {drone : Drone}
    : db.droneById id = some drone ↔ drone ∈ db.drones ∧ drone.id = id :=
  findBy_eq_some_iff db.droneIds

/-- The join has the keys of the prefix, each with its drone. -/
theorem keysByPrefix_storable (db : FleetTables) {keyPrefix : String}
    (storable : Storable keyPrefix)
    : ∃ rows,
        db.keysByPrefix keyPrefix = .ok rows
        ∧ ∀ key drone, (key, drone) ∈ rows
            ↔ key ∈ db.droneApiKeys ∧ key.keyPrefix = keyPrefix ∧ drone ∈ db.drones
              ∧ drone.id = key.droneId := by
  refine ⟨_, if_pos storable, ?_⟩
  intro key drone
  simp only [List.mem_filterMap, List.mem_filter, decide_eq_true_eq, Option.map_eq_some_iff,
    Prod.mk.injEq, droneById_eq_some]
  constructor
  · rintro ⟨_, ⟨stored, sought⟩, _, owner, rfl, rfl⟩
    exact ⟨stored, sought, owner⟩
  · rintro ⟨stored, sought, owner⟩
    exact ⟨key, ⟨stored, sought⟩, drone, owner, rfl, rfl⟩

/-- The drone that an operator names by two slugs. -/
def Names (db : FleetTables) (orgSlug droneSlug : String) (droneId : UUID) : Prop :=
  ∃ org ∈ db.orgs,
    org.slug = orgSlug
    ∧ ∃ drone ∈ db.drones, drone.place = (org.id, droneSlug) ∧ drone.id = droneId

/-- The queries for a named drone find it. -/
theorem Names.found {orgSlug droneSlug : String} {droneId : UUID}
    (names : db.Names orgSlug droneSlug droneId)
    : ∃ org drone,
        db.orgBySlug orgSlug = .ok (some org)
        ∧ db.droneByPlace org.id droneSlug = .ok (some drone)
        ∧ drone.id = droneId := by
  obtain ⟨org, storedOrg, rfl, drone, stored, place, rfl⟩ := names
  obtain rfl : drone.slug = droneSlug := congrArg Prod.snd place
  refine ⟨org, drone, ?_, ?_, rfl⟩
  · rw [orgBySlug, if_pos (db.orgSlugsStorable org storedOrg),
      (findBy_eq_some_iff db.orgSlugs).mpr ⟨storedOrg, rfl⟩]
  · rw [droneByPlace, if_pos (db.droneSlugsStorable drone stored),
      (findBy_eq_some_iff db.dronePlaces).mpr ⟨stored, place⟩]

/-- Two slugs name at most one drone. -/
theorem Names.unique {orgSlug droneSlug : String} {droneId other : UUID}
    (names : db.Names orgSlug droneSlug droneId) (namesOther : db.Names orgSlug droneSlug other)
    : droneId = other := by
  obtain ⟨org, drone, foundOrg, found, rfl⟩ := names.found
  obtain ⟨otherOrg, otherDrone, foundOtherOrg, foundOther, rfl⟩ := namesOther.found
  cases foundOrg.symm.trans foundOtherOrg
  cases found.symm.trans foundOther
  rfl

/-- Where no drone is named, a query finds nothing or cannot be sent. -/
theorem not_found {orgSlug droneSlug : String}
    (unnamed : ∀ droneId, ¬ db.Names orgSlug droneSlug droneId)
    : db.orgBySlug orgSlug = .error (.dataError "orgs")
      ∨ db.orgBySlug orgSlug = .ok none
      ∨ ∃ org,
          db.orgBySlug orgSlug = .ok (some org)
          ∧ (db.droneByPlace org.id droneSlug = .error (.dataError "drones")
            ∨ db.droneByPlace org.id droneSlug = .ok none) := by
  unfold orgBySlug
  split
  · cases org_ : findBy Org.slug orgSlug db.orgs with
    | none => exact .inr (.inl rfl)
    | some org =>
        obtain ⟨storedOrg, slug⟩ := findBy_sound org_
        refine .inr (.inr ⟨org, rfl, ?_⟩)
        unfold droneByPlace
        split
        · cases drone_ : findBy Drone.place (org.id, droneSlug) db.drones with
          | none => exact .inr rfl
          | some drone =>
              obtain ⟨stored, place⟩ := findBy_sound drone_
              exact absurd ⟨org, storedOrg, slug, drone, stored, place, rfl⟩ (unnamed drone.id)
        · exact .inl rfl
  · exact .inl rfl

end Facts

end FleetTables

/-- At most one row is no error. -/
theorem scalarOneOrNone_le_one {α : Type} {rows : List α} (few : rows.length ≤ 1)
    : scalarOneOrNone rows = .ok rows.head? := by
  match rows, few with
  | [], _ => rfl
  | [_], _ => rfl

end SpecterCloud.Models
