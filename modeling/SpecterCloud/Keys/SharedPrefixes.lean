import SpecterCloud.Keys.Lifecycle

/-! Revocation by prefix. Nothing keeps the keys of two drones from having one prefix, and a
revocation of the prefix then revokes both.
-/

namespace SpecterCloud.Auth

open SpecterCloud.Foundations
open SpecterCloud.Models
open SpecterCloud.Scripts

-----------------------------------------------------------------------------------------
-- What a revocation of a single key is
-----------------------------------------------------------------------------------------

/-- No table changes but for `revoked_at` of keys. -/
structure ChangesRevokedAt (before after : FleetTables) : Prop where
  orgs : after.orgs = before.orgs
  drones : after.drones = before.drones
  keys
    : List.Forall₂ (fun old new => new = { old with revokedAt := new.revokedAt })
        before.droneApiKeys after.droneApiKeys

/-- The number of keys whose `revoked_at` is not what it was. -/
def revokedAtChanges (before after : FleetTables) : Nat :=
  (before.droneApiKeys.zip after.droneApiKeys).countP
    (fun (old, new) => new.revokedAt ≠ old.revokedAt)

/-- A revocation by prefix revokes a single key: at most one row changes, the answer is the number
of rows that did, and the keys of other drones than the revoked key's stay accepted. Text that
cannot be sent raises.
-/
structure RevokesSingleKey (sha256Hex : String → HexDigest) (keyPrefix : String)
    (before : FleetTables) (ended : Except Raised Nat × FleetTables)
    : Prop where
  changes : ChangesRevokedAt before ended.2
  single : revokedAtChanges before ended.2 ≤ 1
  answer : Storable keyPrefix → ended.1 = .ok (revokedAtChanges before ended.2)
  raises : ¬ Storable keyPrefix → (∃ error, ended.1 = .error error) ∧ ended.2 = before
  spares
    : ∀ key ∈ before.droneApiKeys,
        key.keyPrefix = keyPrefix → key.revokedAt = none
        → ∀ now raw drone,
            drone.id ≠ key.droneId
            → ((verifyApiKey sha256Hex now raw).perform before).1 = .ok (some drone)
            → ((verifyApiKey sha256Hex now raw).perform ended.2).1 = .ok (some drone)

/-- The unrevoked keys under a prefix. -/
def unrevokedUnder (keyPrefix : String) (db : FleetTables) : List DroneApiKey :=
  db.droneApiKeys.filter (fun key => key.keyPrefix = keyPrefix ∧ key.revokedAt = none)

/-- No two unrevoked keys have one prefix. -/
def PrefixesUnshared (db : FleetTables) : Prop :=
  ∀ keyPrefix, Storable keyPrefix → (unrevokedUnder keyPrefix db).length ≤ 1

section Revocations

variable {sha256Hex : String → HexDigest} {now : Instant} {keyPrefix : String} {db : FleetTables}

theorem revokeKeys_changes (now : Instant) (matching : DroneApiKey → Bool) (db : FleetTables)
    : ChangesRevokedAt db (db.revokeKeys now matching) := by
  refine ⟨rfl, rfl, ?_⟩
  rw [show (db.revokeKeys now matching).droneApiKeys = rewriteWhere _ _ _ from rfl, rewriteWhere,
    List.forall₂_map_right_iff]
  refine List.forall₂_same.mpr fun key _ => ?_
  split <;> rfl

/-- The rows that a revocation changes are the rows that it counts. -/
theorem revokedAtChanges_revokeKeys (now : Instant) (matching : DroneApiKey → Bool)
    (db : FleetTables)
    : revokedAtChanges db (db.revokeKeys now matching) = db.revokedCount matching := by
  rw [revokedAtChanges,
    show (db.revokeKeys now matching).droneApiKeys = rewriteWhere _ _ _ from rfl, rewriteWhere,
    List.zip_map_right, List.zip_eq_zipWith, List.zipWith_self, List.countP_map,
    List.countP_map, FleetTables.revokedCount]
  refine List.countP_congr fun key _ => ?_
  by_cases unrevoked : key.revokedAt = none <;> cases hit : matching key <;>
    simp [unrevoked, hit]

/-- A revocation by prefix counts the unrevoked keys under it. -/
theorem revokedCount_prefix
    : db.revokedCount (fun key => key.keyPrefix = keyPrefix)
      = (unrevokedUnder keyPrefix db).length := by
  rw [FleetTables.revokedCount, unrevokedUnder, ← List.countP_eq_length_filter]
  exact List.countP_congr fun key _ => by simp

/-- The keys under another prefix are joined as before. -/
theorem keysByPrefix_revokeKeys {other : String} (apart : other ≠ keyPrefix)
    : (db.revokeKeys now (fun key => key.keyPrefix = keyPrefix)).keysByPrefix other
      = db.keysByPrefix other := by
  have kept
      : (db.revokeKeys now (fun key => key.keyPrefix = keyPrefix)).droneApiKeys.filter
          (fun key => key.keyPrefix = other)
        = db.droneApiKeys.filter (fun key => key.keyPrefix = other) := by
    refine filter_rewriteWhere (fun _ => rfl) fun key sought => ?_
    have under : key.keyPrefix = other := by simpa using sought
    simp [under, apart]
  unfold FleetTables.keysByPrefix
  rw [kept]
  rfl

/-- Raw keys under another prefix match as before. -/
theorem matchedKey_revokeKeys {raw : String}
    (apart : ∀ secret, parseKey raw ≠ some (keyPrefix, secret))
    : matchedKey sha256Hex raw (db.revokeKeys now (fun key => key.keyPrefix = keyPrefix))
      = matchedKey sha256Hex raw db := by
  unfold matchedKey
  cases parsed : parseKey raw with
  | none => rfl
  | some parts =>
      obtain ⟨other, secret⟩ := parts
      have different : other ≠ keyPrefix := by
        rintro rfl
        exact apart secret parsed
      simp only [Option.bind_some, keysByPrefix_revokeKeys different]

/-- Where at most one unrevoked key has the prefix, a revocation of it spares other drones. -/
theorem verifyApiKey_spared (unshared : (unrevokedUnder keyPrefix db).length ≤ 1)
    {key : DroneApiKey} (stored : key ∈ db.droneApiKeys) (under : key.keyPrefix = keyPrefix)
    (unrevoked : key.revokedAt = none) {later : Instant} {raw : String} {drone : Drone}
    (other : drone.id ≠ key.droneId)
    (accepted : ((verifyApiKey sha256Hex later raw).perform db).1 = .ok (some drone))
    : ((verifyApiKey sha256Hex later raw).perform
          (db.revokeKeys now (fun key => key.keyPrefix = keyPrefix))).1
      = .ok (some drone) := by
  rw [(verifyApiKey_ends sha256Hex later raw _).perform] at accepted ⊢
  have matched : (matchedKey sha256Hex raw db).map Prod.snd = some drone := Except.ok.inj accepted
  obtain ⟨⟨used, _⟩, found, rfl⟩ := Option.map_eq_some_iff.mp matched
  have authentic := matchedKey_authenticates found
  have apart : ∀ secret, parseKey raw ≠ some (keyPrefix, secret) := by
    intro secret parsed
    obtain ⟨_, parsedAgain⟩ := authentic.parsed
    have underToo : used.keyPrefix = keyPrefix :=
      congrArg Prod.fst (Option.some.inj (parsedAgain.symm.trans parsed))
    have one : key ∈ unrevokedUnder keyPrefix db := by
      simp [unrevokedUnder, stored, under, unrevoked]
    have another : used ∈ unrevokedUnder keyPrefix db := by
      simp [unrevokedUnder, authentic.stored, underToo, authentic.unrevoked]
    obtain rfl := eq_of_length_le_one unshared one another
    exact other authentic.droneId
  rw [matchedKey_revokeKeys apart, found]
  rfl

/-- Revocations by prefix revoke single keys exactly where no two unrevoked keys have one prefix.
-/
theorem revokesSingleKey_iff
    : (∀ now keyPrefix,
          RevokesSingleKey sha256Hex keyPrefix db ((revokeByPrefix now keyPrefix).perform db))
      ↔ PrefixesUnshared db := by
  constructor
  · intro single keyPrefix storable
    have few := (single 0 keyPrefix).single
    rwa [(revokeByPrefix_revokes storable).perform, revokedAtChanges_revokeKeys,
      revokedCount_prefix] at few
  · intro unshared now keyPrefix
    by_cases storable : Storable keyPrefix
    · rw [(revokeByPrefix_revokes storable).perform]
      refine ⟨revokeKeys_changes now _ db, ?_, ?_,
        fun unsendable => absurd storable unsendable, ?_⟩
      · rw [revokedAtChanges_revokeKeys, revokedCount_prefix]
        exact unshared keyPrefix storable
      · rw [revokedAtChanges_revokeKeys]
        exact fun _ => rfl
      · intro key stored under unrevoked later raw drone other accepted
        have alone := unshared keyPrefix storable
        exact verifyApiKey_spared alone stored under unrevoked other accepted
    · have unchanged : revokedAtChanges db db = 0 := by
        rw [revokedAtChanges, List.zip_eq_zipWith, List.zipWith_self, List.countP_map]
        exact List.countP_eq_zero.mpr fun key _ => by simp
      rw [(revokeByPrefix_rejected storable).perform]
      exact ⟨⟨rfl, rfl, List.forall₂_same.mpr fun _ _ => rfl⟩, unchanged ▸ Nat.zero_le 1,
        fun sendable => absurd sendable storable, fun _ => ⟨⟨_, rfl⟩, rfl⟩,
        fun _ _ _ _ _ _ _ _ accepted => accepted⟩

end Revocations

-----------------------------------------------------------------------------------------
-- Runs
-----------------------------------------------------------------------------------------

/-- Runs of any calls from an empty `drone_api_keys` table. -/
def AnyKeyRuns (sha256Hex : String → HexDigest) (initial : FleetTables)
    (history : List KeyEvent) (db : FleetTables)
    : Prop :=
  initial.droneApiKeys = []
  ∧ Runs (served (fun _ _ => True) (serveKey sha256Hex)) initial history db

/-- A mint that returns a key has drawn a prefix that no unrevoked key has. -/
def DrawsFreePrefix (db : FleetTables) : KeyEvent → Prop
  | (⟨_, .mint draws _ _ _⟩, .minted _) =>
      ∀ key ∈ db.droneApiKeys, key.keyPrefix = draws.keyPrefix → key.revokedAt ≠ none
  | _ => True

section Steps

variable {sha256Hex : String → HexDigest} {db after : FleetTables} {call : KeyCall}
  {answer : KeyAnswer}

/-- Rewriting keys without bringing one back leaves prefixes unshared. -/
theorem PrefixesUnshared.rewrite (unshared : PrefixesUnshared db)
    (change : DroneApiKey → DroneApiKey)
    (rewritten : after.droneApiKeys = db.droneApiKeys.map change)
    (narrows
      : ∀ key, (change key).revokedAt = none
        → key.revokedAt = none ∧ (change key).keyPrefix = key.keyPrefix)
    : PrefixesUnshared after := by
  intro keyPrefix storable
  refine Nat.le_trans ?_ (unshared keyPrefix storable)
  unfold unrevokedUnder
  rw [rewritten, ← List.countP_eq_length_filter, ← List.countP_eq_length_filter, List.countP_map]
  refine List.countP_mono_left fun key _ unrevoked => ?_
  simp only [Function.comp_apply, decide_eq_true_eq] at unrevoked ⊢
  obtain ⟨before, same⟩ := narrows key unrevoked.2
  exact ⟨same ▸ unrevoked.1, before⟩

/-- A revocation leaves prefixes unshared. -/
theorem PrefixesUnshared.revoke (unshared : PrefixesUnshared db) (now : Instant)
    (matching : DroneApiKey → Bool)
    : PrefixesUnshared (db.revokeKeys now matching) := by
  refine unshared.rewrite _ rfl fun key unrevoked => ?_
  split at unrevoked
  · cases unrevoked
  · rename_i untouched
    rw [if_neg untouched]
    exact ⟨unrevoked, rfl⟩

/-- A use of a key leaves prefixes unshared. -/
theorem PrefixesUnshared.touch (unshared : PrefixesUnshared db) (now : Instant)
    (matched : Option (DroneApiKey × Drone))
    : PrefixesUnshared (touchMatched now matched db) := by
  cases matched with
  | none => exact unshared
  | some row =>
      refine unshared.rewrite _ rfl fun key unrevoked => ?_
      split at unrevoked <;> split <;> exact ⟨unrevoked, rfl⟩

/-- A new key leaves prefixes unshared exactly when no unrevoked key has its prefix. -/
theorem PrefixesUnshared.mint (unshared : PrefixesUnshared db) {draws : KeyDraws}
    {droneId : UUID} {label : String}
    (accepted : db.AcceptsKey (mintedKey sha256Hex draws droneId label))
    : PrefixesUnshared (db.withKey _ accepted)
      ↔ ∀ key ∈ db.droneApiKeys, key.keyPrefix = draws.keyPrefix → key.revokedAt ≠ none := by
  have appended
      : ∀ keyPrefix,
          unrevokedUnder keyPrefix (db.withKey _ accepted)
          = unrevokedUnder keyPrefix db
            ++ [mintedKey sha256Hex draws droneId label].filter
              (fun key => key.keyPrefix = keyPrefix ∧ key.revokedAt = none) :=
    fun keyPrefix => List.filter_append ..
  have minted : (mintedKey sha256Hex draws droneId label).keyPrefix = draws.keyPrefix := rfl
  have unrevoked : (mintedKey sha256Hex draws droneId label).revokedAt = none := rfl
  constructor
  · intro alone key stored under active
    have few := alone draws.keyPrefix (parseKey_storable draws.parseKey_rawKey)
    have present : key ∈ unrevokedUnder draws.keyPrefix db := by
      simp [unrevokedUnder, stored, under, active]
    have some_ := List.length_pos_of_mem present
    simp only [appended, minted, unrevoked, List.length_append, List.filter_cons, List.filter_nil,
      and_self, decide_true, if_true, List.length_singleton] at few
    omega
  · intro free keyPrefix storable
    rw [appended]
    by_cases same : draws.keyPrefix = keyPrefix
    · have none_ : unrevokedUnder keyPrefix db = [] := by
        refine List.filter_eq_nil_iff.mpr fun key stored => ?_
        simpa using fun under => free key stored (under.trans same.symm)
      simp [none_, minted, unrevoked, same]
    · simpa [minted, same] using unshared keyPrefix storable

/-- A call leaves prefixes unshared exactly when it is no mint of a prefix in use. -/
theorem PrefixesUnshared.step (unshared : PrefixesUnshared db)
    (ran : serveKey sha256Hex db call = (answer, after))
    : PrefixesUnshared after ↔ DrawsFreePrefix db (call, answer) := by
  obtain ⟨now, request⟩ := call
  cases request with
  | mint draws orgSlug droneSlug label =>
      obtain ⟨outcome, reached, ways, ends⟩ :=
        mint_cases sha256Hex draws orgSlug droneSlug label db
      rw [serveKey_mint, ends.perform] at ran
      cases ways with
      | raised =>
          cases ran
          exact iff_of_true unshared trivial
      | minted names idle accepted =>
          cases ran
          exact unshared.mint accepted
  | revokeByPrefix keyPrefix =>
      rw [serveKey_revokeByPrefix] at ran
      by_cases storable : Storable keyPrefix
      · rw [(revokeByPrefix_revokes storable).perform] at ran
        cases ran
        exact iff_of_true (unshared.revoke now _) trivial
      · rw [(revokeByPrefix_rejected storable).perform] at ran
        cases ran
        exact iff_of_true unshared trivial
  | revokeByDrone orgSlug droneSlug =>
      rw [serveKey_revokeByDrone] at ran
      by_cases named : ∃ droneId, db.Names orgSlug droneSlug droneId
      · obtain ⟨owner, names⟩ := named
        rw [(revokeByDrone_revokes names).perform] at ran
        cases ran
        exact iff_of_true (unshared.revoke now _) trivial
      · obtain ⟨error, ends, _⟩ :=
          revokeByDrone_rejected now (fun droneId names => named ⟨droneId, names⟩)
        rw [ends.perform] at ran
        cases ran
        exact iff_of_true unshared trivial
  | verify raw =>
      rw [serveKey_verify, (verifyApiKey_ends sha256Hex now raw db).perform] at ran
      cases ran
      exact iff_of_true (unshared.touch now _) trivial
  | setActive droneId isActive =>
      cases ran
      exact iff_of_true unshared trivial

end Steps

/-- For every run of any calls from an empty table: in every state that it reaches, every
revocation by prefix revokes a single key, exactly when every mint of the run that returned a key
had drawn a prefix that no unrevoked key had then.
-/
theorem revokeByPrefix_revokes_single (sha256Hex : String → HexDigest) (initial : FleetTables)
    (history : List KeyEvent) (db : FleetTables) (ran : AnyKeyRuns sha256Hex initial history db)
    : (∀ earlier state,
          earlier <:+ history → AnyKeyRuns sha256Hex initial earlier state
          → ∀ now keyPrefix,
              RevokesSingleKey sha256Hex keyPrefix state
                ((revokeByPrefix now keyPrefix).perform state))
      ↔ ∀ event earlier state,
          event :: earlier <:+ history → AnyKeyRuns sha256Hex initial earlier state
          → DrawsFreePrefix state event := by
  obtain ⟨empty, ran⟩ := ran
  have start : PrefixesUnshared initial := by
    intro keyPrefix _
    simp [unrevokedUnder, empty]
  have throughout :=
    ran.served_throughout_iff PrefixesUnshared DrawsFreePrefix start
      (fun ran unshared => unshared.step ran)
  simp only [revokesSingleKey_iff, AnyKeyRuns, empty, true_and]
  exact throughout

/-- Revoking the key that has just been minted revokes it alone. -/
theorem sampleMint_revoked_alone
    : RevokesSingleKey sampleSha256Hex "0a1b2c3d"
        (serveKey sampleSha256Hex sampleUnkeyedFleet sampleMint).2
        ((revokeByPrefix 1 "0a1b2c3d").perform
          (serveKey sampleSha256Hex sampleUnkeyedFleet sampleMint).2) := by
  have ran
      : AnyKeyRuns sampleSha256Hex sampleUnkeyedFleet
          [(sampleMint, (serveKey sampleSha256Hex sampleUnkeyedFleet sampleMint).1)]
          (serveKey sampleSha256Hex sampleUnkeyedFleet sampleMint).2 :=
    ⟨rfl, .next .start ⟨trivial, rfl⟩⟩
  refine (revokeByPrefix_revokes_single sampleSha256Hex sampleUnkeyedFleet _ _ ran).mpr ?_ _ _
    (List.suffix_refl _) ran 1 "0a1b2c3d"
  rintro event earlier state within ⟨_, before⟩
  obtain ⟨rfl, rfl⟩ : event = _ ∧ earlier = [] := by
    simpa using List.suffix_cons_iff.mp within
  cases before
  exact fun key stored => absurd stored (List.not_mem_nil)

theorem sampleSecret_present : "b" ≠ "" := by decide

/-- The draws of the key `sk_drone_0a1b2c3d_b`, whose prefix is that of the other sample. -/
def sampleCollidingDraws : KeyDraws where
  keyPrefix := "0a1b2c3d"
  secret := "b"
  keyId := 11
  prefixLength := sampleDraws_length
  prefixDigits := sampleDraws_digits
  secretPresent := sampleSecret_present

/-- The second drone's key is minted under the same prefix. -/
def sampleCollidingMint : KeyCall :=
  ⟨1, .mint sampleCollidingDraws "specter" "relay" "initial"⟩

/-- The fleet after both mints. -/
def sampleSharedFleet : FleetTables :=
  (serveKey sampleSha256Hex (serveKey sampleSha256Hex sampleUnkeyedFleet sampleMint).2
    sampleCollidingMint).2

/-- Two drones' keys are minted under one prefix, and revoking it revokes both. -/
theorem shared_prefix_revokes_both
    : AnyKeyRuns sampleSha256Hex sampleUnkeyedFleet
          [(sampleCollidingMint, .minted "sk_drone_0a1b2c3d_b"),
            (sampleMint, .minted "sk_drone_0a1b2c3d_a")]
          sampleSharedFleet
      ∧ ((revokeByPrefix 2 "0a1b2c3d").perform sampleSharedFleet).1 = .ok 2
      ∧ ((verifyApiKey sampleSha256Hex 3 "sk_drone_0a1b2c3d_b").perform sampleSharedFleet).1
        = .ok (some ⟨3, "relay", 1, true⟩)
      ∧ ((verifyApiKey sampleSha256Hex 3 "sk_drone_0a1b2c3d_b").perform
            ((revokeByPrefix 2 "0a1b2c3d").perform sampleSharedFleet).2).1
        = .ok none
      ∧ ¬ RevokesSingleKey sampleSha256Hex "0a1b2c3d" sampleSharedFleet
            ((revokeByPrefix 2 "0a1b2c3d").perform sampleSharedFleet) := by
  refine ⟨⟨rfl, .next (.next .start ⟨trivial, by rfl⟩) ⟨trivial, by rfl⟩⟩, by rfl, by rfl,
    by rfl, ?_⟩
  intro single
  have few := single.single
  revert few
  decide

end SpecterCloud.Auth
