import SpecterCloud.Foundations.Runs
import SpecterCloud.Scripts.DroneKeys

/-! Sequential runs of the key code, and what their histories say of a key. -/

namespace SpecterCloud.Auth

open SpecterCloud.Foundations
open SpecterCloud.Models
open SpecterCloud.Scripts

/-- A call of the scripts or of the verification, or a change of a drone's `is_active`. -/
inductive KeyRequest
  | mint (draws : KeyDraws) (orgSlug droneSlug label : String)
  | revokeByPrefix (keyPrefix : String)
  | revokeByDrone (orgSlug droneSlug : String)
  | verify (raw : String)
  | setActive (droneId : UUID) (isActive : Bool)

/-- A call at the instant that the database's clock shows. -/
structure KeyCall where
  now : Instant
  request : KeyRequest

inductive KeyAnswer
  | minted (raw : String)
  | revoked (rowsAffected : Nat)
  | verified (drone : Option Drone)
  | changed
  | raised (error : Raised)

abbrev KeyEvent := KeyCall × KeyAnswer

/-- The answer of a call, or what it raised. -/
def keyAnswered {α : Type} (answer : α → KeyAnswer) (ended : Except Raised α × FleetTables)
    : KeyAnswer × FleetTables :=
  match ended.1 with
  | .ok value => (answer value, ended.2)
  | .error error => (.raised error, ended.2)

/-- A call in a session of its own. -/
def serveKey (sha256Hex : String → HexDigest) (db : FleetTables) (call : KeyCall)
    : KeyAnswer × FleetTables :=
  match call.request with
  | .mint draws orgSlug droneSlug label =>
      keyAnswered .minted ((mint sha256Hex draws orgSlug droneSlug label).perform db)
  | .revokeByPrefix keyPrefix =>
      keyAnswered .revoked ((revokeByPrefix call.now keyPrefix).perform db)
  | .revokeByDrone orgSlug droneSlug =>
      keyAnswered .revoked ((revokeByDrone call.now orgSlug droneSlug).perform db)
  | .verify raw => keyAnswered .verified ((verifyApiKey sha256Hex call.now raw).perform db)
  | .setActive droneId isActive => (.changed, db.setActive droneId isActive)

section Serving

variable (sha256Hex : String → HexDigest) (db : FleetTables) (now : Instant)

theorem serveKey_mint (draws : KeyDraws) (orgSlug droneSlug label : String)
    : serveKey sha256Hex db ⟨now, .mint draws orgSlug droneSlug label⟩
      = keyAnswered .minted ((mint sha256Hex draws orgSlug droneSlug label).perform db) :=
  rfl

theorem serveKey_revokeByPrefix (keyPrefix : String)
    : serveKey sha256Hex db ⟨now, .revokeByPrefix keyPrefix⟩
      = keyAnswered .revoked ((revokeByPrefix now keyPrefix).perform db) :=
  rfl

theorem serveKey_revokeByDrone (orgSlug droneSlug : String)
    : serveKey sha256Hex db ⟨now, .revokeByDrone orgSlug droneSlug⟩
      = keyAnswered .revoked ((revokeByDrone now orgSlug droneSlug).perform db) :=
  rfl

theorem serveKey_verify (raw : String)
    : serveKey sha256Hex db ⟨now, .verify raw⟩
      = keyAnswered .verified ((verifyApiKey sha256Hex now raw).perform db) :=
  rfl

end Serving

/-- The raw keys that a call generates or presents are among `keys`. -/
def KeyRequest.Presents (keys : String → Prop) : KeyRequest → Prop
  | mint draws _ _ _ => keys draws.rawKey
  | verify raw => keys raw
  | _ => True

/-- The event generated a key with the secret. -/
def Generated (secret : String) : KeyEvent → Prop
  | (⟨_, .mint draws _ _ _⟩, .minted _) => draws.secret = secret
  | _ => False

/-- A generated secret is fresh. -/
def KeyRequest.Fresh (history : List KeyEvent) : KeyRequest → Prop
  | mint draws _ _ _ => ∀ event ∈ history, ¬ Generated draws.secret event
  | _ => True

structure PermittedKeyCall (keys : String → Prop) (history : List KeyEvent) (call : KeyCall)
    : Prop where
  presents : call.request.Presents keys
  fresh : call.request.Fresh history

/-- Runs from an empty `drone_api_keys` table. -/
def KeyRuns (sha256Hex : String → HexDigest) (keys : String → Prop) (initial : FleetTables)
    (history : List KeyEvent) (db : FleetTables)
    : Prop :=
  initial.droneApiKeys = []
  ∧ Runs (served (PermittedKeyCall keys) (serveKey sha256Hex)) initial history db

/-- SHA-256 is injective on the raw keys. -/
def KeysDistinguished (sha256Hex : String → HexDigest) (keys : String → Prop) : Prop :=
  ∀ left right, keys left → keys right
    → hashKey sha256Hex left = hashKey sha256Hex right → left = right

/-- The event is a mint for the drone that returned the raw key. The slugs of a fleet never
change.
-/
def Mints (fleet : FleetTables) (raw : String) (droneId : UUID) : KeyEvent → Prop
  | (⟨_, .mint _ orgSlug droneSlug _⟩, .minted key) =>
      key = raw ∧ fleet.Names orgSlug droneSlug droneId
  | _ => False

/-- The event is a revocation that named the prefix of the raw key, or the drone. -/
def NamesKey (fleet : FleetTables) (raw : String) (droneId : UUID) : KeyEvent → Prop
  | (⟨_, .revokeByPrefix keyPrefix⟩, _) => ∃ secret, parseKey raw = some (keyPrefix, secret)
  | (⟨_, .revokeByDrone orgSlug droneSlug⟩, _) => fleet.Names orgSlug droneSlug droneId
  | _ => False

/-- By the history alone the raw key is in use for the drone. -/
def KeyInUse (fleet : FleetTables) (history : List KeyEvent) (raw : String) (droneId : UUID)
    : Prop :=
  Since (Mints fleet raw droneId) (NamesKey fleet raw droneId) history

end SpecterCloud.Auth
