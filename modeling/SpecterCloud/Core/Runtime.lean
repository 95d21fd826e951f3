import SpecterCloud.Models.Database

/-! What the code takes from outside the repository: the hash functions, `str.lower`, the
parser of `uuid.UUID`, random values, settings, and the request as the framework hands it over.
-/

namespace SpecterCloud.Core

open SpecterCloud.Foundations
open SpecterCloud.Models

/-- The fields of `settings` that the modelled code reads. -/
structure Settings where
  sessionCookieSecure : Bool := false
  sessionCookieSamesite : String := "lax"

/-- The functions of third-party and standard libraries that the code calls, and the settings.
SHA-256 is given as its hex digest and argon2 with its salt; both digests fit their columns.
-/
structure Runtime where
  settings : Settings := {}
  lower : String → String
  parseUuid : String → Option UUID
  sha256Hex : String → String
  argon2Hash : String → String → String
  argon2Verify : String → String → Bool
  argon2NeedsRehash : String → Bool
  sha256Hex_fits : ∀ raw, FitsString 64 (sha256Hex raw)
  argon2Hash_fits : ∀ salt plain, FitsString 128 (argon2Hash salt plain)

/-- The argon2id hash of `password` with the salt `somesalt`. -/
def samplePasswordHash : String :=
  "$argon2id$v=19$m=65536,t=2,p=1$c29tZXNhbHQ$CTFhFdXPJO1aFaMaO6Mm5c8y7cJHAph8ArZWb2GRPPc"

/-- A runtime to evaluate requests on: the real digests of the tokens `a` and `b` and of the
password `password`, and ASCII lower case.
-/
def sampleRuntime : Runtime where
  lower := fun text => String.ofList (text.toList.map Char.toLower)
  parseUuid := fun _ => none
  sha256Hex := fun raw =>
    if raw = "a" then "ca978112ca1bbdcafac231b39a23dc4da786eff8147c4e72b9807785afee48bb"
    else "3e23e8160039594a33894f6564e1b1348bbd7a0088d42c4acb73eeaed59c009d"
  argon2Hash := fun _ _ => samplePasswordHash
  argon2Verify := fun hashed plain => hashed = samplePasswordHash ∧ plain = "password"
  argon2NeedsRehash := fun _ => true
  sha256Hex_fits := by intro raw; split <;> decide
  argon2Hash_fits := fun _ _ => by decide

/-- The parts of a request that the modelled code reads. `requestId` is
`request.state.request_id`, which is absent unless something sets it.
-/
structure Request where
  userAgent : Option String := none
  clientHost : Option IpAddress := none
  requestId : Option String := none

/-- The random values that a call draws: a token, the id of a session, a salt. -/
structure Draws where
  token : String
  sessionId : UUID
  salt : String

/-- A program on the request's database session. -/
abbrev DbAction (α : Type) := Action Database Raised α

/-- A user who has never logged in. -/
def sampleUser : User where
  id := 7
  email := "admin@specter.example"
  passwordHash := samplePasswordHash
  name := "Specter Admin"
  orgId := 1
  isActive := true
  lastLoginAt := none
  failedLoginCount := 0
  lockedUntil := none
  updatedAt := 0

/-- The root org, where the user is an administrator. -/
def sampleDatabase : Database :=
  .singleUser ⟨1, "Specter", "specter", none⟩ sampleUser rfl (by decide)
    [⟨7, 1, 6, none, none⟩] [⟨6, "admin", false⟩] (List.nodup_singleton _)
    (List.nodup_singleton _) (List.nodup_singleton _)
    (List.forall_mem_singleton.mpr (by decide))

end SpecterCloud.Core
