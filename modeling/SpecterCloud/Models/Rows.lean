import Mathlib.Data.List.Nodup

/-! The rows of the authentication and authorization tables, and what their columns accept.
Columns that no modelled function reads or writes are left out.
-/

namespace SpecterCloud.Models

/-- Values of `Uuid` columns. -/
abbrev UUID := BitVec 128

/-- A point in time in microseconds, the resolution of `datetime` and `timestamptz`. -/
abbrev Instant := Int

/-- `timedelta(seconds=n)`. -/
def seconds (n : Int) : Int := n * 1000000

/-- `timedelta(minutes=n)`. -/
def minutes (n : Int) : Int := n * 60 * 1000000

/-- `timedelta(days=n)`. -/
def days (n : Int) : Int := n * 24 * 60 * 60 * 1000000

/-- Text without the NUL character, which no Postgres text value can hold. -/
def Storable (text : String) : Prop := '\x00' ∉ text.toList

instance (text : String) : Decidable (Storable text) :=
  inferInstanceAs (Decidable ('\x00' ∉ text.toList))

/-- What a `String(limit)` column accepts. -/
def FitsString (limit : Nat) (text : String) : Prop := text.length ≤ limit ∧ Storable text

instance (limit : Nat) (text : String) : Decidable (FitsString limit text) :=
  inferInstanceAs (Decidable (_ ∧ _))

/-- Text that is a character too long for its column. -/
theorem not_fitsString_replicate (limit : Nat) (c : Char)
    : ¬ FitsString limit (String.ofList (List.replicate (limit + 1) c)) := by
  rintro ⟨length, _⟩
  rw [String.length_ofList, List.length_replicate] at length
  omega

/-- What a nullable column accepts, given what it accepts of a value. -/
def NullOr {α : Type} (accepts : α → Prop) : Option α → Prop
  | none => True
  | some value => accepts value

instance {α : Type} (accepts : α → Prop) [DecidablePred accepts] (value : Option α)
    : Decidable (NullOr accepts value) :=
  match value with
  | none => isTrue trivial
  | some value => inferInstanceAs (Decidable (accepts value))

/-- A peer address as the server reads it from the socket, which `INET` accepts. -/
structure IpAddress where
  text : String
deriving DecidableEq

/-- `SessionTransport`, the values of `sessions.transport`. -/
inductive SessionTransport
  | cookie
  | bearer
deriving DecidableEq

-----------------------------------------------------------------------------------------
-- Rows
-----------------------------------------------------------------------------------------

structure Org where
  id : UUID
  name : String
  slug : String
  parentOrgId : Option UUID
deriving DecidableEq

structure Role where
  id : Int
  name : String
  isPlatformRole : Bool
deriving DecidableEq

structure UserRole where
  userId : UUID
  orgId : UUID
  roleId : Int
  grantedBy : Option UUID
  revokedAt : Option Instant
deriving DecidableEq

/-- The composite primary key of `user_roles`. -/
def UserRole.key (grant : UserRole) : UUID × UUID × Int :=
  (grant.userId, grant.orgId, grant.roleId)

structure User where
  id : UUID
  email : String
  passwordHash : String
  name : String
  orgId : UUID
  isActive : Bool
  lastLoginAt : Option Instant
  failedLoginCount : Int
  lockedUntil : Option Instant
  updatedAt : Instant
deriving DecidableEq

structure Session where
  id : UUID
  userId : UUID
  tokenHash : String
  transport : SessionTransport
  userAgent : Option String
  ipAddress : Option IpAddress
  createdAt : Instant
  expiresAt : Instant
  lastSeenAt : Instant
  revokedAt : Option Instant
  revokedReason : Option String
deriving DecidableEq

/-- The values the application puts under a key of `audit_log.metadata`. -/
inductive ExtraValue
  | text (value : String)
  | isoformat (time : Instant)
deriving DecidableEq

/-- `metadata` is the column of `extra`; `id` and `created_at` are filled in by the database
and read by nothing.
-/
structure AuditLog where
  userId : Option UUID := none
  requestId : Option UUID := none
  action : String
  permission : Option String := none
  resourceType : Option String := none
  resourceId : Option String := none
  targetOrgId : Option UUID := none
  matchedRoleId : Option Int := none
  matchedOrgId : Option UUID := none
  decision : String
  reason : Option String := none
  ipAddress : Option IpAddress := none
  userAgent : Option String := none
  extra : Option (List (String × ExtraValue)) := none
deriving DecidableEq

/-- JSONB holds the same text as other columns. -/
def ExtraValue.Storable : ExtraValue → Prop
  | .text value => Models.Storable value
  | .isoformat _ => True

instance (value : ExtraValue) : Decidable value.Storable :=
  match value with
  | .text value => inferInstanceAs (Decidable (Storable value))
  | .isoformat _ => isTrue trivial

/-- The lengths and text that the columns of `sessions` accept. -/
structure Session.Fits (row : Session) : Prop where
  tokenHash : FitsString 64 row.tokenHash
  userAgent : NullOr (FitsString 500) row.userAgent
  revokedReason : NullOr (FitsString 40) row.revokedReason

/-- The lengths and text that the columns of `audit_log` accept. -/
structure AuditLog.Fits (row : AuditLog) : Prop where
  action : FitsString 60 row.action
  permission : NullOr (FitsString 60) row.permission
  resourceType : NullOr (FitsString 40) row.resourceType
  resourceId : NullOr (FitsString 64) row.resourceId
  decision : FitsString 10 row.decision
  reason : NullOr Storable row.reason
  userAgent : NullOr (FitsString 500) row.userAgent
  extra : NullOr (fun extra => ∀ entry ∈ extra, Storable entry.1 ∧ entry.2.Storable) row.extra

instance (row : Session) : Decidable row.Fits :=
  decidable_of_iff (FitsString 64 row.tokenHash ∧ NullOr (FitsString 500) row.userAgent
      ∧ NullOr (FitsString 40) row.revokedReason)
    ⟨fun ⟨a, b, c⟩ => ⟨a, b, c⟩, fun ⟨a, b, c⟩ => ⟨a, b, c⟩⟩

instance (row : AuditLog) : Decidable row.Fits :=
  decidable_of_iff
    (FitsString 60 row.action ∧ NullOr (FitsString 60) row.permission
      ∧ NullOr (FitsString 40) row.resourceType ∧ NullOr (FitsString 64) row.resourceId
      ∧ FitsString 10 row.decision ∧ NullOr Storable row.reason
      ∧ NullOr (FitsString 500) row.userAgent
      ∧ NullOr (fun extra => ∀ entry ∈ extra, Storable entry.1 ∧ entry.2.Storable) row.extra)
    ⟨fun ⟨a, b, c, d, e, f, g, h⟩ => ⟨a, b, c, d, e, f, g, h⟩,
      fun ⟨a, b, c, d, e, f, g, h⟩ => ⟨a, b, c, d, e, f, g, h⟩⟩

end SpecterCloud.Models
