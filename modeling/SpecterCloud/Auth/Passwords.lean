import SpecterCloud.Core.Runtime

/-! Argon2id password hashing. -/

namespace SpecterCloud.Auth

open SpecterCloud.Models
open SpecterCloud.Core

/-- `hash_password`, with the salt that the hasher draws. -/
def hashPassword (runtime : Runtime) (salt plain : String) : Except Raised String :=
  if plain = "" then
    .error (.valueError "password must not be empty")
  else
    .ok (runtime.argon2Hash salt plain)

section Hashes

variable {runtime : Runtime} {salt plain hashed : String}

/-- A password that is not empty is hashed. -/
theorem hashPassword_computes (present : plain ≠ "")
    : hashPassword runtime salt plain = .ok (runtime.argon2Hash salt plain) :=
  if_neg present

/-- A password that is hashed is not empty. -/
theorem hashPassword_present (computed : hashPassword runtime salt plain = .ok hashed)
    : plain ≠ "" := by
  intro empty
  rw [hashPassword, if_pos empty] at computed
  cases computed

/-- Only the empty password is refused. -/
theorem hashPassword_refuses {error : Raised}
    (refused : hashPassword runtime salt plain = .error error)
    : plain = "" := by
  by_contra present
  cases refused.symm.trans (hashPassword_computes present)

/-- The hash is the one that the hasher returns. -/
theorem hashPassword_eq (computed : hashPassword runtime salt plain = .ok hashed)
    : hashed = runtime.argon2Hash salt plain := by
  rw [hashPassword_computes (hashPassword_present computed)] at computed
  exact (Except.ok.inj computed).symm

/-- A hash fits its column. -/
theorem hashPassword_fits (computed : hashPassword runtime salt plain = .ok hashed)
    : FitsString 128 hashed := by
  rw [hashPassword_eq computed]
  exact runtime.argon2Hash_fits salt plain

end Hashes

/-- `verify_password`: a mismatch and a malformed hash both answer false. -/
def verifyPassword (runtime : Runtime) (plain hashed : String) : Bool :=
  runtime.argon2Verify hashed plain

def needsRehash (runtime : Runtime) (hashed : String) : Bool :=
  runtime.argon2NeedsRehash hashed

end SpecterCloud.Auth
