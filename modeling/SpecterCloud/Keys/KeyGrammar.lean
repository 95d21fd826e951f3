import SpecterCloud.Core.Numerals
import SpecterCloud.Scripts.DroneKeys

/-! Which texts `parse_key` accepts, and what of a key it returns. -/

namespace SpecterCloud.Auth

open SpecterCloud.Foundations
open SpecterCloud.Models
open SpecterCloud.Core
open SpecterCloud.Scripts

/-- `sk_drone_<prefix>_<secret>` with a prefix of the given kind. -/
def KeyText (prefixed : String → Prop) (raw : String) : Prop :=
  ∃ keyPrefix secret,
    raw = keyTag ++ keyPrefix ++ "_" ++ secret ∧ prefixed keyPrefix ∧ secret ≠ ""

/-- The documented prefixes: 8 hexadecimal digits. -/
def HexPrefix (keyPrefix : String) : Prop :=
  keyPrefix.length = 8 ∧ ∀ c ∈ keyPrefix.toList, isHexDigit c = true

/-- Numerals of 8 characters that are not all hexadecimal digits: they have blanks around them, a
sign, a mark of base 16, or digits that are not ASCII.
-/
def LoosePrefix (keyPrefix : String) : Prop :=
  keyPrefix.length = 8
  ∧ Numeral keyPrefix.toList
  ∧ ∃ c ∈ keyPrefix.toList, isHexDigit c = false

section Parsing

variable {raw other keyPrefix secret : String}

/-- `parse_key` returns the parts around the first underscore after the tag. -/
theorem parseKey_eq_some
    : parseKey raw = some (keyPrefix, secret)
      ↔ raw = keyTag ++ keyPrefix ++ "_" ++ secret
        ∧ '_' ∉ keyPrefix.toList
        ∧ keyPrefix.length = 8
        ∧ secret ≠ ""
        ∧ intParses keyPrefix = true := by
  have shape
      : (afterTag keyTag raw).bind (splitOnce '_') = some (keyPrefix, secret)
        ↔ raw = keyTag ++ keyPrefix ++ "_" ++ secret ∧ '_' ∉ keyPrefix.toList := by
    simp only [Option.bind_eq_some_iff, afterTag_eq_some, splitOnce_eq_some]
    constructor
    · rintro ⟨rest, rfl, rfl, absent⟩
      refine ⟨?_, absent⟩
      simp only [String.append_assoc]
      rfl
    · rintro ⟨rfl, absent⟩
      refine ⟨_, ?_, rfl, absent⟩
      simp only [String.append_assoc]
      rfl
  unfold parseKey
  constructor
  · intro parsed
    split at parsed
    · cases parsed
    rename_i found
    split at parsed
    · cases parsed
    rename_i wellFormed
    split at parsed
    · cases parsed
    rename_i parses
    cases parsed
    obtain ⟨length, present⟩ := not_or.mp wellFormed
    obtain ⟨same, absent⟩ := shape.mp found
    exact ⟨same, absent, not_not.mp length, present, by simpa using parses⟩
  · rintro ⟨same, absent, length, present, parses⟩
    rw [shape.mpr ⟨same, absent⟩]
    simp [length, present, parses, prefixBytes]

/-- A text is cut at one place only. -/
theorem keyParts_unique {otherPrefix otherSecret : String} (absent : '_' ∉ keyPrefix.toList)
    (absentOther : '_' ∉ otherPrefix.toList)
    (same : keyTag ++ keyPrefix ++ "_" ++ secret = keyTag ++ otherPrefix ++ "_" ++ otherSecret)
    : keyPrefix = otherPrefix ∧ secret = otherSecret := by
  have rests : keyPrefix ++ "_" ++ secret = otherPrefix ++ "_" ++ otherSecret := by
    have followed := afterTag_append keyTag (keyPrefix ++ "_" ++ secret)
    have followedOther := afterTag_append keyTag (otherPrefix ++ "_" ++ otherSecret)
    simp only [← String.append_assoc] at followed followedOther
    rw [same] at followed
    exact Option.some.inj (followed.symm.trans followedOther)
  have cut := splitOnce_append secret absent
  have cutOther := splitOnce_append otherSecret absentOther
  have parts :=
    Option.some.inj (cut.symm.trans ((congrArg (splitOnce '_') rests).trans cutOther))
  exact ⟨congrArg Prod.fst parts, congrArg Prod.snd parts⟩

/-- What is accepted has a prefix that is documented, or one of the other kind. -/
theorem parseKey_accepts_iff
    : parseKey raw ≠ none ↔ KeyText HexPrefix raw ∨ KeyText LoosePrefix raw := by
  constructor
  · intro accepted
    obtain ⟨⟨keyPrefix, secret⟩, parsed⟩ := Option.ne_none_iff_exists'.mp accepted
    obtain ⟨same, absent, length, present, parses⟩ := parseKey_eq_some.mp parsed
    by_cases hex : ∀ c ∈ keyPrefix.toList, isHexDigit c = true
    · exact .inl ⟨keyPrefix, secret, same, ⟨length, hex⟩, present⟩
    · have numeral := (intParses_iff absent).mp parses
      refine .inr ⟨keyPrefix, secret, same, ⟨length, numeral, ?_⟩, present⟩
      simpa using hex
  · have parses {keyPrefix secret : String} (same : raw = keyTag ++ keyPrefix ++ "_" ++ secret)
        (length : keyPrefix.length = 8) (numeral : Numeral keyPrefix.toList)
        (present : secret ≠ "")
        : parseKey raw ≠ none := by
      have parsed :=
        parseKey_eq_some.mpr
          ⟨same, numeral.absent, length, present, (intParses_iff numeral.absent).mpr numeral⟩
      simp [parsed]
    rintro (⟨keyPrefix, secret, same, ⟨length, hex⟩, present⟩
      | ⟨keyPrefix, secret, same, ⟨length, numeral, _⟩, present⟩)
    · refine parses same length (.of_hex ?_ hex) present
      intro empty
      rw [← String.length_toList, empty] at length
      cases length
    · exact parses same length numeral present

/-- No text has prefixes of both kinds. -/
theorem KeyText.not_loose (documented : KeyText HexPrefix raw) : ¬ KeyText LoosePrefix raw := by
  obtain ⟨keyPrefix, secret, same, ⟨_, hex⟩, _⟩ := documented
  rintro ⟨otherPrefix, otherSecret, sameOther, ⟨_, numeral, c, member, other⟩, _⟩
  have absent : '_' ∉ keyPrefix.toList :=
    fun underscore => (plainDigit_of_hex (hex '_' underscore)).underscore rfl
  obtain ⟨rfl, _⟩ := keyParts_unique absent numeral.absent (same.symm.trans sameOther)
  cases other.symm.trans (hex c member)

end Parsing

/-- Every text: `parse_key` accepts exactly the documented keys, unless the part before the first
underscore is a numeral of 8 characters other than 8 hexadecimal digits.
-/
theorem parseKey_documented_iff (raw : String)
    : (parseKey raw ≠ none ↔ KeyText HexPrefix raw) ↔ ¬ KeyText LoosePrefix raw := by
  rw [parseKey_accepts_iff]
  constructor
  · intro documented loose
    exact (documented.mp (.inr loose)).not_loose loose
  · intro strict
    exact or_iff_left strict

/-- A prefix with the mark of base 16 is accepted. -/
theorem markedPrefix_accepted
    : ¬ (parseKey "sk_drone_0x12abcd_secret" ≠ none
          ↔ KeyText HexPrefix "sk_drone_0x12abcd_secret") := by
  have absent : '_' ∉ "0x12abcd".toList := by decide
  have loose : KeyText LoosePrefix "sk_drone_0x12abcd_secret" :=
    ⟨"0x12abcd", "secret", rfl, ⟨rfl, (intParses_iff absent).mp (by decide), 'x', by decide⟩,
      by decide⟩
  intro documented
  exact (documented.mp (parseKey_accepts_iff.mpr (.inr loose))).not_loose loose

-----------------------------------------------------------------------------------------
-- Round trips
-----------------------------------------------------------------------------------------

/-- The new row of a mint, and the rows that a verification of its key looks at. -/
structure LooksUpMinted (draws : KeyDraws) (raw : String) (after : FleetTables)
    (row : DroneApiKey)
    : Prop where
  stored : row ∈ after.droneApiKeys
  id : row.id = draws.keyId
  parsed : parseKey raw = some (row.keyPrefix, draws.secret)
  found
    : ∃ rows drone,
        after.keysByPrefix row.keyPrefix = .ok rows ∧ drone.id = row.droneId ∧ (row, drone) ∈ rows

/-- A mint that returns a key has stored the prefix under which its verification looks. -/
theorem mint_looksUp {sha256Hex : String → HexDigest} {draws : KeyDraws}
    {orgSlug droneSlug label raw : String} {db after : FleetTables}
    (minted : (mint sha256Hex draws orgSlug droneSlug label).perform db = (.ok raw, after))
    : ∃ row, LooksUpMinted draws raw after row := by
  obtain ⟨outcome, reached, ways, ends⟩ := mint_cases sha256Hex draws orgSlug droneSlug label db
  cases minted.symm.trans ends.perform
  cases ways with
  | @minted droneId names idle accepted =>
      have stored
          : mintedKey sha256Hex draws droneId label ∈ (db.withKey _ accepted).droneApiKeys :=
        List.mem_append_right _ List.mem_cons_self
      have parsed := draws.parseKey_rawKey
      obtain ⟨rows, answered, joined⟩ :=
        (db.withKey _ accepted).keysByPrefix_storable (parseKey_storable parsed)
      obtain ⟨drone, known, same⟩ := List.mem_map.mp accepted.droneId
      exact ⟨_, stored, rfl, parsed, rows, drone, answered, same,
        (joined _ drone).mpr ⟨stored, rfl, known, same⟩⟩

/-- For all drawn prefixes and secrets the generated key parses into them, and a verification
looks under the prefix that the mint stored; every key that parses is put together again from
what it parses into, so no two keys parse into the same.
-/
theorem parseKey_round_trip
    : (∀ (sha256Hex : String → HexDigest) (draws : KeyDraws),
        parseKey (generateApiKey sha256Hex draws).1
          = some ((generateApiKey sha256Hex draws).2.1, draws.secret)
        ∧ (generateApiKey sha256Hex draws).2.1 = draws.keyPrefix)
      ∧ (∀ (sha256Hex : String → HexDigest) (draws : KeyDraws)
            (orgSlug droneSlug label raw : String) (db after : FleetTables),
          (mint sha256Hex draws orgSlug droneSlug label).perform db = (.ok raw, after)
          → ∃ row, LooksUpMinted draws raw after row)
      ∧ (∀ raw keyPrefix secret,
          parseKey raw = some (keyPrefix, secret)
          → raw = keyTag ++ keyPrefix ++ "_" ++ secret
            ∧ keyPrefix.length = 8
            ∧ '_' ∉ keyPrefix.toList
            ∧ secret ≠ "")
      ∧ ∀ raw other, parseKey raw ≠ none → parseKey other = parseKey raw → other = raw := by
  have parts (raw keyPrefix secret : String) (parsed : parseKey raw = some (keyPrefix, secret))
      : raw = keyTag ++ keyPrefix ++ "_" ++ secret
        ∧ keyPrefix.length = 8
        ∧ '_' ∉ keyPrefix.toList
        ∧ secret ≠ "" := by
    obtain ⟨same, absent, length, present, _⟩ := parseKey_eq_some.mp parsed
    exact ⟨same, length, absent, present⟩
  refine ⟨?_, ?_, parts, ?_⟩
  · exact fun _ draws => ⟨draws.parseKey_rawKey, rfl⟩
  · exact fun _ _ _ _ _ _ _ _ minted => mint_looksUp minted
  · intro raw other accepted same
    obtain ⟨⟨keyPrefix, secret⟩, parsed⟩ := Option.ne_none_iff_exists'.mp accepted
    rw [(parts other keyPrefix secret (same.trans parsed)).1,
      (parts raw keyPrefix secret parsed).1]

end SpecterCloud.Auth
