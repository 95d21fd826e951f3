import SpecterCloud.Foundations.KeyedRows
import SpecterCloud.Models.Rows

/-! The permission catalog, the role bundles, and the inverted lookup of eligible roles. -/

namespace SpecterCloud.Auth

open SpecterCloud.Foundations
open SpecterCloud.Models

inductive Permission
  | droneRead
  | telemetryRead
  | videoRead
  | missionRead
  | missionWrite
  | droneConfigure
  | userInvite
  | userRemove
  | userAssignRole
  | orgSettings
  | auditRead
  | droneConfigureAdvanced
  | platformAuditRead
  | platformOrgManage
  | platformDroneManage
  | devDebug
deriving DecidableEq

/-- The string value of the enumeration member. -/
def Permission.value : Permission → String
  | droneRead => "drone:read"
  | telemetryRead => "telemetry:read"
  | videoRead => "video:read"
  | missionRead => "mission:read"
  | missionWrite => "mission:write"
  | droneConfigure => "drone:configure"
  | userInvite => "user:invite"
  | userRemove => "user:remove"
  | userAssignRole => "user:assign_role"
  | orgSettings => "org:settings"
  | auditRead => "audit:read"
  | droneConfigureAdvanced => "drone:configure_advanced"
  | platformAuditRead => "platform:audit_read"
  | platformOrgManage => "platform:org_manage"
  | platformDroneManage => "platform:drone_manage"
  | devDebug => "dev:debug"

/-- `ROLE_PERMISSIONS`, in the order of the dictionary. -/
def rolePermissions : List (String × List Permission) :=
  [
    ("viewer", [.droneRead, .telemetryRead, .videoRead, .missionRead]),
    ("operator", [.droneRead, .telemetryRead, .videoRead, .missionRead, .missionWrite]),
    ("admin",
      [.droneRead, .telemetryRead, .videoRead, .missionRead, .userInvite, .userRemove,
        .userAssignRole, .orgSettings, .auditRead]),
    ("planner", []),
    ("technician", []),
    ("developer",
      [.droneRead, .telemetryRead, .videoRead, .missionRead, .droneConfigure,
        .droneConfigureAdvanced, .platformAuditRead, .platformOrgManage,
        .platformDroneManage, .devDebug])
  ]

/-- `PLATFORM_ONLY_ROLES`. -/
def platformOnlyRoles : List String := ["developer"]

/-- The names of all roles whose bundle includes the permission. -/
def rolesWithPermission (permission : Permission) : List String :=
  rolePermissions.filterMap
    (fun (name, permissions) => if permission ∈ permissions then some name else none)

/-- The bundle a role name has in the dictionary; a name outside it grants nothing. -/
def bundle (name : String) : List Permission :=
  (findBy Prod.fst name rolePermissions).elim [] Prod.snd

/-- The dictionary has one bundle for each of its names. -/
theorem rolePermissions_names : (rolePermissions.map Prod.fst).Nodup := by decide

/-- The inverted lookup answers membership in the bundle, for every name there is. -/
theorem mem_rolesWithPermission {permission : Permission} {name : String}
    : name ∈ rolesWithPermission permission ↔ permission ∈ bundle name := by
  simp only [rolesWithPermission, List.mem_filterMap, bundle]
  constructor
  · rintro ⟨⟨key, permissions⟩, entry, kept⟩
    obtain ⟨granted, rfl⟩ : permission ∈ permissions ∧ key = name := by simpa using kept
    rw [(findBy_eq_some_iff rolePermissions_names).mpr ⟨entry, rfl⟩]
    exact granted
  · intro granted
    cases found : findBy Prod.fst name rolePermissions with
    | none => simp [found] at granted
    | some entry =>
        obtain ⟨member, rfl⟩ := findBy_sound found
        exact ⟨entry, member, by simpa [found] using granted⟩

/-- Every permission is in some bundle, so the early deny of the check is never taken. -/
theorem rolesWithPermission_ne_nil (permission : Permission)
    : rolesWithPermission permission ≠ [] := by
  cases permission <;> decide

/-- Every permission value fits `audit_log.permission`. -/
theorem Permission.value_fits (permission : Permission) : FitsString 60 permission.value := by
  cases permission <;> decide

end SpecterCloud.Auth
