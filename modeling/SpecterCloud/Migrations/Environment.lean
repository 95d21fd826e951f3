import SpecterCloud.Foundations.RevisionChains
import SpecterCloud.Migrations.Rollback

/-! `alembic/env.py`: a command runs its migrations in one transaction on one connection. The
schema is that of the recorded revision after any commands, with any use of the database between
them.
-/

namespace SpecterCloud.Migrations

open SpecterCloud.Foundations
open SpecterCloud.Foundations.Relational
open SpecterCloud.Models

abbrev MigrationRevision := Revision String (List MigrationStep)

/-- `ad02ee5908dd_initial_schema_with_auth.py`. -/
def InitialSchema.revision : MigrationRevision where
  id := "ad02ee5908dd"
  downRevision := none
  upgrade := InitialSchema.upgrade
  downgrade := InitialSchema.downgrade

/-- `c4a72f3b8d91_human_auth_rbac.py`. -/
def HumanAuthRbac.revision : MigrationRevision where
  id := "c4a72f3b8d91"
  downRevision := some "ad02ee5908dd"
  upgrade := HumanAuthRbac.upgrade
  downgrade := HumanAuthRbac.downgrade

/-- The directory `alembic/versions`. -/
def versions : List MigrationRevision := [InitialSchema.revision, HumanAuthRbac.revision]

/-- A database with its table `alembic_version`. -/
abbrev VersionedDatabase := Versioned String MigratedStore

/-- A script runs in a transaction that has begun at `now`. -/
def runScript (now : Instant) (script : List MigrationStep) (store : MigratedStore)
    : Except Refusal MigratedStore :=
  applyAll (evaluate now) admits script store

/-- `run_migrations` of a command, inside `begin_transaction`. -/
def runMigrations (now : Instant) (command : RevisionCommand String)
    (database : VersionedDatabase)
    : Except (RevisionError String Refusal) Unit × VersionedDatabase :=
  command.perform versions (runScript now) database

/-- The upgrades up to a version. -/
def upgradesTo (version : Option String) : List MigrationStep :=
  (lineage versions versions.length version).reverse.flatMap Revision.upgrade

/-- A version that `alembic_version` can record. -/
def KnownVersion (version : Option String) : Prop :=
  version = none ∨ version = some "ad02ee5908dd" ∨ version = some "c4a72f3b8d91"

/-- The store has the schema of a version, with rows that it allows. -/
def StandsAt (version : Option String) (store : MigratedStore) : Prop :=
  KnownVersion version ∧ AtRevision (upgradesTo version) store

/-- Runs of commands and of changes of rows, from an empty database. -/
abbrev MigrationRuns (history : List (RevisionEvent Instant String))
    (database : VersionedDatabase)
    : Prop :=
  Runs (migrating versions runScript ChangesRows) { store := emptyStore, version := none }
    history database

-----------------------------------------------------------------------------------------
-- The versions
-----------------------------------------------------------------------------------------

/-- The way from each version to the first one. -/
theorem versions_rooted {version : Option String} (known : KnownVersion version)
    : Rooted versions version := by
  have initial : Leads versions (some "ad02ee5908dd") [InitialSchema.revision] none :=
    .back List.mem_cons_self (.here none)
  rcases known with rfl | rfl | rfl
  · exact .here none
  · exact initial
  · exact .back (List.mem_cons_of_mem _ List.mem_cons_self) initial

theorem known_of_revision {id : String} (revision : revisionOf versions id ≠ none)
    : KnownVersion (some id) := by
  obtain ⟨found, same⟩ := Option.ne_none_iff_exists'.mp revision
  have named : found.id = id := by simpa using List.find?_some same
  rcases List.mem_pair.mp (List.mem_of_find?_eq_some same) with rfl | rfl
  · exact .inr (.inl (congrArg some named.symm))
  · exact .inr (.inr (congrArg some named.symm))

/-- Before the first revision there is nothing. -/
theorem standsAt_base {store : MigratedStore} (stands : StandsAt none store)
    : store = emptyStore := by
  have tables : store.tables = [] := (Except.ok.inj stands.2.schema).symm
  refine Store.ext tables (funext fun name => stands.2.valid.absent name ?_)
  rw [tables]
  nofun

theorem standsAt_initial_iff {store : MigratedStore}
    : StandsAt (some "ad02ee5908dd") store ↔ AtRevision InitialSchema.upgrade store := by
  have upgrades : upgradesTo (some "ad02ee5908dd") = InitialSchema.upgrade ++ [] := rfl
  rw [StandsAt, upgrades, List.append_nil]
  exact and_iff_right (.inr (.inl rfl))

/-- The one schema of `c4a72f3b8d91`. -/
theorem standsAt_humanAuth_iff {store : MigratedStore}
    : StandsAt (some "c4a72f3b8d91") store
      ↔ store.tables = editAll HumanAuthRbac.upgrade initialTables ∧ store.Valid admits := by
  have upgrades
      : upgradesTo (some "c4a72f3b8d91")
        = InitialSchema.upgrade ++ (HumanAuthRbac.upgrade ++ []) :=
    rfl
  have passes
      : passesAll (InitialSchema.upgrade ++ HumanAuthRbac.upgrade) [] = true := by
    rw [passesAll_append]
    exact Bool.and_eq_true_iff.mpr ⟨initialSchema_passes, upgrade_passes⟩
  have edited
      : editAll (InitialSchema.upgrade ++ HumanAuthRbac.upgrade) []
        = editAll HumanAuthRbac.upgrade initialTables :=
    List.foldl_append
  rw [StandsAt, upgrades, List.append_nil]
  constructor
  · intro stands
    exact ⟨((alterAll_ok_iff.mp stands.2.schema).2).trans edited, stands.2.valid⟩
  · intro ⟨tables, valid⟩
    exact ⟨.inr (.inr rfl), alterAll_ok_iff.mpr ⟨passes, tables.trans edited.symm⟩, valid⟩

/-- The scripts of both revisions lead from one version to the other. -/
theorem versions_migrate (now : Instant) : Migrates versions (runScript now) StandsAt where
  targets := fun _ revision => versions_rooted (known_of_revision revision)
  rooted := fun _ _ stands => versions_rooted stands.1
  up := by
    intro revision known store stands
    rcases List.mem_pair.mp known with rfl | rfl
    · obtain rfl := standsAt_base stands
      have upgrade
          : Succeeds (evaluate now) admits InitialSchema.upgrade emptyStore :=
        .unobstructed emptyStore_valid rfl initialSchema_passes
      exact ⟨_, upgrade, standsAt_initial_iff.mpr
        (atRevision_initial_iff.mpr ⟨resultAll_tables, upgrade.valid emptyStore_valid⟩)⟩
    · obtain ⟨tables, valid⟩ := atRevision_initial_iff.mp (standsAt_initial_iff.mp stands)
      have upgrade := upgrade_succeeds now tables valid
      refine ⟨_, upgrade, standsAt_humanAuth_iff.mpr ⟨?_, upgrade.valid valid⟩⟩
      rw [resultAll_tables, tables]
  down := by
    intro revision known store stands
    rcases List.mem_pair.mp known with rfl | rfl
    · have undone := initialSchema_rollback now store (standsAt_initial_iff.mp stands)
      exact ⟨emptyStore, undone, .inl rfl, rfl, emptyStore_valid⟩
    · obtain ⟨tables, valid⟩ := standsAt_humanAuth_iff.mp stands
      have downgrade := downgrade_succeeds now tables valid
      exact ⟨_, downgrade, standsAt_initial_iff.mpr
        (atRevision_initial_iff.mpr
          ⟨downgrade_result_tables now tables, downgrade.valid valid⟩)⟩

-----------------------------------------------------------------------------------------
-- Over runs
-----------------------------------------------------------------------------------------

/-- In every state of a run the database has the schema of the recorded version. -/
theorem MigrationRuns.stands {history : List (RevisionEvent Instant String)}
    {database : VersionedDatabase} (ran : MigrationRuns history database)
    : StandsAt database.version database.store := by
  refine Migrates.stands versions_migrate ?_ ?_ ran
  · rintro version before after ⟨known, revision⟩ ⟨tables, valid⟩
    exact ⟨known, tables ▸ revision.schema, valid⟩
  · exact ⟨.inl rfl, rfl, emptyStore_valid⟩

/-- An upgrade to a revision has a destination: the revision, or the version that is past it. -/
theorem upgrade_destination {version : Option String} {target : String}
    (known : KnownVersion version) (revision : KnownVersion (some target))
    : (RevisionCommand.upgrade target).destination versions version = some (some target)
      ∨ ((RevisionCommand.upgrade target).destination versions version = some version
        ∧ IsBehind versions version (some target)) := by
  rcases revision with none_ | target_ | target_
  · cases none_
  · obtain rfl := Option.some.inj target_
    rcases known with rfl | rfl | rfl
    all_goals
      simp [RevisionCommand.destination, IsBehind, lineage, revisionOf, versions,
        InitialSchema.revision, HumanAuthRbac.revision]
  · obtain rfl := Option.some.inj target_
    rcases known with rfl | rfl | rfl
    all_goals
      simp [RevisionCommand.destination, IsBehind, lineage, revisionOf, versions,
        InitialSchema.revision, HumanAuthRbac.revision]

/-- However a database is migrated up and down, with any changes of rows that its constraints
allow in between, its schema is the one of the recorded revision. An upgrade to a revision
succeeds, and so does a downgrade to any version on the way back, whatever rows are there; no
command is ever stopped by a script that fails.
-/
theorem migrations_keep_schema (history : List (RevisionEvent Instant String))
    (database : VersionedDatabase) (ran : MigrationRuns history database) (now : Instant)
    : AtRevision (upgradesTo database.version) database.store
      ∧ (∀ target, KnownVersion (some target)
          → ∃ after version,
              runMigrations now (.upgrade target) database
                = (.ok (), { store := after, version })
              ∧ AtRevision (upgradesTo version) after
              ∧ (version = some target
                ∨ version = database.version ∧ IsBehind versions version (some target)))
      ∧ (∀ target, IsBehind versions database.version target
          → ∃ after,
              runMigrations now (.downgrade target) database
                = (.ok (), { store := after, version := target })
              ∧ AtRevision (upgradesTo target) after)
      ∧ ∀ command error, (runMigrations now command database).1 ≠ .error (.failed error) := by
  have stands := ran.stands
  have performed := (versions_migrate now).perform stands
  refine ⟨stands.2, ?_, ?_, ?_⟩
  · intro target revision
    have done := performed (.upgrade target)
    rcases upgrade_destination stands.1 revision with there | ⟨stays, passed⟩
    · rw [there] at done
      obtain ⟨after, ran, standsAfter⟩ := done
      exact ⟨after, _, ran, standsAfter.2, .inl rfl⟩
    · rw [stays] at done
      obtain ⟨after, ran, standsAfter⟩ := done
      exact ⟨after, _, ran, standsAfter.2, .inr ⟨rfl, passed⟩⟩
  · intro target behind
    have done := performed (.downgrade target)
    rw [RevisionCommand.destination, if_pos behind] at done
    obtain ⟨after, ran, standsAfter⟩ := done
    exact ⟨after, ran, standsAfter.2⟩
  · intro command error failed
    have done := performed command
    cases destination : command.destination versions database.version with
    | some version =>
        rw [destination] at done
        obtain ⟨after, ran, _⟩ := done
        rw [runMigrations, ran] at failed
        cases failed
    | none =>
        rw [destination] at done
        obtain ⟨refusal, refused, unfailed⟩ := done
        rw [runMigrations, refused] at failed
        exact unfailed error (Except.error.inj failed)

/-- A database that was upgraded to the first revision and has come to hold a fleet since then. -/
theorem sampleStore_runs
    : MigrationRuns [.change, .command 0 (.upgrade "ad02ee5908dd")]
        { store := sampleStore, version := some "ad02ee5908dd" } := by
  have fleet
      : Succeeds (evaluate 0) admits (InitialSchema.upgrade ++ sampleFleet) emptyStore :=
    .of_isOk (by decide)
  have upgrade : Succeeds (evaluate 0) admits InitialSchema.upgrade emptyStore :=
    .unobstructed emptyStore_valid rfl initialSchema_passes
  have migrated
      : runMigrations 0 (.upgrade "ad02ee5908dd") { store := emptyStore, version := none }
        = (.ok (),
          {
            store := resultAll (evaluate 0) InitialSchema.upgrade emptyStore
            version := some "ad02ee5908dd"
          }) := by
    have scripts
        : (RevisionCommand.upgrade "ad02ee5908dd").scripts versions none
          = (.ok [(InitialSchema.upgrade, some "ad02ee5908dd")]
            : Except (RevisionError String Refusal) _) :=
      rfl
    simp only [runMigrations, RevisionCommand.perform, scripts, runScripts, runScript]
    rw [upgrade]
  refine .next (.next .start (congrArg Prod.snd migrated)) ⟨rfl, ?_, fleet.valid emptyStore_valid⟩
  rw [sampleStore, resultAll_tables, resultAll_tables]
  decide

/-- The fleet can be upgraded to the second revision, and all of it taken back. -/
theorem sampleStore_upgraded_and_back
    : ∃ upgraded after,
        runMigrations 1 (.upgrade "c4a72f3b8d91")
            { store := sampleStore, version := some "ad02ee5908dd" }
          = (.ok (), { store := upgraded, version := some "c4a72f3b8d91" })
        ∧ runMigrations 2 (.downgrade none)
            { store := upgraded, version := some "c4a72f3b8d91" }
          = (.ok (), { store := after, version := none }) := by
  obtain ⟨_, upgrades, _⟩ := migrations_keep_schema _ _ sampleStore_runs 1
  obtain ⟨upgraded, version, migrated, _, there | ⟨rfl, passed⟩⟩ :=
    upgrades "c4a72f3b8d91" (.inr (.inr rfl))
  · subst there
    obtain ⟨_, _, downgrades, _⟩ :=
      migrations_keep_schema (.command 1 (.upgrade "c4a72f3b8d91") :: _) _
        (.next sampleStore_runs (congrArg Prod.snd migrated)) 2
    obtain ⟨after, back, _⟩ := downgrades none (.inl rfl)
    exact ⟨upgraded, after, migrated, back⟩
  · simp [IsBehind, lineage, revisionOf, versions, InitialSchema.revision] at passed

end SpecterCloud.Migrations
