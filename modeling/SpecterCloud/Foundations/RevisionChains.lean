import Mathlib.Data.List.TakeWhile
import SpecterCloud.Foundations.Runs

/-! Stores that are moved along a chain of revisions by commands, each in one transaction, while
their contents change in between. A revision names the one before it, and has a script for the
way there and one for the way back.
-/

namespace SpecterCloud.Foundations

variable {Id Script Store Err : Type}

structure Revision (Id Script : Type) where
  id : Id
  downRevision : Option Id
  upgrade : Script
  downgrade : Script

/-- A store with the revision that it records, which is none before the first one. -/
structure Versioned (Id Store : Type) where
  store : Store
  version : Option Id

/-- A move to a revision, or all the way back. -/
inductive RevisionCommand (Id : Type)
  | upgrade (target : Id)
  | downgrade (target : Option Id)

/-- Why a command is not carried out: its target is no revision, or not on the way, or a script
has failed.
-/
inductive RevisionError (Id Err : Type)
  | unknown (target : Id)
  | offTheWay (target : Option Id)
  | failed (error : Err)

-----------------------------------------------------------------------------------------
-- Ways
-----------------------------------------------------------------------------------------

section Ways

variable [DecidableEq Id] (revisions : List (Revision Id Script))

def revisionOf (id : Id) : Option (Revision Id Script) :=
  revisions.find? (fun revision => revision.id = id)

/-- The revisions from a version back to the first one, at most `fuel` of them. -/
def lineage : Nat → Option Id → List (Revision Id Script)
  | _, none => []
  | 0, some _ => []
  | fuel + 1, some id =>
      match revisionOf revisions id with
      | none => []
      | some revision => revision :: lineage fuel revision.downRevision

/-- The revisions from one version back to another, without the latter. -/
def wayBack (newer older : Option Id) : List (Revision Id Script) :=
  (lineage revisions revisions.length newer).takeWhile (fun revision => some revision.id ≠ older)

/-- The older version is on the way back from the newer one. -/
def IsBehind (newer older : Option Id) : Prop :=
  older = none
  ∨ ∃ revision ∈ lineage revisions revisions.length newer, some revision.id = older

instance IsBehind.decidable (newer older : Option Id)
    : Decidable (IsBehind revisions newer older) :=
  inferInstanceAs (Decidable (_ ∨ ∃ revision ∈ _, _))

/-- The scripts of a command in their order, each with the version that is recorded after it. -/
def RevisionCommand.scripts (version : Option Id)
    : RevisionCommand Id → Except (RevisionError Id Err) (List (Script × Option Id))
  | upgrade target =>
      if revisionOf revisions target = none then
        .error (.unknown target)
      else if IsBehind revisions (some target) version then
        .ok
          ((wayBack revisions (some target) version).reverse.map
            (fun revision => (revision.upgrade, some revision.id)))
      else if IsBehind revisions version (some target) then
        .ok []
      else
        .error (.offTheWay (some target))
  | downgrade target =>
      if IsBehind revisions version target then
        .ok
          ((wayBack revisions version target).map
            (fun revision => (revision.downgrade, revision.downRevision)))
      else
        .error (.offTheWay target)

end Ways

/-- Scripts one after another, with the versions that they record. -/
def runScripts (run : Script → Store → Except Err Store)
    : List (Script × Option Id) → Versioned Id Store → Except Err (Versioned Id Store)
  | [], state => .ok state
  | (script, version) :: rest, state =>
      match run script state.store with
      | .error error => .error error
      | .ok store => runScripts run rest { store, version }

/-- A command in one transaction: all of its scripts, or none of them. -/
def RevisionCommand.perform [DecidableEq Id] (revisions : List (Revision Id Script))
    (run : Script → Store → Except Err Store) (command : RevisionCommand Id)
    (state : Versioned Id Store)
    : Except (RevisionError Id Err) Unit × Versioned Id Store :=
  match command.scripts revisions state.version with
  | .error error => (.error error, state)
  | .ok scripts =>
      match runScripts run scripts state with
      | .error error => (.error (.failed error), state)
      | .ok after => (.ok (), after)

-----------------------------------------------------------------------------------------
-- Ways lead where they should
-----------------------------------------------------------------------------------------

/-- The revisions lead from the newer version back to the older one. -/
inductive Leads (revisions : List (Revision Id Script))
    : Option Id → List (Revision Id Script) → Option Id → Prop
  | here (version : Option Id) : Leads revisions version [] version
  | back {revision : Revision Id Script} {rest : List (Revision Id Script)} {older : Option Id}
      (known : revision ∈ revisions) (onward : Leads revisions revision.downRevision rest older)
      : Leads revisions (some revision.id) (revision :: rest) older

section Leads

variable [DecidableEq Id] {revisions : List (Revision Id Script)}

/-- The lineage of a version, cut off at an older one in it, leads there. -/
theorem leads_takeWhile (fuel : Nat) (newer older : Option Id)
    (behind : ∃ revision ∈ lineage revisions fuel newer, some revision.id = older)
    : Leads revisions newer
        ((lineage revisions fuel newer).takeWhile (fun revision => some revision.id ≠ older))
        older := by
  induction fuel generalizing newer with
  | zero =>
      obtain ⟨revision, member, _⟩ := behind
      cases newer <;> cases member
  | succ fuel ih =>
      cases newer with
      | none =>
          obtain ⟨revision, member, _⟩ := behind
          cases member
      | some id =>
          cases found : revisionOf revisions id with
          | none =>
              obtain ⟨revision, member, _⟩ := behind
              simp [lineage, found] at member
          | some first =>
              have named : first.id = id := by
                simpa using List.find?_some found
              simp only [lineage, found] at behind ⊢
              by_cases here : some first.id = older
              · rw [List.takeWhile_cons_of_neg (by simpa using here), ← here, named]
                exact .here _
              · rw [List.takeWhile_cons_of_pos (by simpa using here), ← named]
                refine .back (List.mem_of_find?_eq_some found) (ih _ ?_)
                obtain ⟨revision, member, same⟩ := behind
                rcases List.mem_cons.mp member with rfl | later
                · exact absurd same here
                · exact ⟨revision, later, same⟩

/-- The lineage of the version leads all the way back. -/
def Rooted (revisions : List (Revision Id Script)) (version : Option Id) : Prop :=
  Leads revisions version (lineage revisions revisions.length version) none

/-- The way back leads from the newer version to the older one. -/
theorem wayBack_leads {newer older : Option Id} (rooted : Rooted revisions newer)
    (behind : IsBehind revisions newer older)
    : Leads revisions newer (wayBack revisions newer older) older := by
  rcases behind with rfl | behind
  · have whole
        : wayBack revisions newer none = lineage revisions revisions.length newer :=
      List.takeWhile_eq_self_iff.mpr (by simp)
    rw [whole]
    exact rooted
  · exact leads_takeWhile revisions.length newer older behind

end Leads

-----------------------------------------------------------------------------------------
-- Runs
-----------------------------------------------------------------------------------------

/-- What is known of stores at each version: the scripts lead from one version to the next, and
every version leads all the way back.
-/
structure Migrates [DecidableEq Id] (revisions : List (Revision Id Script))
    (run : Script → Store → Except Err Store) (standsAt : Option Id → Store → Prop)
    : Prop where
  targets : ∀ id, revisionOf revisions id ≠ none → Rooted revisions (some id)
  rooted : ∀ version store, standsAt version store → Rooted revisions version
  up
    : ∀ revision ∈ revisions, ∀ store, standsAt revision.downRevision store
      → ∃ after, run revision.upgrade store = .ok after ∧ standsAt (some revision.id) after
  down
    : ∀ revision ∈ revisions, ∀ store, standsAt (some revision.id) store
      → ∃ after, run revision.downgrade store = .ok after ∧ standsAt revision.downRevision after

section Walks

variable [DecidableEq Id] {revisions : List (Revision Id Script)} {run : Script → Store → Except Err Store}
  {standsAt : Option Id → Store → Prop} {newer older : Option Id}
  {way : List (Revision Id Script)}

omit [DecidableEq Id] in
theorem runScripts_append (first second : List (Script × Option Id)) (state : Versioned Id Store)
    : runScripts run (first ++ second) state = (runScripts run first state).bind (runScripts run second) := by
  induction first generalizing state with
  | nil => rfl
  | cons entry rest ih =>
      obtain ⟨script, version⟩ := entry
      simp only [List.cons_append, runScripts]
      cases run script state.store with
      | error error => rfl
      | ok store => exact ih _

/-- Every script on the way back succeeds, by induction on the way. -/
theorem Migrates.runs_back (migrates : Migrates revisions run standsAt)
    (leads : Leads revisions newer way older) {store : Store} (stands : standsAt newer store)
    : ∃ after,
        runScripts run
            (way.map (fun revision => (revision.downgrade, revision.downRevision)))
            { store, version := newer }
          = .ok { store := after, version := older }
        ∧ standsAt older after := by
  induction leads generalizing store with
  | here version => exact ⟨store, rfl, stands⟩
  | back known _ ih =>
      obtain ⟨middle, ran, standsMiddle⟩ := migrates.down _ known store stands
      obtain ⟨after, walked, standsAfter⟩ := ih standsMiddle
      refine ⟨after, ?_, standsAfter⟩
      rw [List.map_cons, runScripts, ran]
      exact walked

/-- So does every script on the way there. -/
theorem Migrates.runs_there (migrates : Migrates revisions run standsAt)
    (leads : Leads revisions newer way older) {store : Store} (stands : standsAt older store)
    : ∃ after,
        runScripts run
            (way.reverse.map (fun revision => (revision.upgrade, some revision.id)))
            { store, version := older }
          = .ok { store := after, version := newer }
        ∧ standsAt newer after := by
  induction leads with
  | here version => exact ⟨store, rfl, stands⟩
  | @back revision rest older known _ ih =>
      obtain ⟨middle, walked, standsMiddle⟩ := ih stands
      obtain ⟨after, ran, standsAfter⟩ := migrates.up revision known middle standsMiddle
      refine ⟨after, ?_, standsAfter⟩
      rw [List.reverse_cons, List.map_append, runScripts_append, walked]
      simp only [Except.bind, List.map_cons, List.map_nil, runScripts, ran]

end Walks

section Commands

variable [DecidableEq Id] {revisions : List (Revision Id Script)}
  {run : Script → Store → Except Err Store} {standsAt : Option Id → Store → Prop}
  {state : Versioned Id Store}

/-- The version that a command leads to, if it can be carried out. An upgrade to a revision that
has been passed already stays where it is.
-/
def RevisionCommand.destination (revisions : List (Revision Id Script)) (version : Option Id)
    : RevisionCommand Id → Option (Option Id)
  | upgrade target =>
      if revisionOf revisions target = none then
        none
      else if IsBehind revisions (some target) version then
        some (some target)
      else if IsBehind revisions version (some target) then
        some version
      else
        none
  | downgrade target => if IsBehind revisions version target then some target else none

/-- A command that has a destination succeeds and leads there. Any other is refused before a
script runs, and changes nothing.
-/
theorem Migrates.perform (migrates : Migrates revisions run standsAt)
    (stands : standsAt state.version state.store) (command : RevisionCommand Id)
    : match command.destination revisions state.version with
      | none =>
          ∃ error,
            command.perform revisions run state = (.error error, state)
            ∧ ∀ failure, error ≠ .failed failure
      | some version =>
          ∃ after,
            command.perform revisions run state = (.ok (), { store := after, version })
            ∧ standsAt version after := by
  cases command with
  | upgrade target =>
      simp only [RevisionCommand.destination, RevisionCommand.perform, RevisionCommand.scripts]
      by_cases unknown : revisionOf revisions target = none
      · simp only [unknown, if_true]
        exact ⟨_, rfl, nofun⟩
      by_cases ahead : IsBehind revisions (some target) state.version
      · obtain ⟨after, walked, standsAfter⟩ :=
          migrates.runs_there (wayBack_leads (migrates.targets target unknown) ahead) stands
        simp only [unknown, ahead, if_true, if_false]
        exact ⟨after, by rw [walked], standsAfter⟩
      by_cases passed : IsBehind revisions state.version (some target)
      · simp only [unknown, ahead, passed, if_true, if_false]
        exact ⟨state.store, rfl, stands⟩
      · simp only [unknown, ahead, passed, if_false]
        exact ⟨_, rfl, nofun⟩
  | downgrade target =>
      simp only [RevisionCommand.destination, RevisionCommand.perform, RevisionCommand.scripts]
      by_cases behind : IsBehind revisions state.version target
      · obtain ⟨after, walked, standsAfter⟩ :=
          migrates.runs_back (wayBack_leads (migrates.rooted _ _ stands) behind) stands
        simp only [behind, if_true]
        exact ⟨after, by rw [walked], standsAfter⟩
      · simp only [behind, if_false]
        exact ⟨_, rfl, nofun⟩

/-- A command in a transaction of its own, or a change of the contents. -/
inductive RevisionEvent (Time Id : Type)
  | command (now : Time) (command : RevisionCommand Id)
  | change

/-- The steps of a store that is migrated and used. -/
def migrating {Time : Type} (revisions : List (Revision Id Script))
    (run : Time → Script → Store → Except Err Store) (changes : Store → Store → Prop)
    (_ : List (RevisionEvent Time Id)) (state : Versioned Id Store)
    : RevisionEvent Time Id → Versioned Id Store → Prop
  | .command now command, after => (command.perform revisions (run now) state).2 = after
  | .change, after => after.version = state.version ∧ changes state.store after.store

/-- In every state of a run the store is what its recorded version says, by induction on the run
with one case for a command and one for a change.
-/
theorem Migrates.stands {Time : Type} {run : Time → Script → Store → Except Err Store}
    {changes : Store → Store → Prop} (migrates : ∀ now, Migrates revisions (run now) standsAt)
    (kept
      : ∀ version before after, standsAt version before → changes before after
        → standsAt version after)
    {initial : Versioned Id Store} (start : standsAt initial.version initial.store)
    {history : List (RevisionEvent Time Id)}
    (ran : Runs (migrating revisions run changes) initial history state)
    : standsAt state.version state.store := by
  refine Runs.invariant (fun _ state => standsAt state.version state.store) start ?_ ran
  intro history state event after _ stands stepped
  cases event with
  | command now command =>
      have performed := (migrates now).perform stands command
      obtain rfl : (command.perform revisions (run now) state).2 = after := stepped
      cases destination : command.destination revisions state.version with
      | none =>
          rw [destination] at performed
          obtain ⟨error, refused, _⟩ := performed
          rw [refused]
          exact stands
      | some version =>
          rw [destination] at performed
          obtain ⟨after, done, standsAfter⟩ := performed
          rw [done]
          exact standsAfter
  | change =>
      obtain ⟨same, changed⟩ := stepped
      rw [same]
      exact kept _ _ _ stands changed

end Commands

end SpecterCloud.Foundations
