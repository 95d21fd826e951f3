import SpecterCloud.Foundations.SchemaRuns
import Mathlib.Data.List.Forall2

/-! Records of a type of its own in place of the rows of a table. A record shows the values of
some columns; what a table demands of its rows is then a demand on the records, and the columns
that no record shows have only to be accepted.
-/

namespace SpecterCloud.Foundations.Relational

variable {Ty Default Value α β K : Type}

/-- The fields that are there. -/
def present {Field : Type} (fields : List (String × Option Field)) : List (String × Field) :=
  fields.filterMap (fun field => field.2.map (fun value => (field.1, value)))

/-- How records show the columns of a table. -/
structure RecordType (α Value : Type) where
  columns : List String
  fields : α → Row Value
  names : ∀ record, (fields record).map Prod.fst = columns
  distinct : columns.Nodup

namespace RecordType

variable (type : RecordType α Value)

/-- The value that a record has in a column. -/
def value (record : α) (name : String) : Option Value := valueOf (type.fields record) name

/-- The row has the values of the record in its columns. -/
def Shows (row : Row Value) (record : α) : Prop :=
  ∀ name ∈ type.columns, valueOf row name = type.value record name

/-- The values of a record that are not NULL. -/
def given (record : α) : List (String × Value) := present (type.fields record)

variable (admits : Ty → Value → Bool)

/-- The columns of the table accept what the record shows. -/
def Accepted (table : Table Ty Default Value) (record : α) : Prop :=
  ∀ column ∈ table.columns, column.name ∈ type.columns
    → column.accepts admits (type.value record column.name) = true

/-- The rows of the table show the records, with values in the other columns that these accept.
-/
structure Carries (table : Table Ty Default Value) (rows : Rows Value) (records : List α)
    : Prop where
  shape : ∀ row ∈ rows table.name, row.map Prod.fst = table.columnNames
  shows : List.Forall₂ type.Shows (rows table.name) records
  others
    : ∀ row ∈ rows table.name, ∀ column ∈ table.columns, column.name ∉ type.columns
        → column.accepts admits (valueOf row column.name) = true

end RecordType

-----------------------------------------------------------------------------------------
-- Rows and records
-----------------------------------------------------------------------------------------

/-- Lists that are related element by element have their properties together. -/
theorem forall_mem_iff_of_forall₂ {left : List α} {right : List β} {p : α → Prop} {q : β → Prop}
    (related : List.Forall₂ (fun a b => p a ↔ q b) left right)
    : (∀ a ∈ left, p a) ↔ ∀ b ∈ right, q b := by
  induction related with
  | nil => simp
  | cons same _ ih => simp [same, ih]

namespace RecordType

variable {type : RecordType α Value} {admits : Ty → Value → Bool}
  {table : Table Ty Default Value} {rows : Rows Value} {records : List α}

/-- A table is met by rows whose records it accepts and whose rules hold. -/
theorem Carries.meets_iff (carries : type.Carries admits table rows records)
    : table.Meets admits rows
      ↔ (∀ record ∈ records, type.Accepted admits table record)
        ∧ ∀ constraint ∈ table.constraints, constraint.rule.Holds rows table.name := by
  have accepted
      : (∀ row ∈ rows table.name, ∀ column ∈ table.columns, column.name ∈ type.columns
          → column.accepts admits (valueOf row column.name) = true)
        ↔ ∀ record ∈ records, type.Accepted admits table record := by
    refine forall_mem_iff_of_forall₂ (carries.shows.imp fun row record shows => ?_)
    refine forall₂_congr fun column _ => forall_congr' fun shown => ?_
    rw [shows column.name shown]
  constructor
  · intro meets
    exact ⟨accepted.mp fun row stored column member _ => meets.accepted row stored column member,
      meets.rules⟩
  · intro ⟨ofRecords, rules⟩
    refine ⟨carries.shape, fun row stored column member => ?_, rules⟩
    by_cases shown : column.name ∈ type.columns
    · exact accepted.mpr ofRecords row stored column member shown
    · exact carries.others row stored column member shown

/-- The keys of the rows are those of the records. -/
theorem Carries.keysOf (carries : type.Carries admits table rows records)
    {columns : List String} (shown : columns ⊆ type.columns)
    : keysOf rows table.name columns
      = records.map (fun record => keyOf columns (type.fields record)) := by
  rw [Relational.keysOf, ← List.forall₂_eq_eq_eq, List.forall₂_map_left_iff,
    List.forall₂_map_right_iff]
  exact carries.shows.imp fun row record shows =>
    keyOf_congr fun column member => shows column (shown member)

end RecordType

-----------------------------------------------------------------------------------------
-- Keys of records
-----------------------------------------------------------------------------------------

/-- Columns that records show and that make up a key of theirs; it is written as a list of
values, unless one of the columns is NULL.
-/
structure RecordKey (type : RecordType α Value) (K : Type) where
  columns : List String
  shown : columns ⊆ type.columns
  key : α → Option K
  code : K → List Value
  injective : Function.Injective code
  keyOf_fields : ∀ record, keyOf columns (type.fields record) = (key record).map code

/-- A key of one column. -/
def RecordType.key (type : RecordType α Value) (name : String) (read : α → Option K)
    (write : K → Value) (injective : Function.Injective write) (shown : name ∈ type.columns)
    (reads : ∀ record, type.value record name = (read record).map write)
    : RecordKey type K where
  columns := [name]
  shown := List.cons_subset.mpr ⟨shown, List.nil_subset _⟩
  key := read
  code := fun k => [write k]
  injective := fun _ _ same => injective (List.cons.inj same).1
  keyOf_fields := by
    intro record
    have value : valueOf (type.fields record) name = (read record).map write := reads record
    cases key : read record <;> simp [keyOf, value, key, List.reduceOption]

namespace RecordKey

variable {type : RecordType α Value} {other : RecordType β Value} (key : RecordKey type K)
  {admits : Ty → Value → Bool} {table referent : Table Ty Default Value} {name : String}
  {rows : Rows Value} {records : List α} {others : List β}

/-- The keys of the rows are the keys of the records as they are written. -/
theorem keysOf_eq (carries : type.Carries admits table rows records)
    : keysOf rows table.name key.columns
      = (records.map key.key).map (Option.map key.code) := by
  rw [carries.keysOf key.shown, List.map_map]
  exact List.map_congr_left fun record _ => key.keyOf_fields record

section Total

variable {read : α → K} (total : ∀ record, key.key record = some (read record))
  (named : table.name = name) (carries : type.Carries admits table rows records)

include total named carries

/-- A key that no record lacks is a primary key if no two records have the same. -/
theorem primaryKey_iff
    : (Rule.primaryKey key.columns).Holds rows name ↔ (records.map read).Nodup := by
  subst named
  have keys : records.map key.key = (records.map read).map some := by
    rw [List.map_map]
    exact List.map_congr_left fun record _ => total record
  rw [Rule.Holds, key.keysOf_eq carries,
    List.nodup_map_iff (Option.map_injective key.injective), keys,
    List.nodup_map_iff (fun _ _ => Option.some.inj)]
  simp

theorem unique_iff : (Rule.unique key.columns).Holds rows name ↔ (records.map read).Nodup := by
  subst named
  have keys
      : ((records.map key.key).map (Option.map key.code)).reduceOption
        = (records.map read).map key.code := by
    rw [List.reduceOption, List.filterMap_map, List.filterMap_map, List.map_map,
      ← List.filterMap_eq_map]
    exact List.filterMap_congr fun record _ => by simp [total record]
  rw [Rule.Holds, key.keysOf_eq carries, keys, List.nodup_map_iff key.injective]

end Total

/-- References are references between the records, if both keys are written alike. -/
theorem foreignKey_iff (referred : RecordKey other K) {read : β → K} {referentName : String}
    (total : ∀ record, referred.key record = some (read record))
    (alike : referred.code = key.code) (onDelete : OnDelete) (named : table.name = name)
    (carries : type.Carries admits table rows records)
    (referentNamed : referent.name = referentName)
    (carriesOther : other.Carries admits referent rows others)
    : (Rule.foreignKey key.columns referentName referred.columns onDelete).Holds rows name
      ↔ ∀ record ∈ records, ∀ k, key.key record = some k → k ∈ others.map read := by
  subst named referentNamed
  have stored (k : K)
      : some (key.code k) ∈ (others.map referred.key).map (Option.map referred.code)
        ↔ k ∈ others.map read := by
    have keys : others.map referred.key = (others.map read).map some := by
      rw [List.map_map]
      exact List.map_congr_left fun record _ => total record
    rw [alike, keys]
    show Option.map key.code (some k) ∈ _ ↔ _
    rw [List.mem_map_of_injective (Option.map_injective key.injective),
      List.mem_map_of_injective (fun _ _ => Option.some.inj)]
  rw [Rule.Holds, key.keysOf_eq carries, referred.keysOf_eq carriesOther, List.map_map,
    List.forall_mem_map]
  refine forall₂_congr fun record _ => ?_
  cases read : key.key record with
  | none => simp [read]
  | some k => simpa [read] using stored k

end RecordKey

-----------------------------------------------------------------------------------------
-- Rows that are written
-----------------------------------------------------------------------------------------

/-- `SET` of some columns of a row. -/
def setRow (assignments row : Row Value) : Row Value :=
  row.map (fun field => (field.1, (assignments.lookup field.1).getD field.2))

section Writes

variable {type : RecordType α Value} {admits : Ty → Value → Bool}
  {table : Table Ty Default Value} {rows : Rows Value} {records : List α} {record : α}
  {evaluate : Default → Value} {name : String} {row assignments : Row Value}

theorem valueOf_setRow (present : name ∈ row.map Prod.fst)
    : valueOf (setRow assignments row) name
      = (assignments.lookup name).getD (valueOf row name) := by
  unfold valueOf setRow
  induction row with
  | nil => cases present
  | cons field rest ih =>
      rw [List.map_cons, List.lookup_cons, List.lookup_cons]
      by_cases here : name = field.1
      · subst here
        simp
      · have missed : (name == field.1) = false := by simpa using here
        rw [missed]
        exact ih ((List.mem_cons.mp present).resolve_left here)

/-- A field that is there is found as before. -/
theorem lookup_present {Field : Type} {fields : List (String × Option Field)}
    (distinct : (fields.map Prod.fst).Nodup) (name : String)
    : (present fields).lookup name = (fields.lookup name).join := by
  unfold present
  induction fields with
  | nil => rfl
  | cons field rest ih =>
      rw [List.map_cons, List.nodup_cons] at distinct
      obtain ⟨own, value⟩ := field
      rw [List.lookup_cons, List.filterMap_cons]
      by_cases here : name = own
      · subst here
        have absent : rest.lookup name = none := by
          rw [List.lookup_eq_none_iff]
          intro field member
          have apart : name ≠ field.1 :=
            fun same => distinct.1 (List.mem_map.mpr ⟨field, member, same.symm⟩)
          simpa using apart
        cases value with
        | none => simpa [absent] using ih distinct.2
        | some value => simp
      · have missed : (name == own) = false := by simpa using here
        cases value with
        | none => simpa [missed] using ih distinct.2
        | some value => simpa [List.lookup_cons, missed] using ih distinct.2

/-- No field of another name is found. -/
theorem lookup_present_absent {Field : Type} {fields : List (String × Option Field)}
    (absent : name ∉ fields.map Prod.fst)
    : (present fields).lookup name = none := by
  refine List.lookup_eq_none_iff.mpr fun entry member => ?_
  obtain ⟨field, stored, found⟩ := List.mem_filterMap.mp member
  obtain ⟨value, _, rfl⟩ := Option.map_eq_some_iff.mp found
  have apart : name ≠ field.1 := fun same => absent (same ▸ List.mem_map_of_mem stored)
  simpa using apart

namespace RecordType

/-- What is given of a record is what it shows. -/
theorem lookup_given (type : RecordType α Value) (record : α) (name : String)
    : (type.given record).lookup name = type.value record name :=
  lookup_present (type.names record ▸ type.distinct) name

variable {filler : List (String × Value)}

/-- Every record makes a row of the table, with a filler and the defaults of the table in the
columns that it does not show.
-/
structure Fills (type : RecordType α Value) (admits : Ty → Value → Bool)
    (evaluate : Default → Value) (table : Table Ty Default Value)
    (filler : List (String × Value))
    : Prop where
  present : type.columns ⊆ table.columnNames
  distinct : table.columnNames.Nodup
  undefaulted
    : ∀ record, ∀ column ∈ table.columns, column.name ∈ type.columns
        → type.value record column.name = none → column.serverDefault = none
  unshown : ∀ name ∈ type.columns, filler.lookup name = none
  accepted
    : ∀ column ∈ table.columns, column.name ∉ type.columns
        → column.accepts admits
            ((filler.lookup column.name).or (column.serverDefault.map evaluate))
          = true

/-- The row that is made of a record. -/
def made (type : RecordType α Value) (evaluate : Default → Value)
    (table : Table Ty Default Value) (filler : List (String × Value)) (record : α)
    : Row Value :=
  fillRow evaluate table.columns (type.given record ++ filler)

/-- A column of the row has what is given for it, or its default. -/
theorem Fills.valueOf_made (fills : type.Fills admits evaluate table filler)
    {column : Column Ty Default} (member : column ∈ table.columns)
    : valueOf (type.made evaluate table filler record) column.name
      = ((type.value record column.name).or (filler.lookup column.name)).or
          (column.serverDefault.map evaluate) := by
  have found : findBy Column.name column.name table.columns = some column :=
    (findBy_eq_some_iff fills.distinct).mpr ⟨member, rfl⟩
  rw [made, valueOf_fillRow, found, List.lookup_append, lookup_given]
  rfl

theorem Fills.shows_made (fills : type.Fills admits evaluate table filler)
    : type.Shows (type.made evaluate table filler record) record := by
  intro name shown
  obtain ⟨column, member, rfl⟩ := List.mem_map.mp (fills.present shown)
  rw [fills.valueOf_made member, fills.unshown _ shown, Option.or_none]
  cases read : type.value record column.name with
  | none => simp [fills.undefaulted record column member shown read]
  | some value => rfl

theorem made_names
    : (type.made evaluate table filler record).map Prod.fst = table.columnNames := by
  simp [made, fillRow, Table.columnNames, Function.comp_def]

/-- A column that a record does not show has no value in it. -/
theorem value_unshown (type : RecordType α Value) (record : α) (hidden : name ∉ type.columns)
    : type.value record name = none :=
  valueOf_absent (type.names record ▸ hidden)

theorem Fills.accepts_made (fills : type.Fills admits evaluate table filler)
    {column : Column Ty Default} (member : column ∈ table.columns)
    (hidden : column.name ∉ type.columns)
    : column.accepts admits (valueOf (type.made evaluate table filler record) column.name)
      = true := by
  rw [fills.valueOf_made member, type.value_unshown record hidden, Option.none_or]
  exact fills.accepted column member hidden

/-- The rows that are made of records carry them. -/
theorem Fills.carries (fills : type.Fills admits evaluate table filler)
    (same : rows table.name = records.map (type.made evaluate table filler))
    : type.Carries admits table rows records where
  shape := by
    rw [same]
    exact List.forall_mem_map.mpr fun _ _ => made_names
  shows := by
    rw [same, List.forall₂_map_left_iff, List.forall₂_same]
    exact fun _ _ => fills.shows_made
  others := by
    rw [same]
    exact List.forall_mem_map.mpr fun _ _ _ member hidden => fills.accepts_made member hidden

/-- One more row is made of one more record. -/
theorem Carries.insert (carries : type.Carries admits table rows records)
    (fills : type.Fills admits evaluate table filler) (record : α)
    : type.Carries admits table
        (Function.update rows table.name
          (rows table.name ++ [type.made evaluate table filler record]))
        (records ++ [record]) where
  shape := by
    rw [Function.update_self]
    exact List.forall_mem_append.mpr
      ⟨carries.shape, List.forall_mem_singleton.mpr made_names⟩
  shows := by
    rw [Function.update_self]
    exact List.rel_append carries.shows (.cons fills.shows_made .nil)
  others := by
    rw [Function.update_self]
    refine List.forall_mem_append.mpr ⟨carries.others, List.forall_mem_singleton.mpr ?_⟩
    exact fun _ member hidden => fills.accepts_made member hidden

/-- The rows with their columns beside the records that they show. -/
theorem Carries.shaped (carries : type.Carries admits table rows records)
    : List.Forall₂
        (fun row record => row.map Prod.fst = table.columnNames ∧ type.Shows row record)
        (rows table.name) records :=
  (List.forall₂_and_left _ _).mpr ⟨carries.shape, carries.shows⟩

/-- Rows that are written where they show records to be rewritten. -/
theorem Carries.update {matching : Row Value → Bool} {matches_ : α → Bool} {change : α → α}
    (carries : type.Carries admits table rows records)
    (alike : ∀ row record, type.Shows row record → matching row = matches_ record)
    (written
      : ∀ row record, row.map Prod.fst = table.columnNames → type.Shows row record
          → type.Shows (setRow assignments row) (change record))
    (within : ∀ name, name ∉ type.columns → assignments.lookup name = none)
    : type.Carries admits table
        (Function.update rows table.name
          (rewriteWhere matching (setRow assignments) (rows table.name)))
        (rewriteWhere matches_ change records) where
  shape := by
    rw [Function.update_self]
    intro row member
    obtain ⟨old, stored, rfl⟩ := mem_rewriteWhere.mp member
    have kept : (setRow assignments old).map Prod.fst = old.map Prod.fst := by
      simp [setRow, Function.comp_def]
    split
    · exact kept.trans (carries.shape old stored)
    · exact carries.shape old stored
  shows := by
    rw [Function.update_self, rewriteWhere, rewriteWhere, List.forall₂_map_left_iff,
      List.forall₂_map_right_iff]
    refine carries.shaped.imp fun row record both => ?_
    obtain ⟨shape, shows⟩ := both
    rw [alike row record shows]
    split
    · exact written row record shape shows
    · exact shows
  others := by
    rw [Function.update_self]
    intro row member column known hidden
    obtain ⟨old, stored, rfl⟩ := mem_rewriteWhere.mp member
    have accepted := carries.others old stored column known hidden
    split
    · have present : column.name ∈ old.map Prod.fst :=
        carries.shape old stored ▸ List.mem_map_of_mem known
      rw [valueOf_setRow present, within column.name hidden]
      exact accepted
    · exact accepted

/-- Rows that are rewritten when their table is changed. -/
theorem Carries.mapped {other : RecordType β Value} {changed : Table Ty Default Value}
    {after : Rows Value} {rewrite : Row Value → Row Value} {convert : α → β}
    (carries : type.Carries admits table rows records)
    (same : after changed.name = (rows table.name).map rewrite)
    (shape
      : ∀ row, row.map Prod.fst = table.columnNames
        → (rewrite row).map Prod.fst = changed.columnNames)
    (shows
      : ∀ row record, row.map Prod.fst = table.columnNames → type.Shows row record
        → other.Shows (rewrite row) (convert record))
    (others
      : ∀ row, row.map Prod.fst = table.columnNames
        → ∀ column ∈ changed.columns, column.name ∉ other.columns
          → (column ∈ table.columns ∧ column.name ∉ type.columns
              ∧ valueOf (rewrite row) column.name = valueOf row column.name)
            ∨ column.accepts admits (valueOf (rewrite row) column.name) = true)
    : other.Carries admits changed after (records.map convert) where
  shape := by
    rw [same]
    exact List.forall_mem_map.mpr fun row stored => shape row (carries.shape row stored)
  shows := by
    rw [same, List.forall₂_map_left_iff, List.forall₂_map_right_iff]
    exact carries.shaped.imp fun row record both => shows row record both.1 both.2
  others := by
    rw [same]
    refine List.forall_mem_map.mpr fun row stored column known hidden => ?_
    rcases others row (carries.shape row stored) column known hidden with kept | accepted
    · rw [kept.2.2]
      exact carries.others row stored column kept.1 kept.2.1
    · exact accepted

/-- A table without rows carries no records. -/
theorem Carries.of_empty (empty : rows table.name = []) : type.Carries admits table rows [] where
  shape := by simp [empty]
  shows := empty ▸ .nil
  others := by simp [empty]

/-- A table carries what it did if its rows are the same. -/
theorem Carries.congr {after : Rows Value} (carries : type.Carries admits table rows records)
    (same : after table.name = rows table.name)
    : type.Carries admits table after records :=
  ⟨same ▸ carries.shape, same ▸ carries.shows, same ▸ carries.others⟩

/-- Other tables carry what they did. -/
theorem Carries.untouched {changed : String} {written : List (Row Value)}
    (carries : type.Carries admits table rows records) (apart : table.name ≠ changed)
    : type.Carries admits table (Function.update rows changed written) records :=
  carries.congr (Function.update_of_ne apart _ _)

end RecordType

section Inserts

variable [DecidableEq Ty] {store : Store Ty Default Value}

/-- What is given of a record can be inserted into a table that has its columns. -/
theorem RecordType.insert_passes (stored : table ∈ store.tables)
    (shown : type.columns ⊆ table.columnNames) (record : α)
    : (Operation.bulkInsert table.name [type.given record]).passes store.tables = true := by
  have columns
      : Schema.hasColumns store.tables table.name ((type.given record).map Prod.fst)
        = true := by
    refine Schema.hasColumns_true stored rfl fun column member => shown ?_
    obtain ⟨entry, given, rfl⟩ := List.mem_map.mp member
    by_contra hidden
    have unfound : (type.given record).lookup entry.1 = none :=
      (type.lookup_given record entry.1).trans (type.value_unshown record hidden)
    exact absurd (List.lookup_eq_none_iff.mp unfound entry given) (by simp)
  have there : Schema.hasTable store.tables table.name = true :=
    Schema.hasTable_iff.mpr (List.mem_map_of_mem stored)
  simp [Operation.passes, Operation.checks, there, columns]

/-- An operation that passes its checks fails only by the rows. -/
theorem Operation.apply_of_passes [DecidableEq Value] {operation : Operation Ty Default Value}
    (passes : operation.passes store.tables = true)
    : operation.apply evaluate admits store
      = if (operation.result evaluate store).meets admits
        then .ok (operation.result evaluate store) else .error .constraintViolation := by
  unfold apply
  rw [alter_ok_iff.mpr ⟨passes, rfl⟩]
  rfl

end Inserts

end Writes

end SpecterCloud.Foundations.Relational
