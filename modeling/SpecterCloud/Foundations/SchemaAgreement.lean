import SpecterCloud.Foundations.SchemaRuns
import Mathlib.Data.List.Perm.Basic

/-! Schemas that ask the same of their rows: tables of the same names with the same columns and
the same rules, each in any order, whatever their constraints are called and whatever indexes they
have. One holds the rows that the other holds, with the columns in its own order.
-/

namespace SpecterCloud.Foundations.Relational

variable {Ty Default Value : Type}

namespace Table

def rules (table : Table Ty Default Value) : List Rule := table.constraints.map Constraint.rule

/-- The tables ask the same of their rows. -/
structure Agrees (table other : Table Ty Default Value) : Prop where
  name : other.name = table.name
  columns : other.columns.Perm table.columns
  rules : other.rules.Perm table.rules

instance Agrees.decidable [DecidableEq Ty] [DecidableEq Default]
    (table other : Table Ty Default Value)
    : Decidable (table.Agrees other) :=
  decidable_of_iff
    (other.name = table.name ∧ other.columns.Perm table.columns ∧ other.rules.Perm table.rules)
    ⟨fun ⟨name, columns, rules⟩ => ⟨name, columns, rules⟩,
      fun ⟨name, columns, rules⟩ => ⟨name, columns, rules⟩⟩

theorem Agrees.symm {table other : Table Ty Default Value} (agrees : table.Agrees other)
    : other.Agrees table :=
  ⟨agrees.name.symm, agrees.columns.symm, agrees.rules.symm⟩

end Table

namespace Schema

/-- No two tables have one name, nor two columns of a table. -/
structure Distinct (schema : Schema Ty Default Value) : Prop where
  tables : schema.tableNames.Nodup
  columns : ∀ table ∈ schema, table.columnNames.Nodup

instance Distinct.decidable (schema : Schema Ty Default Value) : Decidable schema.Distinct :=
  decidable_of_iff
    (schema.tableNames.Nodup ∧ ∀ table ∈ schema, table.columnNames.Nodup)
    ⟨fun ⟨tables, columns⟩ => ⟨tables, columns⟩, fun ⟨tables, columns⟩ => ⟨tables, columns⟩⟩

/-- The schemas have tables that ask the same of their rows, and no others. -/
structure Agrees (schema other : Schema Ty Default Value) : Prop where
  into : ∀ table ∈ schema, ∃ same ∈ other, table.Agrees same
  back : ∀ same ∈ other, ∃ table ∈ schema, table.Agrees same
  distinct : schema.Distinct
  distinctOther : other.Distinct

instance Agrees.decidable [DecidableEq Ty] [DecidableEq Default]
    (schema other : Schema Ty Default Value)
    : Decidable (schema.Agrees other) :=
  decidable_of_iff
    ((∀ table ∈ schema, ∃ same ∈ other, table.Agrees same)
      ∧ (∀ same ∈ other, ∃ table ∈ schema, table.Agrees same)
      ∧ schema.Distinct ∧ other.Distinct)
    ⟨fun ⟨into, back, distinct, distinctOther⟩ => ⟨into, back, distinct, distinctOther⟩,
      fun ⟨into, back, distinct, distinctOther⟩ => ⟨into, back, distinct, distinctOther⟩⟩

theorem Agrees.symm {schema other : Schema Ty Default Value} (agrees : schema.Agrees other)
    : other.Agrees schema where
  into := by
    intro same stored
    obtain ⟨table, known, alike⟩ := agrees.back same stored
    exact ⟨table, known, alike.symm⟩
  back := by
    intro table stored
    obtain ⟨same, known, alike⟩ := agrees.into table stored
    exact ⟨same, known, alike.symm⟩
  distinct := agrees.distinctOther
  distinctOther := agrees.distinct

end Schema

/-- A row with its columns in another order. -/
def arrange (columns : List String) (row : Row Value) : Row Value :=
  columns.map (fun column => (column, valueOf row column))

/-- The rows of all tables with their columns in the order of a schema. -/
def Schema.arrangeRows (schema : Schema Ty Default Value) (rows : Rows Value) : Rows Value :=
  fun name =>
    match findBy Table.name name schema with
    | some table => (rows name).map (arrange table.columnNames)
    | none => []

-----------------------------------------------------------------------------------------
-- Rows in another order
-----------------------------------------------------------------------------------------

section Rows

variable {row : Row Value} {columns : List String} {name : String}

theorem valueOf_arrange (present : name ∈ columns)
    : valueOf (arrange columns row) name = valueOf row name := by
  rw [valueOf, arrange]
  induction columns with
  | nil => cases present
  | cons column rest ih =>
      rw [List.map_cons, List.lookup_cons]
      by_cases here : name = column
      · subst here
        simp
      · have missed : (name == column) = false := by simpa using here
        rw [missed]
        exact ih ((List.mem_cons.mp present).resolve_left here)

theorem arrange_names (columns : List String) (row : Row Value)
    : (arrange columns row).map Prod.fst = columns := by
  simp [arrange, Function.comp_def]

/-- A row that is arranged with all of its columns keeps every value. -/
theorem valueOf_arrange_all (within : row.map Prod.fst ⊆ columns)
    : valueOf (arrange columns row) name = valueOf row name := by
  by_cases present : name ∈ columns
  · exact valueOf_arrange present
  · rw [valueOf_absent fun shown => present (within shown), valueOf_absent]
    rwa [arrange_names]

/-- Every field of a row is found under its name. -/
theorem lookup_of_mem (distinct : (row.map Prod.fst).Nodup) {field : String × Option Value}
    (member : field ∈ row)
    : row.lookup field.1 = some field.2 := by
  induction row with
  | nil => cases member
  | cons head rest ih =>
      rw [List.map_cons, List.nodup_cons] at distinct
      rw [List.lookup_cons]
      rcases List.mem_cons.mp member with rfl | later
      · simp
      · have apart : field.1 ≠ head.1 :=
          fun same => distinct.1 (List.mem_map.mpr ⟨field, later, same⟩)
        have missed : (field.1 == head.1) = false := by simpa using apart
        rw [missed]
        exact ih distinct.2 later

/-- A row whose columns are in the order already stays as it is. -/
theorem arrange_self (ordered : row.map Prod.fst = columns) (distinct : columns.Nodup)
    : arrange columns row = row := by
  subst ordered
  rw [arrange, List.map_map]
  conv_rhs => rw [← List.map_id row]
  refine List.map_congr_left fun field member => ?_
  show (field.1, valueOf row field.1) = field
  rw [valueOf, lookup_of_mem distinct member]
  rfl

/-- There and back again. -/
theorem arrange_arrange {order : List String} (ordered : row.map Prod.fst = columns)
    (distinct : columns.Nodup) (within : columns ⊆ order)
    : arrange columns (arrange order row) = row := by
  have same : arrange columns (arrange order row) = arrange columns row :=
    List.map_congr_left fun column member => by rw [valueOf_arrange (within member)]
  rw [same, arrange_self ordered distinct]

end Rows

-----------------------------------------------------------------------------------------
-- Agreement
-----------------------------------------------------------------------------------------

section Agreement

variable {schema other : Schema Ty Default Value} {rows : Rows Value} {name : String}
  {admits : Ty → Value → Bool} {table same : Table Ty Default Value}

theorem Table.Agrees.columnNames (agrees : table.Agrees same)
    : same.columnNames.Perm table.columnNames :=
  agrees.columns.map Column.name

theorem Schema.arrangeRows_of_mem (distinct : schema.tableNames.Nodup) (stored : table ∈ schema)
    (rows : Rows Value)
    : schema.arrangeRows rows table.name
      = (rows table.name).map (arrange table.columnNames) := by
  rw [arrangeRows, (findBy_eq_some_iff distinct).mpr ⟨stored, rfl⟩]

theorem Schema.arrangeRows_of_absent (absent : name ∉ schema.tableNames) (rows : Rows Value)
    : schema.arrangeRows rows name = [] := by
  rw [arrangeRows, findBy_eq_none.mpr absent]

theorem Schema.Agrees.tableNames (agrees : schema.Agrees other)
    : name ∈ other.tableNames ↔ name ∈ schema.tableNames := by
  constructor
  · intro present
    obtain ⟨same, stored, rfl⟩ := List.mem_map.mp present
    obtain ⟨table, known, alike⟩ := agrees.back same stored
    exact List.mem_map.mpr ⟨table, known, alike.name.symm⟩
  · intro present
    obtain ⟨table, stored, rfl⟩ := List.mem_map.mp present
    obtain ⟨same, known, alike⟩ := agrees.into table stored
    exact List.mem_map.mpr ⟨same, known, alike.name⟩

/-- The other schema has the same keys in its order of the columns. -/
theorem Schema.Agrees.keysOf (agrees : schema.Agrees other)
    (valid : Store.Valid admits ⟨schema, rows⟩) (name : String) (columns : List String)
    : keysOf (other.arrangeRows rows) name columns = keysOf rows name columns := by
  by_cases present : name ∈ other.tableNames
  · obtain ⟨same, stored, rfl⟩ := List.mem_map.mp present
    obtain ⟨table, known, alike⟩ := agrees.back same stored
    rw [Relational.keysOf, arrangeRows_of_mem agrees.distinctOther.tables stored,
      List.map_map, Relational.keysOf]
    refine List.map_congr_left fun row member => keyOf_congr fun column _ => ?_
    refine valueOf_arrange_all ?_
    rw [(valid.meets table known).shape row (alike.name ▸ member)]
    exact alike.columnNames.symm.subset
  · have absent : rows name = [] := valid.absent name (mt agrees.tableNames.mpr present)
    rw [Relational.keysOf, arrangeRows_of_absent present, Relational.keysOf, absent]

/-- Contents that one schema allows are allowed by the other in its order of the columns, and
nothing of them is lost in it.
-/
theorem Schema.Agrees.valid (agrees : schema.Agrees other)
    (valid : Store.Valid admits ⟨schema, rows⟩)
    : Store.Valid admits ⟨other, other.arrangeRows rows⟩
      ∧ schema.arrangeRows (other.arrangeRows rows) = rows := by
  refine ⟨⟨?_, fun name absent => arrangeRows_of_absent absent rows⟩, ?_⟩
  · intro same stored
    obtain ⟨table, known, alike⟩ := agrees.back same stored
    have meets := valid.meets table known
    have arranged := arrangeRows_of_mem agrees.distinctOther.tables stored rows
    show same.Meets admits (other.arrangeRows rows)
    refine ⟨?_, ?_, ?_⟩
    · rw [arranged]
      exact List.forall_mem_map.mpr fun row _ => arrange_names _ row
    · rw [arranged]
      refine List.forall_mem_map.mpr fun row member column shown => ?_
      have present : column.name ∈ same.columnNames := List.mem_map_of_mem shown
      rw [valueOf_arrange present]
      exact meets.accepted row (alike.name ▸ member) column (alike.columns.subset shown)
    · intro constraint demanded
      obtain ⟨original, asked, rule⟩ :=
        List.mem_map.mp (alike.rules.subset (List.mem_map_of_mem demanded))
      have holds : constraint.rule.Holds rows same.name := by
        rw [alike.name, ← rule]
        exact meets.rules original asked
      refine holds.transfer (agrees.keysOf valid _ _) fun referent referred _ => ?_
      rw [agrees.keysOf valid]
      exact List.Subset.refl _
  · funext name
    by_cases present : name ∈ schema.tableNames
    · obtain ⟨table, stored, rfl⟩ := List.mem_map.mp present
      obtain ⟨same, known, alike⟩ := agrees.into table stored
      have arranged := arrangeRows_of_mem agrees.distinctOther.tables known rows
      rw [alike.name] at arranged
      rw [arrangeRows_of_mem agrees.distinct.tables stored, arranged, List.map_map]
      conv_rhs => rw [← List.map_id (rows table.name)]
      refine List.map_congr_left fun row member => ?_
      exact arrange_arrange ((valid.meets table stored).shape row member)
        (agrees.distinct.columns table stored) alike.columnNames.symm.subset
    · exact (arrangeRows_of_absent present _).trans (valid.absent name present).symm

end Agreement

end SpecterCloud.Foundations.Relational
