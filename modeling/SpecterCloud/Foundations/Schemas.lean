import SpecterCloud.Foundations.KeyedRows
import Mathlib.Data.List.ReduceOption

/-! Relational schemas and the rows that they allow. The types, the values and the defaults of
columns are parameters. What a sequence stands at is no part of the rows: a serial column is
given its values.
-/

namespace SpecterCloud.Foundations.Relational

variable {Ty Default Value : Type}

/-- A column. A serial one owns a sequence. -/
structure Column (Ty Default : Type) where
  name : String
  type : Ty
  nullable : Bool
  serverDefault : Option Default
  serial : Bool
deriving DecidableEq

/-- What happens to a row whose referred row is deleted. -/
inductive OnDelete
  | noAction
  | restrict
  | cascade
  | setNull
deriving DecidableEq

/-- What a constraint demands of the rows of its table. -/
inductive Rule
  | primaryKey (columns : List String)
  | unique (columns : List String)
  | foreignKey (columns : List String) (referent : String) (referred : List String)
      (onDelete : OnDelete)
deriving DecidableEq

structure Constraint where
  name : String
  rule : Rule
deriving DecidableEq

/-- The condition of a partial index. -/
inductive IndexCondition (Value : Type)
  | isNull (column : String)
  | equals (column : String) (value : Value)
deriving DecidableEq

/-- An index that is not unique, so that it demands nothing of the rows. -/
structure Index (Value : Type) where
  name : String
  columns : List String
  condition : Option (IndexCondition Value)
deriving DecidableEq

structure Table (Ty Default Value : Type) where
  name : String
  columns : List (Column Ty Default)
  constraints : List Constraint
  indexes : List (Index Value)
deriving DecidableEq

/-- The tables of a database in the order of their creation. -/
abbrev Schema (Ty Default Value : Type) := List (Table Ty Default Value)

-----------------------------------------------------------------------------------------
-- Names
-----------------------------------------------------------------------------------------

/-- The columns of the table that the rule is about. -/
def Rule.columns : Rule → List String
  | primaryKey columns => columns
  | unique columns => columns
  | foreignKey columns _ _ _ => columns

/-- The table and the columns that a foreign key refers to. -/
def Rule.reference : Rule → Option (String × List String)
  | foreignKey _ referent referred _ => some (referent, referred)
  | _ => none

/-- A rule whose columns foreign keys may refer to; it has an index of its own. -/
def Rule.isKey : Rule → Bool
  | foreignKey _ _ _ _ => false
  | _ => true

def Rule.isPrimaryKey : Rule → Bool
  | primaryKey _ => true
  | _ => false

/-- The column that a condition reads. -/
def IndexCondition.column : IndexCondition Value → String
  | isNull column => column
  | equals column _ => column

/-- The columns that an index reads. -/
def Index.read (index : Index Value) : List String :=
  index.columns ++ (index.condition.map IndexCondition.column).toList

namespace Table

def columnNames (table : Table Ty Default Value) : List String := table.columns.map Column.name

/-- The names of the indexes that constraints have. -/
def keyNames (table : Table Ty Default Value) : List String :=
  (table.constraints.filter (fun constraint => constraint.rule.isKey)).map Constraint.name

/-- The name of the sequence of a serial column. -/
def sequenceName (table : String) (column : Column Ty Default) : String :=
  table ++ "_" ++ column.name ++ "_seq"

/-- The names that the table takes among all tables, indexes and sequences. -/
def relationNames (table : Table Ty Default Value) : List String :=
  table.name :: table.keyNames ++ table.indexes.map Index.name
    ++ (table.columns.filter Column.serial).map (sequenceName table.name)

/-- The types of some columns. -/
def typesOf (table : Table Ty Default Value) (columns : List String) : List (Option Ty) :=
  columns.map (fun name => (findBy Column.name name table.columns).map Column.type)

end Table

namespace Schema

def tableNames (schema : Schema Ty Default Value) : List String := schema.map Table.name

def relationNames (schema : Schema Ty Default Value) : List String :=
  schema.flatMap Table.relationNames

end Schema

-----------------------------------------------------------------------------------------
-- Rows
-----------------------------------------------------------------------------------------

/-- The columns of a table in their order, each with its value unless it is NULL. -/
abbrev Row (Value : Type) := List (String × Option Value)

/-- The rows of each table. -/
abbrev Rows (Value : Type) := String → List (Row Value)

/-- The value of a column, unless it is NULL. -/
def valueOf (row : Row Value) (column : String) : Option Value := (row.lookup column).join

/-- The values of some columns, unless one of them is NULL. -/
def keyOf (columns : List String) (row : Row Value) : Option (List Value) :=
  let values := columns.map (valueOf row)
  if values.all Option.isSome then some values.reduceOption else none

/-- The keys of a table's rows. -/
def keysOf (rows : Rows Value) (table : String) (columns : List String)
    : List (Option (List Value)) :=
  (rows table).map (keyOf columns)

/-- The rows of the table obey the rule. A row with a NULL in a foreign key refers to nothing. -/
def Rule.Holds (rows : Rows Value) (table : String) : Rule → Prop
  | primaryKey columns =>
      none ∉ keysOf rows table columns ∧ (keysOf rows table columns).Nodup
  | unique columns => (keysOf rows table columns).reduceOption.Nodup
  | foreignKey columns referent referred _ =>
      ∀ key ∈ keysOf rows table columns, key ≠ none → key ∈ keysOf rows referent referred

instance [DecidableEq Value] (rows : Rows Value) (table : String) (rule : Rule)
    : Decidable (rule.Holds rows table) :=
  match rule with
  | .primaryKey columns =>
      inferInstanceAs
        (Decidable
          (none ∉ keysOf rows table columns ∧ (keysOf rows table columns).Nodup))
  | .unique columns =>
      inferInstanceAs (Decidable (keysOf rows table columns).reduceOption.Nodup)
  | .foreignKey columns _ _ _ => List.decidableBAll _ (keysOf rows table columns)

section Contents

variable (admits : Ty → Value → Bool)

/-- A column accepts values of its type, and NULL where it is nullable. -/
def Column.accepts (column : Column Ty Default) : Option Value → Bool
  | none => column.nullable
  | some value => admits column.type value

/-- The rows of the table have its columns with values that they accept, and obey its rules. -/
structure Table.Meets (table : Table Ty Default Value) (rows : Rows Value) : Prop where
  shape : ∀ row ∈ rows table.name, row.map Prod.fst = table.columnNames
  accepted
    : ∀ row ∈ rows table.name, ∀ column ∈ table.columns,
        column.accepts admits (valueOf row column.name) = true
  rules : ∀ constraint ∈ table.constraints, constraint.rule.Holds rows table.name

/-- A schema with the contents of its tables. -/
@[ext]
structure Store (Ty Default Value : Type) where
  tables : Schema Ty Default Value
  rows : Rows Value

/-- The contents are what the schema allows. -/
def Store.Meets (store : Store Ty Default Value) : Prop :=
  ∀ table ∈ store.tables, table.Meets admits store.rows

/-- The contents are what the schema allows, and a table that is not there has no rows. -/
structure Store.Valid (store : Store Ty Default Value) : Prop where
  meets : store.Meets admits
  absent : ∀ name, name ∉ store.tables.tableNames → store.rows name = []

variable [DecidableEq Value]

/-- The check of a table's rows. -/
def Table.meets (table : Table Ty Default Value) (rows : Rows Value) : Bool :=
  (rows table.name).all (fun row =>
      decide (row.map Prod.fst = table.columnNames)
      && table.columns.all (fun column => column.accepts admits (valueOf row column.name)))
    && table.constraints.all (fun constraint =>
        decide (constraint.rule.Holds rows table.name))

theorem Table.meets_iff {table : Table Ty Default Value} {rows : Rows Value}
    : table.meets admits rows = true ↔ table.Meets admits rows := by
  simp only [Table.meets, Bool.and_eq_true, List.all_eq_true, decide_eq_true_eq]
  constructor
  · exact fun ⟨rows, rules⟩ =>
      ⟨fun row stored => (rows row stored).1, fun row stored => (rows row stored).2, rules⟩
  · exact fun ⟨shape, accepted, rules⟩ =>
      ⟨fun row stored => ⟨shape row stored, accepted row stored⟩, rules⟩

/-- The check of all rows. -/
def Store.meets (store : Store Ty Default Value) : Bool :=
  store.tables.all (fun table => table.meets admits store.rows)

theorem Store.meets_iff {store : Store Ty Default Value}
    : store.meets admits = true ↔ store.Meets admits := by
  simp only [Store.meets, List.all_eq_true, Table.meets_iff]
  rfl

end Contents

end SpecterCloud.Foundations.Relational
