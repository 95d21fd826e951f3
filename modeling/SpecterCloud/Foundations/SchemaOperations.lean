import SpecterCloud.Foundations.Schemas
import Mathlib.Logic.Function.Basic

/-! The operations of migrations on a schema and its contents. Each one is checked against the
schema before it is made; then the rows that it leaves have to be what the new schema allows.
Nothing is dropped that something else depends on.
-/

namespace SpecterCloud.Foundations.Relational

variable {Ty Default Value : Type}

/-- Why an operation is refused, with the name of what it stumbles over. -/
inductive Refusal
  | undefinedTable (name : String)
  | undefinedColumn (table : String)
  | undefinedObject (name : String)
  | duplicateRelation (name : String)
  | duplicateColumn (table : String)
  | duplicateObject (table : String)
  | invalidTableDefinition (table : String)
  | invalidForeignKey (table : String)
  | datatypeMismatch (table : String)
  | dependentObjects (name : String)
  | constraintViolation
deriving DecidableEq

/-- The operations. A constraint of a new table may leave its name to the server. -/
inductive Operation (Ty Default Value : Type)
  | createTable (name : String) (columns : List (Column Ty Default))
      (constraints : List (Option String × Rule))
  | dropTable (name : String)
  | addColumn (table : String) (column : Column Ty Default)
  | dropColumn (table column : String)
  | addConstraint (table : String) (constraint : Constraint)
  | dropConstraint (table name : String)
  | createIndex (table : String) (index : Index Value)
  | dropIndex (name : String)
  | bulkInsert (table : String) (given : List (List (String × Value)))

-----------------------------------------------------------------------------------------
-- Names that the server chooses
-----------------------------------------------------------------------------------------

/-- What the name of a constraint is made of. -/
def Rule.baseName (table : String) : Rule → String
  | primaryKey _ => table ++ "_pkey"
  | unique columns => table ++ "_" ++ "_".intercalate columns ++ "_key"
  | foreignKey columns _ _ _ => table ++ "_" ++ "_".intercalate columns ++ "_fkey"

/-- The base name, or the first of it with a number after it that is not taken. -/
def chosenName (base : String) (taken : List String) : String :=
  let numbered := (List.range (taken.length + 1)).map (fun n => base ++ toString (n + 1))
  ((base :: numbered).find? (fun name => !taken.contains name)).getD base

/-- The constraints of a new table, under names that are not taken where none is given. -/
def nameConstraints (table : String)
    : List String → List (Option String × Rule) → List Constraint
  | _, [] => []
  | taken, (given, rule) :: rest =>
      let name := given.getD (chosenName (rule.baseName table) taken)
      ⟨name, rule⟩ :: nameConstraints table (name :: taken) rest

namespace Schema

variable (schema : Schema Ty Default Value)

/-- The names that no constraint of a new table is given by the server. -/
def takenNames : List String :=
  schema.relationNames
    ++ schema.flatMap (fun table => table.constraints.map Constraint.name)

/-- A new table, which has no indexes but those of its constraints. -/
def newTable (name : String) (columns : List (Column Ty Default))
    (constraints : List (Option String × Rule))
    : Table Ty Default Value where
  name
  columns
  constraints :=
    nameConstraints name (schema.takenNames ++ constraints.filterMap Prod.fst) constraints
  indexes := []

-----------------------------------------------------------------------------------------
-- What is there
-----------------------------------------------------------------------------------------

/-- Some table of the name satisfies the condition. -/
def anyNamed (name : String) (condition : Table Ty Default Value → Bool) : Bool :=
  schema.any (fun table => decide (table.name = name) && condition table)

def hasTable (name : String) : Bool := schema.anyNamed name (fun _ => true)

def hasColumns (name : String) (columns : List String) : Bool :=
  schema.anyNamed name (fun table => columns.all table.columnNames.contains)

/-- Some foreign key outside the table refers to it. -/
def refersTo (name : String) : Bool :=
  schema.any (fun table =>
    decide (table.name ≠ name)
    && table.constraints.any (fun constraint =>
        constraint.rule.reference.any (fun reference => reference.1 = name)))

/-- Some foreign key refers to the column, other than one of the table that is on the column. -/
def refersToColumn (name column : String) : Bool :=
  schema.any (fun table =>
    table.constraints.any (fun constraint =>
      constraint.rule.reference.any (fun reference =>
        decide (reference.1 = name) && reference.2.contains column)
      && !(decide (table.name = name) && constraint.rule.columns.contains column)))

/-- Some foreign key refers to the columns of the key. -/
def refersToKey (name : String) (key : Rule) : Bool :=
  key.isKey
  && schema.any (fun table =>
      table.constraints.any (fun constraint =>
        constraint.rule.reference.any (fun reference =>
          decide (reference.1 = name) && reference.2.isPerm key.columns)))

end Schema

-----------------------------------------------------------------------------------------
-- Checks
-----------------------------------------------------------------------------------------

/-- A condition that has to hold, and what is said if it does not. -/
abbrev Check := Bool × Refusal

/-- The columns of a rule exist; a foreign key refers to the columns of a key of the same types.
-/
def Rule.checks [DecidableEq Ty] (schema : Schema Ty Default Value)
    (table : Table Ty Default Value) (rule : Rule)
    : List Check :=
  (rule.columns.all table.columnNames.contains, .undefinedColumn table.name)
  :: match rule.reference with
    | none => []
    | some (referent, referred) =>
        [
          (schema.hasTable referent, .undefinedTable referent),
          (schema.hasColumns referent referred, .undefinedColumn referent),
          (schema.anyNamed referent (fun other =>
              other.constraints.any (fun constraint =>
                constraint.rule.isKey && constraint.rule.columns.isPerm referred)),
            .invalidForeignKey referent),
          (schema.anyNamed referent (fun other =>
              decide (other.typesOf referred = table.typesOf rule.columns)),
            .datatypeMismatch table.name)
        ]

/-- A table that is new to the schema. -/
def Table.checks [DecidableEq Ty] (schema : Schema Ty Default Value)
    (table : Table Ty Default Value)
    : List Check :=
  [
    (table.relationNames.all (fun name => !schema.relationNames.contains name),
      .duplicateRelation table.name),
    (decide table.relationNames.Nodup, .duplicateRelation table.name),
    (decide table.columnNames.Nodup, .duplicateColumn table.name),
    (decide (table.constraints.map Constraint.name).Nodup, .duplicateObject table.name),
    (decide (table.constraints.countP (fun constraint => constraint.rule.isPrimaryKey) ≤ 1),
      .invalidTableDefinition table.name)
  ]
    ++ table.constraints.flatMap (fun constraint =>
        constraint.rule.checks (schema ++ [table]) table)

/-- A constraint that is new to its table. -/
def Constraint.checks [DecidableEq Ty] (schema : Schema Ty Default Value)
    (constraint : Constraint) (table : Table Ty Default Value)
    : List Check :=
  [
    (!(table.constraints.map Constraint.name).contains constraint.name,
      .duplicateObject table.name),
    (!(constraint.rule.isKey && schema.relationNames.contains constraint.name),
      .duplicateRelation constraint.name),
    (!(constraint.rule.isPrimaryKey
        && table.constraints.any (fun other => other.rule.isPrimaryKey)),
      .invalidTableDefinition table.name)
  ]
    ++ constraint.rule.checks schema table

/-- What the schema has to be like for an operation. -/
def Operation.checks [DecidableEq Ty] (schema : Schema Ty Default Value)
    : Operation Ty Default Value → List Check
  | createTable name columns constraints =>
      (schema.newTable name columns constraints).checks schema
  | dropTable name =>
      [
        (schema.hasTable name, .undefinedTable name),
        (!schema.refersTo name, .dependentObjects name)
      ]
  | addColumn table column =>
      [
        (schema.hasTable table, .undefinedTable table),
        (!schema.hasColumns table [column.name], .duplicateColumn table),
        (!(column.serial && schema.relationNames.contains (Table.sequenceName table column)),
          .duplicateRelation column.name)
      ]
  | dropColumn table column =>
      [
        (schema.hasTable table, .undefinedTable table),
        (schema.hasColumns table [column], .undefinedColumn table),
        (!schema.refersToColumn table column, .dependentObjects column)
      ]
  | addConstraint table constraint =>
      (schema.hasTable table, .undefinedTable table)
      :: (schema.filter (fun owner => owner.name = table)).flatMap (constraint.checks schema)
  | dropConstraint table name =>
      [
        (schema.hasTable table, .undefinedTable table),
        (schema.anyNamed table (fun owner =>
            (owner.constraints.map Constraint.name).contains name),
          .undefinedObject name),
        (!schema.anyNamed table (fun owner =>
            owner.constraints.any (fun constraint =>
              decide (constraint.name = name) && schema.refersToKey table constraint.rule)),
          .dependentObjects name)
      ]
  | createIndex table index =>
      [
        (schema.hasTable table, .undefinedTable table),
        (schema.hasColumns table index.read, .undefinedColumn table),
        (!schema.relationNames.contains index.name, .duplicateRelation index.name)
      ]
  | dropIndex name =>
      [
        (!schema.any (fun table => table.keyNames.contains name), .dependentObjects name),
        (schema.any (fun table => (table.indexes.map Index.name).contains name),
          .undefinedObject name)
      ]
  | bulkInsert table given =>
      [
        (schema.hasTable table, .undefinedTable table),
        (given.all (fun row => schema.hasColumns table (row.map Prod.fst)),
          .undefinedColumn table)
      ]

-----------------------------------------------------------------------------------------
-- Changes
-----------------------------------------------------------------------------------------

/-- The schema with its tables of the name changed. -/
def Schema.change (name : String) (edit : Table Ty Default Value → Table Ty Default Value)
    (schema : Schema Ty Default Value)
    : Schema Ty Default Value :=
  rewriteWhere (fun table => table.name = name) edit schema

/-- A table without a column, nor the constraints and the indexes that read it. -/
def Table.withoutColumn (column : String) (table : Table Ty Default Value)
    : Table Ty Default Value :=
  { table with
    columns := table.columns.filter (fun other => other.name ≠ column)
    constraints :=
      table.constraints.filter (fun constraint => !constraint.rule.columns.contains column)
    indexes := table.indexes.filter (fun index => !index.read.contains column) }

/-- The schema after an operation that passes its checks. -/
def Operation.edit (schema : Schema Ty Default Value)
    : Operation Ty Default Value → Schema Ty Default Value
  | createTable name columns constraints =>
      schema ++ [schema.newTable name columns constraints]
  | dropTable name => schema.filter (fun table => table.name ≠ name)
  | addColumn table column =>
      schema.change table (fun owner => { owner with columns := owner.columns ++ [column] })
  | dropColumn table column => schema.change table (Table.withoutColumn column)
  | addConstraint table constraint =>
      schema.change table (fun owner =>
        { owner with constraints := owner.constraints ++ [constraint] })
  | dropConstraint table name =>
      schema.change table (fun owner =>
        { owner with
          constraints := owner.constraints.filter (fun constraint => constraint.name ≠ name) })
  | createIndex table index =>
      schema.change table (fun owner => { owner with indexes := owner.indexes ++ [index] })
  | dropIndex name =>
      schema.map (fun table =>
        { table with indexes := table.indexes.filter (fun index => index.name ≠ name) })
  | bulkInsert _ _ => schema

/-- The schema after an operation, unless a check fails. -/
def Operation.alter [DecidableEq Ty] (operation : Operation Ty Default Value)
    (schema : Schema Ty Default Value)
    : Except Refusal (Schema Ty Default Value) :=
  match (operation.checks schema).find? (fun check => !check.1) with
  | some check => .error check.2
  | none => .ok (operation.edit schema)

/-- The schema after operations one after another. -/
def alterAll [DecidableEq Ty]
    : List (Operation Ty Default Value) → Schema Ty Default Value
      → Except Refusal (Schema Ty Default Value)
  | [], schema => .ok schema
  | operation :: rest, schema => operation.alter schema >>= alterAll rest

-----------------------------------------------------------------------------------------
-- Contents
-----------------------------------------------------------------------------------------

/-- A row without a column. -/
def eraseColumn (column : String) (row : Row Value) : Row Value :=
  row.filter (fun entry => entry.1 ≠ column)

section Contents

variable (evaluate : Default → Value)

/-- A row of some columns, from the values that are given and the defaults of the others. -/
def fillRow (columns : List (Column Ty Default)) (given : List (String × Value)) : Row Value :=
  columns.map (fun column =>
    (column.name, (given.lookup column.name).or (column.serverDefault.map evaluate)))

/-- The rows after an operation. -/
def Operation.rewrite (schema : Schema Ty Default Value) (rows : Rows Value)
    : Operation Ty Default Value → Rows Value
  | dropTable name => Function.update rows name []
  | addColumn table column =>
      Function.update rows table
        ((rows table).map (fun row =>
          row ++ [(column.name, column.serverDefault.map evaluate)]))
  | dropColumn table column =>
      Function.update rows table ((rows table).map (eraseColumn column))
  | bulkInsert table given =>
      let columns := ((findBy Table.name table schema).map Table.columns).getD []
      Function.update rows table (rows table ++ given.map (fillRow evaluate columns))
  | _ => rows

variable (admits : Ty → Value → Bool) [DecidableEq Ty] [DecidableEq Value]

/-- The store after an operation, unless a check fails or the rows are not what the new schema
allows.
-/
def Operation.apply (operation : Operation Ty Default Value) (store : Store Ty Default Value)
    : Except Refusal (Store Ty Default Value) :=
  match operation.alter store.tables with
  | .error refusal => .error refusal
  | .ok tables =>
      let after : Store Ty Default Value :=
        { tables, rows := operation.rewrite evaluate store.tables store.rows }
      if after.meets admits then .ok after else .error .constraintViolation

/-- The store after operations one after another. -/
def applyAll
    : List (Operation Ty Default Value) → Store Ty Default Value
      → Except Refusal (Store Ty Default Value)
  | [], store => .ok store
  | operation :: rest, store => operation.apply evaluate admits store >>= applyAll rest

end Contents

end SpecterCloud.Foundations.Relational
