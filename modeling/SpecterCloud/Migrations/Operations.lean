import SpecterCloud.Foundations.SchemaRuns
import SpecterCloud.Models.Rows
import Mathlib.Algebra.Group.Int.Defs

/-! The words that migrations are written in, as operations of the schema library: the columns
and constraints of `sa`, and those steps of `op` that are not operations of the library already.
-/

namespace SpecterCloud.Migrations

open SpecterCloud.Foundations.Relational
open SpecterCloud.Models

/-- The types of columns. -/
inductive ColumnType
  | uuid
  | string (length : Nat)
  | text
  | boolean
  | smallInteger
  | integer
  | bigInteger
  | dateTime
  | inet
  | jsonb
deriving DecidableEq

/-- The values of columns; addresses and documents stand as their text. -/
inductive SqlValue
  | uuid (value : UUID)
  | text (value : String)
  | boolean (value : Bool)
  | integer (value : Int)
  | dateTime (value : Instant)
  | inet (value : String)
  | jsonb (value : String)
deriving DecidableEq

/-- The defaults that the server fills in. -/
inductive ServerDefault
  | now
  | boolean (value : Bool)
  | integer (value : Int)
deriving DecidableEq

/-- The value of a default in a transaction that has begun at `now`. -/
def evaluate (now : Instant) : ServerDefault → SqlValue
  | .now => .dateTime now
  | .boolean value => .boolean value
  | .integer value => .integer value

/-- The integers of so many bits. -/
def fitsBits (bits : Nat) (value : Int) : Bool :=
  decide (-(2 ^ (bits - 1)) ≤ value) && decide (value < 2 ^ (bits - 1))

/-- The values that a type has. -/
def admits : ColumnType → SqlValue → Bool
  | .uuid, .uuid _ => true
  | .string length, .text value => decide (FitsString length value)
  | .text, .text value => decide (Storable value)
  | .boolean, .boolean _ => true
  | .smallInteger, .integer value => fitsBits 16 value
  | .integer, .integer value => fitsBits 32 value
  | .bigInteger, .integer value => fitsBits 64 value
  | .dateTime, .dateTime _ => true
  | .inet, .inet _ => true
  | .jsonb, .jsonb _ => true
  | _, _ => false

abbrev MigrationColumn := Column ColumnType ServerDefault

/-- A step of a migration. -/
abbrev MigrationStep := Operation ColumnType ServerDefault SqlValue

/-- A database, but for the table in which Alembic keeps the revision. -/
abbrev MigratedStore := Store ColumnType ServerDefault SqlValue

-----------------------------------------------------------------------------------------
-- Columns
-----------------------------------------------------------------------------------------

/-- `sa.Column(name, type, nullable=False)`. -/
def required (name : String) (type : ColumnType) : MigrationColumn where
  name
  type
  nullable := false
  serverDefault := none
  serial := false

/-- `sa.Column(name, type, nullable=True)`. -/
def optional (name : String) (type : ColumnType) : MigrationColumn where
  name
  type
  nullable := true
  serverDefault := none
  serial := false

/-- `sa.Column(name, type, server_default=sa.text(…), nullable=False)`. -/
def defaulted (name : String) (type : ColumnType) (serverDefault : ServerDefault)
    : MigrationColumn where
  name
  type
  nullable := false
  serverDefault := some serverDefault
  serial := false

/-- `sa.Column(name, type, nullable=False)` of an integer that is the primary key alone, for
which SQLAlchemy writes `SMALLSERIAL`, `SERIAL` or `BIGSERIAL`.
-/
def autoincrement (name : String) (type : ColumnType) : MigrationColumn where
  name
  type
  nullable := false
  serverDefault := none
  serial := true

-----------------------------------------------------------------------------------------
-- Constraints
-----------------------------------------------------------------------------------------

/-- `sa.PrimaryKeyConstraint(*columns)`. -/
def primaryKeyConstraint (columns : List String) : Option String × Rule :=
  (none, .primaryKey columns)

/-- `sa.UniqueConstraint(*columns, name=…)`. -/
def uniqueConstraint (columns : List String) (name : Option String) : Option String × Rule :=
  (name, .unique columns)

/-- `sa.ForeignKeyConstraint([column], [referent.referred], ondelete=…)`. -/
def foreignKeyConstraint (column referent referred : String) (onDelete : OnDelete)
    : Option String × Rule :=
  (none, .foreignKey [column] referent [referred] onDelete)

-----------------------------------------------------------------------------------------
-- Steps
-----------------------------------------------------------------------------------------

/-- `op.create_index(name, table, columns, unique=False, postgresql_where=…)`. -/
def createIndex (name table : String) (columns : List String)
    (postgresqlWhere : Option (IndexCondition SqlValue))
    : MigrationStep :=
  .createIndex table { name, columns, condition := postgresqlWhere }

/-- `op.drop_index(name, table_name=…)`. PostgreSQL finds the index by its name. -/
def dropIndex (name _tableName : String) : MigrationStep := .dropIndex name

/-- `op.create_foreign_key(name, source, referent, local_cols, remote_cols, ondelete=…)`. -/
def createForeignKey (name source referent : String) (localCols remoteCols : List String)
    (onDelete : OnDelete)
    : MigrationStep :=
  .addConstraint source { name, rule := .foreignKey localCols referent remoteCols onDelete }

/-- `op.drop_constraint(name, table, type_=…)`. PostgreSQL drops it whatever its type. -/
def dropConstraint (name table : String) : MigrationStep := .dropConstraint table name

end SpecterCloud.Migrations
