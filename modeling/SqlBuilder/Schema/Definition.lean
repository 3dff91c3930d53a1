import SqlBuilder.Statement.Query

/-!
# Definitions of tables and views

What a schema change consists of, as callers give it, over a type `α` of operands: columns with their
types and modifiers, keys, indexes and constraints, views, and the sequence of operations.
-/

namespace SqlBuilder

/-! ## Columns -/

/-- The type of a column, with the sizes as the caller gave them. -/
inductive ColumnType (α : Type)
  | increments (primaryKey : Bool)
  | bigIncrements (primaryKey : Bool)
  | integer (length : α)
  | tinyint (length : α)
  | smallint
  | mediumint
  | bigInteger
  | text (size : α)
  | varchar (length : α)
  | floating (precision scale : α)
  | double (precision scale : α)
  | decimal (precision scale : α)
  | boolean
  | date
  | datetime (withZone : Bool) (precision : α)
  | time
  | timestamp (withZone : Bool) (precision : α)
  | binary (length : α)
  | enumeration (values : List α) (native : Bool) (name : α)
  | json
  | jsonb
  | uuid (binary : Bool)
  | specific (name : α)

namespace ColumnType

/-- Whether the column numbers its rows, which makes it a key by itself. -/
def isIncrements {α : Type} : ColumnType α → Bool
  | increments _ | bigIncrements _ => true
  | _ => false

/-- Whether the column holds JSON. -/
def isJson {α : Type} : ColumnType α → Bool
  | json | jsonb => true
  | _ => false

end ColumnType

/-- The checks of a column; each holds its constraint name last. -/
structure ColumnChecks (α : Type) where
  positive : Option α := none
  negative : Option α := none
  isIn : Option (List α × α) := none
  notIn : Option (List α × α) := none
  between : Option (α × α) := none
  length : Option (α × α × α) := none
  regex : Option (α × α) := none

/-- A column of a table definition with its modifiers. -/
structure Column (α : Type) where
  name : α
  type : ColumnType α
  nullable : Option α := none
  defaultTo : Option α := none
  unsigned : Bool := false
  first : Bool := false
  after : Option α := none
  comment : Option String := none
  collation : Option α := none
  checks : ColumnChecks α := {}
  /-- The foreign key that the column's chain of calls is about, as its place among the statements. -/
  foreignKey : Option Nat := none
  dropped : Bool := false
  /-- The column exists and is changed. -/
  altered : Bool := false
  alteredType : Option α := none
  altersNullable : Bool := true
  altersType : Bool := true

/-! ## Tables -/

/-- A foreign key. -/
structure ForeignKey (α : Type) where
  columns : List α
  name : Option α := none
  references : Option α := none
  table : Option String := none
  onUpdate : Option α := none
  onDelete : Option α := none
  deferrable : Option α := none

/-- A check on the rows of a table. -/
structure CheckConstraint (α : Type) where
  predicate : α
  bindings : Option α := none
  name : Option α := none

/-- What is done to a table after its columns. -/
inductive TableStatement (α : Type)
  | index (columns : List α) (name : Option α) (options : List (String × α))
  | unique (columns : List α) (name : Option α) (options : List (String × α))
  | primary (columns : List α) (name : Option α)
  | foreign (key : ForeignKey α)
  | dropIndex (columns : List α) (name : Option α)
  | dropUnique (columns : List α) (name : Option α)
  | dropPrimary (name : Option α)
  | dropForeign (columns : List α) (name : Option α)
  | check (constraint : CheckConstraint α)
  | renameColumn (old new : α)
  | dropColumn (columns : List α)
  | setNullable (column : α)
  | dropNullable (column : α)
  | dropChecks (names : List α)

/-- What happens to a table. -/
inductive TableMethod
  | create | createIfNotExists | createLike | alter
  deriving DecidableEq, Inhabited

/-- A table definition or a change of one. -/
structure Table (α : Type) where
  client : Client α
  method : TableMethod
  name : String
  like : Option α := none
  schema : Option α := none
  columns : List (Column α) := []
  statements : List (TableStatement α) := []
  checks : List (CheckConstraint α) := []
  comment : Option String := none
  engine : Option α := none
  charset : Option α := none
  collation : Option α := none
  inherits : Option α := none
  context : Option α := none

/-! ## Views -/

/-- What happens to a view. -/
inductive ViewMethod
  | create | createOrReplace | createMaterialized | alter
  deriving DecidableEq, Inhabited

/-- How far the check of a view's rows goes. -/
inductive CheckOption
  | plain | local_ | cascaded
  deriving DecidableEq, Inhabited

/-- A change of a view's column. -/
inductive ViewStatement (α : Type)
  | renameColumn (old new : α)
  | defaultTo (column value : α)

/-- A view definition or a change of one. -/
structure View (α : Type) where
  client : Client α
  method : ViewMethod
  name : α
  schema : Option α := none
  columns : List α := []
  query : Option α := none
  checkOption : Option CheckOption := none
  statements : List (ViewStatement α) := []

/-! ## Schema changes -/

/-- One operation on a schema. -/
inductive SchemaOperation (α : Type)
  | table (method : TableMethod) (name : α) (like : Option α) (callback : α)
  | renameTable (old new : α)
  | dropTable (name : α) (ifExists : Bool)
  | hasTable (name : α)
  | hasColumn (table column : α)
  | view (method : ViewMethod) (name callback : α)
  | refreshView (name : α) (concurrently : Bool)
  | dropView (name : α) (ifExists materialized : Bool)
  | renameView (old new : α)
  | createSchema (name : α) (ifNotExists : Bool)
  | dropSchema (name : α) (ifExists cascade : Bool)
  | createExtension (name : α) (ifNotExists : Bool)
  | dropExtension (name : α) (ifExists : Bool)
  | raw (sql bindings : α)

/-- A sequence of operations on a schema. -/
structure Schema (α : Type) where
  client : Client α
  schema : Option α := none
  operations : List (SchemaOperation α) := []

end SqlBuilder
