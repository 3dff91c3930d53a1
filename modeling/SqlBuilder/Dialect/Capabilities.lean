import SqlBuilder.Quoting
import SqlBuilder.Placeholder

/-!
# Dialect capabilities

Everything in which SQL dialects differ, as data: a record of independent choices, each choice a value
of a small type. Compilation consults the record and nothing else, so that a dialect is a value and a
variant of it is an update.

* `Capabilities`: the record.
* `Grammar`: the family whose data definition statements a dialect writes.
* `Dialect`: a name with both.
-/

namespace SqlBuilder

/-! ## Statements -/

/-- Row locks that a select may ask for. -/
inductive LockMode
  | forShare | forUpdate | forNoKeyUpdate | forKeyShare
  deriving DecidableEq, Inhabited

/-- What a locking select does about rows that are locked already. -/
inductive WaitMode
  | skipLocked | noWait
  deriving DecidableEq, Inhabited

/-- The name of a lock mode. -/
def LockMode.name : LockMode → String
  | .forShare => "for_share"
  | .forUpdate => "for_update"
  | .forNoKeyUpdate => "for_no_key_update"
  | .forKeyShare => "for_key_share"

/-- The name of a wait mode. -/
def WaitMode.name : WaitMode → String
  | .skipLocked => "skip_locked"
  | .noWait => "no_wait"

/-- The lock mode of a name. -/
def LockMode.ofName? : String → Option LockMode
  | "for_share" => some .forShare
  | "for_update" => some .forUpdate
  | "for_no_key_update" => some .forNoKeyUpdate
  | "for_key_share" => some .forKeyShare
  | _ => none

/-- The wait mode of a name. -/
def WaitMode.ofName? : String → Option WaitMode
  | "skip_locked" => some .skipLocked
  | "no_wait" => some .noWait
  | _ => none

/-- Whether rows can be inserted or replaced in one statement. -/
inductive UpsertSupport
  /-- `upsert into` -/
  | into
  | unsupported
  deriving DecidableEq, Inhabited

/-- What an insert can do about rows that exist already. -/
inductive ConflictSupport
  /-- `on conflict … do …` -/
  | onConflict
  /-- `insert ignore` and `on duplicate key update` -/
  | onDuplicateKey
  | unsupported
  deriving DecidableEq, Inhabited

/-- How a write returns columns of the rows it touched. -/
inductive ReturningSupport
  /-- `… returning` at the end -/
  | suffix
  /-- `output inserted.…` before the values or the conditions -/
  | output
  | unsupported
  deriving DecidableEq, Inhabited

/-- How a select asks for row locks. -/
inductive LockSupport
  /-- `for update [of …] [skip locked]` at the end, with the listed modes -/
  | forClause (modes : List LockMode) (waits : List WaitMode) (ofTables : Bool)
  /-- `with (UPDLOCK, …)` after the table -/
  | tableHint
  | unsupported
  deriving DecidableEq, Inhabited

/-- Every mode of the trailing lock clause. -/
def LockSupport.standard : LockSupport :=
  .forClause [.forShare, .forUpdate, .forNoKeyUpdate, .forKeyShare] [.skipLocked, .noWait] true

/-- How a value at a JSON path is extracted. -/
structure JsonPathStyle where
  /-- The extraction function. -/
  function : String
  /-- Each key of the path is bound on its own. -/
  arrayPath : Bool := false
  /-- What turns the extracted JSON into text. -/
  textOperator : Option String := none
  /-- The function that unquotes an extracted string. -/
  unquoteFunction : Option String := none
  deriving DecidableEq, Inhabited

/-- How a select is cut to a window of rows. -/
inductive Paging
  /-- `limit ? offset ?`; the limit that stands in when there is only an offset -/
  | limitOffset (offsetOnlyLimit : Option String)
  /-- `offset ? rows fetch next ? rows only`; whether a bare limit is a `top`, and the order that
  stands in for a missing one -/
  | offsetFetch (useTop : Bool) (defaultOrder : Option String)
  deriving DecidableEq, Inhabited

/-- What view definitions can do. -/
structure ViewSupport where
  /-- The words that let a definition replace an older one, or `drop` to drop the older one first. -/
  createOrReplace : String := "or replace"
  renameColumn : Bool := false
  defaultTo : Bool := false
  checkOption : Bool := false
  materialized : Bool := false
  deriving DecidableEq, Inhabited

/-- A statement of the dialect's own with a slot in braces. Something else may be given in its place,
which is found out when the statement is wanted. -/
inductive SlottedStatement
  | text (template : String)
  /-- what can be searched for a slot but has none to fill -/
  | container
  /-- what cannot even be searched -/
  | object
  deriving DecidableEq, Inhabited

instance : Coe String SlottedStatement where
  coe := .text

/-- The statements that ask the catalog whether a table or a column exists. -/
structure CatalogQueries where
  hasTable : SlottedStatement
  hasColumn : SlottedStatement
  /-- What stands for the schema when none is set. -/
  schemaDefault : String := "current_schema()"
  deriving DecidableEq, Inhabited

/-- The catalog queries over the standard information schema. -/
def CatalogQueries.informationSchema : CatalogQueries where
  hasTable :=
    "select * from information_schema.tables where table_name = ? and table_schema = \x7bschema\x7d"
  hasColumn :=
    "select * from information_schema.columns where table_name = ? " ++
      "and column_name = ? and table_schema = \x7bschema\x7d"

/-! ## Literals -/

/-- How a date or a time is written as a literal. -/
inductive DateStyle
  /-- the clock reading to the millisecond -/
  | clock
  /-- the ISO text -/
  | iso
  deriving DecidableEq, Inhabited

/-- How a sequence is written as a literal. -/
inductive ArrayStyle
  /-- the items, with inner sequences in parentheses -/
  | items
  /-- one quoted text with nested braces -/
  | braces
  /-- the items in brackets, without blanks -/
  | brackets
  deriving DecidableEq, Inhabited

/-- How bytes are written as a literal. -/
inductive BytesStyle
  /-- `X'…'` -/
  | quotedHex
  /-- `0x…` -/
  | plainHex
  deriving DecidableEq, Inhabited

/-- How a text is written as a literal. -/
inductive StringStyle
  /-- quotes and controls after a backslash -/
  | backslash
  /-- quotes written twice -/
  | doubled
  /-- `N'…'` around the text as it is -/
  | national
  deriving DecidableEq, Inhabited

/-- How any other value is written as a literal. -/
inductive ObjectStyle
  /-- the text of a query, or a JSON document -/
  | json
  /-- the kind of the value in angle brackets -/
  | kind
  deriving DecidableEq, Inhabited

/-- How values are written as literals. -/
structure LiteralStyle where
  dates : DateStyle := .clock
  arrays : ArrayStyle := .items
  bytes : BytesStyle := .quotedHex
  strings : StringStyle := .backslash
  objects : ObjectStyle := .json
  /-- Truth values are written as `1` and `0`. -/
  bits : Bool := false
  deriving DecidableEq, Inhabited

namespace LiteralStyle

/-- Texts with backslashes. -/
def backslashed : LiteralStyle := {}

/-- Texts with doubled quotes. -/
def standard : LiteralStyle := { strings := .doubled }

/-- Texts with doubled quotes, and sequences in braces. -/
def braced : LiteralStyle := { strings := .doubled, arrays := .braces }

/-- Texts with doubled quotes, and truth values as bits. -/
def bit : LiteralStyle := { strings := .doubled, bits := true }

end LiteralStyle

/-! ## The record -/

/-- The operators that every dialect accepts. -/
def baseOperators : List String :=
  ["=", "<", ">", "<=", ">=", "<>", "!=", "like", "not like", "between", "not between",
   "ilike", "not ilike", "exists", "not exists", "rlike", "not rlike", "regexp", "not regexp",
   "match", "in", "not in", "is", "is not", "&", "|", "^", "<<", ">>", "~"]

/-- Everything in which a dialect may differ from another. -/
structure Capabilities where
  quoting : Quoting := {}
  /-- The placeholder marks of the usual driver. -/
  paramstyle : Paramstyle := .qmark
  /-- What stands between an expression and its alias. -/
  aliasKeyword : String := " as "
  upsert : UpsertSupport := .unsupported
  conflict : ConflictSupport := .onConflict
  returning : ReturningSupport := .suffix
  locking : LockSupport := .standard
  jsonPath : JsonPathStyle := { function := "json_extract" }
  paging : Paging := .limitOffset none
  views : ViewSupport := {}
  catalog : CatalogQueries := .informationSchema
  /-- The body of an insert without columns. -/
  emptyInsert : String := "default values"
  /-- A row may hold the word `DEFAULT`. -/
  defaultKeyword : Bool := true
  /-- The operator of a pattern match that ignores case. -/
  ilikeOperator : String := "ilike"
  operators : List String := baseOperators
  /-- Truth values are bound as numbers. -/
  booleansAsIntegers : Bool := false
  /-- A running query can be cancelled. -/
  canCancelQuery : Bool := false
  /-- An order may say where the nulls go. -/
  nativeNullsOrdering : Bool := false
  supportsDistinctOn : Bool := false
  /-- The truncate statement, with a slot for the table. -/
  truncate : SlottedStatement := "truncate \x7btable\x7d"
  /-- Constraints may be checked at the end of a transaction. -/
  deferrable : Bool := true
  /-- The statement that has to come before a change of a column. -/
  alterColumnPrelude : Option String := none
  /-- The statement that opens a transaction, if one is needed. -/
  beginTransaction : Option String := some "begin"
  escape : LiteralStyle := .standard
  deriving Inhabited

/-- The family whose data definition statements a dialect writes. -/
inductive Grammar
  | ansi | postgres | cockroach | redshift | mysql | oracle | mssql | sqlite
  deriving DecidableEq, Inhabited

/-- A dialect: its name, what it can do, and how it defines data. -/
structure Dialect where
  name : String
  capabilities : Capabilities := {}
  grammar : Grammar := .ansi
  deriving Inhabited

end SqlBuilder
