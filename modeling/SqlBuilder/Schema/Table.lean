import SqlBuilder.Schema.Key

/-!
# Statements about tables

The table comes first, or the changes of its columns; then what follows its columns, such as comments;
then the comment of the table; then keys, indexes and other changes in the order of the calls. SQLite
keeps the keys of a new table in its definition, and makes the changes that it has no statement for by
building the table again.

* `Scope.createTable`, `Scope.alterTable`: the table and its columns.
* `Scope.tableStatement`: what is done after the columns.
* `Scope.tableStatements`: all statements about a table.
-/

namespace SqlBuilder

namespace Scope

/-! ## Rebuilding -/

/-- Asks the catalog for the definition of a table, which is then built again with a change. -/
def rebuild (s : Scope) (t : Table Value) (change : DefinitionChange) : Ddl Unit := do
  let name ← s.literalSql (.str t.name)
  s.pushOn t
    (Sql.word
        ("SELECT type, sql FROM sqlite_master WHERE (type='table' OR " ++
          "(type='index' AND sql IS NOT NULL)) AND tbl_name=") ++ name)
    (some (.rebuild { table := t.name, quoting := s.capabilities.quoting, change }))

/-! ## Creating tables -/

/-- The start of a statement that creates a table. -/
def createHead (s : Scope) (t : Table Value) : Compile Sql := do
  match t.method, s.grammar with
  | .createIfNotExists, .oracle => s.unsupported "create_table_if_not_exists"
  | .createIfNotExists, .mssql =>
    let name ← s.literalSql (← s.plainName t.schema (.str t.name))
    return Sql.word "if object_id(" ++ name ++ Sql.word ", 'U') is null create table " ++
      (← s.tableName t)
  | .createIfNotExists, _ => return Sql.word "create table if not exists " ++ (← s.tableName t)
  | _, _ => return Sql.word "create table " ++ (← s.tableName t)

/-- The keys that stand in the definition of a table. -/
def inlineKeys (s : Scope) (t : Table Value) : Compile (List Sql) := do
  if s.grammar ≠ .sqlite then return []
  let keys ← t.statements.mapM fun
    | .primary columns name => return [← s.primaryText t columns name]
    | .foreign key => return [← s.foreignText t key]
    | _ => return []
  return keys.flatten

/-- What follows the definitions of a table. -/
def tableOptions (s : Scope) (t : Table Value) : Compile Sql := do
  let option (keyword : String) (v : Option Value) : Compile Sql :=
    match v with
    | none => pure []
    | some v => do return Sql.word keyword ++ (← s.given v)
  match s.grammar with
  | .postgres | .cockroach =>
    match t.inherits.filter Value.isTruthy with
    | none => return []
    | some parent => return Sql.word " inherits " ++ (← s.wrap parent).parens
  | .mysql =>
    let charset ← option " default character set " t.charset
    let collation ← option " collate " t.collation
    let engine ← option " engine = " t.engine
    let comment ← match t.comment with
      | none => pure []
      | some comment => pure (Sql.word " comment = " ++ (← s.literalSql (.str comment)))
    return charset ++ collation ++ engine ++ comment
  | _ => return []

/-- Adds the statement that sets the comment of the table, if it has one. -/
def tableComment (s : Scope) (t : Table Value) : Ddl Unit := do
  match t.comment with
  | none => pure ()
  | some comment =>
    match s.grammar with
    | .mssql | .sqlite =>
      report
        { event := "schema.comment.unsupported"
          level := .warning
          fields := [("dialect", .str s.client.dialectName), ("table", .str t.name)] }
    | .mysql =>
      if t.isAltered then
        s.alter t (Sql.word "comment = " ++ (← s.literalSql (.str comment)))
    | _ =>
      let comment ← s.literalSql (.str comment)
      s.pushOn t
        (Sql.word "comment on table " ++ (← s.tableName t) ++ Sql.word " is " ++ comment)

/-- Adds the statements that follow a column. -/
def pushAll (s : Scope) (t : Table Value) (statements : List Sql) : Ddl Unit :=
  statements.forM fun sql => s.pushOn t sql

/-- Adds a column to a table that exists. -/
def addColumn (s : Scope) (t : Table Value) (c : Column Value) : Ddl Unit := do
  let text ← s.columnText (tableMethod t) t c
  match s.grammar with
  | .oracle => s.alter t (Sql.word "add " ++ text.definition.parens)
  | .mysql | .mssql => s.alter t (Sql.word "add " ++ text.definition)
  | _ => s.alter t (Sql.word "add column " ++ text.definition)
  s.pushAll t text.comments

/-- Creates a table like another one. -/
def createLike (s : Scope) (t : Table Value) : Ddl Unit := do
  let like ← s.qualified t.schema (t.like.getD .null)
  let table ← s.tableName t
  s.pushOn t (match s.grammar with
    | .postgres | .cockroach =>
      Sql.word "create table " ++ table ++ Sql.word " (like " ++ like ++ Sql.word " including all)"
    | .redshift => Sql.word "create table " ++ table ++ Sql.word " (like " ++ like ++ Sql.word ")"
    | .mysql => Sql.word "create table " ++ table ++ Sql.word " like " ++ like
    | .mssql =>
      Sql.word "select * into " ++ table ++ Sql.word " from " ++ like ++ Sql.word " where 0=1"
    | _ =>
      Sql.word "create table " ++ table ++ Sql.word " as select * from " ++ like ++
        Sql.word " where 0=1")

/-- Creates a table with its columns. -/
def createTable (s : Scope) (t : Table Value) : Ddl Unit := do
  if t.method = .createLike then
    s.createLike t
    t.columns.forM (s.addColumn t)
  else
    let columns ← t.columns.mapM (s.columnText (tableMethod t) t)
    let checks ← t.checks.mapM fun c => do return Sql.word ", " ++ (← s.checkText c)
    let keys := (← s.inlineKeys t).map (Sql.word ", " ++ ·)
    let body := Sql.commas (columns.map (·.definition)) ++ checks.flatten ++ keys.flatten
    let head ← s.createHead t
    s.pushOn t (head ++ Sql.word " " ++ body.parens ++ (← s.tableOptions t))
    columns.forM fun column => s.pushAll t column.comments
  s.tableComment t

/-! ## Altering columns -/

/-- Drops columns. -/
def dropColumns (s : Scope) (t : Table Value) (columns : List Value) : Ddl Unit := do
  match s.grammar with
  | .oracle => s.alter t (Sql.word "drop " ++ (← s.columnizeAll columns).parens)
  | _ =>
    columns.forM fun column => do
      s.alter t (Sql.word "drop column " ++ (← s.wrap column))

/-- Changes a column action by action, in one statement. -/
def alterColumnActions (s : Scope) (t : Table Value) (c : Column Value) : Ddl Unit := do
  let name ← s.wrap c.name
  let type ← s.columnType (tableMethod t) c
  let action (sql : Sql) : Sql := Sql.word "alter column " ++ name ++ Sql.word " " ++ sql
  let cast := Sql.word "type " ++ type ++ Sql.word " using (" ++ name ++ Sql.word "::" ++ type ++
    Sql.word ")"
  let default ← match c.defaultTo with
    | none => pure []
    | some v => pure [action (Sql.word "set default " ++ (← s.defaultText c v))]
  let isForbidden := c.nullable.any fun v => v.isScalar (.bool false)
  let actions :=
    (if c.altersType then [action (Sql.word "drop default")] else []) ++
    (if c.altersNullable then [action (Sql.word "drop not null")] else []) ++
    (if c.altersType then [action cast] else []) ++ default ++
    (if c.altersNullable && isForbidden then [action (Sql.word "set not null")] else [])
  if !actions.isEmpty then s.alter t (Sql.commas actions)
  match c.comment with
  | none => pure ()
  | some comment => s.pushOn t (← s.commentStatement t c comment)

/-- The new nullability of a column that is changed, if it is to change. -/
def newNullability (c : Column Value) : Sql :=
  if c.altersNullable then c.nullable.elim [] nullability else []

/-- Changes a column. -/
def alterColumn (s : Scope) (t : Table Value) (c : Column Value) : Ddl Unit := do
  let method := tableMethod t
  match s.grammar with
  | .redshift =>
    let name ← s.wrap c.name
    let type ← s.columnType method c
    s.alter t (Sql.word "alter column " ++ name ++ Sql.word " type " ++ type)
  | .mysql =>
    let text ← s.columnText method t c
    s.alter t (Sql.word "modify " ++ text.definition)
  | .oracle =>
    let name ← s.wrap c.name
    let type ← s.columnType method c
    let default ← match c.defaultTo with
      | none => pure []
      | some v => pure (Sql.word " default " ++ (← s.defaultText c v))
    let definition := name ++ Sql.word " " ++ type ++ default ++ newNullability c
    s.alter t (Sql.word "modify " ++ definition.parens)
  | .mssql =>
    let name ← s.wrap c.name
    let type ← s.columnType method c
    s.alter t
      (Sql.word "alter column " ++ name ++ Sql.word " " ++ type ++ newNullability c)
    match c.defaultTo with
    | none => pure ()
    | some v =>
      let default ← s.defaultText c v
      s.alter t (Sql.word "add default " ++ default ++ Sql.word " for " ++ name)
  | .sqlite =>
    let text ← s.columnText method t c
    s.rebuild t (.column c.name.columnName (.replace text.definition.text))
  | _ => s.alterColumnActions t c

/-- Changes a column, after the statement that a dialect needs before that. -/
def alterColumnPrepared (s : Scope) (t : Table Value) (c : Column Value) : Ddl Unit := do
  match s.capabilities.alterColumnPrelude.filter (· ≠ "") with
  | none => pure ()
  | some prelude =>
    report
      { event := "schema.alter_column.experimental"
        level := .warning
        fields :=
          [("dialect", .str s.client.dialectName), ("table", .str t.name), ("column", c.name)] }
    s.pushOn t (Sql.word prelude)
  s.alterColumn t c

/-- Changes the columns of a table. -/
def alterTable (s : Scope) (t : Table Value) : Ddl Unit := do
  t.columns.forM fun c =>
    if c.dropped then s.dropColumns t [c.name]
    else if c.altered then s.alterColumnPrepared t c
    else s.addColumn t c
  s.tableComment t

/-! ## Other changes -/

/-- Lets a column be null, or forbids that. -/
def changeNullable (s : Scope) (t : Table Value) (column : Value) (allowed : Bool) : Ddl Unit := do
  let feature := if allowed then "set_nullable" else "drop_nullable"
  match s.grammar with
  | .redshift => s.unsupported feature
  | .mysql | .mssql => s.unsupported feature "without the column type, use alter()"
  | .oracle =>
    let name ← s.wrap column
    s.alter t
      (Sql.word "modify " ++ (name ++ Sql.word (if allowed then " null" else " not null")).parens)
  | .sqlite => s.rebuild t (.column column.columnName (if allowed then .allowNull else .forbidNull))
  | _ =>
    let name ← s.wrap column
    s.alter t
      (Sql.word "alter column " ++ name ++
        Sql.word (if allowed then " drop not null" else " set not null"))

/-- Renames a column. -/
def renameColumn (s : Scope) (t : Table Value) (old new : Value) : Ddl Unit := do
  match s.grammar with
  | .mssql =>
    s.pushBound (tableMethod t)
      (columnRename (.str (t.name ++ "." ++ (← s.display old))) new)
  | _ =>
    let old ← s.wrap old
    s.alter t (Sql.word "rename column " ++ old ++ Sql.word " to " ++ (← s.wrap new))

/-- A name that is looked for in a stored definition; bytes are looked for as messages show them. -/
def storedName : Value → Compile String
  | .str name => pure name
  | .scalar (.bytes bs) => pure (Text.quotedBytes bs)
  | _ => throw wrongType

/-- Drops the primary key. -/
def dropPrimary (s : Scope) (t : Table Value) (name : Option Value) : Ddl Unit := do
  match s.grammar with
  | .mysql => s.alter t (Sql.word "drop primary key")
  | .sqlite => s.rebuild t .dropPrimary
  | _ => s.alter t (Sql.word "drop constraint " ++ (← s.primaryName t name))

/-- Drops a foreign key. -/
def dropForeign (s : Scope) (t : Table Value) (columns : List Value) (name : Option Value) :
    Ddl Unit := do
  match s.grammar with
  | .sqlite =>
    let name ← match name.filter Value.isTruthy with
      | some name => storedName name
      | none => s.generatedName t "foreign" columns
    s.rebuild t (.dropForeign name)
  | .mysql =>
    s.alter t (Sql.word "drop foreign key " ++ (← s.indexName t "foreign" columns name))
  | _ => s.alter t (Sql.word "drop constraint " ++ (← s.indexName t "foreign" columns name))

/-- Drops a check. -/
def dropCheck (s : Scope) (t : Table Value) (name : Value) : Ddl Unit := do
  match s.grammar with
  | .sqlite => s.rebuild t (.dropCheck (← storedName name))
  | .mysql => s.alter t (Sql.word "drop check " ++ (← s.wrap name))
  | _ => s.alter t (Sql.word "drop constraint " ++ (← s.wrap name))

/-- Adds a constraint to a table that exists. -/
def addConstraint (s : Scope) (t : Table Value) (constraint : Sql) : Ddl Unit :=
  if s.grammar = .sqlite then s.rebuild t (.addConstraint constraint.text)
  else s.alter t (Sql.word "add " ++ constraint)

/-- Whether a statement stands in the definition of a new table. -/
def isInline (s : Scope) (t : Table Value) : TableStatement Value → Bool
  | .primary _ _ | .foreign _ => s.grammar = .sqlite && !t.isAltered
  | _ => false

/-- What is done to a table after its columns. -/
def tableStatement (s : Scope) (t : Table Value) : TableStatement Value → Ddl Unit
  | .index columns name options => s.addIndex t columns name options
  | .unique columns name options => s.addUnique t columns name options
  | .primary columns name => do s.addConstraint t (← s.primaryText t columns name)
  | .foreign key => do s.addConstraint t (← s.foreignText t key)
  | .dropIndex columns name => s.dropIndex t columns name
  | .dropUnique columns name => s.dropUnique t columns name
  | .dropPrimary name => s.dropPrimary t name
  | .dropForeign columns name => s.dropForeign t columns name
  | .check constraint => do s.addConstraint t (← s.checkText constraint)
  | .renameColumn old new => s.renameColumn t old new
  | .dropColumn columns => s.dropColumns t columns
  | .setNullable column => s.changeNullable t column true
  | .dropNullable column => s.changeNullable t column false
  | .dropChecks names => names.forM (s.dropCheck t)

/-- All statements about a table. -/
def tableStatements (s : Scope) (t : Table Value) : Ddl Unit := do
  let s := { s with context := t.context }
  if t.isAltered then s.alterTable t else s.createTable t
  (t.statements.filter fun statement => !s.isInline t statement).forM (s.tableStatement t)

end Scope

end SqlBuilder
