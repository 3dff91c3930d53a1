import SqlBuilder.Schema.Builder
import SqlBuilder.Schema.Column

/-!
# Keys and indexes

Statements and constraint texts for indexes, unique, primary and foreign keys. A key without a name of
its own is named after the table, its columns and its kind.

* `Scope.indexName`: the name of a key.
* `Scope.foreignText`, `Scope.primaryText`, `Scope.checkText`: constraints as they stand in a table.
* `Scope.addIndex`, `Scope.addUnique`: the statements that make an index.
-/

namespace SqlBuilder

/-- What an option of an index asks for; null asks for nothing. -/
def option? (options : List (String × Value)) (name : String) : Option Value :=
  (options.lookup name).bind Value.present?

/-- Whether an option of an index is there and holds. -/
def isAsked (options : List (String × Value)) (name : String) : Bool :=
  (option? options name).any Value.isTruthy

/-- Whether a family has indexes on some of the rows only. -/
def Grammar.hasPartialIndexes : Grammar → Bool
  | .redshift | .mysql | .oracle => false
  | _ => true

namespace Scope

/-- The method of the statements about a table. -/
def tableMethod (t : Table Value) : String :=
  if t.isAltered then "alter" else "create"

/-- Adds a statement about a table. -/
def pushOn (s : Scope) (t : Table Value) (sql : Sql) (output : Option Output := none) :
    Ddl Unit :=
  s.push (tableMethod t) sql output

/-- Adds a statement that alters a table. -/
def alter (s : Scope) (t : Table Value) (change : Sql) : Ddl Unit := do
  s.pushOn t (Sql.word "alter table " ++ (← s.tableName t) ++ Sql.word " " ++ change)

/-! ## Names -/

/-- The name that the table, the columns and the kind of a key make. -/
def generatedName (s : Scope) (t : Table Value) (kind : String) (columns : List Value) :
    Compile String := do
  let names ← columns.mapM s.display
  return Text.lower (t.name ++ "_" ++ Text.joinWith "_" names ++ "_" ++ kind)

/-- A name with underscores in place of dashes and dots. -/
def underscored (name : String) : String :=
  String.ofList (name.toList.map fun c => if c = '-' || c = '.' then '_' else c)

/-- The name of a key: its own, or one made from the table, the columns and the kind. -/
def indexName (s : Scope) (t : Table Value) (kind : String) (columns : List Value)
    (name : Option Value) : Compile Sql :=
  match name.filter Value.isTruthy with
  | some name => s.wrap name
  | none => do s.wrapString (underscored (← s.generatedName t kind columns))

/-- The name of a primary key: its own, or one made from the table. -/
def primaryName (s : Scope) (t : Table Value) (name : Option Value) : Compile Sql :=
  match name.filter Value.isTruthy with
  | some name => s.wrap name
  | none => s.wrapString (t.name ++ "_pkey")

/-! ## Constraints -/

/-- When the check of a constraint is made. -/
def deferrableClause (s : Scope) (kind : Option Value) : Compile Sql :=
  match kind.filter Value.isTruthy with
  | none => pure []
  | some kind => do
    if s.capabilities.deferrable then return Sql.word " deferrable initially " ++ (← s.given kind)
    else throw (.notDeferrable s.client.dialectName)

/-- A primary key as it stands in a table. -/
def primaryText (s : Scope) (t : Table Value) (columns : List Value) (name : Option Value) :
    Compile Sql := do
  let name ← s.primaryName t name
  return Sql.word "constraint " ++ name ++ Sql.word " primary key " ++
    (← s.columnizeAll columns).parens

/-- A foreign key as it stands in a table. -/
def foreignText (s : Scope) (t : Table Value) (key : ForeignKey Value) : Compile Sql := do
  match key.references, key.table with
  | some references, some table =>
    let references := match references with
      | .list columns => columns
      | column => [column]
    let name ← s.indexName t "foreign" key.columns key.name
    let columns ← s.columnizeAll key.columns
    let table ← s.wrapString table
    let references ← s.columnizeAll references
    let onDelete ← s.givenAfter " on delete " key.onDelete
    let onUpdate ← s.givenAfter " on update " key.onUpdate
    return Sql.word "constraint " ++ name ++ Sql.word " foreign key " ++ columns.parens ++
      Sql.word " references " ++ table ++ Sql.word " " ++ references.parens ++ onDelete ++ onUpdate ++
      (← s.deferrableClause key.deferrable)
  | _, _ => throw (.invalid (.foreignIncomplete (Value.list key.columns).shown))

/-- A check as it stands in a table. -/
def checkText (s : Scope) (c : CheckConstraint Value) : Compile Sql := do
  let named ← match c.name.filter Value.isTruthy with
    | some name => pure (Sql.word "constraint " ++ (← s.wrap name) ++ Sql.word " ")
    | none => pure []
  let test ← s.writtenOut c.predicate (c.bindings.getD .null)
  return named ++ Sql.word "check " ++ test.parens

/-! ## Indexes -/

/-- The rows that an index covers, if not all. -/
def indexedRows (s : Scope) (predicate : Option Value) : Compile Sql :=
  match predicate with
  | none => pure []
  | some predicate => do
    if s.grammar.hasPartialIndexes then
      return Sql.word " where " ++ (← s.writtenConditions predicate)
    else s.unsupported "partial indexes"

/-- Adds a statement that makes an index of a kind, by its name. -/
def createIndex (s : Scope) (t : Table Value) (kind : String) (name : Sql) (using_ : Sql)
    (columns : List Value) (predicate : Option Value) : Ddl Unit := do
  let table ← s.tableName t
  let columns ← s.columnizeAll columns
  let rows ← s.indexedRows predicate
  s.pushOn t
    (Sql.word ("create " ++ kind ++ " ") ++ name ++ Sql.word " on " ++ table ++ using_ ++
      Sql.word " " ++ columns.parens ++ rows)

/-- Adds an index. Redshift has none; there the request is reported and passed over. -/
def addIndex (s : Scope) (t : Table Value) (columns : List Value) (name : Option Value)
    (options : List (String × Value)) : Ddl Unit := do
  let predicate := option? options "predicate"
  match s.grammar with
  | .redshift =>
    report
      { event := "schema.index.unsupported"
        level := .warning
        fields :=
          [("dialect", .str s.client.dialectName), ("table", .str t.name),
           ("columns", .list columns)] }
  | .mysql =>
    if predicate.isSome then s.unsupported "partial indexes"
    let name ← s.indexName t "index" columns name
    let kind ← match (option? options "index_type").filter Value.isTruthy with
      | some kind => pure ((← s.given kind) ++ Sql.word " ")
      | none => pure []
    let using_ ← s.givenAfter " using " (option? options "storage_engine_index_type")
    let columns ← s.columnizeAll columns
    s.alter t
      (Sql.word "add " ++ kind ++ Sql.word "index " ++ name ++ columns.parens ++ using_)
  | g =>
    let name ← s.indexName t "index" columns name
    let using_ ← match g with
      | .postgres | .cockroach => s.givenAfter " using " (option? options "index_type")
      | _ => pure []
    s.createIndex t "index" name using_ columns predicate

/-- Adds a unique key: as a constraint, or as an index if it covers some of the rows only or the
caller asks for that. -/
def addUnique (s : Scope) (t : Table Value) (columns : List Value) (name : Option Value)
    (options : List (String × Value)) : Ddl Unit := do
  let predicate := option? options "predicate"
  let deferrable := option? options "deferrable"
  match s.grammar with
  | .sqlite =>
    if isAsked options "deferrable" then s.unsupported "deferrable unique indexes"
    let name ← s.indexName t "unique" columns name
    s.createIndex t "unique index" name [] columns predicate
  | .mysql =>
    let _ ← s.deferrableClause deferrable
    let name ← s.indexName t "unique" columns name
    s.alter t (Sql.word "add unique " ++ name ++ (← s.columnizeAll columns).parens)
  | _ =>
    let name ← s.indexName t "unique" columns name
    let asConstraint := (option? options "use_constraint").elim predicate.isNone Value.isTruthy
    if asConstraint then
      if predicate.isSome then throw (.invalid .constraintPredicate)
      let columns ← s.columnizeAll columns
      s.alter t
        (Sql.word "add constraint " ++ name ++ Sql.word " unique " ++ columns.parens ++
          (← s.deferrableClause deferrable))
    else
      if isAsked options "deferrable" then throw (.invalid .deferrableIndex)
      s.createIndex t "unique index" name [] columns predicate

/-- Drops an index. -/
def dropIndex (s : Scope) (t : Table Value) (columns : List Value) (name : Option Value) :
    Ddl Unit := do
  let name ← s.indexName t "index" columns name
  match s.grammar with
  | .mysql => s.alter t (Sql.word "drop index " ++ name)
  | .mssql =>
    s.pushOn t (Sql.word "drop index " ++ name ++ Sql.word " on " ++ (← s.tableName t))
  | .sqlite => s.pushOn t (Sql.word "drop index " ++ name)
  | _ =>
    match t.schema.filter Value.isTruthy with
    | some schema =>
      s.pushOn t (Sql.word "drop index " ++ (← s.wrap schema) ++ Sql.word "." ++ name)
    | none => s.pushOn t (Sql.word "drop index " ++ name)

/-- Drops a unique key. -/
def dropUnique (s : Scope) (t : Table Value) (columns : List Value) (name : Option Value) :
    Ddl Unit := do
  let name ← s.indexName t "unique" columns name
  match s.grammar with
  | .cockroach =>
    s.pushOn t
      (Sql.word "drop index " ++ (← s.tableName t) ++ Sql.word "@" ++ name ++ Sql.word " cascade")
  | .mysql => s.alter t (Sql.word "drop index " ++ name)
  | .sqlite => s.pushOn t (Sql.word "drop index " ++ name)
  | _ => s.alter t (Sql.word "drop constraint " ++ name)

end Scope

end SqlBuilder
