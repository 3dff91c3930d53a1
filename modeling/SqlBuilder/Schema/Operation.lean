import SqlBuilder.Schema.Table
import SqlBuilder.Schema.View
import SqlBuilder.Script.TableCalls

/-!
# Operations on schemas

The statements of a sequence of operations on a schema, in the order of the calls. Callbacks for
tables and views run now. Whether a table or a column exists is a question for the catalog, whose
answer is read from the rows of the response.

* `Scope.operation`: the statements of one operation.
* `Scope.schemaChange`: the statements of all operations.
-/

namespace SqlBuilder

/-- Whether a family has schemas, extensions and materialized views that are refreshed. -/
def Grammar.isPostgres : Grammar → Bool
  | .postgres | .cockroach | .redshift => true
  | _ => false

namespace Scope

/-! ## Tables -/

/-- The table that an operation is about, as its callback puts it together. -/
def builtTable (s : Scope) (schema : Option Value) (method : TableMethod) (name : Value)
    (like : Option Value) (callback : Value) : Compile (Table Value) := do
  match name with
  | .str name =>
    let table : Table Value := { client := s.client, method, name, like, schema }
    match callback with
    | .null => if like.isNone then throw (.invalid .tableCallback) else return table
    | .callback chains => Compile.ofLogged (s.evaluator.onTable chains table)
    | _ => throw wrongType
  | _ => throw (.invalid .tableName)

/-- Renames a table or a view, which a word names. -/
def rename (s : Scope) (schema : Option Value) (kind : String) (old new : Value) : Ddl Unit := do
  match s.grammar, kind with
  | .mssql, _ =>
    s.pushBound "rename" (objectRename (← s.plainName schema old) new)
  | .mysql, _ => renamed "rename table "
  | .oracle, "table" => renamed "rename "
  | _, kind =>
    let old ← s.qualified schema old
    s.push "rename"
      (Sql.word ("alter " ++ kind ++ " ") ++ old ++ Sql.word " rename to " ++ (← s.wrap new))
where
  renamed (words : String) : Ddl Unit := do
    let old ← s.qualified schema old
    s.push "rename" (Sql.word words ++ old ++ Sql.word " to " ++ (← s.wrap new))

/-- Drops a table. Oracle cannot ask whether there is one; there a block passes over the failure. -/
def dropTable (s : Scope) (schema : Option Value) (name : Value) (ifExists : Bool) : Ddl Unit := do
  let name ← s.qualified schema name
  if !ifExists then s.push "drop" (Sql.word "drop table " ++ name)
  else if s.grammar = .oracle then
    let statement := Text.replace (Sql.word "drop table " ++ name).text "'" "''"
    s.push "drop"
      (Sql.raw ("begin execute immediate '" ++ statement ++ "'; " ++
        "exception when others then if sqlcode != -942 then raise; end if; end;"))
  else s.push "drop" (Sql.word "drop table if exists " ++ name)

/-- The schema that a question for the catalog is about: the given one, or the first that the client
searches. -/
def searchedSchema (s : Scope) (schema : Option Value) : Compile (Option Value) := do
  match schema.filter Value.isTruthy, s.client.searchPath.filter Value.isTruthy with
  | some schema, _ => return some schema
  | none, some path => do
    let first ← liftCompile (path.item 0)
    return if first.isTruthy then some first else none
  | none, none => return none

/-- A question for the catalog; a template with a slot for the schema asks within one. -/
def catalogQuestion (s : Scope) (schema : Option Value) (statement : SlottedStatement)
    (names : List Value) : Ddl Unit := do
  if statement = .object then throw wrongType
  let template ← (templateOf statement : Compile String)
  let slot := "\x7bschema\x7d"
  let (filling, names) ←
    if !Text.hasInfix slot.toList template.toList then pure ("", names)
    else do
      match ← s.searchedSchema schema with
      | some schema => pure ("?", names ++ [schema])
      | none => pure (s.capabilities.catalog.schemaDefault, names)
  s.pushWith "select" (Sql.spelled filling (← slotted "schema" template)) names (some .hasRows)

/-! ## Views -/

/-- The view that an operation is about, as its callback puts it together. -/
def builtView (s : Scope) (schema : Option Value) (method : ViewMethod) (name callback : Value) :
    Compile (View Value) :=
  match callback with
  | .callback chains =>
    Compile.ofLogged (s.evaluator.onView chains { client := s.client, method, name, schema })
  | _ => throw (.invalid .viewCallback)

/-- Drops a view. -/
def dropView (s : Scope) (schema : Option Value) (name : Value) (ifExists materialized : Bool) :
    Ddl Unit := do
  if materialized && !s.capabilities.views.materialized then s.unsupported "materialized views"
  let kind := if materialized then "materialized view " else "view "
  let ifExists := if ifExists then "if exists " else ""
  s.push "drop" (Sql.word ("drop " ++ kind ++ ifExists) ++ (← s.qualified schema name))

/-! ## Schemas and extensions -/

/-- Creates or drops a schema or an extension, which a word names; `before` and `after` stand around
its name. -/
def onNamespace (s : Scope) (method kind : String) (before : String) (name : Value)
    (after : String) : Ddl Unit := do
  if s.grammar.isPostgres then
    s.push method (Sql.word (method ++ " " ++ kind ++ " " ++ before) ++ (← s.wrap name) ++
      Sql.word after)
  else s.unsupported (method ++ "_" ++ kind)

/-- Adds a statement of the caller's. -/
def rawStatement (s : Scope) (sql bindings : Value) : Ddl Unit := do
  let expression := Raw.ofValue s.client sql bindings
  match ← (ownBindings (s.nested.raw s.client none expression) : Compile Operand) with
  | .sql sql => s.pushBound "raw" sql
  | .object v => if v.isTruthy then s.pushObject "raw" v

/-! ## Operations -/

/-- The statements of one operation. -/
def operation (s : Scope) (schema : Option Value) : SchemaOperation Value → Ddl Unit
  | .table method name like callback => do
    let table ← s.builtTable schema method name like callback
    ownStatements (s.tableStatements table)
  | .renameTable old new => s.rename schema "table" old new
  | .dropTable name ifExists => s.dropTable schema name ifExists
  | .hasTable name => s.catalogQuestion schema s.capabilities.catalog.hasTable [name]
  | .hasColumn table column =>
    s.catalogQuestion schema s.capabilities.catalog.hasColumn [table, column]
  | .view method name callback => do
    let view ← s.builtView schema method name callback
    ownStatements (s.viewStatements view)
  | .refreshView name concurrently => do
    if s.grammar.isPostgres then
      let words := "refresh materialized view " ++ if concurrently then "concurrently " else ""
      s.push "refresh" (Sql.word words ++ (← s.qualified schema name))
    else s.unsupported "refresh_materialized_view"
  | .dropView name ifExists materialized => s.dropView schema name ifExists materialized
  | .renameView old new => s.rename schema "view" old new
  | .createSchema name ifNotExists =>
    s.onNamespace "create" "schema" (if ifNotExists then "if not exists " else "") name ""
  | .dropSchema name ifExists cascade =>
    s.onNamespace "drop" "schema" (if ifExists then "if exists " else "") name
      (if cascade then " cascade" else "")
  | .createExtension name ifNotExists =>
    s.onNamespace "create" "extension" (if ifNotExists then "if not exists " else "") name ""
  | .dropExtension name ifExists =>
    s.onNamespace "drop" "extension" (if ifExists then "if exists " else "") name ""
  | .raw sql bindings => s.rawStatement sql bindings

/-- The statements of a schema change. -/
def schemaChange (s : Scope) (schema : Schema Value) : Compile (List (Compiled Value)) := do
  let (_, statements) ← (schema.operations.forM (s.operation schema.schema)).run []
  return statements

end Scope

end SqlBuilder
