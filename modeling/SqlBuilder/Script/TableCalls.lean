import SqlBuilder.Schema.Builder
import SqlBuilder.Script.Evaluator

/-!
# Calls on tables and views by name

The methods of table definitions, of their columns and foreign keys, and of views, under the names by
which scripts call them. A cursor says what the next call of a chain is made on.

* `TableCursor.call`, `ViewCursor.call`: a call by name.
* `Evaluator.onTable`, `Evaluator.onView`: the definitions that callbacks put together.
-/

namespace SqlBuilder

/-! ## Tables -/

/-- What the next call of a chain on a table is made on. -/
inductive TableFocus
  | table
  /-- a column, by its place -/
  | column (i : Nat)
  /-- a foreign key, by its place among the statements -/
  | foreign (i : Nat)
  /-- something that has no calls -/
  | nothing
  deriving DecidableEq, Inhabited

/-- A table definition under construction. -/
structure TableCursor where
  table : Table Value
  focus : TableFocus := .table

namespace TableCall

/-- The columns that an argument names. -/
def columns (b : Bound) : List Value :=
  (b.get "columns").columnList

/-- Arguments with options besides the parameters. -/
def withOptions (a : Arguments) (parameters : List String) (required : Nat) :
    Except Error (Bound × List (String × Value)) := do
  let (known, options) := a.keywords.partition fun (name, _) => parameters.contains name
  let b ← Arguments.bind { a with keywords := known } parameters required
  return (b, options)

/-- The column types that take a name and nothing else. -/
def plainType? : String → Option (ColumnType Value)
  | "smallint" => some .smallint
  | "mediumint" => some .mediumint
  | "big_integer" | "bigint" => some .bigInteger
  | "boolean" => some .boolean
  | "date" => some .date
  | "time" => some .time
  | "json" => some .json
  | "jsonb" => some .jsonb
  | _ => none

/-- The column that a call adds, if it adds one. -/
def column? (name : String) (a : Arguments) : Except Error (Option (Value × ColumnType Value)) := do
  let key (b : Bound) : Value := (b.given? "name").getD (.str "id")
  let sized (parameter : String) (usual : Value) (type : Value → ColumnType Value) :
      Except Error (Option (Value × ColumnType Value)) := do
    let b ← a.bind ["name", parameter] 1
    return some (b.get "name", type ((b.given? parameter).getD usual))
  let scaled (precision scale : Value) (type : Value → Value → ColumnType Value) :
      Except Error (Option (Value × ColumnType Value)) := do
    let b ← a.bind ["name", "precision", "scale"] 1
    return some (b.get "name",
      type ((b.given? "precision").getD precision) ((b.given? "scale").getD scale))
  let timed (type : Bool → Value → ColumnType Value) :
      Except Error (Option (Value × ColumnType Value)) := do
    let b ← a.bind ["name", "use_tz", "precision"] 1
    return some (b.get "name", type (b.flag "use_tz" true) (b.get "precision"))
  match name with
  | "increments" =>
    let b ← a.bind ["name", "primary_key"] 0
    return some (key b, .increments (b.flag "primary_key" true))
  | "big_increments" =>
    let b ← a.bind ["name", "primary_key"] 0
    return some (key b, .bigIncrements (b.flag "primary_key" true))
  | "integer" => sized "length" .null .integer
  | "tinyint" => sized "length" .null .tinyint
  | "text" => sized "text_type" .null .text
  | "string" => sized "length" (.int 255) .varchar
  | "binary" => sized "length" .null .binary
  | "uuid" => sized "use_binary_uuid" (.bool false) fun v => .uuid v.isTruthy
  | "float" => scaled (.int 8) (.int 2) .floating
  | "double" => scaled .null .null .double
  | "decimal" => scaled (.int 8) (.int 2) .decimal
  | "datetime" => timed .datetime
  | "timestamp" => timed .timestamp
  | "enu" | "enum" =>
    let b ← a.bind ["name", "values", "use_native", "enum_name"] 2
    let values ← (b.get "values").items
    return some (b.get "name",
      .enumeration values (b.flag "use_native" false) (b.get "enum_name"))
  | "specific_type" =>
    let b ← a.bind ["name", "column_type"] 2
    return some (b.get "name", .specific (b.get "column_type"))
  | name =>
    match plainType? name with
    | none => return none
    | some type => return some (← a.one "name", type)

/-- The failure of a call that is none: what an object holds is nothing to call. -/
def absent (attributes : List String) (name : String) : Error :=
  if attributes.contains name then wrongType else noSuchMember

/-- The failure of a definition that is compiled by the callback that puts it together: the callback
would run again, without end. -/
def selfCompiled : Error :=
  .fault .nestingTooDeep

/-- The names of what a table definition holds. -/
def attributes : List String :=
  ["client", "method", "table_name", "table_name_like", "schema", "columns", "statements", "checks",
   "single"]

/-- The names of what a column definition holds. -/
def columnAttributes : List String :=
  ["client", "table_builder", "type", "args", "method", "modifiers", "dropped", "altered_type",
   "alters_nullable", "alters_type", "name", "is_increments"]

/-- A call on a table that adds no column. -/
def onTable (t : Table Value) (name : String) (a : Arguments) : Except Error TableCursor := do
  let stay (t : Table Value) : Except Error TableCursor := .ok { table := t }
  let keyed (parameter : String) (s : List Value → Option Value → TableStatement Value) :
      Except Error TableCursor := do
    let b ← a.bind ["columns", parameter] 1
    stay (t.addStatement (s (columns b) (b.get parameter).present?))
  let option (dialect : String) (set : Value → Table Value) : Except Error TableCursor := do
    let v ← a.one "value"
    t.checkOption dialect name
    stay (set v)
  let altering (s : Value → TableStatement Value) : Except Error TableCursor := do
    stay (← t.alterStatement name (s (← a.one "column")))
  match name with
  | "index" =>
    let (b, options) ← withOptions a ["columns", "index_name"] 1
    stay (t.addStatement (.index (columns b) (b.get "index_name").present? options))
  | "unique" =>
    let (b, options) ← withOptions a ["columns", "index_name"] 1
    stay (t.addStatement (.unique (columns b) (b.get "index_name").present? options))
  | "primary" => keyed "constraint_name" .primary
  | "foreign" =>
    let b ← a.bind ["columns", "key_name"] 1
    let key : ForeignKey Value := { columns := columns b, name := (b.get "key_name").present? }
    return { table := t.addStatement (.foreign key), focus := .foreign t.statements.length }
  | "drop_index" => keyed "index_name" .dropIndex
  | "drop_unique" => keyed "index_name" .dropUnique
  | "drop_primary" =>
    let b ← a.bind ["constraint_name"] 0
    stay (t.addStatement (.dropPrimary (b.get "constraint_name").present?))
  | "drop_foreign" => keyed "key_name" .dropForeign
  | "check" =>
    let b ← a.bind ["predicate", "bindings", "constraint_name"] 1
    stay (t.addCheck
      { predicate := b.get "predicate"
        bindings := (b.get "bindings").present?
        name := (b.get "constraint_name").present? })
  | "comment" => stay (← t.setComment (← a.one "value"))
  | "engine" => option "mysql" fun v => { t with engine := some v }
  | "charset" => option "mysql" fun v => { t with charset := some v }
  | "collate" => option "mysql" fun v => { t with collation := some v }
  | "inherits" => option "postgres" fun v => { t with inherits := some v }
  | "rename_column" =>
    let b ← a.bind ["old", "new"] 2
    stay (← t.alterStatement name (.renameColumn (b.get "old") (b.get "new")))
  | "drop_column" | "drop_columns" =>
    stay (← t.alterStatement "drop_column" (.dropColumn (← a.variadic []).1))
  | "drop_timestamps" =>
    let b ← a.bind ["use_camel_case"] 0
    let names := if b.flag "use_camel_case" false then ["createdAt", "updatedAt"]
      else ["created_at", "updated_at"]
    stay (← t.alterStatement "drop_column" (.dropColumn (names.map .str)))
  | "set_nullable" => altering .setNullable
  | "drop_nullable" => altering .dropNullable
  | "drop_checks" => stay (← t.alterStatement name (.dropChecks (← a.variadic []).1))
  | "timestamps" =>
    let b ← a.bind ["use_timestamps", "default_to_now", "use_camel_case"] 0
    let t := t.addTimestamps (b.flag "use_timestamps" false) (b.flag "default_to_now" false)
      (b.flag "use_camel_case" false)
    return { table := t, focus := .nothing }
  | "query_context" =>
    let b ← a.bind ["context"] 0
    match b.get "context" with
    | .null => return { table := t, focus := .nothing }
    | context => stay { t with context := some context }
  | "to_sql" | "build" => a.none_; throw selfCompiled
  | name => throw (absent attributes name)

/-! ## Foreign keys -/

/-- The change that a call makes on a foreign key. -/
def onForeign (client : Client Value) (name : String) (a : Arguments) (key : ForeignKey Value) :
    Except Error (ForeignKey Value) := do
  match name with
  | "references" => return key.reference (← a.one "column")
  | "in_table" | "on" => key.inTable (← a.one "table")
  | "on_update" => return { key with onUpdate := some (← a.one "action") }
  | "on_delete" => return { key with onDelete := some (← a.one "action") }
  | "with_key_name" => return { key with name := (← a.one "name").present? }
  | "deferrable" => key.defer client (← a.one "kind")
  | name => throw (absent ["client", "foreign"] name)

/-- The parameter of a call on the foreign key of a column. -/
def foreignParameter : String → String
  | "in_table" | "on" => "table"
  | "on_update" | "on_delete" => "action"
  | "deferrable" => "kind"
  | _ => "name"

/-! ## Columns -/

/-- The change that a call makes on the checks of a column, if it makes one. -/
def checks? (c : ColumnChecks Value) (name : String) (a : Arguments) :
    Except Error (Option (ColumnChecks Value)) := do
  let constraint : Except Error Value := do
    return (← a.bind ["constraint_name"] 0).get "constraint_name"
  let valued (parameter : String) : Except Error (Value × Value) := do
    let b ← a.bind [parameter, "constraint_name"] 1
    return (b.get parameter, b.get "constraint_name")
  match name with
  | "check_positive" => return some { c with positive := some (← constraint) }
  | "check_negative" => return some { c with negative := some (← constraint) }
  | "check_in" =>
    let (values, constraint) ← valued "values"
    return some { c with isIn := some (← values.items, constraint) }
  | "check_not_in" =>
    let (values, constraint) ← valued "values"
    return some { c with notIn := some (← values.items, constraint) }
  | "check_between" => return some { c with between := some (← valued "values") }
  | "check_length" =>
    let b ← a.bind ["operator", "length", "constraint_name"] 2
    return some { c with length := some (b.get "operator", b.get "length", b.get "constraint_name") }
  | "check_regex" => return some { c with regex := some (← valued "pattern") }
  | _ => return none

/-- The change that a call makes on the modifiers of a column, if it makes one. -/
def modified? (c : Column Value) (name : String) (a : Arguments) :
    Except Error (Option (Column Value)) := do
  match name with
  | "nullable" =>
    let b ← a.bind ["value"] 0
    return some { c with nullable := some ((b.given? "value").getD (.bool true)) }
  | "not_nullable" | "not_null" =>
    a.none_
    return some { c with nullable := some (.bool false) }
  | "default_to" | "default" | "defaults_to" =>
    let b ← a.bind ["value", "options"] 1
    return some { c with defaultTo := some (b.get "value") }
  | "unsigned" =>
    a.none_
    return some { c with unsigned := true }
  | "first" =>
    a.none_
    return some { c with first := true }
  | "after" => return some { c with after := some (← a.one "column") }
  | "comment" =>
    match ← a.one "text" with
    | .str text => return some { c with comment := some text }
    | _ => throw (.invalid .columnComment)
  | "collate" => return some { c with collation := some (← a.one "collation") }
  | name =>
    match ← checks? c.checks name a with
    | some checks => return some { c with checks }
    | none => return none

/-- The change that a call makes on how an existing column is treated, if it makes one. -/
def altered? (t : Table Value) (c : Column Value) (name : String) (a : Arguments) :
    Except Error (Option (Column Value)) := do
  let required : Except Error Unit :=
    if t.isAltered then .ok () else .error (.invalid (.alterOnly name))
  match name with
  | "drop" =>
    a.none_
    required
    return some { c with dropped := true }
  | "alter_type" =>
    let type ← a.one "column_type"
    required
    return some { c with alteredType := some type }
  | "alter" =>
    let b ← a.bind ["alter_nullable", "alter_type"] 0
    required
    return some
      { c with
        altered := true
        altersNullable := b.flag "alter_nullable" true
        altersType := b.flag "alter_type" true }
  | _ => return none

/-- A statement about a column, which a column that numbers its rows does not need. -/
def unlessIncrements (t : Table Value) (c : Column Value) (s : TableStatement Value) : Table Value :=
  if c.type.isIncrements then t else t.addStatement s

/-- A call on a column. -/
def onColumn (t : Table Value) (i : Nat) (c : Column Value) (name : String) (a : Arguments) :
    Except Error (Table Value) := do
  let columns := c.name.columnList
  match name with
  | "index" =>
    let (b, options) ← withOptions a ["index_name"] 0
    return unlessIncrements t c (.index columns (b.get "index_name").present? options)
  | "unique" =>
    let (b, options) ← withOptions a ["index_name"] 0
    return unlessIncrements t c (.unique columns (b.get "index_name").present? options)
  | "primary" =>
    let b ← a.bind ["constraint_name"] 0
    let t := if t.client.dialect.grammar = .redshift then
        t.editColumn i fun c => { c with nullable := some (.bool false) }
      else t
    return unlessIncrements t c (.primary columns (b.get "constraint_name").present?)
  | "references" =>
    let key : ForeignKey Value := { columns }
    let key := key.reference (← a.one "column")
    return (t.addStatement (.foreign key)).editColumn i fun c =>
      { c with foreignKey := some t.statements.length }
  | "in_table" | "on" | "on_update" | "on_delete" | "with_key_name" | "deferrable" =>
    match c.foreignKey with
    | none =>
      let _ ← a.one (foreignParameter name)
      throw (.invalid (.foreignMissing (if name = "on" then "in_table" else name)))
    | some k => t.editForeign k (onForeign t.client name a)
  | name =>
    match ← modified? c name a with
    | some c => return t.editColumn i fun _ => c
    | none =>
      match ← altered? t c name a with
      | some c => return t.editColumn i fun _ => c
      | none => throw (absent columnAttributes name)

end TableCall

namespace TableCursor

/-- The outcome of a call. -/
def call (c : TableCursor) (name : String) (a : Arguments) : Except Error TableCursor := do
  let t := c.table
  match c.focus with
  | .table =>
    match ← TableCall.column? name a with
    | some (column, type) =>
      return { table := t.addColumn column type, focus := .column t.columns.length }
    | none => TableCall.onTable t name a
  | .column i =>
    match t.columns[i]? with
    | some column => return { c with table := ← TableCall.onColumn t i column name a }
    | none => throw noSuchMember
  | .foreign i => return { c with table := ← t.editForeign i (TableCall.onForeign t.client name a) }
  | .nothing => throw noSuchMember

end TableCursor

/-! ## Views -/

/-- A view definition under construction, and the column that the next call of a chain is made on. -/
structure ViewCursor where
  view : View Value
  column : Option Value := none

/-- The names of what a view definition holds. -/
def View.attributes : List String :=
  ["client", "method", "view_name", "schema", "column_names", "select_query", "check_option_kind",
   "statements"]

/-- The outcome of a call. -/
def ViewCursor.call (c : ViewCursor) (name : String) (a : Arguments) : Except Error ViewCursor := do
  let v := c.view
  match c.column, name with
  | some column, "rename" =>
    return { c with view := v.change (.renameColumn column (← a.one "new_name")) }
  | some column, "default_to" =>
    return { c with view := v.change (.defaultTo column (← a.one "value")) }
  | none, "columns" => return { c with view := { v with columns := ← (← a.one "columns").items } }
  | none, "as_" => return { c with view := { v with query := (← a.one "query").present? } }
  | none, "check_option" => a.none_; return { c with view := ← v.checking .plain }
  | none, "local_check_option" => a.none_; return { c with view := ← v.checking .local_ }
  | none, "cascaded_check_option" => a.none_; return { c with view := ← v.checking .cascaded }
  | none, "column" =>
    let column ← a.one "column"
    if v.method = .alter then return { c with column := some column }
    else throw (.invalid .viewColumnAlterOnly)
  | none, "to_sql" | none, "build" => a.none_; throw TableCall.selfCompiled
  | some _, _ => throw noSuchMember
  | none, name => throw (TableCall.absent View.attributes name)

/-! ## Callbacks -/

namespace Evaluator

/-- The table that a callback puts together; each of its chains starts from the table itself. -/
def onTable (ev : Evaluator) (chains : List Chain) (t : Table Value) : Logged (Table Value) :=
  chains.foldlM (fun t chain => do return (← ev.onObject TableCursor.call [chain] { table := t }).table)
    t

/-- The view that a callback puts together; each of its chains starts from the view itself. -/
def onView (ev : Evaluator) (chains : List Chain) (v : View Value) : Logged (View Value) :=
  chains.foldlM (fun v chain => do return (← ev.onObject ViewCursor.call [chain] { view := v }).view) v

end Evaluator

end SqlBuilder
