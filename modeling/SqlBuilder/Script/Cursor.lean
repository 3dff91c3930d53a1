import SqlBuilder.Log
import SqlBuilder.Schema.Definition
import SqlBuilder.Script.QueryCalls

/-!
# Cursors

A builder under construction, with the place where its chain of calls stands. A call may ask what the
builder compiles to, and compiling may report events; these are kept beside the builder, and stay when
a later call fails.

* `Make`: a step on an object that may report events.
* `QueryCursor`, `RawCursor`, `SchemaCursor`: the builders under construction.
* `QueryCursor.call`, `RawCursor.call`, `SchemaCursor.call`: a call by name.
-/

namespace SqlBuilder

/-! ## Steps on objects -/

/-- An object that calls are made on, and the events reported so far. -/
structure Making (σ : Type) where
  object : σ
  events : List LogEvent := []

/-- A step on an object that may report events. What it did before it failed is kept. -/
abbrev Make (σ α : Type) := EStateM Error (Making σ) α

namespace Make

variable {σ α : Type}

/-- A step that reports nothing. -/
def ofBuild (step : Build σ α) : Make σ α := fun m =>
  match step m.object with
  | .ok a object => .ok a { m with object }
  | .error e object => .error e { m with object }

/-- A step that leaves the object as it is. -/
def ofLogged (step : Logged α) : Make σ α := fun m =>
  match step m.events with
  | .ok a events => .ok a { m with events }
  | .error e events => .error e { m with events }

/-- Changes the object. -/
def edit (f : σ → σ) : Make σ Unit :=
  modify fun m => { m with object := f m.object }

/-- A change that succeeds with a new object or leaves the old one. -/
def change (f : σ → Logged σ) : Make σ Unit := do
  let object ← ofLogged (f (← get).object)
  edit fun _ => object

/-- The object that steps end in, if none fails. -/
def finish (steps : Make σ Unit) (object : σ) : Logged σ := fun events =>
  match steps { object, events } with
  | .ok _ m => .ok m.object m.events
  | .error e m => .error e m.events

end Make

/-! ## Plain values -/

/-- What the fields of a compiled statement are named. What they hold is nothing to call. -/
def Compiled.fieldNames : List String :=
  ["sql", "bindings", "method", "options", "timeout", "cancel_on_timeout", "alias", "returning",
   "output", "dialect"]

namespace Value

/-- How often a part occurs in a text, without overlaps; an empty one does around every character. -/
def occurrences (text part : String) : Nat :=
  let read (cs : List Char) : Option (Unit × Nat) :=
    if part.toList.isPrefixOf cs then some ((), part.length) else none
  if part.isEmpty then text.length + 1 else (Text.tokens read text.toList).length

/-- A call by name on a value that a chain of calls moved on to and that is no builder. Texts have
two methods that are named like those of queries. -/
def call (v : Value) (name : String) (a : Arguments) : Except Error Value := do
  match v, name with
  | .str text, "count" => return .int (occurrences text (← (← a.only).asText))
  | .str text, "join" => return .str (Text.joinWith text (← (← (← a.only).items).mapM asText))
  | .compiled _, name =>
    throw (if Compiled.fieldNames.contains name then wrongType else noSuchMember)
  | v, name => throw (v.missing name)

end Value

/-! ## Queries -/

/-- What builders compile to while a script runs. -/
structure Outputs where
  /-- a query or a raw expression -/
  statement : OutputForm → Value → Logged Value
  /-- a schema change -/
  schema : OutputForm → Schema Value → Logged Value

/-- How callbacks run on the objects that a query hands them while it is being put together. -/
structure Callbacks where
  join : List Chain → Join Value → Logged (Join Value)
  window : List Chain → Window Value → Logged (Window Value)

/-- What the last call of a chain on a query left. -/
inductive QueryStage
  /-- the query itself -/
  | builder
  /-- the choice of what to do about conflicts over some columns -/
  | conflict (columns : List Value)
  /-- a plain value -/
  | value (v : Value)

/-- A query under construction: the query that the chain started from, the copy that it moved on to,
if any, and what its last call left. -/
structure QueryCursor where
  origin : Query Value
  copy : Option (Query Value) := none
  stage : QueryStage := .builder

namespace QueryCursor

/-- The query that the next call is made on. -/
def current (c : QueryCursor) : Query Value :=
  c.copy.getD c.origin

/-- Replaces the query that the next call is made on. -/
def replace (c : QueryCursor) (q : Query Value) : QueryCursor :=
  if c.copy.isSome then { c with copy := some q } else { c with origin := q }

/-- What the chain ends in. -/
def result (c : QueryCursor) : Value :=
  match c.stage with
  | .builder => .query c.current
  | .conflict columns => .conflict c.current columns
  | .value v => v

/-- What is compiled in the end: what the chain ends in, or the query where it started if the choice of
what to do about conflicts is still open. -/
def target (c : QueryCursor) : Value :=
  match c.stage with
  | .conflict _ => .query c.origin
  | _ => c.result

/-- Moves on to a value; the next call on a query is made on that query. -/
def moveTo (v : Value) (c : QueryCursor) : QueryCursor :=
  match v with
  | .query q => { c with copy := some q, stage := .builder }
  | v => { c with stage := .value v }

/-- Makes a step on the current query; what it did before it failed is kept. -/
def onCurrent {α : Type} (step : Build (Query Value) α) : Build QueryCursor α := fun c =>
  match step c.current with
  | .ok a q => .ok a (c.replace q)
  | .error e q => .error e (c.replace q)

/-- Finishes the choice of what to do about conflicts. -/
def finishConflict (columns : List Value) (merge : Option Value) (c : QueryCursor) : QueryCursor :=
  { c.replace (c.current.onConflict columns merge) with stage := .builder }

/-- A call by name on the choice of what to do about conflicts. -/
def conflictCall (columns : List Value) (name : String) (a : Arguments) : Make QueryCursor Unit := do
  match name with
  | "ignore" =>
    liftExcept a.none_
    Make.edit (finishConflict columns none)
  | "merge" =>
    let b ← liftExcept (a.bind ["updates"] 0)
    Make.edit (finishConflict columns (some (b.get "updates")))
  | _ => throw noSuchMember

/-- A call by name, where `extension` runs the extension of that name, if there is one. -/
def call (callbacks : Callbacks) (outputs : Outputs)
    (extension : Option (Arguments → Make QueryCursor Unit)) (name : String) (a : Arguments) :
    Make QueryCursor Unit := do
  match (← get).object.stage with
  | .value v =>
    let v ← liftExcept (v.call name a)
    Make.edit (moveTo v)
  | .conflict columns => conflictCall columns name a
  | .builder =>
    match ← Make.ofBuild (onCurrent (Query.call name a)) with
    | .stay => pure ()
    | .copy => Make.edit fun c => { c with copy := some c.current }
    | .conflict columns => Make.edit fun c => { c with stage := .conflict columns }
    | .value v => Make.edit (moveTo v)
    | .join chains j =>
      let j ← Make.ofLogged (callbacks.join chains j)
      Make.edit fun c => c.replace (c.current.addJoin j)
    | .window chains w =>
      let w ← Make.ofLogged (callbacks.window chains w)
      Make.edit fun c => c.replace (c.current.addWindow w)
    | .output form =>
      let v ← Make.ofLogged (outputs.statement form (.query (← get).object.current))
      Make.edit (moveTo v)
    | .unknown =>
      match extension with
      | some run => run a
      | none => throw (.unknownMethod name)

end QueryCursor

/-! ## Raw expressions -/

/-- A raw expression under construction, and the plain value that its chain of calls moved on to. -/
structure RawCursor where
  raw : Raw Value
  value : Option Value := none

namespace RawCursor

/-- What the chain ends in. -/
def result (c : RawCursor) : Value :=
  c.value.getD (.raw c.raw)

/-- A call by name. -/
def call (outputs : Outputs) (c : RawCursor) (name : String) (a : Arguments) : Logged RawCursor := do
  let output (form : OutputForm) : Logged RawCursor := do
    return { c with value := some (← outputs.statement form (.raw c.raw)) }
  match c.value, name with
  | some v, name => return { c with value := some (← liftExcept (v.call name a)) }
  | none, "to_sql" =>
    let _ ← liftExcept (a.bind ["client", "query_context"] 0)
    output .compiled
  | none, "to_query" =>
    liftExcept a.none_
    output .text
  | none, name => return { c with raw := ← liftExcept (c.raw.call name a) }

end RawCursor

/-! ## Schema changes -/

namespace Schema

/-- Adds an operation. -/
def add (s : Schema Value) (operation : SchemaOperation Value) : Schema Value :=
  { s with operations := s.operations ++ [operation] }

/-- The outcome of a call on a schema. -/
def call (s : Schema Value) (name : String) (a : Arguments) : Except Error (Schema Value) := do
  let table (method : TableMethod) : Except Error (Schema Value) := do
    let b ← a.bind ["name", "fn"] 2
    return s.add (.table method (b.get "name") none (b.get "fn"))
  let view (method : ViewMethod) : Except Error (Schema Value) := do
    let b ← a.bind ["name", "fn"] 2
    return s.add (.view method (b.get "name") (b.get "fn"))
  let named (operation : Value → SchemaOperation Value) : Except Error (Schema Value) := do
    return s.add (operation (← a.one "name"))
  let renamed (operation : Value → Value → SchemaOperation Value) :
      Except Error (Schema Value) := do
    let b ← a.bind ["old", "new"] 2
    return s.add (operation (b.get "old") (b.get "new"))
  let cascading (ifExists : Bool) : Except Error (Schema Value) := do
    let b ← a.bind ["name", "cascade"] 1
    return s.add (.dropSchema (b.get "name") ifExists (b.flag "cascade" false))
  match name with
  | "with_schema" => return { s with schema := (← a.one "schema").present? }
  | "create_table" => table .create
  | "create_table_if_not_exists" => table .createIfNotExists
  | "create_table_like" =>
    let b ← a.bind ["name", "like", "fn"] 2
    return s.add (.table .createLike (b.get "name") (b.get "like").present? (b.get "fn"))
  | "table" | "alter_table" => table .alter
  | "rename_table" => renamed .renameTable
  | "drop_table" => named (.dropTable · false)
  | "drop_table_if_exists" => named (.dropTable · true)
  | "has_table" => named .hasTable
  | "has_column" =>
    let b ← a.bind ["table", "column"] 2
    return s.add (.hasColumn (b.get "table") (b.get "column"))
  | "create_view" => view .create
  | "create_view_or_replace" => view .createOrReplace
  | "create_materialized_view" => view .createMaterialized
  | "alter_view" => view .alter
  | "refresh_materialized_view" =>
    let b ← a.bind ["name", "concurrently"] 1
    return s.add (.refreshView (b.get "name") (b.flag "concurrently" false))
  | "drop_view" => named (.dropView · false false)
  | "drop_view_if_exists" => named (.dropView · true false)
  | "drop_materialized_view" => named (.dropView · false true)
  | "drop_materialized_view_if_exists" => named (.dropView · true true)
  | "rename_view" => renamed .renameView
  | "create_schema" => named (.createSchema · false)
  | "create_schema_if_not_exists" => named (.createSchema · true)
  | "drop_schema" => cascading false
  | "drop_schema_if_exists" => cascading true
  | "create_extension" => named (.createExtension · false)
  | "create_extension_if_not_exists" => named (.createExtension · true)
  | "drop_extension" => named (.dropExtension · false)
  | "drop_extension_if_exists" => named (.dropExtension · true)
  | "raw" =>
    let b ← a.bind ["sql", "bindings"] 1
    return s.add (.raw (b.get "sql") (b.get "bindings"))
  | "client" | "sequence" | "schema" => throw wrongType
  | _ => throw noSuchMember

end Schema

/-- A schema change under construction, and the plain value that its chain of calls moved on to. -/
structure SchemaCursor where
  schema : Schema Value
  value : Option Value := none

/-- A call by name. -/
def SchemaCursor.call (outputs : Outputs) (c : SchemaCursor) (name : String) (a : Arguments) :
    Logged SchemaCursor := do
  let output (form : OutputForm) : Logged SchemaCursor := do
    liftExcept a.none_
    return { c with value := some (← outputs.schema form c.schema) }
  match c.value, name with
  | some v, name => return { c with value := some (← liftExcept (v.call name a)) }
  | none, "to_sql" => output .compiled
  | none, "to_query" => output .text
  | none, name => return { c with schema := ← liftExcept (c.schema.call name a) }

end SqlBuilder
