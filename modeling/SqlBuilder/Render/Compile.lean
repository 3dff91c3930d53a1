import SqlBuilder.Native
import SqlBuilder.Render.RawText
import SqlBuilder.Render.Statement
import SqlBuilder.Schema.Operation

/-!
# Compiling statements

Queries, raw expressions and schema changes as compiled statements. Rendering goes down through nested
queries, each level handing the next one down the means to render what it contains; the number of
levels is limited.

* `Nested.ofDepth`: the renderings of what is nested up to a number of levels deep.
* `Query.compile`, `Raw.compile`, `Schema.compile`: the compiled statements.
* `Schema.text`: the statements of a schema change as one text.
* `Environment.display`: the text of any value, which for a query is its SQL with literals in place of
  placeholders.
-/

namespace SqlBuilder

namespace Nested

/-- The renderings when nothing may be nested any deeper. -/
def exhausted : Nested where
  query _ _ _ _ := throw (.fault .nestingTooDeep)
  raw _ _ _ := throw (.fault .nestingTooDeep)
  schema _ := throw (.fault .nestingTooDeep)
  conditions _ _ _ _ := throw (.fault .nestingTooDeep)
  printers := ⟨fun _ => throw (.fault .nestingTooDeep), fun _ => throw (.fault .nestingTooDeep)⟩
  outputs := ⟨fun _ _ => throw (.fault .nestingTooDeep), fun _ _ => throw (.fault .nestingTooDeep)⟩

/-- A query or a raw expression rendered on its own client. -/
def standing (nested : Nested) (env : Environment) (v : Value) :
    Compile (Client Value × Operand) := do
  match env.query? v, env.raw? v with
  | some q, _ => return (q.client, .sql (← nested.query q.client none none q).sql)
  | none, some r =>
    match r.client with
    | some client => return (client, ← nested.raw client none r)
    | none => throw .clientNeeded
  | none, none => throw noSuchMember

/-- A statement with literals in place of its placeholders. -/
def inlined (nested : Nested) (client : Client Value) (sql : String) (bindings : List Value) :
    Compile String :=
  Literal.inline client.capabilities.escape nested.printers "local" sql bindings

/-- The statements of a schema change as one text, with literals in place of their placeholders. -/
def schemaText (nested : Nested) (schema : Schema Value) : Compile String := do
  let texts ← (← nested.schema schema).mapM fun c => do
    if c.object.isSome then throw wrongType
    nested.inlined schema.client c.sql c.bindings
  return Text.joinWith ";\n" texts

/-- The statements of a schema change as a value. -/
def schemaValue (nested : Nested) (schema : Schema Value) : Compile Value := do
  return .list ((← nested.schema schema).map .compiled)

/-- The text of a value. What is bound on the way to it is not bound in the statement, and undefined columns
there are none of the statement. -/
def display (nested : Nested) (env : Environment) (v : Value) : Compile String :=
  match v with
  | .schema schema => ownColumns (ownBindings (nested.schemaText schema))
  | v =>
    if v.isBuilder then ownColumns <| ownBindings do
      let (client, operand) ← nested.standing env v
      let sql ← operand.textual
      nested.inlined client sql.text sql.bindings
    else pure v.text

/-- The texts of values, whose nested queries are one level down. -/
def printersOn (nested : Nested) (env : Environment) : Literal.Printers where
  sql v := ownBindings do
    match v with
    | .schema schema => nested.schemaValue schema
    | v => return (← nested.standing env v).2.toValue
  display v := nested.display env v

/-- A compiled query, on the client that it was made for. -/
def compiledQuery (nested : Nested) (q : Query Value) : Compile (Compiled Value) := do
  let r ← nested.query q.client none none q
  return {
    sql := r.sql.text
    bindings := r.sql.bindings
    method := r.method.name
    options := q.options
    timeout := q.timeout.map fun n => .int n
    cancelOnTimeout := q.cancelOnTimeout
    asName := r.asName
    returning := q.statement.returning
    dialect := some q.client.dialectName }

/-- A compiled raw expression, on the client that it was made for. A reference is compiled without
the settings for running it. -/
def compiledRaw (nested : Nested) (r : Raw Value) : Compile (Compiled Value) := do
  match r.client with
  | none => throw .clientNeeded
  | some client =>
    let operand ← nested.raw client none r
    let (sql, object) := match operand with
      | .sql sql => (sql, none)
      | .object v => ([], some v)
    let plain := r.reference.isSome
    return {
      sql := sql.text
      object
      bindings := sql.bindings
      method := "raw"
      options := if plain then [] else r.options
      timeout := if plain then none else r.timeout
      cancelOnTimeout := if plain then none else r.cancelOnTimeout
      dialect := some client.dialectName }

/-- The compiled statement of a query or a raw expression. -/
def compiledValue (nested : Nested) (env : Environment) (v : Value) : Compile (Compiled Value) :=
  match env.query? v, env.raw? v with
  | some q, _ => nested.compiledQuery q
  | none, some r => nested.compiledRaw r
  | none, none => throw (v.missing "to_sql")

/-- A query in the driver's form. -/
def nativeValue (nested : Nested) (env : Environment) (v : Value) : Compile Native :=
  match env.query? v with
  | some q => do q.client.native (← nested.compiledQuery q)
  | none => throw (v.missing "to_native")

/-- What builders compile to while a script runs. -/
def outputsOn (nested : Nested) (env : Environment) : Outputs where
  statement form v :=
    let output : Compile Value := match form with
      | .compiled => do return .compiled (← nested.compiledValue env v)
      | .native => do return (← nested.nativeValue env v).toValue
      | .text => do return .str (← nested.display env v)
    output.logged
  schema form schema :=
    let output : Compile Value := match form with
      | .text => do return .str (← nested.schemaText schema)
      | _ => nested.schemaValue schema
    output.logged

/-- The renderings of what is nested up to a number of levels deep. -/
def ofDepth (env : Environment) : Nat → Nested
  | 0 => exhausted
  | n + 1 =>
    let lower := ofDepth env n
    { query := fun client context method q =>
        let s : Scope := { env, client, context := context.or q.context, nested := lower }
        s.statement (method.getD q.statement.method) q.statement
      raw := fun client context r =>
        let s : Scope := { env, client, context, nested := lower }
        s.rawExpression r
      schema := fun schema =>
        let s : Scope := { env, client := schema.client, nested := lower }
        s.schemaChange schema
      conditions := fun client context clause cs =>
        let s : Scope := { env, client, context, nested := lower }
        s.conditions clause cs
      printers := lower.printersOn env
      outputs := lower.outputsOn env }

end Nested

namespace Environment

/-- The renderings of what is nested in a statement. -/
def nested (env : Environment) : Nested :=
  .ofDepth env nestingLimit

/-- The evaluator of an environment. -/
def evaluator (env : Environment) : Evaluator :=
  SqlBuilder.evaluator env (env.nested.outputsOn env) nestingLimit

/-- The scope of a rendering on a client. -/
def scope (env : Environment) (client : Client Value) (context : Option Value := none) : Scope :=
  { env, client, context, nested := env.nested }

/-- The text of any value. -/
def display (env : Environment) (v : Value) : Compile String :=
  env.nested.display env v

/-- Throws an error whose text is complete. -/
def fail {α : Type} (env : Environment) : Error → Compile α
  | .boundsNeeded column => do throw (.invalid (.between (← env.display column)))
  | e => throw e

/-- A compilation whose errors have complete texts. -/
def settled {α : Type} (env : Environment) (c : Compile α) : Compile α :=
  tryCatch c env.fail

/-- A statement with literals in place of its placeholders; the values are the items of `bindings`, if
those are present. -/
def formatQuery (env : Environment) (client : Client Value) (sql : String) (bindings : Value)
    (zone : String := "local") : Compile String := do
  let values ← if bindings.isTruthy then liftCompile bindings.items else pure []
  Literal.inline client.capabilities.escape (env.nested.printersOn env) zone sql values

end Environment

/-- A compiled query, on the client that it was made for. -/
def Query.compile (env : Environment) (q : Query Value) : Compile (Compiled Value) :=
  env.settled (env.nested.compiledQuery q)

/-- A compiled raw expression, on the client that it was made for. -/
def Raw.compile (env : Environment) (r : Raw Value) : Compile (Compiled Value) :=
  env.settled (env.nested.compiledRaw r)

namespace Schema

/-- The statements of a schema change. -/
def compile (env : Environment) (schema : Schema Value) : Compile (List (Compiled Value)) :=
  env.settled (env.nested.schema schema)

/-- The statements of a schema change as one text, with literals in place of their placeholders. -/
def text (env : Environment) (schema : Schema Value) : Compile String :=
  env.settled (env.nested.schemaText schema)

end Schema

end SqlBuilder
