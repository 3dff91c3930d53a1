import SqlBuilder.Render.Compile

/-!
# Rendering without guards

A statement with an undefined value has no rendering: columns are marked while it is rendered, the values of
a complete statement are searched, and so are the bindings of a raw expression. Here the same functions render
statements and raw expressions without these guards, so that one can say which values a statement would bind.

* `Condition.isExact`: a condition binds the values in which undefined ones are looked for.
* `Scope.unguardedRaw`, `Scope.unguardedStatement`: a raw expression and a statement without guards.
* `Nested.unguarded`: what is nested up to a number of levels deep, without guards.
* `Query.unguarded`: a query without guards.
-/

namespace SqlBuilder

/-- The values among some bindings. -/
def RawBindings.values : RawBindings Value → List Value
  | .positional values => values
  | .named entries => entries.map (·.2)

/-- Rows in which undefined values are looked for are bound; of a row that is a mapping only the keys are. -/
def Value.hasPlainRows (values : Value) : Bool :=
  match values.sequence? with
  | some (first :: rest) =>
    first.sequence?.isNone || rest.all fun row => row.entries?.isNone || !row.containsUndefined
  | _ => true

/-- A condition binds every value in which undefined ones are looked for. Of the bounds of a range only the
first two are bound. -/
def Condition.isExact (c : Condition Value) : Bool :=
  match c.test with
  | .between _ bounds => (bounds.drop 2).all fun v => !v.containsUndefined
  | .isIn _ values => values.hasPlainRows
  | _ => true

/-- The conditions that a statement of a kind shows. -/
def Statement.shownConditions (st : Statement Value) : Method → List (Condition Value)
  | .select | .first => st.joins.flatMap (·.conditions) ++ st.wheres ++ st.havings
  | .update | .delete => st.wheres
  | .insert | .upsert | .truncate => []

namespace Scope

/-- Conditions that bind every value in which undefined ones are looked for; others make no sense here. -/
def assertExact (cs : List (Condition Value)) : Compile Unit :=
  if cs.all Condition.isExact then pure () else throw (.fault .badValue)

/-- What a raw expression renders to, with the undefined ones among its values bound once more. -/
def withUndefined (s : Scope) (values : List Value) (operand : Operand) : Compile Operand := do
  let undefined := values.filter Value.containsUndefined
  if undefined.isEmpty then return operand
  else
    let sql ← s.spell operand
    bindAll undefined
    return .sql (sql ++ undefined.map .stray)

/-- What a raw expression renders to, whatever its values are. -/
def unguardedRaw (s : Scope) (r : Raw Value) : Compile Operand := do
  match r.reference with
  | some name =>
    let target ← s.referenceTarget name r.schema r.asName
    let sql ← s.columnize target
    s.withUndefined [target] (.sql sql)
  | none =>
    let operand ← s.surrounded r
    s.withUndefined r.bindings.values operand

/-- A statement of a kind, whatever its values are. The columns that are marked have to be texts. -/
def unguardedBody (s : Scope) (method : Method) (st : Statement Value) : Compile Sql := do
  assertExact (st.shownConditions method)
  let sql := commented st.comments (← s.body method st)
  let _ ← columnTexts (← get).undefinedColumns
  return sql

/-- A statement of a kind, whatever its values are, with undefined columns of its own. -/
def unguardedStatement (s : Scope) (method : Method) (st : Statement Value) : Compile Rendered := do
  return { sql := ← ownColumns (s.unguardedBody method st), method, asName := st.asName }

end Scope

/-- The renderings of what is nested up to a number of levels deep, whatever its values are. The texts of
values, and what builders compile to while a callback runs, are not part of a statement; they are what they
are elsewhere. -/
def Nested.unguarded (env : Environment) : Nat → Nested
  | 0 => exhausted
  | n + 1 =>
    let lower := unguarded env n
    { Nested.ofDepth env (n + 1) with
      query := fun client context method q =>
        let s : Scope := { env, client, context := context.or q.context, nested := lower }
        s.unguardedStatement (method.getD q.statement.method) q.statement
      raw := fun client context r =>
        let s : Scope := { env, client, context, nested := lower }
        s.unguardedRaw r
      conditions := fun client context clause cs => do
        let s : Scope := { env, client, context, nested := lower }
        Scope.assertExact cs
        s.conditions clause cs }

/-- A query rendered on the client that it was made for, whatever its values are. -/
def Query.unguarded (env : Environment) (q : Query Value) : Compile Rendered :=
  (Nested.unguarded env nestingLimit).query q.client none none q

end SqlBuilder
