import SqlBuilder.Render.Operand
import SqlBuilder.JsonPath

/-!
# Rendering conditions

The conditions of a `where`, of a `having` and of a join. Each is rendered by itself; then they are
joined by their connectives, without those that have no text.

* `Scope.condition`: one condition.
* `Scope.conditions`: the conditions of a clause.
* `Scope.joinConditions`: the conditions of a join.
-/

namespace SqlBuilder

namespace Scope

/-- Marks a column if the value that goes with it contains an undefined one. -/
def trackUndefined (s : Scope) (column value : Value) : Compile Unit := do
  if value.containsUndefined then markUndefined (.str (← s.display column))

/-- A test of a negatable form. -/
def negatable (negated : Bool) (sql : Sql) : Sql :=
  Sql.when negated (Sql.word "not ") ++ sql

/-- A group of conditions in parentheses, if it has text. -/
def group (negated : Bool) (sql : Sql) : Sql :=
  if sql.isBlank then sql else negatable negated sql.parens

/-! ## Comparisons -/

/-- A column against a bound value. -/
def compare (s : Scope) (column operator value : Value) : Compile Sql := do
  let target ← s.wrap column
  s.trackUndefined column value
  return Sql.joined " " [target, ← s.operator operator, ← s.parameter value]

/-- A column against another. -/
def compareColumns (s : Scope) (column operator other : Value) : Compile Sql := do
  return Sql.joined " " [← s.wrap column, ← s.operator operator, ← s.wrap other]

/-- A column against a list or a query; nothing is in an empty list. -/
def membership (s : Scope) (negated : Bool) (column values : Value) : Compile Sql := do
  match values.sequence? with
  | some [] => return Sql.word (if negated then "1 = 1" else "1 = 0")
  | _ =>
    let target ← match column.sequence? with
      | some columns => do pure (← s.columnizeAll columns).parens
      | none => s.wrap column
    s.trackUndefined column values
    return target ++ Sql.word (if negated then " not in " else " in ") ++ (← s.values values)

/-- A column against two bounds. -/
def range (s : Scope) (negated : Bool) (column : Value) (bounds : List Value) : Compile Sql := do
  let target ← s.wrap column
  s.trackUndefined column (.list bounds)
  let bound (i : Nat) : Compile Sql :=
    match bounds[i]? with
    | some v => s.parameter v
    | none => throw (.fault .outOfRange)
  return target ++ Sql.word (if negated then " not between " else " between ") ++ (← bound 0) ++
    Sql.word " and " ++ (← bound 1)

/-! ## JSON paths -/

/-- The arguments that name a place in a JSON document. -/
def jsonPath (s : Scope) (path : Value) : Compile Sql :=
  if s.capabilities.jsonPath.arrayPath then
    match path with
    | .str path => do return Sql.commas (← (JsonPath.keys path).mapM fun key => bind (.str key))
    | .scalar (.bytes _) => throw wrongType
    | path => throw (path.missing "startswith")
  else s.parameter path

/-- A value extracted from a JSON column. -/
def jsonExtract (s : Scope) (column path : Value) : Compile Sql := do
  let target ← s.columnize column
  return Sql.word (s.capabilities.jsonPath.function ++ "(") ++ target ++ Sql.word ", " ++
    (← s.jsonPath path) ++ Sql.word ")"

/-- An extracted value in the type of the value that it is compared with. -/
def jsonOperand (style : JsonPathStyle) (value : Value) (extracted : Sql) : Sql :=
  match style.textOperator, style.unquoteFunction with
  | some operator, _ =>
    let text := extracted ++ Sql.word operator
    match value with
    | .int _ => text.parens ++ Sql.word "::int"
    | .scalar (.float _) => text.parens ++ Sql.word "::float"
    | _ => text
  | none, some function =>
    match value with
    | .str _ => Sql.word function ++ extracted.parens
    | _ => extracted
  | none, none => extracted

/-- A value inside a JSON column against a bound one. -/
def jsonCompare (s : Scope) (column path operator value : Value) : Compile Sql := do
  s.trackUndefined column value
  let extracted ← s.jsonExtract column path
  return Sql.joined " "
    [jsonOperand s.capabilities.jsonPath value extracted, ← s.operator operator, ← s.parameter value]

/-! ## Conditions -/

/-- The equality of each column with its value; with null it tests for null. -/
def pairTests (s : Scope) (entries : List (Value × Value)) : Compile Sql := do
  let parts ← entries.mapM fun (column, value) => do
    match value with
    | .null => return (← s.wrap column) ++ Sql.word " is null"
    | value => s.compare column (.str "=") value
  return Sql.joined " and " parts

/-- The equality of each column with another. -/
def pairColumns (s : Scope) (entries : List (Value × Value)) : Compile Sql := do
  return Sql.joined " and "
    (← entries.mapM fun (column, other) => s.compareColumns column (.str "=") other)

/-- The conditions that a callback adds to an empty query. -/
def callbackConditions (s : Scope) (clause : ConditionClause) (callback : Value) : Compile Sql :=
  match callback with
  | .callback chains => do
    let q ← s.callbackQuery chains
    s.nested.conditions s.client (s.context.or q.context) clause (q.statement.conditions clause)
  | _ => throw wrongType

/-- The conditions that a callback adds to an empty join. -/
def callbackJoin (s : Scope) (callback : Value) : Compile Sql :=
  match callback with
  | .callback chains => do
    let j ← Compile.ofLogged (s.evaluator.onObject Join.call chains { table := .null })
    s.nested.conditions s.client s.context .where_ j.conditions
  | _ => throw wrongType

/-- One condition that is no raw expression by itself; `clause` is where the groups of callbacks look
for their conditions. -/
def test (s : Scope) (clause : ConditionClause) (negated : Bool) : Test Value → Compile Sql
  | .compare column operator value => do
    return negatable negated (← s.compare column operator value)
  | .compareColumns column operator other => do
    return negatable negated (← s.compareColumns column operator other)
  | .isIn column values => s.membership negated column values
  | .isNull column => do
    return (← s.wrap column) ++ Sql.word (if negated then " is not null" else " is null")
  | .between column bounds => s.range negated column bounds
  | .exists_ query => do
    return negatable negated (Sql.word "exists " ++ (← s.subquery query).parens)
  | .group callback => do return group negated (← s.callbackConditions clause callback)
  | .pairs entries => do return group negated (← s.pairTests entries)
  | .raw expression => do
    return negatable negated (← s.spell (← s.unwrapOrNothing expression)).parens
  | .like column pattern ignoreCase => do
    let target ← s.wrap column
    s.trackUndefined column pattern
    let operator := if ignoreCase then s.capabilities.ilikeOperator else "like"
    return negatable negated (Sql.joined " " [target, Sql.word operator, ← s.parameter pattern])
  | .jsonPath column path operator value => do
    return negatable negated (← s.jsonCompare column path operator value)
  | .joinGroup callback => do return group negated (← s.callbackJoin callback)
  | .joinPairs entries => do return group negated (← s.pairColumns entries)
  | .using _ => throw noSuchMember

/-- What one condition renders to. A raw expression stands for itself, unless it is negated. -/
def condition (s : Scope) (clause : ConditionClause) (c : Condition Value) : Compile Operand :=
  match c.test, c.negated with
  | .raw expression, false => s.unwrapOrNothing expression
  | test, negated => do return .sql (← s.test clause negated test)

/-- What joins a condition to the ones before it. -/
def conjunction (s : Scope) (c : Condition Value) : Compile Sql :=
  match c.word with
  | some word => do return Sql.raw (← s.display word)
  | none => pure (Sql.word c.connective.word)

/-- A condition after others: those without text need no word between them, and the first one has to be
a text. -/
def conjoin (s : Scope) (done : Sql) (c : Condition Value) (operand : Operand) : Compile Sql := do
  if operand.isBlank then return done ++ (← s.spell operand.orNothing)
  else if done.isBlank then return done ++ (← operand.textual)
  else
    return done ++ Sql.word " " ++ (← s.conjunction c) ++ Sql.word " " ++ (← s.spell operand)

/-- The conditions of a clause. -/
def conditions (s : Scope) (clause : ConditionClause) (conditions : List (Condition Value)) :
    Compile Sql :=
  conditions.foldlM (fun done c => do s.conjoin done c (← s.condition clause c)) []

/-- A clause of conditions, if it has text. -/
def conditionClause (s : Scope) (clause : ConditionClause) (keyword : String)
    (cs : List (Condition Value)) : Compile Sql := do
  return (← s.conditions clause cs).after (keyword ++ " ")

/-- What stands between a joined table and the next clause. Columns that both sides share are named
instead of conditions; text that names them itself needs no `on`. -/
def joinConditions (s : Scope) (conditions : List (Condition Value)) : Compile Sql := do
  match conditions with
  | ⟨_, _, _, .using columns⟩ :: _ =>
    return Sql.word " using " ++ (← s.columnizeAll columns).parens
  | conditions =>
    let sql ← s.conditions .where_ conditions
    return if Text.startsWith sql.text " using" then sql else sql.after " on "

end Scope

end SqlBuilder
