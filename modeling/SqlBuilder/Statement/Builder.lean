import SqlBuilder.Error

/-!
# Building queries

The calls that put a query together. Each returns the changed query; those that can refuse their
arguments return an error instead, and leave the query as it was. Two calls take lists or mappings
of which every entry is a change of its own: `Query.orderBy` and `Query.count` keep the changes made
before the entry that they refuse. So do options that come as a list.
-/

namespace SqlBuilder

/-- A step on an object `σ` that keeps what it did before it failed. -/
abbrev Build (σ α : Type) := EStateM Error σ α

/-- An outcome without effects, as a step of a build. -/
def liftExcept {σ α : Type} : Except Error α → Build σ α
  | .ok a => pure a
  | .error e => throw e

/-- A change that succeeds with a new object or leaves the old one. -/
def change {σ : Type} (f : σ → Except Error σ) : Build σ Unit := do
  set (← liftExcept (f (← get)))

namespace Query

/-- A query on a client, without clauses. -/
def ofClient (client : Client Value) : Query Value := { client }

/-- Changes the statement of a query. -/
def edit (q : Query Value) (f : Statement Value → Statement Value) : Query Value :=
  { q with statement := f q.statement }

/-! ## Projection and source -/

/-- Adds columns to the projection; none is no change. -/
def select (q : Query Value) (columns : List Value) : Query Value :=
  match columns with
  | [] => q
  | columns => q.edit fun s => { s with projection := s.projection ++ [.columns columns .plain] }

/-- Adds columns to the projection and asks for distinct rows. -/
def distinct (q : Query Value) (columns : List Value) : Query Value :=
  q.edit fun s => { s with projection := s.projection ++ [.columns columns .distinct] }

/-- Asks for rows that differ in some columns. -/
def distinctOn (q : Query Value) (columns : List Value) : Except Error (Query Value) :=
  match columns with
  | [] => .error (.invalid .distinctOnEmpty)
  | columns =>
    .ok (q.edit fun s => { s with projection := s.projection ++ [.columns columns .distinctOn] })

/-- Sets the table. -/
def from_ (q : Query Value) (table : Value) : Query Value :=
  q.edit fun s => { s with table := table.present? }

/-- Sets the schema of the table, and of the tables joined from here on. -/
def withSchema (q : Query Value) (schema : Value) : Query Value :=
  q.edit fun s => { s with schema := schema.present? }

/-- Sets the alias under which the query stands in another one. -/
def as_ (q : Query Value) (asName : Value) : Query Value :=
  q.edit fun s => { s with asName := asName.present? }

/-- Adds a common table. -/
def withTable (q : Query Value) (name query : Value) (columns : Option Value) (recursive : Bool)
    (materialized : Option Bool) : Except Error (Query Value) :=
  match name with
  | .str name =>
    if query.isCallback || query.isRaw || query.isQuery then
      .ok (q.edit fun s =>
        { s with
          commonTables := s.commonTables ++ [{ name, query, columns, recursive, materialized }] })
    else .error (.invalid .commonTableQuery)
  | _ => .error (.invalid .aliasNotText)

/-! ## Conditions -/

/-- Adds a condition to a clause. -/
def addCondition (q : Query Value) (clause : ConditionClause) (connective : Connective)
    (negated : Bool) (test : Test Value) : Query Value :=
  q.edit fun s => s.addCondition clause { connective, negated, test }

/-- Adds a membership test; a set stands for its items in the order of their shown forms. -/
def addIn (q : Query Value) (clause : ConditionClause) (connective : Connective) (negated : Bool)
    (column values : Value) : Query Value :=
  q.addCondition clause connective negated (.isIn column values.sorted)

/-- Adds a test for a range with two bounds. -/
def addBetween (q : Query Value) (clause : ConditionClause) (connective : Connective)
    (negated : Bool) (column bounds : Value) : Except Error (Query Value) :=
  match bounds.sequence? with
  | some [low, high] => .ok (q.addCondition clause connective negated (.between column [low, high]))
  | _ => .error (.boundsNeeded column)

/-- An operator as a word, where it is a text: in lower case and without surrounding blanks. -/
def operatorWord (operator : Value) : Option String :=
  operator.str?.map fun s => Text.strip (Text.lower s)

/-- Adds the comparison of a column with a value. Operators that are conditions of their own, and
comparisons with null, become those conditions. -/
def addComparison (q : Query Value) (clause : ConditionClause) (connective : Connective)
    (negated : Bool) (column operator value : Value) : Except Error (Query Value) :=
  let test := Test.compare column operator value
  match operatorWord operator, value with
  | some "in", _ => .ok (q.addIn clause connective negated column value)
  | some "not in", _ => .ok (q.addIn clause connective (!negated) column value)
  | some "between", _ => q.addBetween clause connective negated column value
  | some "not between", _ => q.addBetween clause connective (!negated) column value
  | some word, .null =>
    if ["is", "="].contains word then .ok (q.addCondition clause connective negated (.isNull column))
    else if ["is not", "!=", "<>"].contains word then
      .ok (q.addCondition clause connective (!negated) (.isNull column))
    else .ok (q.addCondition clause connective negated test)
  | _, _ => .ok (q.addCondition clause connective negated test)

/-- A raw expression without bindings, on the client of the query. -/
def rawText (q : Query Value) (sql : String) : Value :=
  .raw { client := some q.client, sql := .str sql }

/-- The equality of a column and a value, as a condition; with null it tests for null. -/
def pairTest (column value : Value) : Test Value :=
  match value with
  | .null => .isNull column
  | value => .compare column (.str "=") value

/-- Adds a condition given by a single argument. -/
def addCriterion (q : Query Value) (clause : ConditionClause) (connective : Connective)
    (negated : Bool) (criterion : Value) : Except Error (Query Value) :=
  match criterion with
  | .bool b =>
    .ok (q.addCondition clause connective negated (.raw (q.rawText (if b then "1 = 1" else "1 = 0"))))
  | .map entries =>
    if connective = .and && !negated then
      .ok (entries.foldl (fun q (k, v) => q.addCondition clause .and false (pairTest k v)) q)
    else .ok (q.addCondition clause connective negated (.pairs entries))
  | .callback _ => .ok (q.addCondition clause connective negated (.group criterion))
  | criterion =>
    if criterion.isRaw then .ok (q.addCondition clause connective negated (.raw criterion))
    else .error (.invalid .whereArgument)

/-- Adds a condition given by one, two or three arguments: a criterion; a column and a value; or a
column, an operator and a value. -/
def addWhere (q : Query Value) (clause : ConditionClause) (connective : Connective) (negated : Bool)
    (column : Value) : (operator value : Option Value) → Except Error (Query Value)
  | none, _ => q.addCriterion clause connective negated column
  | some .null, none => .ok (q.addCondition clause connective negated (.isNull column))
  | some value, none => q.addComparison clause connective negated column (.str "=") value
  | some operator, some value => q.addComparison clause connective negated column operator value

/-- Adds the comparison of a column with another column. -/
def addColumnComparison (q : Query Value) (connective : Connective) (column operator : Value)
    (other : Option Value) : Query Value :=
  match other with
  | some other => q.addCondition .where_ connective false (.compareColumns column operator other)
  | none => q.addCondition .where_ connective false (.compareColumns column (.str "=") operator)

/-! ## Groups and orders -/

/-- Adds columns to the group list; a single raw expression stands for itself. -/
def groupBy (q : Query Value) (columns : List Value) : Query Value :=
  let raw := match columns with
    | [v] => v.isRaw
    | _ => false
  q.edit fun s => { s with groups := s.groups ++ [{ values := columns, raw }] }

/-- Adds a raw expression to the group list. -/
def groupByRaw (q : Query Value) (expression : Value) : Query Value :=
  q.edit fun s => { s with groups := s.groups ++ [{ values := [expression], raw := true }] }

/-- Where the nulls go, if a choice is made at all. -/
def nullsOrder : Value → Except Error (Option NullsOrder)
  | .null => .ok none
  | .str "first" => .ok (some .first)
  | .str "last" => .ok (some .last)
  | _ => .error (.invalid .nullsOrder)

/-- Refuses a choice for nulls that is none. -/
def checkNulls (nulls : Value) : Build (Query Value) Unit := do
  let _ ← liftExcept (nullsOrder nulls)

/-- Adds one column to the order list. -/
def addOrder (q : Query Value) (column direction : Value) (nulls : Option NullsOrder) :
    Query Value :=
  q.edit fun s => { s with orders := s.orders ++ [.by_ column direction nulls] }

/-- The value of a key, or null. -/
def entryOrNull (key : String) (entries : List (Value × Value)) : Value :=
  (Value.get? key entries).getD .null

mutual

/-- Adds a column to the order list, or each item of a list of columns; an item may be a mapping with
a column, an order and a choice for nulls. -/
def orderBy (direction nulls : Value) : Value → Build (Query Value) Unit
  | .list items => do checkNulls nulls; orderByAll direction items
  | .tuple items => do checkNulls nulls; orderByAll direction items
  | column => do
    let choice ← liftExcept (nullsOrder nulls)
    modify fun q => q.addOrder column direction choice

/-- Adds each item of a list to the order list. -/
def orderByAll (direction : Value) : List Value → Build (Query Value) Unit
  | [] => pure ()
  | .map entries :: items => do
    orderByEntry (entryOrNull "order" entries) (entryOrNull "nulls" entries) entries
    orderByAll direction items
  | item :: items => do
    orderBy direction .null item
    orderByAll direction items

/-- Adds the column that a mapping names to the order list. -/
def orderByEntry (direction nulls : Value) : List (Value × Value) → Build (Query Value) Unit
  | [] => throw (.fault .missingKey)
  | (key, column) :: entries =>
    if key.isScalar (.str "column") then orderBy direction nulls column
    else orderByEntry direction nulls entries

end

/-! ## Set operations -/

/-- Combines the query with others; `kind` is the word between them. -/
def combine (q : Query Value) (kind : String) (queries : List Value) (wrap : Bool) : Query Value :=
  q.edit fun s => { s with unions := s.unions ++ queries.map fun query => { query, kind, wrap } }

/-! ## Paging -/

/-- A whole number that is not negative. -/
def rowCount (name : String) : Value → Except Error Nat
  | .int (.ofNat n) => .ok n
  | v => .error (.invalid (.paging name v.shown))

/-- Limits the number of rows. -/
def limit (q : Query Value) (value : Value) : Except Error (Query Value) := do
  let n ← rowCount "limit" value
  return q.edit fun s => { s with limit := some n }

/-- Skips a number of rows. -/
def offset (q : Query Value) (value : Value) : Except Error (Query Value) := do
  let n ← rowCount "offset" value
  return q.edit fun s => { s with offset := some n }

/-- Asks for the first row only. -/
def first (q : Query Value) (columns : List Value) : Query Value :=
  (q.select columns).edit fun s => { s with method := .first, limit := some 1 }

/-! ## Aggregates, windows and JSON -/

/-- Adds an aggregate over a column, or over each column of a mapping under its alias. -/
def aggregate (q : Query Value) (function : String) (column : Value) (distinct : Bool) :
    Query Value :=
  let entries := match column with
    | .map entries =>
      entries.map fun (asName, target) => Projection.aggregate function target distinct asName
    | column => [.aggregate function column distinct .null]
  q.edit fun s => { s with projection := s.projection ++ entries }

/-- The terms that a column, or each item of a list of columns, adds to a window. -/
def windowTerms (direction : Value) : Value → Except Error (List (Value × Value))
  | .list items | .tuple items => items.mapM fun
    | .map entries =>
      match Value.get? "column" entries with
      | some column => .ok (column, entryOrNull "order" entries)
      | none => .error (.fault .missingKey)
    | item => .ok (item, .null)
  | column => .ok [(column, direction)]

/-- Adds a window function to the projection. -/
def addWindow (q : Query Value) (w : Window Value) : Query Value :=
  q.edit fun s => { s with projection := s.projection ++ [.window w] }

/-- The window that an order and a partition describe. -/
def windowOf (w : Window Value) (order partition : Value) : Except Error (Window Value) := do
  match order with
  | .null => throw (.invalid (.windowOrder w.function))
  | order =>
    let order ← windowTerms .null order
    let partitions ← match partition with
      | .null => pure []
      | partition => windowTerms .null partition
    return { w with order, partitions }

/-- Adds a value extracted from a JSON column to the projection. -/
def jsonExtract (q : Query Value) (column path asName : Value) : Query Value :=
  q.edit fun s => { s with projection := s.projection ++ [.jsonExtract column path asName] }

/-! ## Locks -/

/-- Asks for row locks, in some of the tables. -/
def lock (q : Query Value) (mode : LockMode) (tables : List Value) : Query Value :=
  q.edit fun s => { s with lock := some mode, lockTables := tables }

/-- Says what to do about rows that are locked already; a lock has to be asked for first. -/
def wait (q : Query Value) (mode : WaitMode) : Except Error (Query Value) :=
  if q.statement.lock.isSome then .ok (q.edit fun s => { s with wait := some mode })
  else .error (.invalid (.waitWithoutLock mode.name))

/-! ## Writes -/

/-- Asks for columns of the rows that a write touches. -/
def returning (q : Query Value) (columns : List Value) : Query Value :=
  q.edit fun s => { s with returning := columns }

/-- Asks for columns of the rows that a write touches, if some are named. -/
def returningIf (q : Query Value) : Value → Query Value
  | .null => q
  | columns => q.returning (Value.flattenArguments [columns])

/-- Inserts rows. -/
def insert (q : Query Value) (values returning : Value) : Query Value :=
  (q.edit fun s => { s with method := .insert, insert := some values }).returningIf returning

/-- Inserts rows or replaces them. -/
def upsert (q : Query Value) (values returning : Value) : Query Value :=
  (q.edit fun s => { s with method := .upsert, upsert := some values }).returningIf returning

/-- Sets columns, on top of those that are set already. -/
def setColumns (q : Query Value) (entries : List (Value × Value)) (returning : Value) :
    Query Value :=
  (q.edit fun s =>
    { s with method := .update, update := Value.mergeEntries s.update entries }).returningIf returning

/-- Sets columns from a mapping, or one column to a value. -/
def update (q : Query Value) (values : Value) (value : Option Value) (returning : Value) :
    Except Error (Query Value) :=
  match values, value with
  | .str _, none => .error (.invalid .updateWithoutValue)
  | .str column, some value => .ok (q.setColumns [(.str column, value)] returning)
  | .map entries, _ => .ok (q.setColumns entries returning)
  | _, _ => .error (.invalid .updateValues)

/-- Sets the step of a counter; an old one keeps its place. -/
def setCounter (counters : List (Counter Value)) (c : Counter Value) : List (Counter Value) :=
  if counters.any fun old => old.column == c.column then
    counters.map fun old => if old.column == c.column then c else old
  else counters ++ [c]

/-- The counter that a column and a step describe. -/
def counterOf (sign : Sign) : Value × Value → Except Error (Counter Value)
  | (.str column, step) =>
    if step.isNumber then .ok { column, sign, step } else .error (.invalid (.counterStep column))
  | _ => .error (.invalid .counterColumn)

/-- Moves each column of a list by its step. -/
def countAll (sign : Sign) : List (Value × Value) → Build (Query Value) Unit
  | [] => modify fun q => q.edit fun s => { s with method := .update }
  | entry :: entries => do
    let counter ← liftExcept (counterOf sign entry)
    modify fun q => q.edit fun s => { s with counters := setCounter s.counters counter }
    countAll sign entries

/-- Moves a column by a step, or each column of a mapping by its own. -/
def count (sign : Sign) (column step : Value) : Build (Query Value) Unit :=
  match column with
  | .map entries => countAll sign entries
  | column => countAll sign [(column, step)]

/-- Deletes rows. -/
def delete (q : Query Value) (returning : Value) : Query Value :=
  (q.edit fun s => { s with method := .delete }).returningIf returning

/-- Empties the table. -/
def truncate (q : Query Value) : Query Value :=
  q.edit fun s => { s with method := .truncate }

/-- Says what an insert does about rows that exist already. -/
def onConflict (q : Query Value) (columns : List Value) (merge : Option Value) : Query Value :=
  q.edit fun s => { s with conflict := some { columns, merge } }

/-! ## What is needed to run a query -/

/-- Adds a comment; it cannot hold the marks of a comment. -/
def comment (q : Query Value) : Value → Except Error (Query Value)
  | .str text =>
    if Text.hasInfix ['/', '*'] text.toList || Text.hasInfix ['*', '/'] text.toList then
      .error (.invalid .commentMarks)
    else .ok (q.edit fun s => { s with comments := s.comments ++ [text] })
  | _ => .error (.invalid .comment)

/-- Sets the time after which running the query fails, and whether it is cancelled then. -/
def setTimeout (q : Query Value) (duration : Value) (cancel : Option Value) :
    Except Error (Query Value) :=
  match duration with
  | .int (.ofNat n) =>
    if cancel.any Value.isTruthy && !q.client.capabilities.canCancelQuery then
      .error (.cannotCancel q.client.dialectName)
    else .ok { q with timeout := some n, cancelOnTimeout := cancel }
  | _ => .error (.invalid .timeout)

/-- Adds options for the driver. -/
def addOptions (q : Query Value) (entries : List (Value × Value)) : Query Value :=
  { q with options := Value.mergeEntries q.options entries }

/-- Sets the context that hooks receive. -/
def setContext (q : Query Value) (context : Value) : Query Value :=
  { q with context := context.present? }

/-! ## Clearing -/

/-- Removes a clause, by its name. -/
def clear (q : Query Value) (clause : Value) : Except Error (Query Value) :=
  match clause with
  | .str "select" | .str "columns" => .ok (q.edit fun s => { s with projection := [] })
  | .str "where" => .ok (q.edit fun s => { s with wheres := [] })
  | .str "order" => .ok (q.edit fun s => { s with orders := [] })
  | .str "having" => .ok (q.edit fun s => { s with havings := [] })
  | .str "group" => .ok (q.edit fun s => { s with groups := [] })
  | .str "union" => .ok (q.edit fun s => { s with unions := [] })
  | .str "with" => .ok (q.edit fun s => { s with commonTables := [] })
  | .str "join" => .ok (q.edit fun s => { s with joins := [] })
  | .str "counter" => .ok (q.edit fun s => { s with counters := [] })
  | .str "limit" => .ok (q.edit fun s => { s with limit := none })
  | .str "offset" => .ok (q.edit fun s => { s with offset := none })
  | clause => .error (if clause.isKey then .invalid (.clearing clause.shown) else wrongType)

end Query

end SqlBuilder
