import SqlBuilder.Render.Condition

/-!
# Rendering clauses

The clauses of a select besides its conditions, in the order in which they stand: common tables, the
projection, joins, groups, orders, paging, set operations and row locks. The last three begin with a
blank, since they follow the statement without one.

* `Scope.withClause`, `Scope.projection`: what comes before the tables.
* `Scope.table`, `Scope.tableHint`, `Scope.joinClause`: the tables.
* `Scope.groupClause`, `Scope.orderClause`: groups and orders.
* `Scope.paging`, `Scope.unionClause`, `Scope.lockClause`: what comes at the end.
-/

namespace SqlBuilder.Scope

/-- An expression under the alias that it was given, if it was given one. -/
def aliasedIf (s : Scope) (sql : Sql) (asName : Value) : Compile Sql := do
  if asName.isTruthy then return s.aliased sql (← s.aliasName asName) else return sql

/-! ## Common tables -/

/-- A common table. -/
def commonTable (s : Scope) (t : CommonTable Value) : Compile Sql := do
  let name ← s.wrapString t.name
  let columns ← match t.columns.filter Value.isTruthy with
    | some columns => do pure (← s.columnize columns).parens
    | none => pure []
  let storage := match t.materialized with
    | some true => Sql.word "materialized "
    | some false => Sql.word "not materialized "
    | none => []
  return name ++ columns ++ Sql.word " as " ++ storage ++ (← s.subquery t.query).parens

/-- The common tables before a statement. -/
def withClause (s : Scope) (tables : List (CommonTable Value)) : Compile Sql := do
  if tables.isEmpty then return []
  let keyword := if tables.any (·.recursive) then "with recursive " else "with "
  return Sql.word keyword ++ Sql.commas (← tables.mapM s.commonTable)

/-! ## The projection -/

/-- A text split at the keyword of an alias, in any letter case. -/
def splitAlias? (text : String) : Option (String × String) :=
  (Text.findInfix aliasMark (Text.lowerChars text.toList)).map fun i =>
    (String.ofList (text.toList.take i), String.ofList (text.toList.drop (i + 4)))

/-- The operand of an aggregate and its alias, which may stand in the text of the operand. -/
def aggregateOperand (value asName : Value) : Value × Value :=
  match value, asName with
  | .str text, .null =>
    match splitAlias? text with
    | some (target, asName) => (.str target, .str asName)
    | none => (value, asName)
  | _, _ => (value, asName)

/-- An aggregate. -/
def aggregate (s : Scope) (function : String) (value : Value) (distinct : Bool) (asName : Value) :
    Compile Sql := do
  let (value, asName) := aggregateOperand value asName
  let target ← match value.sequence? with
    | some columns => s.columnizeAll columns
    | none => s.wrap value
  let keyword := if distinct then "(distinct " else "("
  s.aliasedIf (Sql.word (function ++ keyword) ++ target ++ Sql.word ")") asName

/-- The terms of a window: columns, each with a direction if it has one. -/
def windowTerms (s : Scope) (terms : List (Value × Value)) : Compile Sql := do
  return Sql.commas (← terms.mapM fun (column, direction) => do
    let sql ← (← s.wrapOperand column).textual
    if direction.isTruthy then return sql ++ Sql.word " " ++ (← s.direction direction)
    else return sql)

/-- A window function. -/
def window (s : Scope) (w : Window Value) : Compile Sql := do
  let frame ← match w.raw with
    | some expression => do s.spell (← s.unwrapOrNothing expression)
    | none => do
      let partition ← if w.partitions.isEmpty then pure []
        else do pure (Sql.word "partition by " ++ (← s.windowTerms w.partitions) ++ Sql.word " ")
      pure (partition ++ Sql.word "order by " ++ (← s.windowTerms w.order))
  s.aliasedIf (Sql.word (w.function ++ "() over (") ++ frame ++ Sql.word ")") w.asName

/-- What the columns of an entry of the projection render to. -/
def projectionEntry (s : Scope) (entry : Projection Value) : Compile (List Operand) := do
  match entry with
  | .columns _ .distinctOn => return []
  | .columns values _ => values.mapM s.wrapOperand
  | .aggregate function value distinct asName =>
    return [.sql (← s.aggregate function value distinct asName)]
  | .window w => return [.sql (← s.window w)]
  | .jsonExtract column path asName =>
    return [.sql (← s.aliasedIf (← s.jsonExtract column path) asName)]

/-- The columns of a projection in which rows have to differ. -/
def distinctOnColumns (entries : List (Projection Value)) : List Value :=
  entries.flatMap fun
    | .columns values .distinctOn => values
    | _ => []

/-- Whether an entry of a projection asks for distinct rows. -/
def asksDistinct (entry : Projection Value) : Bool :=
  match entry with
  | .columns _ .distinct => true
  | _ => false

/-- Whether an entry of a projection asks for rows that differ in some columns. -/
def asksDistinctOn (entry : Projection Value) : Bool :=
  match entry with
  | .columns _ .distinctOn => true
  | _ => false

/-- What a projection says about distinct rows. -/
def distinctClause (s : Scope) (entries : List (Projection Value)) : Compile Sql := do
  if entries.any asksDistinctOn then
    if !s.capabilities.supportsDistinctOn then s.unsupported "distinct_on"
    let columns ← s.columnizeAll (distinctOnColumns entries)
    return Sql.word "distinct on " ++ columns.parens ++ Sql.word " "
  else return Sql.when (entries.any asksDistinct) (Sql.word "distinct ")

/-- A row count as a bound value between two words. -/
def rowCount (before : String) (n : Nat) (after : String) : Compile Sql := do
  return Sql.word before ++ (← bind (.int n)) ++ Sql.when (!after.isEmpty) (Sql.word after)

/-- A row limit before the projection, in the dialects that write a bare limit there. -/
def topClause (s : Scope) (limit offset : Option Nat) : Compile Sql :=
  match s.capabilities.paging, limit, offset with
  | .offsetFetch true _, some n, none => rowCount "top (" n ") "
  | _, _, _ => pure []

/-- The word `select` with the projection; without entries it is all columns. -/
def projection (s : Scope) (entries : List (Projection Value)) (limit offset : Option Nat) :
    Compile Sql := do
  let distinct ← s.distinctClause entries
  let top ← s.topClause limit offset
  let operands := (← entries.mapM s.projectionEntry).flatten
  let columns := Sql.commas (← operands.mapM Operand.textual)
  return Sql.word "select " ++ distinct ++ top ++
    (if columns.isBlank then columns ++ Sql.word "*" else columns)

/-! ## Tables -/

/-- A table, in a schema if it is given by name. -/
def tableIn (s : Scope) (schema : Option Value) (table : Value) : Compile Sql := do
  match table with
  | .str name => s.wrapString (← s.inSchema schema name)
  | table => s.wrap table

/-- The table of a statement. -/
def table (s : Scope) (st : Statement Value) : Compile Sql :=
  match st.table with
  | some table => s.tableIn st.schema table
  | none => throw .tableMissing

/-- The hint of a wait mode. -/
def waitHint : WaitMode → String
  | .skipLocked => "READPAST"
  | .noWait => "NOWAIT"

/-- The row locks after the table, in the dialects that write them there. -/
def tableHint (s : Scope) (lock : Option LockMode) (wait : Option WaitMode) : Compile Sql := do
  match s.capabilities.locking, lock with
  | .tableHint, some mode =>
    let hint ← match mode with
      | .forUpdate => pure "UPDLOCK"
      | .forShare => pure "HOLDLOCK"
      | mode => s.unsupported mode.name
    let hints := [hint, "ROWLOCK"] ++ (wait.map waitHint).toList
    return Sql.word (" with (" ++ Text.joinWith ", " hints ++ ")")
  | _, _ => return []

/-- What a join renders to. -/
def join (s : Scope) (j : Join Value) : Compile Operand := do
  if j.raw then s.unwrapOrNothing j.table
  else
    let table ← s.tableIn j.schema j.table
    return .sql (Sql.word (j.kind ++ " join ") ++ table ++ (← s.joinConditions j.conditions))

/-- The joins of a select. -/
def joinClause (s : Scope) (joins : List (Join Value)) : Compile Sql := do
  let operands ← joins.mapM s.join
  return Sql.joined " " (← operands.mapM Operand.textual)

/-! ## Groups and orders -/

/-- What an entry of the group list renders to. -/
def groupEntry (s : Scope) (entry : GroupEntry Value) : Compile (List Operand) := do
  if entry.raw then entry.values.mapM s.unwrapOrNothing
  else return [.sql (← s.columnizeAll entry.values)]

/-- The groups of a select. -/
def groupClause (s : Scope) (entries : List (GroupEntry Value)) : Compile Sql := do
  if entries.isEmpty then return []
  let operands := (← entries.mapM s.groupEntry).flatten
  return Sql.word "group by " ++ Sql.commas (← operands.mapM Operand.textual)

/-- An order by a column. Where the dialect cannot say where the nulls go, an order by whether the
column is null comes first; its values are bound there, and the column stands again as text. -/
def orderBy (s : Scope) (column direction : Value) (nulls : Option NullsOrder) : Compile Sql := do
  let target ← s.wrap column
  let direction ← s.direction direction
  match nulls with
  | none => return target ++ Sql.word " " ++ direction
  | some nulls =>
    if s.capabilities.nativeNullsOrdering then
      return target ++ Sql.word " " ++ direction ++ Sql.word (" nulls " ++ nulls.word)
    else
      let test := match nulls with
        | .first => " is not null"
        | .last => " is null"
      return (target ++ Sql.word test).parens ++ Sql.word ", " ++ target.frozen ++ Sql.word " " ++
        direction

/-- What an entry of the order list renders to. -/
def orderEntry (s : Scope) (entry : OrderEntry Value) : Compile Operand := do
  match entry with
  | .raw expression => s.unwrapOrNothing expression
  | .by_ column direction nulls => return .sql (← s.orderBy column direction nulls)

/-- The orders of a select. -/
def orderClause (s : Scope) (entries : List (OrderEntry Value)) : Compile Sql := do
  if entries.isEmpty then return []
  let operands ← entries.mapM s.orderEntry
  return Sql.word "order by " ++ Sql.commas (← operands.mapM Operand.textual)

/-! ## The end of a select -/

/-- The window of rows of a select. -/
def paging (s : Scope) (st : Statement Value) : Compile Sql := do
  match s.capabilities.paging with
  | .limitOffset stand =>
    let limit ← match st.limit, st.offset, stand with
      | some n, _, _ => rowCount " limit " n ""
      | none, some _, some stand => pure (Sql.word (" limit " ++ stand))
      | _, _, _ => pure []
    match st.offset with
    | some n => return limit ++ (← rowCount " offset " n "")
    | none => return limit
  | .offsetFetch useTop order =>
    if useTop && st.offset.isNone then return []
    let order := match order.filter fun order => !order.isEmpty && st.orders.isEmpty with
      | some order => Sql.when st.offset.isSome (Sql.word (" order by " ++ order))
      | none => []
    let offset ← match st.offset, st.limit with
      | some n, _ => rowCount " offset " n " rows"
      | none, some _ => pure (Sql.word " offset 0 rows")
      | none, none => pure []
    match st.limit with
    | some n => return order ++ offset ++ (← rowCount " fetch next " n " rows only")
    | none => return order ++ offset

/-- The queries that are combined with a select. -/
def unionClause (s : Scope) (operations : List (SetOperation Value)) : Compile Sql := do
  let parts ← operations.mapM fun operation => do
    let body ← s.subquery operation.query
    return Sql.word (" " ++ operation.kind ++ " ") ++ (if operation.wrap then body.parens else body)
  return parts.flatten

/-- The words of a lock mode. -/
def lockWords : LockMode → String
  | .forUpdate => " for update"
  | .forShare => " for share"
  | .forNoKeyUpdate => " for no key update"
  | .forKeyShare => " for key share"

/-- The words of a wait mode. -/
def waitWords : WaitMode → String
  | .skipLocked => " skip locked"
  | .noWait => " nowait"

/-- The row locks at the end of a select, in the dialects that write them there. -/
def lockClause (s : Scope) (st : Statement Value) : Compile Sql := do
  match s.capabilities.locking, st.lock with
  | .tableHint, _ => return []
  | .unsupported, some mode => s.unsupported mode.name
  | .unsupported, none =>
    match st.wait with
    | some wait => s.unsupported wait.name
    | none => return []
  | .forClause _ _ _, none => return []
  | .forClause modes waits ofTables, some mode =>
    if !modes.contains mode then s.unsupported mode.name
    let tables ← if st.lockTables.isEmpty then pure []
      else do
        if !ofTables then s.unsupported "lock tables"
        pure (Sql.word " of " ++ (← s.columnizeAll st.lockTables))
    let wait ← match st.wait with
      | none => pure []
      | some wait => do
        if !waits.contains wait then s.unsupported wait.name
        pure (Sql.word (waitWords wait))
    return Sql.word (lockWords mode) ++ tables ++ wait

end SqlBuilder.Scope
