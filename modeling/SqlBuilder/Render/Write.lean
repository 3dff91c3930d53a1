import SqlBuilder.Render.Clause

/-!
# Rendering writes

Inserts, upserts, updates, deletes and truncations. A write may return columns of the rows it touches,
either at its end or before its values and conditions, as the dialect wants it.

* `Scope.insertRows`: the rows of an insert under the union of their columns.
* `Scope.insertStatement`: an insert, from rows or from a query.
* `Scope.update`, `Scope.delete`, `Scope.truncate`: the other writes.
-/

namespace SqlBuilder.Scope

/-- A statement after its common tables; without text it has none before it either. -/
def afterWith (tables statement : Sql) : Sql :=
  if statement.isBlank then tables.strayed ++ statement else Sql.separated " " [tables, statement]

/-! ## Returned columns -/

/-- The columns that a write returns, in the dialects that name them before the values; `source` says
whether they are those of the rows before or after the write. -/
def outputClause (s : Scope) (source : String) (returning : List Value) : Compile Sql := do
  match s.capabilities.returning, returning with
  | _, [] => return []
  | .suffix, _ => return []
  | .unsupported, _ => s.unsupported "returning"
  | .output, columns =>
    let columns ← columns.mapM fun column => do
      return Sql.word (source ++ ".") ++ (← s.wrap column)
    return Sql.word " output " ++ Sql.commas columns

/-- The columns that a write returns, in the dialects that name them at its end. -/
def returningClause (s : Scope) (returning : List Value) : Compile Sql := do
  match s.capabilities.returning, returning with
  | .suffix, column :: columns =>
    return Sql.word " returning " ++ (← s.columnizeAll (column :: columns))
  | _, _ => return []

/-! ## Assignments -/

/-- A column with its new value. -/
def assignment (s : Scope) (entry : Value × Value) : Compile Sql := do
  let (column, value) := entry
  s.trackUndefined column value
  let value ← s.storable value
  return (← s.wrap column) ++ Sql.word " = " ++ (← s.parameter value)

/-- Columns with their new values. -/
def assignments (s : Scope) (entries : List (Value × Value)) : Compile Sql := do
  return Sql.commas (← entries.mapM s.assignment)

/-- A column that moves by a step. -/
def counter (s : Scope) (c : Counter Value) : Compile Sql := do
  let column ← s.wrapString c.column
  return column ++ Sql.word " = " ++ column ++ Sql.word (" " ++ c.sign.operator ++ " ") ++
    (← s.parameter c.step)

/-- Columns that move by steps. -/
def counters (s : Scope) (cs : List (Counter Value)) : Compile Sql := do
  return Sql.commas (← cs.mapM s.counter)

/-! ## Conflicts -/

/-- The assignments that update an existing row: given ones, or those that take a column from the
row that was to be inserted, between two words. -/
def mergeClause (s : Scope) (before after : String) (columns : List Value) (updates : Value) :
    Compile Sql := do
  match updates with
  | .map entries => s.assignments entries
  | updates =>
    let columns ← if updates.isTruthy then liftCompile updates.items else pure columns
    return Sql.commas (← columns.mapM fun column => do
      let target ← s.wrap column
      return target ++ Sql.word before ++ (← s.wrap column) ++ Sql.when (!after.isEmpty) (Sql.word after))

/-- What an insert does about rows that exist already; `columns` are those it inserts. -/
def conflictClause (s : Scope) (columns : List Value) (c : Conflict Value) : Compile Sql := do
  match s.capabilities.conflict, c.merge with
  | .onConflict, merge =>
    let target ← if c.columns.isEmpty then pure []
      else do pure (Sql.word " " ++ (← s.columnizeAll c.columns).parens)
    match merge with
    | none => return Sql.word " on conflict" ++ target ++ Sql.word " do nothing"
    | some updates =>
      return Sql.word " on conflict" ++ target ++ Sql.word " do update set " ++
        (← s.mergeClause " = excluded." "" columns updates)
  | .onDuplicateKey, none => return []
  | .onDuplicateKey, some updates =>
    return Sql.word " on duplicate key update " ++
      (← s.mergeClause " = values(" ")" columns updates)
  | .unsupported, _ => s.unsupported "on_conflict"

/-- The keyword of an insert. -/
def insertKeyword (s : Scope) (c : Option (Conflict Value)) : Compile String :=
  match s.capabilities.conflict, c with
  | .unsupported, some _ => s.unsupported "on_conflict"
  | .onDuplicateKey, some ⟨_, none⟩ => pure "insert ignore into"
  | _, _ => pure "insert into"

/-! ## Rows -/

/-- A column of the rows of an insert: its name, and the place of the entry that names it. -/
structure RowColumn where
  name : Value
  /-- the number of the row -/
  row : Nat
  /-- the number of the entry in its row -/
  entry : Nat

/-- Whether two columns are one: their names are the same key, or one entry names both. -/
def RowColumn.same (c d : RowColumn) : Bool :=
  (c.row == d.row && c.entry == d.entry) || c.name.sameKey d.name

/-- A row: its values under their columns. -/
abbrev Row := List (RowColumn × Value)

/-- The row with a number whose values are the entries of a mapping. -/
def rowOf (number : Nat) (entries : List (Value × Value)) : Row :=
  entries.mapIdx fun i (name, v) => (⟨name, number, i⟩, v)

/-- The value of a column in a row. -/
def cell? (row : Row) (column : RowColumn) : Option Value :=
  (row.find? fun (c, _) => c.same column).map (·.2)

/-- The columns of some rows, each at its first place. -/
def rowColumns (rows : List Row) : List RowColumn :=
  rows.flatten.foldl
    (fun columns (c, _) => if columns.any fun d => d.same c then columns else columns ++ [c])
    []

/-- The rows of an insert: one mapping, or a list of mappings. -/
def rowsOf (values : Value) : Except Error (List Row) :=
  let numbered (rows : List (List (Value × Value))) : List Row := rows.mapIdx rowOf
  match values with
  | .map entries => .ok (numbered [entries])
  | .list items | .tuple items => do
    return numbered (← items.mapM fun
      | .map entries => .ok entries
      | _ => .error (.invalid .insertValues))
  | _ => .error (.invalid .insertValues)

/-- What stands in a row for a column that it lacks. -/
inductive Missing
  /-- the default of the column -/
  | default_
  /-- a bound null -/
  | null
  deriving DecidableEq

/-- What stands for missing columns: their defaults where the dialect has a word for them, or else
null, which is reported. -/
def missing (s : Scope) (rows : List Row) (columns : List RowColumn) : Compile Missing := do
  if s.client.useNullAsDefault then return .null
  if s.capabilities.defaultKeyword then return .default_
  if columns.any fun c => rows.any fun row => (cell? row c).isNone then
    report
      { event := "query.insert.null_default"
        level := .warning
        fields :=
          [("dialect", .str s.client.dialectName),
           ("hint", .str "set use_null_as_default=True to silence this warning")] }
  return .null

/-- What one cell of a row renders to. -/
def rowCell (s : Scope) (missing : Missing) (row : Row) (column : RowColumn) : Compile Operand :=
  match cell? row column, missing with
  | some v, _ => s.stored v
  | none, .default_ => pure (.sql (Sql.word "DEFAULT"))
  | none, .null => do return .sql (← bind .null)

/-- One row under the columns of an insert. -/
def rowValues (s : Scope) (columns : List RowColumn) (missing : Missing) (row : Row) : Compile Sql := do
  let operands ← columns.mapM (s.rowCell missing row)
  return (Sql.commas (← operands.mapM Operand.textual)).parens

/-- Marks the columns of rows in which a value is undefined. -/
def trackRows (rows : List Row) (columns : List RowColumn) : Compile Unit :=
  columns.forM fun column => do
    if rows.any fun row => (cell? row column).any Value.containsUndefined then
      markUndefined column.name

/-- An insert of rows into a table, under the union of their columns. -/
def insertRows (s : Scope) (keyword : String) (table : Sql) (st : Statement Value)
    (rows : List Row) : Compile Sql := do
  let target := Sql.word (keyword ++ " ") ++ table
  match rows, rowColumns rows with
  | [], _ => return table.strayed
  | _, [] =>
    return target ++ (← s.outputClause "inserted" st.returning) ++
      Sql.word (" " ++ s.capabilities.emptyInsert)
  | rows, columns =>
    trackRows rows columns
    let names := columns.map (·.name)
    let head := target ++ Sql.word " " ++ (← s.columnizeAll names).parens ++
      (← s.outputClause "inserted" st.returning)
    let missing ← s.missing rows columns
    let values ← rows.mapM (s.rowValues columns missing)
    let conflict ← match st.conflict with
      | some c => s.conflictClause names c
      | none => pure []
    return head ++ Sql.word " values " ++ Sql.commas values ++ conflict ++
      (← s.returningClause st.returning)

/-- Whether a value is the source of the rows of an insert, rather than the rows themselves. -/
def isSource (v : Value) : Bool :=
  v.isCallback || v.isRaw || v.isQuery

/-- A query after the returned columns of an insert. It is rendered before them, so that its values are
bound before theirs. -/
def sourced (output body : Sql) : Sql :=
  let sql := output ++ Sql.word " " ++ body
  if output.bindings.isEmpty then sql else Sql.refill (body.bindings ++ output.bindings) sql

/-- An insert from rows or from a query. -/
def insertStatement (s : Scope) (keyword : String) (st : Statement Value) (values : Value) :
    Compile Sql := do
  let table ← s.table st
  if isSource values then
    let body ← s.subquery values
    let output ← s.outputClause "inserted" st.returning
    return Sql.word (keyword ++ " ") ++ table ++ sourced output body
  else s.insertRows keyword table st (← liftCompile (rowsOf values))

/-! ## Statements -/

/-- An insert. -/
def insert (s : Scope) (st : Statement Value) : Compile Sql := do
  let tables ← s.withClause st.commonTables
  let keyword ← s.insertKeyword st.conflict
  return afterWith tables (← s.insertStatement keyword st (st.insert.getD .null))

/-- An insert that replaces existing rows. -/
def upsert (s : Scope) (st : Statement Value) : Compile Sql := do
  if st.conflict.isSome then s.unsupported "on_conflict" "with upsert"
  let tables ← s.withClause st.commonTables
  match s.capabilities.upsert with
  | .into => return afterWith tables (← s.insertStatement "upsert into" st (st.upsert.getD .null))
  | .unsupported => s.unsupported "upsert"

/-- The end of a write with conditions: the returned columns around the conditions. -/
def filtered (s : Scope) (source : String) (st : Statement Value) : Compile Sql := do
  let output ← s.outputClause source st.returning
  let wheres ← s.conditionClause .where_ " where" st.wheres
  return output ++ wheres ++ (← s.returningClause st.returning)

/-- An update, by given values and by steps. -/
def update (s : Scope) (st : Statement Value) : Compile Sql := do
  let tables ← s.withClause st.commonTables
  let target := Sql.word "update " ++ (← s.table st) ++ (← s.tableHint st.lock st.wait)
  let values ← if st.update.isEmpty then pure [] else do pure [← s.assignments st.update]
  let steps ← if st.counters.isEmpty then pure [] else do pure [← s.counters st.counters]
  if (values ++ steps).isEmpty then throw .emptyUpdate
  let head := target ++ Sql.word " set " ++ Sql.commas (values ++ steps)
  return afterWith tables (head ++ (← s.filtered "inserted" st))

/-- A deletion. -/
def delete (s : Scope) (st : Statement Value) : Compile Sql := do
  let tables ← s.withClause st.commonTables
  let head := Sql.word "delete from " ++ (← s.table st)
  return afterWith tables (head ++ (← s.filtered "deleted" st))

/-- The removal of all rows. -/
def truncate (s : Scope) (st : Statement Value) : Compile Sql := do
  let template ← templateOf s.capabilities.truncate
  return Sql.filled (← s.table st) (← slotted "table" template)

end SqlBuilder.Scope
