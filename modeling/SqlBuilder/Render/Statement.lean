import SqlBuilder.Render.Write

/-!
# Rendering statements

The clauses of a statement put together, with the comments before them. A statement with an undefined
value has no rendering, and the failure names the columns that such values belong to.

* `Scope.select`: a select in its canonical order of clauses.
* `Scope.statement`: any statement.
-/

namespace SqlBuilder.Scope

/-- The table of a select, with its row locks. -/
def fromClause (s : Scope) (st : Statement Value) : Compile Sql := do
  if st.table.isNone then return []
  return Sql.word "from " ++ (← s.table st) ++ (← s.tableHint st.lock st.wait)

/-- A select. -/
def select (s : Scope) (st : Statement Value) : Compile Sql := do
  let body := Sql.separated " "
    [← s.withClause st.commonTables,
     ← s.projection st.projection st.limit st.offset,
     ← s.fromClause st,
     ← s.joinClause st.joins,
     ← s.conditionClause .where_ "where" st.wheres,
     ← s.groupClause st.groups,
     ← s.conditionClause .having "having" st.havings,
     ← s.orderClause st.orders]
  return body ++ (← s.paging st) ++ (← s.unionClause st.unions) ++ (← s.lockClause st)

/-- A statement of a kind. -/
def body (s : Scope) (method : Method) (st : Statement Value) : Compile Sql :=
  match method with
  | .select | .first => s.select st
  | .insert => s.insert st
  | .update => s.update st
  | .delete => s.delete st
  | .upsert => s.upsert st
  | .truncate => s.truncate st

/-- Comments before a statement. -/
def commented (comments : List String) (sql : Sql) : Sql :=
  comments.foldr (fun comment rest => .comment comment :: .word " " :: rest) sql

/-- The columns as texts; a column of another kind has no place in a message. -/
def columnTexts (columns : List Value) : Compile (List String) :=
  columns.mapM fun
    | .str column => pure column
    | _ => throw wrongType

/-- A statement of a kind, without undefined values. -/
def checked (s : Scope) (method : Method) (st : Statement Value) : Compile Sql := do
  let sql := commented st.comments (← s.body method st)
  let columns := (← get).undefinedColumns
  if !columns.isEmpty || sql.bindings.any Value.containsUndefined then
    throw (.undefinedInQuery method.name (← columnTexts columns) sql.text)
  return sql

/-- A statement of a kind, with undefined columns of its own. -/
def statement (s : Scope) (method : Method) (st : Statement Value) : Compile Rendered := do
  return { sql := ← ownColumns (s.checked method st), method, asName := st.asName }

end SqlBuilder.Scope
