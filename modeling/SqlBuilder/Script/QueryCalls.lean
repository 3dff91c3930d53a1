import SqlBuilder.Statement.JoinBuilder
import SqlBuilder.Statement.RawBuilder

/-!
# Calls on queries by name

The methods of queries, of joins and of windows, under the names by which scripts call them, with
their parameters and defaults. A call leaves the query, moves on to a copy, opens the choice of what
an insert does about conflicts, waits for a callback, or ends in a plain value.

* `Join.call`, `Window.call`: the methods of joins and windows.
* `Query.calls`, `Query.call`: the methods of queries.
* `Query.memberNames`: the names that an extension cannot take.
-/

namespace SqlBuilder

/-! ## Joins and windows

What a join or a window holds has a name as well, but is nothing to call. -/

namespace JoinCall

/-- The parameters of a comparison: three by position, and by keyword also the connective where the
method has that parameter. -/
def comparison (a : Arguments) (parameters keywords : List String) : Except Error Bound :=
  if a.positional.length ≤ parameters.length then a.bind (parameters ++ keywords) 1
  else .error wrongType

/-- A condition between columns. -/
def columns (j : Join Value) (a : Arguments) (usual : Connective) (keywords : List String) :
    Except Error (Join Value) := do
  let b ← comparison a ["first", "operator", "second"] keywords
  return j.on usual (b.given? "bool_") (b.get "first") (b.given? "operator") (b.given? "second")

/-- A condition between a column and a value. -/
def value (j : Join Value) (a : Arguments) (usual : Connective) (keywords : List String) :
    Except Error (Join Value) := do
  let b ← comparison a ["column", "operator", "value"] keywords
  return j.onValue usual (b.given? "bool_") (b.get "column") (b.given? "operator") (b.given? "value")

end JoinCall

/-- The outcome of a call on a join. -/
def Join.call (j : Join Value) (name : String) (a : Arguments) : Except Error (Join Value) := do
  let membership (connective : Connective) (negated : Bool) : Except Error (Join Value) := do
    let b ← a.bind ["column", "values"] 2
    return j.addCondition connective negated (.isIn (b.get "column") (b.get "values"))
  let nullness (connective : Connective) (negated : Bool) : Except Error (Join Value) := do
    return j.addCondition connective negated (.isNull (← a.one "column"))
  let range (negated : Bool) : Except Error (Join Value) := do
    let b ← a.bind ["column", "values"] 2
    return j.onBetween negated (b.get "column") (← (b.get "values").items)
  let existence (negated : Bool) : Except Error (Join Value) := do
    return j.addCondition .and negated (.exists_ (← a.one "query"))
  match name with
  | "on" => JoinCall.columns j a .and ["bool_"]
  | "and_on" => JoinCall.columns j a .and []
  | "or_on" => JoinCall.columns j a .or []
  | "on_val" => JoinCall.value j a .and ["bool_"]
  | "and_on_val" => JoinCall.value j a .and []
  | "or_on_val" => JoinCall.value j a .or []
  | "on_in" => membership .and false
  | "on_not_in" => membership .and true
  | "or_on_in" => membership .or false
  | "on_null" => nullness .and false
  | "on_not_null" => nullness .and true
  | "or_on_null" => nullness .or false
  | "on_between" => range false
  | "on_not_between" => range true
  | "on_exists" => existence false
  | "on_not_exists" => existence true
  | "using" => return j.sharing (← a.variadic []).1
  | "table" | "join_type" | "schema" | "clauses" => throw wrongType
  | _ => throw noSuchMember

/-- The outcome of a call on a window. -/
def Window.call (w : Window Value) (name : String) (a : Arguments) : Except Error (Window Value) := do
  let terms : Except Error (List (Value × Value)) := do
    let b ← a.bind ["column", "direction"] 1
    Query.windowTerms (b.get "direction") (b.get "column")
  match name with
  | "order_by" => return { w with order := w.order ++ (← terms) }
  | "partition_by" => return { w with partitions := w.partitions ++ (← terms) }
  | "function" | "alias" | "order" | "partitions" | "raw" => throw wrongType
  | _ => throw noSuchMember

/-! ## Queries -/

/-- The forms in which a chain of calls may ask for what a query or a raw expression compiles to. -/
inductive OutputForm
  /-- the compiled statement -/
  | compiled
  /-- the statement in the driver's form -/
  | native
  /-- the text with literals in place of the placeholders -/
  | text
  deriving DecidableEq, Inhabited

/-- Where a chain of calls goes on after a call on a query. -/
inductive QueryStep
  /-- with the query -/
  | stay
  /-- with a copy of it -/
  | copy
  /-- with the choice of what to do about conflicts over some columns -/
  | conflict (columns : List Value)
  /-- with a plain value -/
  | value (v : Value)
  /-- with the query, once a callback has put a join of it together -/
  | join (chains : List Chain) (j : Join Value)
  /-- with the query, once a callback has put a window of it together -/
  | window (chains : List Chain) (w : Window Value)
  /-- with what the query compiles to -/
  | output (form : OutputForm)
  /-- nowhere: the query has no such method -/
  | unknown

/-- A raw expression, or one made of a text and its bindings. -/
def Query.toRaw (q : Query Value) (sql bindings : Value) : Value :=
  if sql.isRaw then sql else .raw (Raw.ofValue q.client sql bindings)

/-- The names of what a query holds, which is nothing to call. -/
def Query.attributes : List String :=
  ["client", "model", "_options", "_timeout", "_cancel_on_timeout", "_query_context", "_extensions"]

/-- The members of queries that are no methods of the script. -/
def Query.otherMembers : List String :=
  ["extend", "unregister", "to_sql", "to_native", "to_query", "_extensions", "_with", "_join",
   "_where", "_add_in", "_add_between", "_set_operation", "_aggregate", "_analytic", "_lock",
   "_wait", "_counter", "_to_raw", "__init__", "__getattr__", "__str__", "__repr__", "__eq__",
   "__hash__", "__class__", "__dict__", "__doc__", "__module__", "__weakref__", "__new__",
   "__annotations__", "__delattr__", "__dir__", "__format__", "__ge__", "__getattribute__",
   "__gt__", "__init_subclass__", "__le__", "__lt__", "__ne__", "__reduce__", "__reduce_ex__",
   "__setattr__", "__sizeof__", "__subclasshook__", "__getstate__", "mro", "__base__", "__bases__",
   "__basicsize__", "__call__", "__dictoffset__", "__flags__", "__instancecheck__",
   "__itemsize__", "__mro__", "__name__", "__or__", "__prepare__", "__qualname__", "__ror__",
   "__subclasscheck__", "__subclasses__", "__text_signature__", "__weakrefoffset__"]

/-- The methods of a query. -/
def Query.methodNames : List String :=
  ["select", "column", "columns", "distinct", "distinct_on", "from_", "table", "into",
   "with_schema", "as_", "with_", "with_recursive", "with_materialized", "with_not_materialized",
   "join", "inner_join", "left_join", "left_outer_join", "right_join", "right_outer_join",
   "full_outer_join", "cross_join", "where", "and_where", "or_where", "where_not", "or_where_not",
   "where_column", "or_where_column", "where_in", "or_where_in", "where_not_in",
   "or_where_not_in", "where_null", "or_where_null", "where_not_null", "or_where_not_null",
   "where_between", "or_where_between", "where_not_between", "or_where_not_between",
   "where_exists", "or_where_exists", "where_not_exists", "or_where_not_exists", "where_raw",
   "or_where_raw", "where_like", "or_where_like", "where_ilike", "or_where_ilike",
   "where_json_path", "or_where_json_path", "group_by", "group_by_raw", "order_by",
   "order_by_raw", "having", "or_having", "having_in", "having_not_in", "having_null",
   "having_not_null", "having_between", "having_not_between", "having_raw", "or_having_raw",
   "union", "union_all", "intersect", "except_", "limit", "offset", "first", "count",
   "count_distinct", "min", "max", "sum", "sum_distinct", "avg", "avg_distinct", "row_number",
   "rank", "dense_rank", "json_extract", "for_update", "for_share", "for_no_key_update",
   "for_key_share", "skip_locked", "no_wait", "insert", "upsert", "update", "increment",
   "decrement", "delete", "del_", "truncate", "returning", "on_conflict", "comment", "timeout",
   "options", "query_context", "clone", "clear", "clear_select", "clear_where", "clear_order",
   "clear_having", "clear_group", "clear_counters"]

/-- The names that an extension cannot take. -/
def Query.memberNames : List String :=
  Query.methodNames ++ Query.otherMembers

namespace QueryCall

/-- A change that always succeeds. -/
def always (f : Query Value → Query Value) : Build (Query Value) QueryStep := do
  modify f
  return .stay

/-- A change that may be refused. -/
def attempt (f : Query Value → Except Error (Query Value)) : Build (Query Value) QueryStep := do
  change f
  return .stay

/-- Columns given as any number of arguments. -/
def columns (a : Arguments) (f : Query Value → List Value → Query Value) :
    Build (Query Value) QueryStep :=
  attempt fun q => do return f q (← a.variadic []).1

/-- A single argument. -/
def single (a : Arguments) (parameter : String) (f : Query Value → Value → Query Value) :
    Build (Query Value) QueryStep :=
  attempt fun q => do return f q (← a.one parameter)

/-- A join of the given kind. -/
def join (kind : String) (a : Arguments) : Build (Query Value) QueryStep := do
  let b ← liftExcept (a.bind ["table", "first", "operator", "second"] 1)
  let q ← get
  let table := b.get "table"
  let j := q.joinOf kind table
  match b.given? "first" with
  | none => always fun q => if table.isRaw then q.rawJoin table else q.addJoin j
  | some (.callback chains) => return .join chains j
  | some first =>
    always fun q => q.addJoin (j.on .and none first (b.given? "operator") (b.given? "second"))

/-- A window function. -/
def window (function : String) (a : Arguments) : Build (Query Value) QueryStep := do
  let b ← liftExcept (a.bind ["alias", "order_by", "partition_by"] 0)
  let w : Window Value := { function, asName := b.get "alias" }
  match b.get "order_by" with
  | .callback chains => return .window chains w
  | order =>
    if order.isRaw then always fun q => q.addWindow { w with raw := some order }
    else attempt fun q => do return q.addWindow (← Query.windowOf w order (b.get "partition_by"))

/-- A common table. -/
def commonTable (a : Arguments) (recursive : Bool) (materialized : Option Bool) :
    Build (Query Value) QueryStep :=
  attempt fun q => do
    let b ← a.bind ["alias", "query", "columns"] 2
    q.withTable (b.get "alias") (b.get "query") (b.get "columns").present? recursive materialized

/-- A condition. -/
def condition (a : Arguments) (clause : ConditionClause) (connective : Connective)
    (negated : Bool) : Build (Query Value) QueryStep :=
  attempt fun q => do
    let b ← a.bind ["column", "operator", "value"] 1
    q.addWhere clause connective negated (b.get "column") (b.given? "operator") (b.given? "value")

/-- A comparison of columns. -/
def columnComparison (a : Arguments) (connective : Connective) : Build (Query Value) QueryStep :=
  attempt fun q => do
    let b ← a.bind ["column", "operator", "other"] 2
    return q.addColumnComparison connective (b.get "column") (b.get "operator") (b.given? "other")

/-- A membership test. -/
def membership (a : Arguments) (clause : ConditionClause) (connective : Connective)
    (negated : Bool) : Build (Query Value) QueryStep :=
  attempt fun q => do
    let b ← a.bind ["column", "values"] 2
    return q.addIn clause connective negated (b.get "column") (b.get "values")

/-- A test for null. -/
def nullness (a : Arguments) (clause : ConditionClause) (connective : Connective)
    (negated : Bool) : Build (Query Value) QueryStep :=
  single a "column" fun q column => q.addCondition clause connective negated (.isNull column)

/-- A test for a range. -/
def range (a : Arguments) (clause : ConditionClause) (connective : Connective) (negated : Bool) :
    Build (Query Value) QueryStep :=
  attempt fun q => do
    let b ← a.bind ["column", "values"] 2
    q.addBetween clause connective negated (b.get "column") (b.get "values")

/-- A test for the existence of rows. -/
def existence (a : Arguments) (connective : Connective) (negated : Bool) :
    Build (Query Value) QueryStep :=
  single a "query" fun q query => q.addCondition .where_ connective negated (.exists_ query)

/-- A raw condition. -/
def rawCondition (a : Arguments) (clause : ConditionClause) (connective : Connective) :
    Build (Query Value) QueryStep :=
  attempt fun q => do
    let b ← a.bind ["sql", "bindings"] 1
    return q.addCondition clause connective false (.raw (q.toRaw (b.get "sql") (b.get "bindings")))

/-- A pattern match. -/
def pattern (a : Arguments) (connective : Connective) (ignoreCase : Bool) :
    Build (Query Value) QueryStep :=
  attempt fun q => do
    let b ← a.bind ["column", "value"] 2
    return q.addCondition .where_ connective false (.like (b.get "column") (b.get "value") ignoreCase)

/-- A comparison of a value inside a JSON column. -/
def jsonComparison (a : Arguments) (connective : Connective) : Build (Query Value) QueryStep :=
  attempt fun q => do
    let b ← a.bind ["column", "path", "operator", "value"] 4
    return q.addCondition .where_ connective false
      (.jsonPath (b.get "column") (b.get "path") (b.get "operator") (b.get "value"))

/-- An order, by one column or by a list of them. -/
def order (a : Arguments) : Build (Query Value) QueryStep := do
  let b ← liftExcept (a.bind ["column", "direction", "nulls"] 1)
  Query.orderBy (b.get "direction") (b.get "nulls") (b.get "column")
  return .stay

/-- A combination with other queries. -/
def setOperation (a : Arguments) (kind : String) : Build (Query Value) QueryStep :=
  attempt fun q => do
    let (queries, b) ← a.variadic ["wrap"]
    return q.combine kind queries (b.flag "wrap" false)

/-- An aggregate. -/
def aggregate (a : Arguments) (function : String) (distinct : Bool) :
    Build (Query Value) QueryStep :=
  single a "column" fun q column => q.aggregate function column distinct

/-- What a count of distinct values is over: everything, one column, or several together. -/
def distinctTarget : List Value → Value
  | [] => .str "*"
  | [v] => v
  | values => .list values

/-- A row lock. -/
def lock (a : Arguments) (mode : LockMode) : Build (Query Value) QueryStep :=
  columns a fun q tables => q.lock mode tables

/-- A wait mode. -/
def wait (a : Arguments) (mode : WaitMode) : Build (Query Value) QueryStep :=
  attempt fun q => do a.none_; q.wait mode

/-- A step of a counter. -/
def counter (a : Arguments) (sign : Sign) : Build (Query Value) QueryStep := do
  let b ← liftExcept (a.bind ["column", "amount"] 1)
  Query.count sign (b.get "column") ((b.given? "amount").getD (.int 1))
  return .stay

/-- The choice of what an insert does about conflicts over some columns. -/
def conflict (a : Arguments) : Build (Query Value) QueryStep := do
  return .conflict (← liftExcept (a.variadic [])).1

/-- Adds the option that each item of a list describes, one after another. -/
def addEach : List Value → Build (Query Value) Unit
  | [] => pure ()
  | item :: items => do
    change fun q => do return q.addOptions [← item.entry]
    addEach items

/-- Options for the driver: those of a mapping, or one for each item. -/
def options (a : Arguments) : Build (Query Value) QueryStep := do
  let v ← liftExcept (a.one "opts")
  match v.entries? with
  | some entries => always fun q => q.addOptions entries
  | none =>
    addEach (← liftExcept v.items)
    return .stay

/-- Sets the context that hooks receive, or asks for it. -/
def context (a : Arguments) : Build (Query Value) QueryStep := do
  let b ← liftExcept (a.bind ["context"] 0)
  match b.given? "context" with
  | none => return .value ((← get).context.getD .null)
  | some context => always fun q => q.setContext context

/-- A copy of the query. -/
def copy (a : Arguments) : Build (Query Value) QueryStep := do
  liftExcept a.none_
  return .copy

/-- The removal of a clause. -/
def clear (a : Arguments) (clause : String) : Build (Query Value) QueryStep :=
  attempt fun q => do a.none_; q.clear (.str clause)

/-- Looks at the name of a new method; the method itself is a matter of sessions. -/
def extension (a : Arguments) : Build (Query Value) QueryStep := do
  let b ← liftExcept (a.bind ["name", "fn"] 2)
  match b.get "name" with
  | .str name => if Query.memberNames.contains name then throw (.invalid (.extensionTaken name))
  | _ => throw wrongType
  return .value .null

/-- The removal of a method, which leaves nothing. -/
def removal (a : Arguments) : Build (Query Value) QueryStep := do
  if !(← liftExcept (a.one "name")).isKey then throw wrongType
  return .value .null

/-- What a query compiles to. -/
def output (a : Arguments) (form : OutputForm) : Build (Query Value) QueryStep := do
  liftExcept a.none_
  return .output form

end QueryCall

open QueryCall in
/-- The calls on a query, each under its names. -/
def Query.calls : List (List String × (Arguments → Build (Query Value) QueryStep)) := [
  -- projection and source
  (["select", "column", "columns"], fun a => columns a Query.select),
  (["distinct"], fun a => columns a Query.distinct),
  (["distinct_on"], fun a => attempt fun q => do q.distinctOn (← a.variadic []).1),
  (["from_", "table", "into"], fun a => single a "table" Query.from_),
  (["with_schema"], fun a => single a "schema" Query.withSchema),
  (["as_"], fun a => single a "alias" Query.as_),
  (["with_"], fun a => commonTable a false none),
  (["with_recursive"], fun a => commonTable a true none),
  (["with_materialized"], fun a => commonTable a false (some true)),
  (["with_not_materialized"], fun a => commonTable a false (some false)),
  -- joins
  (["join", "inner_join"], QueryCall.join "inner"),
  (["left_join"], QueryCall.join "left"),
  (["left_outer_join"], QueryCall.join "left outer"),
  (["right_join"], QueryCall.join "right"),
  (["right_outer_join"], QueryCall.join "right outer"),
  (["full_outer_join"], QueryCall.join "full outer"),
  (["cross_join"], QueryCall.join "cross"),
  -- conditions
  (["where", "and_where"], fun a => condition a .where_ .and false),
  (["or_where"], fun a => condition a .where_ .or false),
  (["where_not"], fun a => condition a .where_ .and true),
  (["or_where_not"], fun a => condition a .where_ .or true),
  (["where_column"], fun a => columnComparison a .and),
  (["or_where_column"], fun a => columnComparison a .or),
  (["where_in"], fun a => membership a .where_ .and false),
  (["or_where_in"], fun a => membership a .where_ .or false),
  (["where_not_in"], fun a => membership a .where_ .and true),
  (["or_where_not_in"], fun a => membership a .where_ .or true),
  (["where_null"], fun a => nullness a .where_ .and false),
  (["or_where_null"], fun a => nullness a .where_ .or false),
  (["where_not_null"], fun a => nullness a .where_ .and true),
  (["or_where_not_null"], fun a => nullness a .where_ .or true),
  (["where_between"], fun a => range a .where_ .and false),
  (["or_where_between"], fun a => range a .where_ .or false),
  (["where_not_between"], fun a => range a .where_ .and true),
  (["or_where_not_between"], fun a => range a .where_ .or true),
  (["where_exists"], fun a => existence a .and false),
  (["or_where_exists"], fun a => existence a .or false),
  (["where_not_exists"], fun a => existence a .and true),
  (["or_where_not_exists"], fun a => existence a .or true),
  (["where_raw"], fun a => rawCondition a .where_ .and),
  (["or_where_raw"], fun a => rawCondition a .where_ .or),
  (["where_like"], fun a => pattern a .and false),
  (["or_where_like"], fun a => pattern a .or false),
  (["where_ilike"], fun a => pattern a .and true),
  (["or_where_ilike"], fun a => pattern a .or true),
  (["where_json_path"], fun a => jsonComparison a .and),
  (["or_where_json_path"], fun a => jsonComparison a .or),
  -- groups, orders and havings
  (["group_by"], fun a => columns a Query.groupBy),
  (["group_by_raw"], fun a => attempt fun q => do
    let b ← a.bind ["sql", "bindings"] 1
    return q.groupByRaw (q.toRaw (b.get "sql") (b.get "bindings"))),
  (["order_by"], order),
  (["order_by_raw"], fun a => attempt fun q => do
    let b ← a.bind ["sql", "bindings"] 1
    let expression := q.toRaw (b.get "sql") (b.get "bindings")
    return q.edit fun s => { s with orders := s.orders ++ [.raw expression] }),
  (["having"], fun a => condition a .having .and false),
  (["or_having"], fun a => condition a .having .or false),
  (["having_in"], fun a => membership a .having .and false),
  (["having_not_in"], fun a => membership a .having .and true),
  (["having_null"], fun a => nullness a .having .and false),
  (["having_not_null"], fun a => nullness a .having .and true),
  (["having_between"], fun a => range a .having .and false),
  (["having_not_between"], fun a => range a .having .and true),
  (["having_raw"], fun a => rawCondition a .having .and),
  (["or_having_raw"], fun a => rawCondition a .having .or),
  -- set operations and paging
  (["union"], fun a => setOperation a "union"),
  (["union_all"], fun a => setOperation a "union all"),
  (["intersect"], fun a => setOperation a "intersect"),
  (["except_"], fun a => setOperation a "except"),
  (["limit"], fun a => attempt fun q => do q.limit (← a.one "value")),
  (["offset"], fun a => attempt fun q => do q.offset (← a.one "value")),
  (["first"], fun a => columns a Query.first),
  -- aggregates, windows and JSON
  (["count"], fun a => attempt fun q => do
    let b ← a.bind ["column"] 0
    return q.aggregate "count" ((b.given? "column").getD (.str "*")) false),
  (["count_distinct"], fun a => columns a fun q values =>
    q.aggregate "count" (distinctTarget values) true),
  (["min"], fun a => QueryCall.aggregate a "min" false),
  (["max"], fun a => QueryCall.aggregate a "max" false),
  (["sum"], fun a => QueryCall.aggregate a "sum" false),
  (["sum_distinct"], fun a => QueryCall.aggregate a "sum" true),
  (["avg"], fun a => QueryCall.aggregate a "avg" false),
  (["avg_distinct"], fun a => QueryCall.aggregate a "avg" true),
  (["row_number"], QueryCall.window "row_number"),
  (["rank"], QueryCall.window "rank"),
  (["dense_rank"], QueryCall.window "dense_rank"),
  (["json_extract"], fun a => attempt fun q => do
    let b ← a.bind ["column", "path", "alias"] 2
    return q.jsonExtract (b.get "column") (b.get "path") (b.get "alias")),
  -- locks
  (["for_update"], fun a => QueryCall.lock a .forUpdate),
  (["for_share"], fun a => QueryCall.lock a .forShare),
  (["for_no_key_update"], fun a => QueryCall.lock a .forNoKeyUpdate),
  (["for_key_share"], fun a => QueryCall.lock a .forKeyShare),
  (["skip_locked"], fun a => QueryCall.wait a .skipLocked),
  (["no_wait"], fun a => QueryCall.wait a .noWait),
  -- writes
  (["insert"], fun a => attempt fun q => do
    let b ← a.bind ["values", "returning"] 1
    return q.insert (b.get "values") (b.get "returning")),
  (["upsert"], fun a => attempt fun q => do
    let b ← a.bind ["values", "returning"] 1
    return q.upsert (b.get "values") (b.get "returning")),
  (["update"], fun a => attempt fun q => do
    let b ← a.bind ["values", "value", "returning"] 1
    q.update (b.get "values") (b.given? "value") (b.get "returning")),
  (["increment"], fun a => counter a .plus),
  (["decrement"], fun a => counter a .minus),
  (["delete", "del_"], fun a => attempt fun q => do
    let b ← a.bind ["returning"] 0
    return q.delete (b.get "returning")),
  (["truncate"], fun a => attempt fun q => do a.none_; return q.truncate),
  (["returning"], fun a => columns a Query.returning),
  (["on_conflict"], conflict),
  -- what is needed to run a query
  (["comment"], fun a => attempt fun q => do q.comment (← a.one "text")),
  (["timeout"], fun a => attempt fun q => do
    let b ← a.bind ["ms", "cancel"] 1
    q.setTimeout (b.get "ms") (b.given? "cancel")),
  (["options"], QueryCall.options),
  (["query_context"], QueryCall.context),
  -- copies and clearing
  (["clone"], copy),
  (["clear"], fun a => attempt fun q => do q.clear (← a.one "statement")),
  (["clear_select"], fun a => QueryCall.clear a "select"),
  (["clear_where"], fun a => QueryCall.clear a "where"),
  (["clear_order"], fun a => QueryCall.clear a "order"),
  (["clear_having"], fun a => QueryCall.clear a "having"),
  (["clear_group"], fun a => QueryCall.clear a "group"),
  (["clear_counters"], fun a => QueryCall.clear a "counter"),
  -- what it compiles to
  (["to_sql"], fun a => QueryCall.output a .compiled),
  (["to_native"], fun a => QueryCall.output a .native),
  (["to_query"], fun a => QueryCall.output a .text),
  -- methods of the caller's
  (["extend"], extension),
  (["unregister"], removal)]

/-- A call on a query by name. -/
def Query.call (name : String) (a : Arguments) : Build (Query Value) QueryStep :=
  match Query.calls.find? fun call => call.1.contains name with
  | some (_, step) => step a
  | none => if Query.attributes.contains name then throw wrongType else return .unknown

end SqlBuilder
