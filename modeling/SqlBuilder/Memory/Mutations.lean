import SqlBuilder.Memory.Containers
import SqlBuilder.Script.QueryCalls

/-!
# What calls write

A call works on what a query reads as, and what it makes of it is written back: into containers that are
there already, where the method changes them in place, or else into new ones. Every method has its own
list of what it writes and how.

* `Mutation`: the ways in which a call writes a part of a query.
* `Memory.write`, `Memory.writeAll`: what a call made of a query, written back.
* `Memory.ofQuery`: a new query that reads as a given one.
* `Mutation.ofMethod`: what each method writes.
-/

namespace SqlBuilder

/-! ## Parts of a query -/

/-- What is assigned as a whole. -/
inductive Field
  | method | table | schema | asName | limit | offset | lock | lockTables | wait | insert | update | upsert
  | counters | returning | conflict | timeout | cancelOnTimeout | context

/-- How a call writes a part of a query. -/
inductive Mutation
  /-- adds entries to the list of a clause, in place; a clause without a list gets one -/
  | add (g : Grouping)
  /-- forgets the list of a clause -/
  | drop (g : Grouping)
  /-- sets counters, in place -/
  | count
  /-- adds comments, in place -/
  | comment
  /-- sets options, in place -/
  | option
  /-- assigns a field; a container that stood there is left as it is, and a new one takes its place -/
  | assign (f : Field)

/-- The writes to containers that are there already. -/
def Mutation.inPlace : Mutation → Bool
  | add _ | count | comment | option => true
  | drop _ | assign _ => false

/-- The fields. -/
def Field.all : List Field :=
  [.method, .table, .schema, .asName, .limit, .offset, .lock, .lockTables, .wait, .insert, .update, .upsert,
    .counters, .returning, .conflict, .timeout, .cancelOnTimeout, .context]

/-- Everything that can be written. -/
def Mutation.all : List Mutation :=
  Grouping.all.map Mutation.add ++ ([.count, .comment, .option] : List Mutation) ++ Field.all.map Mutation.assign

namespace Memory

/-- Changes what is known of a query besides its statement. -/
def editQuery (m : Memory) (b : Ref .query) (f : QueryObject → QueryObject) : Memory :=
  m.set b (f (m.get b))

/-- Changes the statement of a query. -/
def editModel (m : Memory) (b : Ref .query) (f : ModelObject → ModelObject) : Memory :=
  m.set (m.get b).model (f (m.model b))

/-- Makes a clause use a list, or none. -/
def setList (m : Memory) (b : Ref .query) (g : Grouping) (list : Option Nat) : Memory :=
  let lists := m.get (m.model b).clauses
  m.set (m.model b).clauses fun g' => if g' = g then list else lists g'

/-- Puts entries into a new list of a clause. -/
def newList (m : Memory) (b : Ref .query) (g : Grouping) (entries : List g.Entry) : Memory :=
  let (r, m) := m.alloc (.entries g) entries
  m.setList b g (some r.index)

/-- Assigns a field what it is in another query. -/
def assign (m : Memory) (b : Ref .query) (q : Query Value) : Field → Memory
  | .method => m.editModel b fun s => { s with method := q.statement.method }
  | .table => m.editModel b fun s => { s with table := q.statement.table }
  | .schema => m.editModel b fun s => { s with schema := q.statement.schema }
  | .asName => m.editModel b fun s => { s with asName := q.statement.asName }
  | .limit => m.editModel b fun s => { s with limit := q.statement.limit }
  | .offset => m.editModel b fun s => { s with offset := q.statement.offset }
  | .lock => m.editModel b fun s => { s with lock := q.statement.lock }
  | .lockTables =>
    let (r, m) := m.alloc .lockTables q.statement.lockTables
    m.editModel b fun s => { s with lockTables := r }
  | .wait => m.editModel b fun s => { s with wait := q.statement.wait }
  | .insert => m.editModel b fun s => { s with insert := q.statement.insert }
  | .update =>
    let (r, m) := m.alloc .update q.statement.update
    m.editModel b fun s => { s with update := some r }
  | .upsert => m.editModel b fun s => { s with upsert := q.statement.upsert }
  | .counters =>
    let (r, m) := m.alloc .counters q.statement.counters
    m.editModel b fun s => { s with counters := r }
  | .returning =>
    let (r, m) := m.alloc .returning q.statement.returning
    m.editModel b fun s => { s with returning := some r }
  | .conflict =>
    match q.statement.conflict with
    | none => m.editModel b fun s => { s with conflict := none }
    | some c =>
      let (r, m) := m.alloc .conflict c
      m.editModel b fun s => { s with conflict := some r }
  | .timeout => m.editQuery b fun o => { o with timeout := q.timeout }
  | .cancelOnTimeout => m.editQuery b fun o => { o with cancelOnTimeout := q.cancelOnTimeout }
  | .context => m.editQuery b fun o => { o with context := q.context }

/-- Writes one part of what a call made of a query. -/
def write (m : Memory) (b : Ref .query) (q : Query Value) : Mutation → Memory
  | .add g =>
    match m.get (m.model b).clauses g, q.statement.entries g with
    | some i, entries => m.set (⟨i⟩ : Ref (.entries g)) entries
    | none, [] => m
    | none, entries => m.newList b g entries
  | .drop g => m.setList b g none
  | .count => m.set (m.model b).counters q.statement.counters
  | .comment => m.set (m.model b).comments q.statement.comments
  | .option => m.set (m.get b).options q.options
  | .assign f => m.assign b q f

/-- Writes what a call made of a query, one part after another. -/
def writeAll (m : Memory) (b : Ref .query) (q : Query Value) (mutations : List Mutation) : Memory :=
  mutations.foldl (fun m e => m.write b q e) m

/-- A new query that reads as a given one. -/
def ofQuery (m : Memory) (q : Query Value) : Ref .query × Memory :=
  let new := m.newQuery q.client
  (new.1, new.2.writeAll new.1 q Mutation.all)

end Memory

/-! ## What methods write -/

namespace Mutation

/-- A write assigns the columns to return if it is given some. -/
def returned (a : Arguments) (parameters : List String) (required : Nat) : List Mutation :=
  match a.bind parameters required with
  | .ok b => if (b.get "returning").present?.isSome then [.assign .returning] else []
  | .error _ => []

/-- What the removal of a clause writes. -/
def clearing : Value → List Mutation
  | .str "select" | .str "columns" => [.drop .projection]
  | .str "where" => [.drop .wheres]
  | .str "order" => [.drop .orders]
  | .str "having" => [.drop .havings]
  | .str "group" => [.drop .groups]
  | .str "union" => [.drop .unions]
  | .str "with" => [.drop .commonTables]
  | .str "join" => [.drop .joins]
  | .str "counter" => [.assign .counters]
  | .str "limit" => [.assign .limit]
  | .str "offset" => [.assign .offset]
  | _ => []

/-- What the methods write that put something into one clause. -/
def clauseRows : List (List String × (Arguments → List Mutation)) := [
  (["select", "column", "columns", "distinct", "distinct_on", "count", "count_distinct", "min", "max", "sum",
    "sum_distinct", "avg", "avg_distinct", "row_number", "rank", "dense_rank", "json_extract"],
    fun _ => [.add .projection]),
  (["join", "inner_join", "left_join", "left_outer_join", "right_join", "right_outer_join", "full_outer_join",
    "cross_join"], fun _ => [.add .joins]),
  (["where", "and_where", "or_where", "where_not", "or_where_not", "where_column", "or_where_column", "where_in",
    "or_where_in", "where_not_in", "or_where_not_in", "where_null", "or_where_null", "where_not_null",
    "or_where_not_null", "where_between", "or_where_between", "where_not_between", "or_where_not_between",
    "where_exists", "or_where_exists", "where_not_exists", "or_where_not_exists", "where_raw", "or_where_raw",
    "where_like", "or_where_like", "where_ilike", "or_where_ilike", "where_json_path", "or_where_json_path"],
    fun _ => [.add .wheres]),
  (["group_by", "group_by_raw"], fun _ => [.add .groups]),
  (["having", "or_having", "having_in", "having_not_in", "having_null", "having_not_null", "having_between",
    "having_not_between", "having_raw", "or_having_raw"], fun _ => [.add .havings]),
  (["order_by", "order_by_raw"], fun _ => [.add .orders]),
  (["union", "union_all", "intersect", "except_"], fun _ => [.add .unions]),
  (["with_", "with_recursive", "with_materialized", "with_not_materialized"], fun _ => [.add .commonTables]),
  (["limit"], fun _ => [.assign .limit]),
  (["offset"], fun _ => [.assign .offset])]

/-- What the other methods write. -/
def otherRows : List (List String × (Arguments → List Mutation)) := [
  -- source, paging and locks
  (["from_", "table", "into"], fun _ => [.assign .table]),
  (["with_schema"], fun _ => [.assign .schema]),
  (["as_"], fun _ => [.assign .asName]),
  (["first"], fun _ => [.add .projection, .assign .method, .assign .limit]),
  (["for_update", "for_share", "for_no_key_update", "for_key_share"],
    fun _ => [.assign .lock, .assign .lockTables]),
  (["skip_locked", "no_wait"], fun _ => [.assign .wait]),
  -- writes
  (["insert"], fun a => .assign .method :: .assign .insert :: returned a ["values", "returning"] 1),
  (["upsert"], fun a => .assign .method :: .assign .upsert :: returned a ["values", "returning"] 1),
  (["update"], fun a => .assign .method :: .assign .update :: returned a ["values", "value", "returning"] 1),
  (["increment", "decrement"], fun _ => [.count, .assign .method]),
  (["delete", "del_"], fun a => .assign .method :: returned a ["returning"] 0),
  (["truncate"], fun _ => [.assign .method]),
  (["returning"], fun _ => [.assign .returning]),
  -- what is needed to run a query
  (["comment"], fun _ => [.comment]),
  (["timeout"], fun _ => [.assign .timeout, .assign .cancelOnTimeout]),
  (["options"], fun _ => [.option]),
  (["query_context"], fun _ => [.assign .context]),
  -- clearing
  (["clear"], fun a => (a.one "statement").toOption.elim [] clearing),
  (["clear_select"], fun _ => [.drop .projection]),
  (["clear_where"], fun _ => [.drop .wheres]),
  (["clear_order"], fun _ => [.drop .orders]),
  (["clear_having"], fun _ => [.drop .havings]),
  (["clear_group"], fun _ => [.drop .groups]),
  (["clear_counters"], fun _ => [.assign .counters])]

/-- What the row that names a method says; nothing if there is none. -/
def fromRows (rows : List (List String × (Arguments → List Mutation))) (name : String) (a : Arguments) :
    List Mutation :=
  match rows.find? fun row => row.1.contains name with
  | some (_, mutations) => mutations a
  | none => []

/-- What a call of a method writes. -/
def ofMethod (name : String) (a : Arguments) : List Mutation :=
  fromRows (clauseRows ++ otherRows) name a

end Mutation

end SqlBuilder
