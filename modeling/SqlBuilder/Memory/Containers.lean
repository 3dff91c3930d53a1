import SqlBuilder.Statement.Builder

/-!
# Containers

A stored query is put together from containers: the query itself, its statement, the lists of its clauses,
its counters, comments and options, and others. Calls change some of them in place, so what two queries
share matters. A memory keeps the contents of each container under its address; the entries of a list and
the values that a caller handed over are plain values, which no call changes.

* `Container`, `Ref`: the kinds of containers, and their addresses.
* `Memory`: the contents of the containers, and the addresses that are not given out yet.
* `Memory.query`: the query that is put together at an address.
* `Memory.newQuery`, `Memory.clone`: a query without clauses, and a copy of a query.
-/

namespace SqlBuilder

/-! ## Clauses -/

/-- The clauses that are lists of entries. -/
inductive Grouping
  | commonTables | projection | joins | wheres | unions | groups | orders | havings
  deriving DecidableEq

/-- What the entries of a clause are. -/
abbrev Grouping.Entry : Grouping → Type
  | commonTables => CommonTable Value
  | projection => Projection Value
  | joins => Join Value
  | wheres | havings => Condition Value
  | unions => SetOperation Value
  | groups => GroupEntry Value
  | orders => OrderEntry Value

/-- The clauses. -/
def Grouping.all : List Grouping :=
  [.commonTables, .projection, .joins, .wheres, .unions, .groups, .orders, .havings]

/-- The entries of a clause. -/
def Statement.entries (s : Statement Value) : (g : Grouping) → List g.Entry
  | .commonTables => s.commonTables
  | .projection => s.projection
  | .joins => s.joins
  | .wheres => s.wheres
  | .unions => s.unions
  | .groups => s.groups
  | .orders => s.orders
  | .havings => s.havings

/-! ## Kinds of containers -/

/-- The kinds of containers. -/
inductive Container
  /-- a query, with what is needed to run it -/
  | query
  /-- what a query does and where its clauses are -/
  | model
  /-- where the entries of each clause are, if there are any -/
  | clauses
  | entries (g : Grouping)
  | lockTables | counters | comments | returning | conflict | update | options
  deriving DecidableEq

/-- The address of a container. -/
@[ext] structure Ref (k : Container) where
  index : Nat
  deriving DecidableEq

/-- What a query does, and where its clauses are. -/
structure ModelObject where
  method : Method := .select
  clauses : Ref .clauses
  table : Option Value := none
  schema : Option Value := none
  asName : Option Value := none
  limit : Option Nat := none
  offset : Option Nat := none
  lock : Option LockMode := none
  lockTables : Ref .lockTables
  wait : Option WaitMode := none
  insert : Option Value := none
  update : Option (Ref .update) := none
  upsert : Option Value := none
  counters : Ref .counters
  returning : Option (Ref .returning) := none
  conflict : Option (Ref .conflict) := none
  comments : Ref .comments

/-- A query: the client it was made for, its statement, and what is needed to run it. -/
structure QueryObject where
  client : Client Value
  model : Ref .model
  options : Ref .options
  timeout : Option Nat := none
  cancelOnTimeout : Option Value := none
  context : Option Value := none

/-- What a container of a kind holds. -/
abbrev Container.Contents : Container → Type
  | query => QueryObject
  | model => ModelObject
  | clauses => Grouping → Option Nat
  | entries g => List g.Entry
  | lockTables | returning => List Value
  | counters => List (Counter Value)
  | comments => List String
  | conflict => Conflict Value
  | update | options => List (Value × Value)

/-- What stands at an address that was not given out. -/
def Container.blank (client : Client Value) : (k : Container) → k.Contents
  | query => { client, model := ⟨0⟩, options := ⟨0⟩ }
  | model => { clauses := ⟨0⟩, lockTables := ⟨0⟩, counters := ⟨0⟩, comments := ⟨0⟩ }
  | clauses => fun _ => none
  | entries _ => []
  | lockTables | returning => []
  | counters => []
  | comments => []
  | conflict => { columns := [] }
  | update | options => []

/-! ## Memories -/

/-- The contents of the containers, and for each kind the next address to be given out. -/
structure Memory where
  contents : (k : Container) → Nat → k.Contents
  next : Container → Nat

namespace Memory

/-- A memory without containers. -/
def empty (client : Client Value) : Memory where
  contents k _ := k.blank client
  next _ := 0

/-- What a container holds. -/
def get (m : Memory) {k : Container} (r : Ref k) : k.Contents :=
  m.contents k r.index

/-- What a container holds that may be absent. -/
def get? (m : Memory) {k : Container} (r : Option (Ref k)) : Option k.Contents :=
  r.map m.get

/-- Changes what a container holds. -/
def set (m : Memory) {k : Container} (r : Ref k) (x : k.Contents) : Memory :=
  { m with contents := fun k' i =>
      if same : k = k' then (if i = r.index then same ▸ x else m.contents k' i) else m.contents k' i }

/-- A new container. -/
def alloc (m : Memory) (k : Container) (x : k.Contents) : Ref k × Memory :=
  (⟨m.next k⟩, { m.set (⟨m.next k⟩ : Ref k) x with
    next := fun k' => if k' = k then m.next k + 1 else m.next k' })

/-- A new container with the contents of another one. -/
def copy (m : Memory) {k : Container} (r : Ref k) : Ref k × Memory :=
  m.alloc k (m.get r)

/-! ## Reading -/

/-- The entries of a clause. -/
def entries (m : Memory) (r : Ref .clauses) (g : Grouping) : List g.Entry :=
  match m.get r g with
  | none => []
  | some i => m.get (⟨i⟩ : Ref (.entries g))

/-- The statement that containers make up. -/
def statement (m : Memory) (s : ModelObject) : Statement Value where
  method := s.method
  commonTables := m.entries s.clauses .commonTables
  projection := m.entries s.clauses .projection
  joins := m.entries s.clauses .joins
  wheres := m.entries s.clauses .wheres
  unions := m.entries s.clauses .unions
  groups := m.entries s.clauses .groups
  orders := m.entries s.clauses .orders
  havings := m.entries s.clauses .havings
  table := s.table
  schema := s.schema
  asName := s.asName
  limit := s.limit
  offset := s.offset
  lock := s.lock
  lockTables := m.get s.lockTables
  wait := s.wait
  insert := s.insert
  update := (m.get? s.update).getD []
  upsert := s.upsert
  counters := m.get s.counters
  returning := (m.get? s.returning).getD []
  conflict := m.get? s.conflict
  comments := m.get s.comments

/-- The statement of a query. -/
def model (m : Memory) (b : Ref .query) : ModelObject :=
  m.get (m.get b).model

/-- The query that the containers of a query make up. -/
def query (m : Memory) (b : Ref .query) : Query Value where
  client := (m.get b).client
  statement := m.statement (m.model b)
  options := m.get (m.get b).options
  timeout := (m.get b).timeout
  cancelOnTimeout := (m.get b).cancelOnTimeout
  context := (m.get b).context

/-! ## New queries -/

/-- A query on a client, without clauses. -/
def newQuery (m : Memory) (client : Client Value) : Ref .query × Memory :=
  let clauses := m.alloc .clauses fun _ => none
  let lockTables := clauses.2.alloc .lockTables []
  let counters := lockTables.2.alloc .counters []
  let comments := counters.2.alloc .comments []
  let model := comments.2.alloc .model {
    clauses := clauses.1
    lockTables := lockTables.1
    counters := counters.1
    comments := comments.1 }
  let options := model.2.alloc .options []
  options.2.alloc .query { client, model := model.1, options := options.1 }

/-! ## Copies -/

/-- Copies of the lists of some clauses. -/
def copyLists (m : Memory) (lists : Grouping → Option Nat) :
    List Grouping → (Grouping → Option Nat) × Memory
  | [] => (fun _ => none, m)
  | g :: gs =>
    let copies := m.copyLists lists gs
    match lists g with
    | none => copies
    | some i =>
      let copy := copies.2.copy (⟨i⟩ : Ref (.entries g))
      (fun g' => if g' = g then some copy.1.index else copies.1 g', copy.2)

/-- A copy of the lists of all clauses. -/
def copyClauses (m : Memory) (r : Ref .clauses) : Ref .clauses × Memory :=
  let lists := m.copyLists (m.get r) Grouping.all
  lists.2.alloc .clauses lists.1

/-- A copy of a container that may be absent. -/
def copy? (m : Memory) {k : Container} : Option (Ref k) → Option (Ref k) × Memory
  | none => (none, m)
  | some r =>
    let (r, m) := m.copy r
    (some r, m)

/-- A copy of a statement. Its lists are copied, and so are its counters, its comments, the columns to
return and what it does about conflicts. The columns that it sets and the rows that it writes are shared,
and so are the entries of its lists. -/
def copyModel (m : Memory) (r : Ref .model) : Ref .model × Memory :=
  let s := m.get r
  let clauses := m.copyClauses s.clauses
  let lockTables := clauses.2.copy s.lockTables
  let counters := lockTables.2.copy s.counters
  let comments := counters.2.copy s.comments
  let returning := comments.2.copy? s.returning
  let conflict := returning.2.copy? s.conflict
  conflict.2.alloc .model { s with
    clauses := clauses.1
    lockTables := lockTables.1
    counters := counters.1
    comments := comments.1
    returning := returning.1
    conflict := conflict.1 }

/-- A copy of a query. -/
def clone (m : Memory) (b : Ref .query) : Ref .query × Memory :=
  let o := m.get b
  let model := m.copyModel o.model
  let options := model.2.copy o.options
  options.2.alloc .query {
    client := o.client
    model := model.1
    options := options.1
    timeout := o.timeout
    cancelOnTimeout := o.cancelOnTimeout
    context := o.context }

end Memory

end SqlBuilder
