import SqlBuilder.Statement.Query
import SqlBuilder.Value.Basic

/-!
# What statements are made of

A statement holds operands, words of its caller's in the place of connectives, words of the library for
what was asked of it, and comments. Here is what it means for all of these to be of certain kinds, clause by
clause. Operands are not looked into.

* `Material`: the kinds.
* `Statement.Of`, `Query.Of`: statements and queries made of a material.
* `Statement.of_any`: every statement is made of something.
-/

namespace SqlBuilder

/-- What statements may be made of. -/
structure Material where
  operand : Value → Prop
  /-- the words of callers in the place of connectives -/
  connective : Value → Prop
  /-- the words of aggregates, window functions, joins and set operations -/
  word : String → Prop
  comment : String → Prop

/-- Anything at all. -/
def Material.any : Material :=
  ⟨fun _ => True, fun _ => True, fun _ => True, fun _ => True⟩

/-- The operands of a test. -/
def Test.operands {α : Type} : Test α → List α
  | compare column operator value => [column, operator, value]
  | compareColumns column operator other => [column, operator, other]
  | isIn column values => [column, values]
  | isNull column => [column]
  | between column bounds => column :: bounds
  | exists_ query => [query]
  | group callback => [callback]
  | pairs entries => entries.flatMap fun e => [e.1, e.2]
  | raw expression => [expression]
  | like column pattern _ => [column, pattern]
  | jsonPath column path operator value => [column, path, operator, value]
  | joinGroup callback => [callback]
  | joinPairs entries => entries.flatMap fun e => [e.1, e.2]
  | «using» columns => columns

/-- The operands of an entry of the order list. -/
def OrderEntry.operands {α : Type} : OrderEntry α → List α
  | by_ column direction _ => [column, direction]
  | raw expression => [expression]

variable (M : Material)

/-- A condition made of a material. -/
structure Condition.Of (c : Condition Value) : Prop where
  test : ∀ v ∈ c.test.operands, M.operand v
  word : ∀ w ∈ c.word, M.connective w

/-- A window function made of a material. -/
structure Window.Of (w : Window Value) : Prop where
  word : M.word (w.function ++ "() over (")
  asName : M.operand w.asName
  raw : ∀ v ∈ w.raw, M.operand v
  order : ∀ t ∈ w.order, M.operand t.1 ∧ M.operand t.2
  partitions : ∀ t ∈ w.partitions, M.operand t.1 ∧ M.operand t.2

/-- An entry of a projection made of a material. -/
def Projection.Of : Projection Value → Prop
  | .columns values _ => ∀ v ∈ values, M.operand v
  | .aggregate function v _ asName =>
    (M.word (function ++ "(") ∧ M.word (function ++ "(distinct ")) ∧ M.operand v ∧ M.operand asName
  | .window w => w.Of M
  | .jsonExtract column path asName => M.operand column ∧ M.operand path ∧ M.operand asName

/-- A join made of a material. -/
structure Join.Of (j : Join Value) : Prop where
  word : j.raw = false → M.word (j.kind ++ " join ")
  table : M.operand j.table
  schema : ∀ v ∈ j.schema, M.operand v
  conditions : ∀ c ∈ j.conditions, c.Of M

/-- A combined query made of a material. -/
structure SetOperation.Of (o : SetOperation Value) : Prop where
  word : M.word (" " ++ o.kind ++ " ")
  query : M.operand o.query

/-- A common table made of a material. -/
structure CommonTable.Of (t : CommonTable Value) : Prop where
  query : M.operand t.query
  columns : ∀ v ∈ t.columns, M.operand v

/-- What an insert does about existing rows, made of a material. -/
structure Conflict.Of (c : Conflict Value) : Prop where
  columns : ∀ v ∈ c.columns, M.operand v
  merge : ∀ v ∈ c.merge, M.operand v

/-- A statement made of a material. -/
structure Statement.Of (st : Statement Value) : Prop where
  commonTables : ∀ t ∈ st.commonTables, t.Of M
  projection : ∀ e ∈ st.projection, e.Of M
  joins : ∀ j ∈ st.joins, j.Of M
  wheres : ∀ c ∈ st.wheres, c.Of M
  unions : ∀ o ∈ st.unions, o.Of M
  groups : ∀ g ∈ st.groups, ∀ v ∈ g.values, M.operand v
  orders : ∀ e ∈ st.orders, ∀ v ∈ e.operands, M.operand v
  havings : ∀ c ∈ st.havings, c.Of M
  table : ∀ v ∈ st.table, M.operand v
  schema : ∀ v ∈ st.schema, M.operand v
  asName : ∀ v ∈ st.asName, M.operand v
  lockTables : ∀ v ∈ st.lockTables, M.operand v
  insert : ∀ v ∈ st.insert, M.operand v
  update : ∀ e ∈ st.update, M.operand e.1 ∧ M.operand e.2
  upsert : ∀ v ∈ st.upsert, M.operand v
  counters : ∀ c ∈ st.counters, M.operand c.step
  returning : ∀ v ∈ st.returning, M.operand v
  conflict : ∀ c ∈ st.conflict, c.Of M
  comments : ∀ text ∈ st.comments, M.comment text

/-- A query made of a material. -/
structure Query.Of (q : Query Value) : Prop where
  statement : q.statement.Of M
  context : ∀ v ∈ q.context, M.operand v

variable {M}

/-! ## Anything -/

theorem Condition.of_any (c : Condition Value) : c.Of .any :=
  ⟨fun _ _ => trivial, fun _ _ => trivial⟩

theorem Window.of_any (w : Window Value) : w.Of .any :=
  ⟨trivial, trivial, fun _ _ => trivial, fun _ _ => ⟨trivial, trivial⟩, fun _ _ => ⟨trivial, trivial⟩⟩

theorem Projection.of_any (e : Projection Value) : e.Of .any := by
  cases e with
  | columns values role => exact fun _ _ => trivial
  | aggregate function v distinct asName => exact ⟨⟨trivial, trivial⟩, trivial, trivial⟩
  | window w => exact w.of_any
  | jsonExtract column path asName => exact ⟨trivial, trivial, trivial⟩

theorem Join.of_any (j : Join Value) : j.Of .any :=
  ⟨fun _ => trivial, trivial, fun _ _ => trivial, fun c _ => c.of_any⟩

/-- Every statement is made of something. -/
theorem Statement.of_any (st : Statement Value) : st.Of .any where
  commonTables _ _ := ⟨trivial, fun _ _ => trivial⟩
  projection e _ := e.of_any
  joins j _ := j.of_any
  wheres c _ := c.of_any
  unions _ _ := ⟨trivial, trivial⟩
  groups _ _ _ _ := trivial
  orders _ _ _ _ := trivial
  havings c _ := c.of_any
  table _ _ := trivial
  schema _ _ := trivial
  asName _ _ := trivial
  lockTables _ _ := trivial
  insert _ _ := trivial
  update _ _ := ⟨trivial, trivial⟩
  upsert _ _ := trivial
  counters _ _ := trivial
  returning _ _ := trivial
  conflict _ _ := ⟨fun _ _ => trivial, fun _ _ => trivial⟩
  comments _ _ := trivial

end SqlBuilder
