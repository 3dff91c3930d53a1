import SqlBuilder.Client

/-!
# Clauses

The parts of a statement as callers give them, over a type `α` of operands: columns, values, nested
queries and raw text alike. Nothing here is SQL text yet.
-/

namespace SqlBuilder

/-! ## Conditions -/

/-- How a condition joins the ones before it. -/
inductive Connective
  | and | or
  deriving DecidableEq, Inhabited

/-- The word of a connective. -/
def Connective.word : Connective → String
  | .and => "and"
  | .or => "or"

/-- What a condition tests. -/
inductive Test (α : Type)
  /-- a column against a bound value -/
  | compare (column operator value : α)
  /-- a column against another -/
  | compareColumns (column operator other : α)
  /-- a column, or a list of columns, against a list or a query -/
  | isIn (column values : α)
  | isNull (column : α)
  /-- a column against two bounds -/
  | between (column : α) (bounds : List α)
  | exists_ (query : α)
  /-- the conditions that a callback adds to an empty statement -/
  | group (callback : α)
  /-- equality of each column with its value -/
  | pairs (entries : List (α × α))
  | raw (expression : α)
  | like (column pattern : α) (ignoreCase : Bool)
  | jsonPath (column path operator value : α)
  /-- the conditions that a callback adds to an empty join -/
  | joinGroup (callback : α)
  /-- equality of each column with another, in a join -/
  | joinPairs (entries : List (α × α))
  /-- columns that both sides of a join share -/
  | using (columns : List α)

/-- A test, negated or not, with what joins it to the conditions before it: a connective, or a word of
the caller's in its place. -/
structure Condition (α : Type) where
  connective : Connective := .and
  word : Option α := none
  negated : Bool := false
  test : Test α

/-! ## Projections -/

/-- What a list of projected columns is for. -/
inductive ColumnRole
  | plain
  | distinct
  | distinctOn
  deriving DecidableEq, Inhabited

/-- A window function with its partition and its order, each a list of columns with directions, or
with a raw window. -/
structure Window (α : Type) where
  function : String
  asName : α
  order : List (α × α) := []
  partitions : List (α × α) := []
  raw : Option α := none

/-- An entry of the projection. -/
inductive Projection (α : Type)
  | columns (values : List α) (role : ColumnRole)
  | aggregate (function : String) (value : α) (distinct : Bool) (asName : α)
  | window (w : Window α)
  | jsonExtract (column path asName : α)

/-! ## Joins -/

/-- A joined table with its conditions; `kind` is the word before `join`. A raw join stands for
itself. -/
structure Join (α : Type) where
  table : α
  kind : String := "inner"
  schema : Option α := none
  conditions : List (Condition α) := []
  raw : Bool := false

/-! ## Groups, orders, set operations and common tables -/

/-- Where the nulls go in an order. -/
inductive NullsOrder
  | first | last
  deriving DecidableEq, Inhabited

/-- The word of a nulls order. -/
def NullsOrder.word : NullsOrder → String
  | .first => "first"
  | .last => "last"

/-- An entry of the order list. -/
inductive OrderEntry (α : Type)
  | by_ (column direction : α) (nulls : Option NullsOrder)
  | raw (expression : α)

/-- An entry of the group list. -/
structure GroupEntry (α : Type) where
  values : List α
  raw : Bool := false

/-- A query combined with the statement; `kind` is the word between them. -/
structure SetOperation (α : Type) where
  query : α
  kind : String
  wrap : Bool := false

/-- A common table expression. -/
structure CommonTable (α : Type) where
  name : String
  query : α
  columns : Option α := none
  recursive : Bool := false
  materialized : Option Bool := none

/-! ## Writes -/

/-- The columns that tell rows apart, and what an insert does about a row that exists already: it
updates it, with every inserted column, with some of them or with given values, or else ignores it. -/
structure Conflict (α : Type) where
  columns : List α
  merge : Option α := none

/-- The direction of a counter's step. -/
inductive Sign
  | plus | minus
  deriving DecidableEq, Inhabited

/-- The operator of a sign. -/
def Sign.operator : Sign → String
  | .plus => "+"
  | .minus => "-"

/-- A column that a statement moves by a step. -/
structure Counter (α : Type) where
  column : String
  sign : Sign
  step : α

/-- What a statement does. -/
inductive Method
  | select | first | insert | update | delete | upsert | truncate
  deriving DecidableEq, Inhabited

/-- The name of a method. -/
def Method.name : Method → String
  | .select => "select"
  | .first => "first"
  | .insert => "insert"
  | .update => "update"
  | .delete => "delete"
  | .upsert => "upsert"
  | .truncate => "truncate"

/-- The method of a name. -/
def Method.ofName? : String → Option Method
  | "select" => some .select
  | "first" => some .first
  | "insert" => some .insert
  | "update" => some .update
  | "delete" => some .delete
  | "upsert" => some .upsert
  | "truncate" => some .truncate
  | _ => none

/-! ## Statements -/

/-- A statement as it has been put together so far: what it does and its clauses, each a register of
its own. -/
structure Statement (α : Type) where
  method : Method := .select
  commonTables : List (CommonTable α) := []
  projection : List (Projection α) := []
  joins : List (Join α) := []
  wheres : List (Condition α) := []
  unions : List (SetOperation α) := []
  groups : List (GroupEntry α) := []
  orders : List (OrderEntry α) := []
  havings : List (Condition α) := []
  table : Option α := none
  schema : Option α := none
  asName : Option α := none
  limit : Option Nat := none
  offset : Option Nat := none
  lock : Option LockMode := none
  lockTables : List α := []
  wait : Option WaitMode := none
  insert : Option α := none
  update : List (α × α) := []
  upsert : Option α := none
  counters : List (Counter α) := []
  returning : List α := []
  conflict : Option (Conflict α) := none
  comments : List String := []

/-- The two clauses that hold conditions. -/
inductive ConditionClause
  | where_ | having
  deriving DecidableEq, Inhabited

namespace Statement

/-- The conditions of a clause. -/
def conditions {α : Type} (s : Statement α) : ConditionClause → List (Condition α)
  | .where_ => s.wheres
  | .having => s.havings

/-- Adds a condition to a clause. -/
def addCondition {α : Type} (s : Statement α) (clause : ConditionClause) (c : Condition α) :
    Statement α :=
  match clause with
  | .where_ => { s with wheres := s.wheres ++ [c] }
  | .having => { s with havings := s.havings ++ [c] }

end Statement

end SqlBuilder
