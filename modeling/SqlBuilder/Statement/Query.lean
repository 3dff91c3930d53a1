import SqlBuilder.Statement.Clause
import SqlBuilder.Text.Quoted

/-!
# Queries, raw expressions and compiled statements

The objects that callers put together, and the result of compiling them, over a type `α` of operands.

* `Raw`: SQL text with slots for values and identifiers.
* `Query`: a statement with the client it was made for and what is needed to run it.
* `Output`: what is made of the response to a statement.
* `Compiled`: SQL text with `?` placeholders and the values for them.
-/

namespace SqlBuilder

/-! ## Raw expressions -/

/-- The values for the slots of a raw expression. -/
inductive RawBindings (α : Type)
  | positional (values : List α)
  | named (values : List (α × α))

/-- SQL text with slots: `?` and `:key` for values, `??` and `:key:` for identifiers. A raw expression
with a reference stands for the quoted name instead, with its schema and its alias. What a caller gave
as a text is only looked at where a text is needed, and may be any operand until then. -/
structure Raw (α : Type) where
  client : Option (Client α) := none
  sql : α
  bindings : RawBindings α := .positional []
  before : Option α := none
  after : Option α := none
  timeout : Option α := none
  /-- none is false -/
  cancelOnTimeout : Option α := none
  options : List (α × α) := []
  /-- the name that a reference stands for -/
  reference : Option α := none
  schema : Option α := none
  asName : Option α := none

/-! ## Queries -/

/-- A statement with the client it was made for, the options for running it, and the context that
hooks receive. -/
structure Query (α : Type) where
  client : Client α
  statement : Statement α := {}
  options : List (α × α) := []
  timeout : Option Nat := none
  /-- none is false -/
  cancelOnTimeout : Option α := none
  context : Option α := none

/-! ## Responses -/

/-- The column that a stored definition is searched for, as a caller names it. -/
inductive ColumnName
  | text (name : String)
  /-- null, which the constraints of the table have in place of a name -/
  | null
  /-- something that no column is named, in the form that messages show -/
  | other (form : String)
  deriving DecidableEq, Inhabited

/-- The name of a column as messages show it. -/
def ColumnName.form : ColumnName → String
  | .text name => Text.quoted name
  | .null => "None"
  | .other form => form

/-- What becomes of the definition of a column. -/
inductive ColumnChange
  /-- another definition takes its place -/
  | replace (definition : String)
  /-- it may be null -/
  | allowNull
  /-- it may not be null -/
  | forbidNull
  deriving DecidableEq, Inhabited

/-- A change of the stored definition of a table. -/
inductive DefinitionChange
  | column (name : ColumnName) (change : ColumnChange)
  /-- add a constraint after the other definitions -/
  | addConstraint (definition : String)
  | dropPrimary
  | dropForeign (name : String)
  | dropCheck (name : String)
  deriving DecidableEq, Inhabited

/-- A table that is to be built again with a changed definition. -/
structure Rebuild where
  table : String
  quoting : Quoting
  change : DefinitionChange
  deriving DecidableEq, Inhabited

/-- What is made of the response to a statement. -/
inductive Output
  /-- whether it has rows -/
  | hasRows
  /-- the statements that build a table again -/
  | rebuild (plan : Rebuild)
  deriving DecidableEq, Inhabited

/-! ## Compiled statements -/

/-- SQL text with `?` placeholders, the values for them, and what is needed to run it and to read the
response to it. -/
structure Compiled (α : Type) where
  sql : String
  /-- what a raw expression was given in place of a text, which is empty then -/
  object : Option α := none
  bindings : List α := []
  method : String := "select"
  options : List (α × α) := []
  timeout : Option α := none
  /-- none is false -/
  cancelOnTimeout : Option α := none
  asName : Option α := none
  returning : List α := []
  /-- none leaves the response as it is -/
  output : Option Output := none
  dialect : Option String := none

end SqlBuilder
