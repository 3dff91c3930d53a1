import SqlBuilder.Statement.Builder

/-!
# Building joins

The calls on the conditions of a join. A condition between columns compares them; the others are
those of a query.
-/

namespace SqlBuilder

namespace Join

/-- What stands for an argument that a call did not get. -/
def leftOut : Value := .other "object" "<object object>"

/-- Adds a condition to a join; a word of the caller's may join it in place of the connective. -/
def addCondition (j : Join Value) (connective : Connective) (negated : Bool) (test : Test Value)
    (word : Option Value := none) : Join Value :=
  { j with conditions := j.conditions ++ [{ connective, word, negated, test }] }

/-- Adds a condition between columns: a callback or a mapping makes a group, a raw expression stands
for itself unless an operator follows it, and two columns are equal unless an operator is given. -/
def on (j : Join Value) (connective : Connective) (word : Option Value) (first : Value)
    (operator second : Option Value) : Join Value :=
  let add (test : Test Value) : Join Value := j.addCondition connective false test word
  match first with
  | .callback _ => add (.joinGroup first)
  | .map entries => add (.joinPairs entries)
  | first =>
    if first.isRaw && operator.isNone then add (.raw first)
    else match second with
      | none => add (.compareColumns first (.str "=") (operator.getD leftOut))
      | some second => add (.compareColumns first (operator.getD leftOut) second)

/-- Adds a condition between a column and a value. -/
def onValue (j : Join Value) (connective : Connective) (word : Option Value) (column : Value)
    (operator value : Option Value) : Join Value :=
  let test := match value with
    | some value => Test.compare column (operator.getD leftOut) value
    | none => .compare column (.str "=") (operator.getD leftOut)
  j.addCondition connective false test word

/-- Adds a test for a range; the bounds are taken as they come. -/
def onBetween (j : Join Value) (negated : Bool) (column : Value) (bounds : List Value) :
    Join Value :=
  j.addCondition .and negated (.between column bounds)

/-- Names the columns that both sides share. -/
def sharing (j : Join Value) (columns : List Value) : Join Value :=
  j.addCondition .and false (.using columns)

end Join

/-- Adds a join to a query. -/
def Query.addJoin (q : Query Value) (j : Join Value) : Query Value :=
  q.edit fun s => { s with joins := s.joins ++ [j] }

/-- A join of a table with the query, in the schema that the query has now. -/
def Query.joinOf (q : Query Value) (kind : String) (table : Value) : Join Value :=
  { table, kind, schema := q.statement.schema }

/-- A join given as raw text. -/
def Query.rawJoin (q : Query Value) (expression : Value) : Query Value :=
  q.addJoin { table := expression, raw := true }

end SqlBuilder
