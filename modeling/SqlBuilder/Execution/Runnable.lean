import SqlBuilder.Render.Compile

/-!
# What can be run

A query, a raw expression, a schema change, a compiled statement, or a list of compiled statements.
What cannot be run is noticed when its turn comes: on a connection, after the statements before it.

* `Environment.statements`: the statements to execute for a value.
* `Environment.context`: the context that a value has for hooks.
-/

namespace SqlBuilder

/-- The statements to execute. -/
inductive Statements
  | one (c : Compiled Value)
  | many (list : List (Compiled Value))

/-- The statements as a list. -/
def Statements.toList : Statements → List (Compiled Value)
  | one c => [c]
  | many list => list

namespace Environment

/-- The context that a value has for hooks, which only a query has. -/
def context (env : Environment) (v : Value) : Option Value :=
  (env.query? v).bind Query.context

/-- The error of something that stands in the place of a compiled statement. A raw expression has a
text, but no method. -/
def misplaced (env : Environment) (v : Value) : Error :=
  match env.raw? v with
  | some r => if r.sql.str?.isSome then noSuchMember else env.client.nativeFault r.sql
  | none => v.missing "sql"

/-- The statement that a value is, if it is compiled. -/
def compiled? : Value → Option (Compiled Value)
  | .compiled c => some c
  | _ => none

/-- The statements of a list, up to the first item that is none, and the error of that item. -/
def statementsOf (env : Environment) (items : List Value) : Statements × Option Error :=
  let list := (items.map compiled?).takeWhile Option.isSome
  (.many (list.filterMap id), items[list.length]?.map env.misplaced)

/-- The statements to execute for a value, up to the first item that is none, and the error of that
item. -/
def statements (env : Environment) (v : Value) : Compile (Statements × Option Error) := do
  match v, env.query? v, env.raw? v with
  | .list items, _, _ | .tuple items, _, _ => return env.statementsOf items
  | .schema schema, _, _ => return (.many (← schema.compile env), none)
  | .compiled c, _, _ => return (.one c, none)
  | _, some q, _ => return (.one (← q.compile env), none)
  | _, none, some r => return (.one (← r.compile env), none)
  | v, none, none => return (.many [], some (env.misplaced v))

end Environment

end SqlBuilder
