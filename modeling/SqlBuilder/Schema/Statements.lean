import SqlBuilder.Render.Clause
import SqlBuilder.Statement.RawBuilder

/-!
# Lists of statements

One change of a schema may take several statements. Each has the values that were bound since the one
before it. Most places of a data definition cannot hold a placeholder; there values are written out as
literals, and so are the values of the queries and expressions that stand there.

* `Ddl`: steps that add statements.
* `Scope.push`: adds a statement.
* `Scope.writtenOut`: a query or an expression without placeholders.
-/

namespace SqlBuilder

/-- A step that adds statements. -/
abbrev Ddl (α : Type) := StateT (List (Compiled Value)) Compile α

/-- Adds the statements of a change whose values are its own. -/
def ownStatements (change : Ddl Unit) : Ddl Unit := do
  let (_, statements) ← (ownBindings (change.run []) : Compile _)
  modify (· ++ statements)

namespace Scope

/-- The family whose statements the dialect writes. -/
def grammar (s : Scope) : Grammar :=
  s.client.dialect.grammar

/-! ## Statements -/

/-- A statement with given values. -/
def statementOf (s : Scope) (method : String) (sql : Sql) (bindings : List Value)
    (output : Option Output := none) : Compiled Value where
  sql := sql.text
  bindings
  method
  output
  dialect := some s.client.dialectName

/-- Adds a statement with given values, unless it has no text. -/
def pushWith (s : Scope) (method : String) (sql : Sql) (bindings : List Value)
    (output : Option Output := none) : Ddl Unit := do
  unless sql.isBlank do
    modify (· ++ [s.statementOf method sql bindings output])
    modifyThe Progress fun p => { p with bound := [] }

/-- Adds a statement with the values bound since the last one, unless it has no text. -/
def push (s : Scope) (method : String) (sql : Sql) (output : Option Output := none) :
    Ddl Unit := do
  s.pushWith method sql (← getThe Progress).bound output

/-- Adds a statement whose values are those of its own placeholders, unless it has no text. -/
def pushBound (s : Scope) (method : String) (sql : Sql) : Ddl Unit :=
  s.pushWith method sql sql.bindings

/-- Adds a statement without values before all the others. -/
def pushFirst (s : Scope) (method : String) (sql : Sql) : Ddl Unit :=
  modify (s.statementOf method sql [] :: ·)

/-- Adds an object that was given in place of the text of a statement. -/
def pushObject (s : Scope) (method : String) (v : Value) : Ddl Unit :=
  modify (· ++ [{ sql := "", object := some v, method, dialect := some s.client.dialectName }])

/-! ## Values written out -/

/-- A value written out; what a raw expression was given in place of a text reads as it does
elsewhere. -/
def literalSql (s : Scope) (v : Value) : Compile Sql := do
  match ← Literal.result s.capabilities.escape s.nested.printers "local" v with
  | .str text => return Sql.literal text
  | v => return Sql.raw (← s.display v)

/-- Values written out as texts of their own, with commas between them. -/
def literals (s : Scope) (values : List Value) : Compile Sql := do
  return Sql.commas (← values.mapM fun v => do return Sql.literal (← s.literal v))

/-- Text that the caller gave in the place of a word. -/
def given (s : Scope) (v : Value) : Compile Sql := do
  return Sql.raw (← s.display v)

/-- Text that the caller gave in the place of a word, after a keyword, if it is there. -/
def givenAfter (s : Scope) (keyword : String) (v : Option Value) : Compile Sql :=
  match v.filter Value.isTruthy with
  | some v => do return Sql.word keyword ++ (← s.given v)
  | none => pure []

/-- A query, an expression or SQL text with literals in place of its values. -/
def writtenOut (s : Scope) (v : Value) (bindings : Value := .null) : Compile Sql := ownBindings do
  let sql ← match v with
    | .str _ => do (← s.nested.raw s.client none (Raw.ofValue s.client v bindings)).textual
    | .callback chains => do
      pure (← s.nested.query s.client none none (← s.callbackQuery chains)).sql
    | v =>
      match s.env.raw? v, s.env.query? v with
      | some r, _ => do (← s.nested.raw s.client none r).textual
      | none, some q => do pure (← s.nested.query s.client none none q).sql
      | none, none => throw noSuchMember
  return Sql.raw (← s.inlined sql)

/-- The conditions of a query with literals in place of their values. Undefined values are not
looked for. -/
def writtenConditions (s : Scope) (v : Value) : Compile Sql := ownColumns <| ownBindings do
  match s.env.query? v with
  | none => throw noSuchMember
  | some q =>
    let sql ← s.nested.conditions s.client q.context .where_ q.statement.wheres
    return Sql.raw (← s.inlined sql)

/-! ## Names -/

/-- The name of an object in a schema, if there is one. -/
def qualified (s : Scope) (schema : Option Value) (name : Value) : Compile Sql :=
  match schema.filter Value.isTruthy with
  | some schema => do s.wrapString ((← s.display schema) ++ "." ++ (← s.display name))
  | none => s.wrap name

/-- The plain name of an object in a schema, if there is one. -/
def plainName (s : Scope) (schema : Option Value) (name : Value) : Compile Value :=
  match schema.filter Value.isTruthy with
  | some schema => do return .str ((← s.display schema) ++ "." ++ (← s.display name))
  | none => pure name

/-- The procedure call of SQL Server that renames an object; the names are bound. -/
def objectRename (old new : Value) : Sql :=
  Sql.word "exec sp_rename " ++ [.param old] ++ Sql.word ", " ++ [.param new]

/-- The procedure call of SQL Server that renames a column; the names are bound. -/
def columnRename (old new : Value) : Sql :=
  objectRename old new ++ Sql.word ", 'COLUMN'"

end Scope

end SqlBuilder
