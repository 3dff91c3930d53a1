import SqlBuilder.Schema.Builder
import SqlBuilder.Schema.Statements

/-!
# Statements about views

A view is created from a query that is written out. An existing view may have its columns renamed and
their defaults set, where the dialect allows that.

* `Scope.createView`: the statements that create a view.
* `Scope.viewStatements`: all statements about a view.
-/

namespace SqlBuilder

/-- The clause for the check of a view's rows. -/
def CheckOption.clause : CheckOption → String
  | .plain => " with check option"
  | .local_ => " with local check option"
  | .cascaded => " with cascaded check option"

/-- The method of the statements about a view. -/
def ViewMethod.name : ViewMethod → String
  | .alter => "alter"
  | _ => "create"

namespace Scope

/-- The name of a view with its schema. -/
def viewName (s : Scope) (v : View Value) : Compile Sql :=
  s.qualified v.schema v.name

/-- Creates a view; `words` stand before its kind. -/
def createViewQuery (s : Scope) (v : View Value) (words : String) : Ddl Unit := do
  match v.query with
  | none => throw (.invalid .viewQuery)
  | some query =>
    let name ← s.viewName v
    let columns ←
      if v.columns.isEmpty then pure []
      else pure (Sql.word " " ++ (← s.columnizeAll v.columns).parens)
    let query ← s.writtenOut query
    let check := v.checkOption.elim [] fun option => Sql.word option.clause
    s.push v.method.name
      (Sql.word ("create " ++ words ++ "view ") ++ name ++ columns ++ Sql.word " as " ++ query ++
        check)

/-- Creates a view, or replaces one, in the way of the dialect. -/
def createView (s : Scope) (v : View Value) : Ddl Unit := do
  match v.method with
  | .createOrReplace =>
    match s.capabilities.views.createOrReplace with
    | "drop" =>
      s.push "drop" (Sql.word "drop view if exists " ++ (← s.viewName v))
      s.createViewQuery v ""
    | "" => s.createViewQuery v ""
    | words => s.createViewQuery v (words ++ " ")
  | .createMaterialized =>
    if s.capabilities.views.materialized then s.createViewQuery v "materialized "
    else s.unsupported "materialized views"
  | _ => s.createViewQuery v ""

/-- Renames a column of a view. -/
def renameViewColumn (s : Scope) (v : View Value) (old new : Value) : Ddl Unit := do
  if s.grammar = .mssql then
    s.pushBound v.method.name
      (columnRename (.str ((← s.display v.name) ++ "." ++ (← s.display old))) new)
  else if s.capabilities.views.renameColumn then
    let name ← s.viewName v
    let old ← s.wrap old
    s.push v.method.name
      (Sql.word "alter view " ++ name ++ Sql.word " rename " ++ old ++ Sql.word " to " ++
        (← s.wrap new))
  else throw (.noViewColumnRename s.client.dialectName)

/-- Sets the default of a column of a view. -/
def setViewDefault (s : Scope) (v : View Value) (column value : Value) : Ddl Unit := do
  if s.capabilities.views.defaultTo then
    let default ← if value.isRaw then s.writtenOut value else s.literalSql value
    let name ← s.viewName v
    let column ← s.wrap column
    s.push v.method.name
      (Sql.word "alter view " ++ name ++ Sql.word " alter " ++ column ++
        Sql.word " set default " ++ default)
  else throw (.noViewColumnDefault s.client.dialectName)

/-- All statements about a view. -/
def viewStatements (s : Scope) (v : View Value) : Ddl Unit := do
  match v.method with
  | .alter =>
    v.statements.forM fun
      | .renameColumn old new => s.renameViewColumn v old new
      | .defaultTo column value => s.setViewDefault v column value
  | _ => s.createView v

end Scope

end SqlBuilder
