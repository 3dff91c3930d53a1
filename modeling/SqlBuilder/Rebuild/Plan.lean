import SqlBuilder.Rebuild.Item
import SqlBuilder.Script.Arguments

/-!
# Building a table again

Where a table cannot be changed in place, a copy with the changed definition takes its place. The
statements for that depend on the stored definition, which the catalog gives: they create the copy,
copy the rows, drop the old table, rename the copy and create the indexes again.

* `DefinitionChange.apply`: the changed items of a definition.
* `Rebuild.statements`: the statements, from the rows of the catalog.
* `Output.interpret`: what is made of the response to a statement.
-/

namespace SqlBuilder

/-! ## Changed definitions -/

/-- The changed definition of a column. -/
def ColumnChange.apply (change : ColumnChange) (item : Item) : Item :=
  match change with
  | .replace definition => definition.toList
  | .allowNull => item.withoutNotNull
  | .forbidNull => item.withNotNull

/-- Whether a name stands for the column that an item defines, or for what defines none. -/
def ColumnName.standsFor : ColumnName → Option (List Char) → Bool
  | .text name, some own => name.toList == own
  | .null, none => true
  | _, _ => false

namespace DefinitionChange

/-- The definition of a column changed, if it is the one that a name stands for. -/
def changeItem (name : ColumnName) (change : ColumnChange) (item : Item) : Except Error (Bool × Item) := do
  if name.standsFor (← item.column?) then return (true, change.apply item)
  else return (false, item)

/-- The items without the constraints of a kind. -/
def dropConstraints (dropped : Item → Bool) (items : List Item) : Except Error (List Item) :=
  items.filterM fun item => do return (← item.column?).isSome || !dropped item

/-- The changed items of a definition. -/
def apply (change : DefinitionChange) (items : List Item) : Except Error (List Item) := do
  match change with
  | .column name change =>
    let changed ← items.mapM (changeItem name change)
    if changed.any (·.1) then return changed.map (·.2) else throw (.rebuildColumnMissing name)
  | .addConstraint definition => return items ++ [definition.toList]
  | .dropPrimary => dropConstraints Item.isPrimaryKey items
  | .dropForeign name => dropConstraints (Item.isNamed name.toList ["foreign", "key"]) items
  | .dropCheck name => dropConstraints (Item.isNamed name.toList ["check"]) items

end DefinitionChange

/-! ## The rows of the catalog -/

namespace Value

/-- A field of a row, by its key in a mapping and by its place in a sequence. -/
def field (key : String) (place : Nat) : Value → Except Error Value
  | map entries => (get? key entries).elim (.error (.fault .missingKey)) .ok
  | v => v.item place

end Value

/-- What the catalog stores about a table: its definition, if there is one, and those of its
indexes. -/
structure Stored where
  definition : Value := .null
  indexes : List Value := []

/-- Adds a row of the catalog; a later definition replaces an earlier one. -/
def Stored.add (s : Stored) (row : Value) : Except Error Stored := do
  let sql := row.field "sql" 1
  if (← row.field "type" 0).isScalar (.str "table") then return { s with definition := ← sql }
  else return { s with indexes := s.indexes ++ [← sql] }

/-! ## Statements -/

namespace Rebuild

/-- The columns that items define. -/
def columns (items : List Item) : Except Error (List (List Char)) := do
  return (← items.mapM Item.column?).filterMap id

/-- A statement of the rebuild, which the catalog may give as something that is no text. -/
def statement (sql : Value) : Compiled Value :=
  { sql := sql.str?.getD ""
    object := if sql.str?.isSome then none else some sql
    method := "alter"
    dialect := some "sqlite3" }

/-- The statements that build a table again from its definition, for given indexes. -/
def plan (r : Rebuild) (definition : String) (indexes : List Value) :
    Except Error (List (Compiled Value)) := do
  let d ← Definition.split definition
  let items ← r.change.apply d.items
  let old ← columns d.items
  let kept := (← columns items).filter old.contains
  if !r.quoting.areTexts then throw wrongType
  let table := r.quoting.quote r.table
  let copy := r.quoting.quote ("_quarry_tmp_" ++ r.table)
  let names := Text.joinWith ", " (kept.map fun name => r.quoting.quote (String.ofList name))
  let body := Text.joinWith ", " (items.map String.ofList)
  let rebuilt :=
    ["create table " ++ copy ++ " (" ++ body ++ ")" ++ String.ofList d.tail,
      "insert into " ++ copy ++ " (" ++ names ++ ") select " ++ names ++ " from " ++ table,
      "drop table " ++ table,
      "alter table " ++ copy ++ " rename to " ++ table]
  return (rebuilt.map Value.str ++ indexes).map statement

/-- The statements that build a table again, from the rows of the catalog. -/
def statements (r : Rebuild) (rows : Value) : Except Error (List (Compiled Value)) := do
  let stored ← (← rows.items).foldlM Stored.add {}
  match stored.definition with
  | .null => throw (.rebuildTableMissing r.table)
  | .str definition => r.plan definition stored.indexes
  | .scalar (.bytes _) => throw wrongType
  | v => throw (v.missing "find")

end Rebuild

/-- What comes of the response to a statement. -/
inductive Interpreted
  | truth (b : Bool)
  | statements (list : List (Compiled Value))

/-- What is made of the response to a statement. -/
def Output.interpret (o : Output) (rows : Value) : Except Error Interpreted :=
  match o with
  | .hasRows => .ok (.truth rows.isTruthy)
  | .rebuild plan => (plan.statements rows).map .statements

end SqlBuilder
