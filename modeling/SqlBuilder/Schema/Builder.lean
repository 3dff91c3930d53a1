import SqlBuilder.Schema.Definition
import SqlBuilder.Statement.RawBuilder

/-!
# Building tables and views

The calls that put a table definition, or the change of a table, together: columns with their
modifiers, keys, indexes, constraints and options; and the same for views. Operations that make sense
on an existing table or view only are refused while one is created.

* `Table.addColumn`, `Table.editColumn`: the columns.
* `Table.addStatement`, `Table.alterStatement`, `Table.addCheck`: what is done after the columns.
* `ForeignKey.reference`, `Column.modify`: the chains of calls on a key and on a column.
* `View.checking`, `View.change`: views.
-/

namespace SqlBuilder

/-! ## Tables -/

namespace Table

/-- Whether an existing table is changed. -/
def isAltered (t : Table Value) : Bool :=
  t.method = .alter

/-- Adds a column. -/
def addColumn (t : Table Value) (name : Value) (type : ColumnType Value) : Table Value :=
  { t with columns := t.columns ++ [{ name, type }] }

/-- Changes a column. -/
def editColumn (t : Table Value) (i : Nat) (f : Column Value → Column Value) : Table Value :=
  { t with columns := t.columns.modify i f }

/-- Adds a statement. -/
def addStatement (t : Table Value) (s : TableStatement Value) : Table Value :=
  { t with statements := t.statements ++ [s] }

/-- Adds a statement that only an existing table can have. -/
def alterStatement (t : Table Value) (operation : String) (s : TableStatement Value) :
    Except Error (Table Value) :=
  if t.isAltered then .ok (t.addStatement s) else .error (.invalid (.alterOnly operation))

/-- Changes the foreign key of a statement. -/
def editForeign (t : Table Value) (i : Nat) (f : ForeignKey Value → Except Error (ForeignKey Value)) :
    Except Error (Table Value) :=
  match t.statements[i]? with
  | some (.foreign key) => do return { t with statements := t.statements.set i (.foreign (← f key)) }
  | _ => .error noSuchMember

/-- Adds a check: to the definition of a new table, or as a statement on an existing one. -/
def addCheck (t : Table Value) (c : CheckConstraint Value) : Table Value :=
  if t.isAltered then t.addStatement (.check c) else { t with checks := t.checks ++ [c] }

/-- Sets the comment of the table. -/
def setComment (t : Table Value) : Value → Except Error (Table Value)
  | .str comment => .ok { t with comment := some comment }
  | _ => .error (.invalid .tableComment)

/-- Refuses an option that the dialect lacks, or that cannot be changed later. -/
def checkOption (t : Table Value) (dialect option : String) : Except Error Unit :=
  if t.client.dialectName != dialect then .error (.invalid (.dialectOption option dialect))
  else if t.isAltered then .error (.invalid (.alterOption option))
  else .ok ()

/-- Adds the columns for the times of creation and of the last change. -/
def addTimestamps (t : Table Value) (timestamps defaultToNow camelCase : Bool) : Table Value :=
  let type : ColumnType Value := if timestamps then .timestamp true .null else .datetime true .null
  let now := Value.raw (Raw.ofText t.client "CURRENT_TIMESTAMP")
  let column (name : String) : Column Value :=
    if defaultToNow then
      { name := .str name, type, nullable := some (.bool false), defaultTo := some now }
    else { name := .str name, type }
  let names := if camelCase then ["createdAt", "updatedAt"] else ["created_at", "updated_at"]
  { t with columns := t.columns ++ names.map column }

end Table

/-! ## Foreign keys -/

namespace ForeignKey

/-- Sets the referenced column; a dotted name sets the table as well. -/
def reference (key : ForeignKey Value) (column : Value) : ForeignKey Value :=
  match column with
  | .str name =>
    match Text.splitLast? '.' name.toList with
    | some (table, column) =>
      { key with
        table := some (String.ofList table)
        references := some (.str (String.ofList column)) }
    | none => { key with references := some column }
  | column => { key with references := column.present? }

/-- Sets the referenced table. -/
def inTable (key : ForeignKey Value) : Value → Except Error (ForeignKey Value)
  | .str table => .ok { key with table := some table }
  | v => .error (.invalid (.foreignTable v.kind))

/-- Defers the check of the key. -/
def defer (client : Client Value) (kind : Value) (key : ForeignKey Value) : Except Error (ForeignKey Value) :=
  if client.capabilities.deferrable then .ok { key with deferrable := some kind }
  else .error (.notDeferrable client.dialectName)

end ForeignKey

/-! ## Views -/

namespace View

/-- Asks for a check of the view's rows. -/
def checking (v : View Value) (option : CheckOption) : Except Error (View Value) :=
  if v.client.capabilities.views.checkOption then .ok { v with checkOption := some option }
  else .error (.noCheckOption v.client.dialectName)

/-- Adds a change of a column. -/
def change (v : View Value) (s : ViewStatement Value) : View Value :=
  { v with statements := v.statements ++ [s] }

end View

end SqlBuilder
