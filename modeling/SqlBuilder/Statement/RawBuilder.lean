import SqlBuilder.Script.Arguments

/-!
# Building raw expressions

The calls on raw expressions and references.
-/

namespace SqlBuilder.Raw

/-- A raw expression on a client. -/
def ofValue (client : Client Value) (sql bindings : Value) : Raw Value :=
  { client := some client, sql, bindings := bindings.rawBindings }

/-- A raw text on a client. -/
def ofText (client : Client Value) (sql : String) : Raw Value :=
  .ofValue client (.str sql) .null

/-- A reference to a column or a table. -/
def ofReference (client : Client Value) (name : Value) : Raw Value :=
  { client := some client, sql := .str "", reference := some name }

/-- Replaces the text and the bindings. -/
def set (r : Raw Value) (sql bindings : Value) : Raw Value :=
  { r with sql, bindings := bindings.rawBindings }

/-- Puts texts around the expression. -/
def wrap (r : Raw Value) (before after : Value) : Raw Value :=
  { r with before := before.present?, after := after.present? }

/-- Sets the time after which running the expression fails, and whether it is cancelled then. -/
def setTimeout (r : Raw Value) (duration : Value) (cancel : Option Value) :
    Except Error (Raw Value) := do
  if cancel.any Value.isTruthy then
    match r.client with
    | none => throw .clientNeeded
    | some client =>
      if !client.capabilities.canCancelQuery then throw (.cannotCancel client.dialectName)
  return { r with timeout := duration.present?, cancelOnTimeout := cancel }

/-- The names of what a raw expression holds, which is nothing to call. -/
def attributes (r : Raw Value) : List String :=
  ["client", "sql", "bindings"] ++ (if r.reference.isSome then ["ref"] else [])

/-- The outcome of a call on a raw expression. -/
def call (r : Raw Value) (name : String) (a : Arguments) : Except Error (Raw Value) := do
  match name, r.reference with
  | "set", _ =>
    let b ← a.bind ["sql", "bindings"] 1
    return r.set (b.get "sql") (b.get "bindings")
  | "wrap", _ =>
    let b ← a.bind ["before", "after"] 2
    return r.wrap (b.get "before") (b.get "after")
  | "timeout", _ =>
    let b ← a.bind ["ms", "cancel"] 1
    r.setTimeout (b.get "ms") (b.given? "cancel")
  | "options", _ =>
    return { r with options := Value.mergeEntries r.options (← (← a.one "opts").pairs) }
  | "with_schema", some _ => return { r with schema := (← a.one "schema").present? }
  | "as_", some _ => return { r with asName := (← a.one "alias").present? }
  | name, _ => throw (if r.attributes.contains name then wrongType else noSuchMember)

end SqlBuilder.Raw
