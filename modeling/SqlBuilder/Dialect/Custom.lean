import SqlBuilder.Script.Arguments

/-!
# Custom dialects

Dialects that a caller registers: a variant of a registered dialect or of the plain one, with some
capabilities changed. Capabilities are given by name.

* `Capabilities.change`: one changed capability.
* `Registry.add`: the registry with a custom dialect.
-/

namespace SqlBuilder

/-- A dialect that a caller describes. -/
structure CustomDialect where
  name : String
  aliases : List String := []
  /-- The registered dialect that it is a variant of. -/
  base : Option String := none
  changes : List (String × Value) := []
  /-- It is registered under its aliases only, if it has some. -/
  aliasesOnly : Bool := false

/-- The literal styles, by name. -/
def LiteralStyle.named : List (String × LiteralStyle) :=
  [("default", .backslashed), ("standard", .standard), ("postgres", .braced), ("bit", .bit)]

/-- The statement that a value is given for. -/
def SlottedStatement.ofValue : Value → SlottedStatement
  | .str template => .text template
  | .list _ | .tuple _ | .map _ | .set _ => .container
  | _ => .object

namespace Value

/-- The text of a value that counts as present. -/
def presentText? (v : Value) : Option String :=
  if v.isTruthy then some v.text else none

/-- The text of a value that is not null. -/
def givenText? (v : Value) : Option String :=
  v.present?.map text

/-- The entries of a mapping. -/
def asEntries : Value → Except Error (List (Value × Value))
  | map entries => .ok entries
  | _ => .error wrongType

/-- A choice by name. -/
def choice {α : Type} (options : List (String × α)) (v : Value) : Except Error α := do
  if !v.isKey then throw wrongType
  match v.str?.bind (options.lookup ·) with
  | some a => return a
  | none => throw (.fault .missingKey)

/-- The texts of a sequence. -/
def asTexts (v : Value) : Except Error (List String) := do
  (← v.items).mapM asText

/-- The entries of a mapping whose keys are among the given names. -/
def fieldsOf (names : List String) (v : Value) : Except Error (List (Value × Value)) := do
  let entries ← v.asEntries
  if entries.all fun (k, _) => k.str?.any names.contains then return entries else throw wrongType

/-- The entry of a mapping, or a usual value. -/
def entryOr (name : String) (usual : Value) (entries : List (Value × Value)) : Value :=
  (get? name entries).getD usual

/-- An entry that a mapping has to have. -/
def neededEntry (name : String) (entries : List (Value × Value)) : Except Error Value :=
  (get? name entries).elim (.error wrongType) .ok

end Value

namespace Capabilities

open Value

/-- How values at JSON paths are extracted. -/
def jsonPathOf (v : Value) : Except Error JsonPathStyle := do
  let entries ← v.fieldsOf ["function", "array_path", "text_operator", "unquote_function"]
  return {
    function := (← neededEntry "function" entries).text
    arrayPath := (entryOr "array_path" null entries).isTruthy
    textOperator := (entryOr "text_operator" null entries).presentText?
    unquoteFunction := (entryOr "unquote_function" null entries).presentText? }

/-- What view definitions can do. -/
def viewsOf (v : Value) : Except Error ViewSupport := do
  let entries ← v.fieldsOf
    ["create_or_replace", "rename_column", "default_to", "check_option", "materialized"]
  let flag (name : String) : Bool := (entryOr name null entries).isTruthy
  return {
    createOrReplace :=
      ((entryOr "create_or_replace" (str "or replace") entries).presentText?).getD ""
    renameColumn := flag "rename_column"
    defaultTo := flag "default_to"
    checkOption := flag "check_option"
    materialized := flag "materialized" }

/-- The catalog queries. -/
def catalogOf (v : Value) : Except Error CatalogQueries := do
  let entries ← v.fieldsOf ["has_table", "has_column", "schema_default"]
  return {
    hasTable := .ofValue (← neededEntry "has_table" entries)
    hasColumn := .ofValue (← neededEntry "has_column" entries)
    schemaDefault := (entryOr "schema_default" (str "current_schema()") entries).text }

/-- How a select is cut to a window of rows. -/
def pagingOf (v : Value) : Except Error Paging := do
  let entries ← v.asEntries
  match get? "offset_fetch" entries with
  | some fetch =>
    let fields ← fetch.fieldsOf ["use_top", "default_order"]
    return .offsetFetch (entryOr "use_top" null fields).isTruthy
      (entryOr "default_order" null fields).presentText?
  | none => return .limitOffset (entryOr "limit_offset" null entries).givenText?

/-- How a select asks for row locks. -/
def lockingOf : Value → Except Error LockSupport
  | .map entries => do
    let modes ← (← (entryOr "modes" (list []) entries).asTexts).mapM fun name =>
      (LockMode.ofName? name).elim (.error (.fault .badValue)) .ok
    let waits ← (← (entryOr "wait_modes" (list []) entries).asTexts).mapM fun name =>
      (WaitMode.ofName? name).elim (.error (.fault .badValue)) .ok
    return .forClause modes waits (entryOr "lock_of_tables" (bool true) entries).isTruthy
  | v => v.choice [("table_hint", .tableHint), ("unsupported", .unsupported)]

/-- Changes one capability. -/
def change (c : Capabilities) (entry : String × Value) : Except Error Capabilities := do
  let (name, v) := entry
  match name with
  | "quoting" =>
    match ← v.items with
    | [] => return { c with quoting := {} }
    | [opening] => return { c with quoting := { openQuote := opening.text } }
    | [opening, closing] =>
      return { c with
        quoting :=
          { openQuote := opening.text
            closeQuote := closing.text
            areTexts := closing.str?.isSome } }
    | _ => throw wrongType
  | "paramstyle" =>
    return { c with paramstyle := v.str?.elim (.named v.text) Paramstyle.ofName }
  | "alias_keyword" => return { c with aliasKeyword := v.text }
  | "upsert" =>
    return { c with upsert := ← v.choice [("into", .into), ("unsupported", .unsupported)] }
  | "conflict" =>
    let conflict ← v.choice
      [("on_conflict", .onConflict), ("on_duplicate_key", .onDuplicateKey),
       ("unsupported", .unsupported)]
    return { c with conflict }
  | "returning" =>
    let returning ← v.choice
      [("suffix", .suffix), ("output", .output), ("unsupported", .unsupported)]
    return { c with returning }
  | "locking" => return { c with locking := ← lockingOf v }
  | "json_path" => return { c with jsonPath := ← jsonPathOf v }
  | "paging" => return { c with paging := ← pagingOf v }
  | "views" => return { c with views := ← viewsOf v }
  | "catalog" => return { c with catalog := ← catalogOf v }
  | "empty_insert" => return { c with emptyInsert := v.text }
  | "default_keyword" => return { c with defaultKeyword := v.isTruthy }
  | "ilike_operator" => return { c with ilikeOperator := v.text }
  | "operators" =>
    let operators ← v.items
    if !operators.all Value.isKey then throw wrongType
    return { c with operators := baseOperators ++ operators.filterMap Value.str? }
  | "booleans_as_integers" => return { c with booleansAsIntegers := v.isTruthy }
  | "can_cancel_query" => return { c with canCancelQuery := v.isTruthy }
  | "native_nulls_ordering" => return { c with nativeNullsOrdering := v.isTruthy }
  | "supports_distinct_on" => return { c with supportsDistinctOn := v.isTruthy }
  | "truncate" => return { c with truncate := .ofValue v }
  | "deferrable" => return { c with deferrable := v.isTruthy }
  | "alter_column_prelude" => return { c with alterColumnPrelude := v.presentText? }
  | "begin_transaction" => return { c with beginTransaction := v.givenText? }
  | "escape" => return { c with escape := ← v.choice LiteralStyle.named }
  | _ => throw wrongType

end Capabilities

/-- The registry with a custom dialect. -/
def Registry.add (r : Registry) (d : CustomDialect) : Except Error Registry := do
  let base ← match d.base with
    | none => pure { name := d.name }
    | some name =>
      match r.find? name with
      | some base => pure base
      | none => throw (.unknownDialect name r.names)
  let capabilities ← d.changes.foldlM Capabilities.change base.capabilities
  let names := if d.aliasesOnly && !d.aliases.isEmpty then d.aliases else d.name :: d.aliases
  return r.insertAll names { base with name := d.name, capabilities }

end SqlBuilder
