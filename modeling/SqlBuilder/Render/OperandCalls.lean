import SqlBuilder.Render.Compile

/-!
# Rendering operands by name

Single operands rendered on demand, under the names by which scripts ask for them. The values of one
call are bound after those of the calls before it, also if the call fails.

* `Scope.callbackCall`: the query that a callback makes, as a statement of a named kind.
* `Scope.operandCall`: the outcome of one call.
-/

namespace SqlBuilder.Scope

/-- The kind of statement that a value names; an absent one is that of the query itself. -/
def methodNamed (v : Value) : Compile (Option Method) :=
  if !v.isTruthy then pure none
  else match v.str?.bind Method.ofName? with
    | some method => pure (some method)
    | none => throw (.unknownStatement v)

/-- The query that a callback makes, rendered as a statement of a named kind. -/
def callbackCall (s : Scope) (chains : List Chain) (method : Value) : Compile Rendered := do
  let q ← s.callbackQuery chains
  s.nested.query s.client s.context (← methodNamed method) q

/-- A query, a raw expression or a callback as a statement of a named kind. -/
def statementCall (s : Scope) (v method : Value) : Compile Operand :=
  match v with
  | .callback chains => do return .sql (← s.outputQuery (← s.callbackCall chains method) false)
  | v => s.unwrapOrNothing v

/-- The query that a callback makes, as a compiled statement. -/
def compiledCallback (s : Scope) (callback method : Value) : Compile Value :=
  match callback with
  | .callback chains => do
    let r ← s.callbackCall chains method
    return .compiled {
      sql := r.sql.text
      bindings := r.sql.bindings
      method := r.method.name
      asName := r.asName
      dialect := some s.client.dialectName }
  | _ => throw wrongType

/-- A value where a query or a raw expression may stand; any other value is bound in the place of a
parameter, and has no text of its own. -/
def unwrapCall (s : Scope) (v : Value) (isParameter : Bool) : Compile Value := do
  match ← s.unwrap v isParameter with
  | some operand => return operand.toValue
  | none =>
    if isParameter then bindAll [v]
    return .null

/-- A compiled statement inside another one. A raw expression has no alias of its own, and no kind. -/
def outputCall (s : Scope) (v : Value) (isParameter : Bool) (asName : Value) : Compile Value := do
  match v, s.env.raw? v with
  | .compiled c, _ =>
    let sql := c.object.elim (Operand.sql (Sql.raw c.sql)) Operand.object
    let chosen := if asName.isTruthy then some asName else c.asName.filter Value.isTruthy
    let isSelect := c.method == "select" || c.method == "first"
    if sql.isBlank || !isSelect || !(isParameter || chosen.isSome) then return sql.toValue
    let nested := (← s.spell sql).parens
    match chosen with
    | none => return .str nested.text
    | some asName => return .str (s.aliased nested (← s.wrapString (← nameText asName))).text
  | _, some r =>
    if asName.isTruthy && !r.sql.isTruthy then return r.sql else throw noSuchMember
  | v, none => throw (v.missing "sql")

/-- The names of what a rendering holds, which is nothing to call. -/
def attributes : List String :=
  ["client", "bindings", "query_context"]

/-- The outcome of one call. -/
def operandCall (s : Scope) (name : String) (a : Arguments) : Compile Value := do
  let bound (parameters : List String) (required : Nat) : Compile Bound :=
    liftCompile (a.bind parameters required)
  let text (parameter : String) (f : Value → Compile Sql) : Compile Value := do
    return .str (← f (← liftCompile (a.one parameter))).text
  let operand (parameter : String) (f : Value → Compile Operand) : Compile Value := do
    return (← f (← liftCompile (a.one parameter))).toValue
  match name with
  | "wrap" =>
    let b ← bound ["value", "is_parameter"] 1
    match ← s.unwrapCall (b.get "value") (b.flag "is_parameter" false) with
    | .null => return (← s.wrapOperand (b.get "value")).toValue
    | v => return v
  | "wrap_string" => text "value" fun v => do s.wrapString (← nameText v)
  | "wrap_as_identifier" => operand "value" s.segmentOf
  | "columnize" => text "target" s.columnize
  | "parse_object" => text "obj" fun
    | .map entries => s.wrapEntries true entries
    | v => throw (v.missing "items")
  | "alias" =>
    let b ← bound ["first", "second"] 2
    let first ← s.display (b.get "first")
    return .str (first ++ s.capabilities.aliasKeyword ++ (← s.display (b.get "second")))
  | "unwrap_raw" =>
    let b ← bound ["value", "is_parameter"] 1
    s.unwrapCall (b.get "value") (b.flag "is_parameter" false)
  | "compile_callback" =>
    let b ← bound ["callback", "method"] 1
    s.compiledCallback (b.get "callback") (b.get "method")
  | "output_query" =>
    let b ← bound ["compiled", "is_parameter", "alias"] 1
    s.outputCall (b.get "compiled") (b.flag "is_parameter" false) (b.get "alias")
  | "raw_or_fn" =>
    let b ← bound ["value", "method"] 1
    return (← s.statementCall (b.get "value") (b.get "method")).toValue
  | "parameter" => operand "value" s.argument
  | "parameterize" =>
    let b ← bound ["values", "not_set_value"] 1
    return (← s.parameterize (b.get "values")).toValue
  | "values" => text "values" s.values
  | "operator" => operand "value" s.operatorOperand
  | "direction" => operand "value" s.directionOperand
  | name => throw (if attributes.contains name then wrongType else noSuchMember)

end SqlBuilder.Scope
