import SqlBuilder.Render.Scope

/-!
# Rendering operands

Identifiers, values and operators. Nested queries and raw expressions stand where they are used, with
their values; a callback is a query that is made on the spot.

* `Scope.wrap`, `Scope.columnize`: operands in the place of an identifier.
* `Scope.argument`, `Scope.parameter`, `Scope.parameterize`, `Scope.values`: operands in the place of
  a value.
* `Scope.operator`, `Scope.direction`: words that the caller chooses from a list.

Of the two forms of a rendering, `Scope.wrap` and `Scope.parameter` give a part of a longer text, and
`Scope.wrapOperand` and `Scope.argument` what the operand renders to.
-/

namespace SqlBuilder.Scope

/-! ## Nested queries -/

/-- A value bound at a placeholder. -/
def bind (v : Value) : Compile Sql := do
  bindAll [v]
  return [.param v]

/-- Renders a query that stands by itself; its values are bound when it is complete. -/
def nestedQuery (s : Scope) (q : Query Value) : Compile Rendered := do
  let r ← ownBindings (s.nested.query s.client none none q)
  bindAll r.sql.bindings
  return r

/-- Renders a raw expression; its values are bound when it is complete. -/
def nestedRaw (s : Scope) (r : Raw Value) : Compile Operand := do
  let operand ← ownBindings (s.nested.raw s.client s.context r)
  match operand with
  | .sql sql => bindAll sql.bindings
  | .object _ => pure ()
  return operand

/-- A rendered query inside another one: a select stands in parentheses where a value is wanted or
where it has an alias, which then follows. -/
def outputQuery (s : Scope) (r : Rendered) (isParameter : Bool) (asName : Option Value := none) :
    Compile Sql :=
  let asName := match asName.filter Value.isTruthy with
    | some asName => some asName
    | none => r.asName.filter Value.isTruthy
  if (r.method = .select || r.method = .first) && (isParameter || asName.isSome) && !r.sql.isBlank then
    match asName with
    | none => pure r.sql.parens
    | some asName => do return s.aliased r.sql.parens (← s.wrapString (← nameText asName))
  else pure r.sql

/-- The query that a callback makes. -/
def callbackQuery (s : Scope) (chains : List Chain) : Compile (Query Value) :=
  Compile.ofLogged (s.evaluator.onQuery chains (Query.ofClient s.client))

/-- Renders the query that a callback makes, in the context at hand. -/
def compileCallback (s : Scope) (chains : List Chain) : Compile Rendered := do
  s.nested.query s.client s.context none (← s.callbackQuery chains)

/-- Renders a query or a raw expression where it stands; nothing for any other value. -/
def unwrap (s : Scope) (v : Value) (isParameter : Bool := false) : Compile (Option Operand) :=
  match s.env.query? v with
  | some q => do return some (.sql (← s.outputQuery (← s.nestedQuery q) isParameter))
  | none =>
    match s.env.raw? v with
    | some r => do return some (← s.nestedRaw r)
    | none => pure none

/-- Renders a query or a raw expression where it stands; nothing for any other value, and for a raw
expression without a text. -/
def unwrapPresent (s : Scope) (v : Value) : Compile (Option Operand) := do
  match ← s.unwrap v with
  | some (.object .null) => return none
  | operand => return operand

/-- Renders a query or a raw expression where it stands, or nothing at all. -/
def unwrapOrNothing (s : Scope) (v : Value) : Compile Operand := do
  return ((← s.unwrap v).getD (.sql [])).orNothing

/-- Renders a query, a raw expression or a callback as a statement; nothing for any other value. -/
def rawOrCallback (s : Scope) (v : Value) : Compile Operand :=
  match v with
  | .callback chains => do return .sql (← s.outputQuery (← s.compileCallback chains) false)
  | v => s.unwrapOrNothing v

/-- Renders a query, a raw expression or a callback as a statement that is a part of a text. -/
def subquery (s : Scope) (v : Value) : Compile Sql := do
  s.spell (← s.rawOrCallback v)

/-! ## Identifiers -/

mutual

/-- What an operand in the place of an identifier renders to: a name, a number, a query or an
expression, or a mapping of aliases to those. -/
def wrapOperand (s : Scope) : Value → Compile Operand
  | .callback chains => do return .sql (← s.outputQuery (← s.compileCallback chains) true)
  | .map entries => do return .sql (← s.wrapEntries true entries)
  | .scalar t =>
    match t with
    | .int _ | .float _ => pure (.sql [.number t.text])
    | t => do return .sql (← s.wrapString t.text)
  | v => do
    match ← s.unwrapPresent v with
    | some operand => return operand
    | none => return .sql (← s.wrapString (← s.display v))

/-- The operands of a mapping under their aliases. -/
def wrapEntries (s : Scope) (atStart : Bool) : List (Value × Value) → Compile Sql
  | [] => pure []
  | (asName, target) :: entries => do
    let sql ← match target with
      | .callback chains => do s.outputQuery (← s.compileCallback chains) true (some asName)
      | .map inner => do
        let sql ← s.wrapEntries true inner
        pure (s.aliased sql (← s.aliasName asName))
      | target =>
        match s.env.query? target with
        | some q => do s.outputQuery (← s.nestedQuery q) true (some asName)
        | none => do
          let sql ← s.spell (← s.wrapOperand target)
          pure (s.aliased sql (← s.aliasName asName))
    return (if atStart then [] else Sql.word ", ") ++ sql ++ (← s.wrapEntries false entries)

end

/-- An operand in the place of an identifier, as a part of a text. -/
def wrap (s : Scope) (v : Value) : Compile Sql := do
  s.spell (← s.wrapOperand v)

/-- Operands in the place of identifiers, with commas between them. -/
def columnizeAll (s : Scope) (columns : List Value) : Compile Sql := do
  let operands ← columns.mapM s.wrapOperand
  return Sql.commas (← operands.mapM Operand.textual)

/-- An operand, or the items of a sequence, in the place of identifiers. -/
def columnize (s : Scope) (columns : Value) : Compile Sql :=
  s.columnizeAll columns.columnList

/-! ## Values -/

/-- What an operand in the place of a value renders to: a query, an expression, or else a placeholder.
A raw expression without a text leaves a placeholder without a value. -/
def argument (s : Scope) (v : Value) : Compile Operand :=
  match v with
  | .callback chains => do return .sql (← s.outputQuery (← s.compileCallback chains) true)
  | v => do
    match ← s.unwrap v true with
    | some (.object .null) => return .sql (Sql.word "?")
    | some operand => return operand
    | none => return .sql (← bind v)

/-- An operand in the place of a value, as a part of a text. -/
def parameter (s : Scope) (v : Value) : Compile Sql := do
  s.spell (← s.argument v)

/-- A value as it is bound: a container without undefined values as its JSON text. -/
def storable (s : Scope) (v : Value) : Compile Value :=
  match v with
  | .list _ | .tuple _ | .map _ =>
    if v.containsUndefined then pure v
    else do return .str (← v.json s.nested.printers.display)
  | v => pure v

/-- An operand in the place of a value that is stored. -/
def stored (s : Scope) (v : Value) : Compile Operand := do
  s.argument (← s.storable v)

/-- Values with commas between them. -/
def parameterizeAll (s : Scope) (values : List Value) : Compile Sql := do
  let operands ← values.mapM s.stored
  return Sql.commas (← operands.mapM Operand.textual)

/-- What an operand, or the items of a sequence, in the place of values renders to. -/
def parameterize (s : Scope) (values : Value) : Compile Operand :=
  match values with
  | .callback _ => s.argument values
  | values => do return .sql (← s.parameterizeAll values.columnList)

/-- One row of a list of rows. -/
def row (s : Scope) (v : Value) : Compile Sql := do
  let items ← liftCompile v.items
  return (← s.parameterizeAll items).parens

/-- What a membership test looks into: a list of values or of rows, or a query. -/
def values (s : Scope) (v : Value) : Compile Sql :=
  match v.sequence? with
  | some (first :: rest) =>
    if first.sequence?.isSome then do
      return (Sql.commas (← (first :: rest).mapM s.row)).parens
    else do return (← s.parameterizeAll (first :: rest)).parens
  | some [] => pure (Sql.parens [])
  | none =>
    if v.isRaw then do return (← s.parameter v).parens else s.parameter v

/-! ## Words -/

/-- The operators that look like placeholders, with a backslash before the question mark. -/
def escapedOperator (token : String) : String :=
  if token = "?" || token = "?|" || token = "?&" then "\\" ++ token else token

/-- The text of a word that the caller chose; an absent one is empty. -/
def wordText (s : Scope) (v : Value) : Compile String :=
  if v.isTruthy then do return Text.lower (← s.display v) else pure ""

/-- What an operator of the dialect's list renders to, or an expression in its place. -/
def operatorOperand (s : Scope) (v : Value) : Compile Operand := do
  match ← s.unwrapPresent v with
  | some operand => return operand
  | none =>
    let token ← s.wordText v
    if s.capabilities.operators.contains token then return .sql (Sql.word (escapedOperator token))
    else throw (.invalid (.operator (← s.display v)))

/-- An operator, as a part of a text. -/
def operator (s : Scope) (v : Value) : Compile Sql := do
  s.spell (← s.operatorOperand v)

/-- What the direction of an order renders to, ascending unless it says otherwise, or an expression in
its place. -/
def directionOperand (s : Scope) (v : Value) : Compile Operand := do
  match ← s.unwrapPresent v with
  | some operand => return operand
  | none =>
    let word ← s.wordText v
    return .sql (Sql.word (if word = "desc" then "desc" else "asc"))

/-- The direction of an order, as a part of a text. -/
def direction (s : Scope) (v : Value) : Compile Sql := do
  s.spell (← s.directionOperand v)

end SqlBuilder.Scope
