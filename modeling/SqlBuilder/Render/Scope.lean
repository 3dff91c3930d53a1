import SqlBuilder.Script.Evaluator
import SqlBuilder.Literal
import SqlBuilder.Sql

/-!
# The scope of a rendering

What a rendering function may use: the environment, the client, the context for hooks, and the ways
to render what is nested one level down. Here are the functions on names: identifiers, aliases and
dotted names.

* `Operand`: what an operand renders to.
* `Nested`: the renderings of nested queries, raw expressions and groups of conditions.
* `Scope.spell`, `Operand.textual`: an operand inside a text, and as a text of its own.
* `Scope.wrapString`: a dotted name with an optional alias.
-/

namespace SqlBuilder

/-- What an operand renders to: SQL, or the object that a raw expression was given in place of a
text. Such an object may be part of a longer text, where it reads as it does elsewhere, but it is no
text of its own. -/
inductive Operand
  | sql (sql : Sql)
  | object (v : Value)
  deriving Inhabited

namespace Operand

/-- An operand as a value. -/
def toValue : Operand → Value
  | .sql part => .str part.text
  | .object v => v

/-- The SQL of an operand that has to be a text. -/
def textual : Operand → Compile Sql
  | .sql part => pure part
  | .object _ => throw wrongType

/-- An operand, or nothing in place of an object that does not count as present. -/
def orNothing : Operand → Operand
  | .object v => if v.isTruthy then .object v else .sql []
  | o => o

/-- Whether an operand is nothing: SQL without text, or an object that does not count as present. -/
def isBlank : Operand → Bool
  | .sql part => part.isBlank
  | .object v => !v.isTruthy

end Operand

/-- A rendered query, with what decides how it stands inside another one. -/
structure Rendered where
  sql : Sql
  method : Method
  asName : Option Value := none
  deriving Inhabited

/-- The renderings of what is nested one level down. -/
structure Nested where
  /-- a query on a client, in a context in place of its own if one is given, as a statement of a kind
  in place of its own if one is given -/
  query : Client Value → Option Value → Option Method → Query Value → Compile Rendered
  /-- a raw expression on a client -/
  raw : Client Value → Option Value → Raw Value → Compile Operand
  /-- the statements of a schema change -/
  schema : Schema Value → Compile (List (Compiled Value))
  /-- a group of conditions -/
  conditions : Client Value → Option Value → ConditionClause → List (Condition Value) → Compile Sql
  /-- the texts of values -/
  printers : Literal.Printers
  /-- what builders compile to while a callback runs -/
  outputs : Outputs

/-- What a rendering function may use. -/
structure Scope where
  env : Environment
  client : Client Value
  context : Option Value := none
  nested : Nested

/-- The template of a statement of the dialect's. -/
def templateOf : SlottedStatement → Compile String
  | .text template => pure template
  | .container | .object => throw noSuchMember

/-- A template of the dialect's with a slot of a name. -/
def slotted (slot template : String) : Compile (List (Text.Lexeme Unit)) :=
  match Template.braced slot template with
  | .ok parts => pure parts
  | .error fault => throw fault.error

/-- An outcome without effects, as a step of a compilation. -/
def liftCompile {α : Type} : Except Error α → Compile α
  | .ok a => pure a
  | .error e => throw e

namespace Scope

/-- What the dialect can do. -/
def capabilities (s : Scope) : Capabilities :=
  s.client.capabilities

/-- The evaluator for callbacks. -/
def evaluator (s : Scope) : Evaluator :=
  SqlBuilder.evaluator s.env s.nested.outputs nestingLimit

/-- The failure for a feature that the dialect lacks. -/
def unsupported {α : Type} (s : Scope) (feature : String) (detail : String := "") : Compile α :=
  throw (.unsupported s.client.dialectName feature detail)

/-- The text of a value. -/
def display (s : Scope) (v : Value) : Compile String :=
  if v.isBuilder then s.nested.printers.display v else pure v.text

/-- An operand as a part of a text, where an object reads as it does elsewhere. -/
def spell (s : Scope) : Operand → Compile Sql
  | .sql sql => pure sql
  | .object v => do return Sql.raw (← s.display v)

/-- A value as a literal of the dialect. -/
def literal (s : Scope) (v : Value) : Compile String :=
  Literal.render s.capabilities.escape s.nested.printers "local" v

/-- A statement with literals in place of its placeholders. -/
def inlined (s : Scope) (sql : Sql) : Compile String :=
  Literal.inline s.capabilities.escape s.nested.printers "local" sql.text sql.bindings

/-! ## Names -/

/-- One segment as a delimited identifier. -/
def delimited (s : Scope) (segment : String) : Compile Sql :=
  let quoting := s.capabilities.quoting
  if quoting.canQuote segment then pure [.name quoting segment] else throw wrongType

/-- One identifier segment, through the hook if there is one. -/
def identifier (s : Scope) (segment : String) : Compile Sql :=
  match s.client.wrapIdentifier with
  | none => s.delimited segment
  | some .upper => s.delimited (Text.upper segment)
  | some .prefixed =>
    if segment = "*" then pure (Sql.raw segment) else s.delimited ("p_" ++ segment)
  | some .bare => pure (Sql.raw segment)
  | some .context =>
    match s.context with
    | none => s.delimited segment
    | some context => do s.delimited ((← s.display context) ++ "$" ++ segment)
  | some .broken => throw wrongType

/-- One identifier segment without the blanks around it. -/
def segment (s : Scope) (cs : List Char) : Compile Sql :=
  s.identifier (String.ofList (Text.stripChars cs))

/-- One identifier segment given as a value; an absent one is empty. Bytes have no rendering, except
that a hook may leave them as they are. -/
def segmentOf (s : Scope) (v : Value) : Compile Operand :=
  match v with
  | .str name => do return .sql (← s.segment name.toList)
  | .scalar (.bytes bs) => do
    if bs.isEmpty then return .sql (← s.segment [])
    else if s.client.wrapIdentifier = some .bare then
      return .object (.scalar (.bytes (Text.stripBytes bs)))
    else throw wrongType
  | v => do if v.isTruthy then throw (v.missing "strip") else return .sql (← s.segment [])

/-- One identifier segment given as a value, as a part of a text. -/
def aliasName (s : Scope) (v : Value) : Compile Sql := do
  s.spell (← s.segmentOf v)

/-- A dotted name given as a value. -/
def nameText (v : Value) : Compile String :=
  match v with
  | .str name => pure name
  | .scalar (.bytes _) => throw wrongType
  | v => throw (v.missing "lower")

/-- An expression under an alias. -/
def aliased (s : Scope) (expression asName : Sql) : Sql :=
  expression ++ Sql.word s.capabilities.aliasKeyword ++ asName

/-- The keyword between a name and its alias. -/
def aliasMark : List Char := [' ', 'a', 's', ' ']

/-- A dotted name with an optional alias after the keyword in any letter case. The place of the
keyword is found in the lower-case form of the text, which may be longer than the text; a text that
does not get shorter when it is cut there has no rendering. -/
def wrapFrom (s : Scope) : Nat → List Char → Compile Sql
  | 0, _ => throw (.fault .nestingTooDeep)
  | fuel + 1, cs =>
    match Text.findInfix aliasMark (Text.lowerChars cs) with
    | some i => do
      let expression ← s.wrapFrom fuel (cs.take i)
      return s.aliased expression (← s.segment (cs.drop (i + 4)))
    | none =>
      match Text.splitOn '.' cs with
      | first :: second :: rest => do
        let head ← s.wrapFrom fuel (Text.stripChars first)
        return Sql.joined "." (head :: (← (second :: rest).mapM s.segment))
      | segments => do return Sql.joined "." (← segments.mapM s.segment)

/-- A dotted name with an optional alias. -/
def wrapString (s : Scope) (name : String) : Compile Sql :=
  s.wrapFrom (name.toList.length + 1) name.toList

/-- A name in a schema. -/
def inSchema (s : Scope) (schema : Option Value) (name : String) : Compile String :=
  match schema with
  | some schema =>
    if schema.isTruthy then do return (← s.display schema) ++ "." ++ name else pure name
  | none => pure name

end Scope

end SqlBuilder
