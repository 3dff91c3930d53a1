import SqlBuilder.Render.Clause
import SqlBuilder.Template

/-!
# Rendering raw expressions

The text of a raw expression with its bindings in the slots. Without bindings the text stands as it
is; a reference stands for the identifier that it names.

* `Scope.positional`, `Scope.named`: the two kinds of templates.
* `Scope.rawExpression`: what a raw expression renders to.
-/

namespace SqlBuilder

namespace RawBindings

/-- The bindings as a value. -/
def toValue : RawBindings Value → Value
  | positional values => .list values
  | named entries => .map entries

end RawBindings

namespace Scope

/-- The parts of a template with its bindings in the slots, from the left; a slot without a binding
keeps its text. The number counts the slots. -/
def fillPositional (s : Scope) : List Value → List Template.Part → Compile (List Operand × Nat)
  | _, [] => pure ([], 0)
  | values, .text cs :: parts => do
    let (filled, n) ← s.fillPositional values parts
    return (.sql (Sql.raw (String.ofList cs)) :: filled, n)
  | value :: values, .value _ :: parts => do
    let here ← s.argument value
    let (filled, n) ← s.fillPositional values parts
    return (here :: filled, n + 1)
  | value :: values, .identifier _ :: parts => do
    let here ← s.columnize value
    let (filled, n) ← s.fillPositional values parts
    return (.sql here :: filled, n + 1)
  | [], .value cs :: parts | [], .identifier cs :: parts => do
    let (filled, n) ← s.fillPositional [] parts
    return (.sql (Sql.raw (String.ofList cs)) :: filled, n + 1)

/-- A template with positional bindings, as many as it has slots. -/
def positional (s : Scope) (template : String) (values : List Value) : Compile Sql := do
  let (filled, n) ← s.fillPositional values (Template.positional template.toList)
  let parts ← filled.mapM Operand.textual
  if n ≠ values.length then throw (.bindingCount values.length n)
  return parts.flatten

/-- A slot with a binding of its key; without one it keeps its text. -/
def fillNamed (s : Scope) (entries : List (Value × Value)) (part : Template.NamedPart) :
    Compile Sql := do
  match part with
  | .text cs => return Sql.raw (String.ofList cs)
  | .value key =>
    let slot := String.ofList (':' :: key)
    match Value.get? (String.ofList key) entries with
    | none => return Sql.raw slot
    | some .undefined => do
      bindAll [.undefined]
      return Sql.raw slot ++ [.stray .undefined]
    | some value => do (← s.argument value).textual
  | .identifier key =>
    let slot := String.ofList (':' :: key ++ [':'])
    match Value.get? (String.ofList key) entries with
    | none => return Sql.raw slot
    | some .undefined => do
      bindAll [.undefined]
      return Sql.raw slot ++ [.stray .undefined]
    | some value => s.columnize value

/-- A template with named bindings. -/
def named (s : Scope) (template : String) (entries : List (Value × Value)) : Compile Sql := do
  let parts ← (Template.named template.toList).mapM (s.fillNamed entries)
  return parts.flatten

/-- The identifier that a reference names: the name itself, or a text of it with its schema and its
alias. -/
def referenceTarget (s : Scope) (name : Value) (schema asName : Option Value) : Compile Value := do
  match schema.filter Value.isTruthy, asName.filter Value.isTruthy with
  | none, none => return name
  | schema, none => return .str (← s.inSchema schema (← s.display name))
  | schema, some asName =>
    return .str ((← s.inSchema schema (← s.display name)) ++ " as " ++ (← s.display asName))

/-- What a reference renders to. -/
def referenceText (s : Scope) (target : Value) : Compile Sql := do
  let sql ← s.columnize target
  if target.containsUndefined then throw (.undefinedInRaw [.int 0] sql.text)
  return sql

/-- The text of a raw expression with its bindings in the slots; an object in place of the text, which
has no slots. -/
def filledTemplate (s : Scope) (r : Raw Value) : Compile Operand := do
  match r.bindings, r.sql with
  | .named entries, .str sql => return .sql (← s.named sql entries)
  | .positional [], .str sql => return .sql (Sql.raw sql)
  | .positional [], v => return .object v
  | .positional values, .str sql => return .sql (← s.positional sql values)
  | _, _ => throw wrongType

/-- Two parts of a text, one after the other. Objects of one kind follow each other as well. -/
def follow : Operand → Operand → Compile Operand
  | .sql first, .sql second => pure (.sql (first ++ second))
  | .object first, .object second =>
    match first.follow? second with
    | some v => pure (.object v)
    | none => throw wrongType
  | _, _ => throw wrongType

/-- A value as a part of a text. -/
def ofValue : Value → Operand
  | .str text => .sql (Sql.raw text)
  | v => .object v

/-- The text of a raw expression between what stands before and after it, if anything does. -/
def surrounded (s : Scope) (r : Raw Value) : Compile Operand := do
  let operand ← s.filledTemplate r
  let operand ← match r.before.filter Value.isTruthy with
    | some before => follow (ofValue before) operand
    | none => pure operand
  match r.after.filter Value.isTruthy with
  | some after => follow operand (ofValue after)
  | none => pure operand

/-- What a raw expression renders to. -/
def rawExpression (s : Scope) (r : Raw Value) : Compile Operand := do
  match r.reference with
  | some name => return .sql (← s.referenceText (← s.referenceTarget name r.schema r.asName))
  | none =>
    let operand ← s.surrounded r
    let bindings := r.bindings.toValue
    if bindings.containsUndefined then
      throw (.undefinedInRaw bindings.undefinedKeys (← s.spell operand).text)
    return operand

end Scope

end SqlBuilder
