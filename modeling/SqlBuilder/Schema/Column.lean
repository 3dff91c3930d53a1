import SqlBuilder.Schema.ColumnType

/-!
# Column definitions

A column definition is the name, the type, the modifiers and the checks of a column. Each family of
dialects has its own modifiers; those that it lacks are left out. Where comments have no place in a
definition, they follow it as statements of their own.

* `Grammar.modifiers`: the modifiers of a family, in the order of their texts.
* `Scope.columnText`: the definition of a column and the statements that follow.
-/

namespace SqlBuilder

/-! ## Modifiers -/

/-- What may come after the type of a column. -/
inductive ColumnModifier
  | unsigned | nullable | default_ | comment | collate | first | after
  deriving DecidableEq, Inhabited

/-- The modifiers of a family, in the order of their texts. -/
def Grammar.modifiers : Grammar → List ColumnModifier
  | .ansi | .sqlite => [.nullable, .default_]
  | .postgres | .cockroach => [.nullable, .default_, .comment, .collate]
  | .redshift => [.nullable, .default_, .comment]
  | .mysql => [.unsigned, .nullable, .default_, .comment, .collate, .first, .after]
  | .oracle => [.default_, .nullable, .comment]
  | .mssql => [.nullable, .default_, .collate]

/-- Whether the type of a column is given in words of the library or as plain text. -/
def Column.hasTypeText (c : Column Value) : Bool :=
  match c.alteredType.filter Value.isTruthy, c.type with
  | some type, _ => type.str?.isSome
  | none, .specific type => type.str?.isSome
  | none, _ => true

/-- A column definition, and the statements that follow it. -/
structure ColumnText where
  definition : Sql
  comments : List Sql := []
  deriving Inhabited

namespace Scope

/-- The name of the table with its schema. -/
def tableName (s : Scope) (t : Table Value) : Compile Sql :=
  s.qualified t.schema (.str t.name)

/-- The words that say whether a column may be null. -/
def nullability (v : Value) : Sql :=
  Sql.word (if v.isTruthy then " null" else " not null")

/-- The default of a column, written out. -/
def defaultText (s : Scope) (c : Column Value) (v : Value) : Compile Sql := do
  if v.isRaw then s.writtenOut v
  else
    match c.type.isJson, v with
    | true, .list _ | true, .map _ => s.literalSql (.str (← v.json Value.noForeign))
    | _, v => s.literalSql v

/-- The statement that sets the comment of a column. -/
def commentStatement (s : Scope) (t : Table Value) (c : Column Value) (comment : String) :
    Compile Sql := do
  let table ← s.tableName t
  let column ← s.wrap c.name
  return Sql.word "comment on column " ++ table ++ Sql.word "." ++ column ++ Sql.word " is " ++
    (← s.literalSql (.str comment))

/-- The text of a modifier of a column with a given type. -/
def modifier (s : Scope) (c : Column Value) (type : Sql) : ColumnModifier → Compile Sql
  | .unsigned => pure (Sql.when c.unsigned (Sql.word " unsigned"))
  | .nullable => pure (c.nullable.elim [] nullability)
  | .default_ =>
    match c.defaultTo with
    | none => pure []
    | some v =>
      if s.grammar = .mysql && c.hasTypeText && Grammar.withoutDefault.contains type.text then pure []
      else do return Sql.word " default " ++ (← s.defaultText c v)
  | .comment =>
    match s.grammar, c.comment with
    | .mysql, some comment => do return Sql.word " comment " ++ (← s.literalSql (.str comment))
    | _, _ => pure []
  | .collate =>
    match c.collation with
    | none => pure []
    | some collation => do
      let name ← match s.grammar with
        | .mysql => s.literalSql collation
        | .mssql => s.given collation
        | _ => s.wrap collation
      return Sql.word " collate " ++ name
  | .first => pure (Sql.when c.first (Sql.word " first"))
  | .after =>
    match c.after with
    | none => pure []
    | some column => do return Sql.word " after " ++ (← s.wrap column)

/-- The statements that a modifier of a column asks for after the definition. -/
def modifierStatements (s : Scope) (t : Table Value) (c : Column Value) :
    ColumnModifier → Compile (List Sql)
  | .comment =>
    match s.grammar, c.comment with
    | .mysql, _ | _, none => pure []
    | _, some comment => do return [← s.commentStatement t c comment]
  | _ => pure []

/-! ## Checks -/

/-- A check of a column, with a name for the constraint if there is one. -/
def check (s : Scope) (test : Sql) (name : Value) : Compile Sql := do
  let named ← if name.isTruthy then do
      pure (Sql.word "constraint " ++ (← s.wrap name) ++ Sql.word " ")
    else pure []
  return Sql.word " " ++ named ++ Sql.word "check " ++ test.parens

/-- Whether the values of a check are several ranges. -/
def areRanges (values : Value) : Except Error Bool :=
  if values.isTruthy then do return (← values.item 0).sequence?.isSome else .ok false

/-- The test for a range. -/
def rangeTest (s : Scope) (column range : Value) : Compile Sql := do
  let (low, high) ← liftCompile range.pair
  let column ← s.wrap column
  let low ← s.literalSql low
  return column ++ Sql.word " between " ++ low ++ Sql.word " and " ++ (← s.literalSql high)

/-- The test for a range, or for one of several ranges. -/
def rangesTest (s : Scope) (column values : Value) : Compile Sql := do
  let ranges ← if ← liftCompile (areRanges values) then liftCompile values.items else pure [values]
  return Sql.joined " or " (← ranges.mapM (s.rangeTest column))

/-- The function for the length of a text. -/
def lengthWord : Grammar → String
  | .mysql => "char_length"
  | .mssql => "len"
  | _ => "length"

/-- The test for the length of a text. -/
def lengthTest (s : Scope) (column operator length : Value) : Compile Sql := do
  let operator ← s.operator operator
  let column ← s.wrap column
  return Sql.word (lengthWord s.grammar) ++ column.parens ++ Sql.word " " ++ operator ++
    Sql.word " " ++ (← wholeSize length 0)

/-- The test for a pattern. -/
def patternTest (s : Scope) (column pattern : Value) : Compile Sql := do
  let operator ← match s.grammar with
    | .postgres | .cockroach | .redshift => pure " ~ "
    | .mysql | .sqlite => pure " regexp "
    | .ansi | .oracle | .mssql => s.unsupported "check_regex"
  let pattern ← s.literalSql pattern
  return (← s.wrap column) ++ Sql.word operator ++ pattern

/-- The test that the values of a column compare with zero. -/
def signTest (s : Scope) (column : Value) (word : String) : Compile Sql := do
  return (← s.wrap column) ++ Sql.word word

/-- The checks of a column. -/
def columnChecks (s : Scope) (c : Column Value) : Compile Sql := do
  let k := c.checks
  let positive ← k.positive.mapM fun name => do
    s.check (← s.signTest c.name " > 0") name
  let negative ← k.negative.mapM fun name => do
    s.check (← s.signTest c.name " < 0") name
  let isIn ← k.isIn.mapM fun (values, name) => do
    s.check (← s.membershipTest c.name " in " values) name
  let notIn ← k.notIn.mapM fun (values, name) => do
    s.check (← s.membershipTest c.name " not in " values) name
  let between ← k.between.mapM fun (values, name) => do
    s.check (← s.rangesTest c.name values) name
  let length ← k.length.mapM fun (operator, length, name) => do
    s.check (← s.lengthTest c.name operator length) name
  let regex ← k.regex.mapM fun (pattern, name) => do
    s.check (← s.patternTest c.name pattern) name
  return ([positive, negative, isIn, notIn, between, length, regex].filterMap id).flatten

/-! ## Definitions -/

/-- The definition of a column and the statements that follow. -/
def columnText (s : Scope) (method : String) (t : Table Value) (c : Column Value) : Ddl ColumnText := do
  let name ← s.wrap c.name
  let type ← s.columnType method c
  let modifiers ← s.grammar.modifiers.mapM fun m => do
    let text ← s.modifier c type m
    return (text, ← s.modifierStatements t c m)
  let checks ← s.columnChecks c
  return {
    definition := name ++ Sql.word " " ++ type ++ (modifiers.map (·.1)).flatten ++ checks
    comments := (modifiers.map (·.2)).flatten }

end Scope

end SqlBuilder
