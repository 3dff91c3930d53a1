import SqlBuilder.Number.Whole
import SqlBuilder.Schema.Statements

/-!
# Column types

The type of a column in the words of each family of dialects. Sizes are written as the caller gave
them, or as whole numbers where the family asks for those.

* `Grammar.incrementsWord`, `Grammar.plainWord`: the types without sizes.
* `Scope.columnType`: any type.
-/

namespace SqlBuilder

namespace Grammar

/-- A column that numbers its rows. -/
def incrementsWord (g : Grammar) (big key : Bool) : String :=
  let primary := if key then " primary key" else ""
  match g with
  | .ansi | .sqlite => "integer not null" ++ primary ++ " autoincrement"
  | .postgres | .cockroach => (if big then "bigserial" else "serial") ++ primary
  | .redshift => (if big then "bigint" else "integer") ++ " identity(1,1)" ++ primary ++ " not null"
  | .mysql => (if big then "bigint" else "int") ++ " unsigned not null auto_increment" ++ primary
  | .oracle =>
    (if big then "number(20, 0)" else "integer") ++ " generated by default on null as identity" ++
      primary
  | .mssql => (if big then "bigint" else "int") ++ " identity(1,1) not null" ++ primary

/-- An integer of medium size. -/
def mediumWord : Grammar → String
  | .mysql => "mediumint"
  | .mssql => "int"
  | _ => "integer"

/-- A text of any length. -/
def textWord : Grammar → String
  | .redshift => "varchar(max)"
  | .oracle => "clob"
  | .mssql => "nvarchar(max)"
  | _ => "text"

/-- A JSON document; `binary` asks for the form that is stored parsed. -/
def jsonWord (g : Grammar) (binary : Bool) : String :=
  match g with
  | .ansi => "text"
  | .postgres | .cockroach => if binary then "jsonb" else "json"
  | .redshift => "varchar(max)"
  | .mysql | .sqlite => "json"
  | .oracle => "clob"
  | .mssql => "nvarchar(max)"

/-- A UUID; `binary` asks for its bytes where the family has no type of its own. -/
def uuidWord (g : Grammar) (binary : Bool) : String :=
  match g with
  | .postgres | .cockroach => "uuid"
  | .redshift => "char(36)"
  | .mssql => "uniqueidentifier"
  | _ => if binary then "binary(16)" else "char(36)"

/-- A number with a floating point; `double` asks for twice the usual size. -/
def floatWord (g : Grammar) (double : Bool) : String :=
  match g with
  | .mysql => if double then "double" else "float"
  | .oracle => if double then "binary_double" else "binary_float"
  | .mssql => "float"
  | _ => if double then "double precision" else "real"

/-- The types whose columns cannot have a default in MySQL. -/
def withoutDefault : List String :=
  ["text", "mediumtext", "longtext", "json", "blob"]

end Grammar

namespace Scope

/-- A word with sizes in parentheses. -/
def sized (s : Scope) (word : String) (sizes : List Value) : Compile Sql := do
  return Sql.word word ++ (Sql.commas (← sizes.mapM s.given)).parens

/-- A word with a size in parentheses, if the size is there. -/
def sizedIf (s : Scope) (condition : Bool) (word : String) (size : Value) : Compile Sql :=
  if condition then s.sized word [size] else pure (Sql.word word)

/-- A size as a whole number; what is no number stands for the usual size. -/
def wholeSize (size : Value) (usual : Int) : Compile Sql :=
  match size.whole with
  | .ok n => pure (Sql.number (toString n))
  | .error .notNumeric => pure (Sql.number (toString usual))
  | .error .infinite => throw (.fault .overflow)

/-- A test for the values that a column may have. -/
def membershipTest (s : Scope) (column : Value) (word : String) (values : List Value) :
    Compile Sql := do
  let column ← s.wrap column
  return column ++ Sql.word word ++ (← s.literals values).parens

/-- A number with a floating point. -/
def floatType (s : Scope) (double : Bool) (precision scale : Value) : Compile Sql :=
  let word := s.grammar.floatWord double
  match s.grammar, precision.present? with
  | .mysql, some precision => s.sized word [precision, scale.present?.getD (.int 2)]
  | _, _ => pure (Sql.word word)

/-- A moment, as a date with a time or as a timestamp. -/
def momentType (s : Scope) (timestamp withZone : Bool) (precision : Value) : Compile Sql :=
  let isSized := precision.present?.isSome
  match s.grammar with
  | .ansi => pure (Sql.word (if timestamp then "timestamp" else "datetime"))
  | .sqlite => pure (Sql.word "datetime")
  | .postgres | .cockroach =>
    s.sizedIf isSized (if withZone then "timestamptz" else "timestamp") precision
  | .redshift => pure (Sql.word (if withZone then "timestamptz" else "timestamp"))
  | .mysql => s.sizedIf isSized (if timestamp then "timestamp" else "datetime") precision
  | .oracle => do
    let base ← s.sizedIf isSized "timestamp" precision
    return base ++ Sql.when withZone (Sql.word " with local time zone")
  | .mssql => s.sizedIf isSized (if withZone then "datetimeoffset" else "datetime2") precision

/-- Bytes. -/
def binaryType (s : Scope) (length : Value) : Compile Sql :=
  match s.grammar with
  | .postgres | .cockroach => pure (Sql.word "bytea")
  | .redshift => pure (Sql.word "varchar(max)")
  | .mysql =>
    if length.isTruthy then s.sized "varbinary" [length] else pure (Sql.word "blob")
  | .mssql =>
    if length.isTruthy then s.sized "varbinary" [length] else pure (Sql.word "varbinary(max)")
  | _ => pure (Sql.word "blob")

/-- A text of limited length. -/
def varcharType (s : Scope) (length : Value) : Compile Sql :=
  match s.grammar with
  | .oracle => s.sized "varchar2" [length]
  | .mssql => s.sized "nvarchar" [length]
  | _ => do return Sql.word "varchar" ++ (← wholeSize length 255).parens

/-- A number with a fixed point. -/
def decimalType (precision scale : Value) : Compile Sql :=
  match precision with
  | .null => pure (Sql.word "decimal")
  | precision => do
    let precision ← wholeSize precision 8
    return Sql.word "decimal" ++ (Sql.commas [precision, ← wholeSize scale 2]).parens

/-- A text from a list of values, as a type with a test. -/
def testedType (s : Scope) (word : String) (column : Value) (values : List Value) : Compile Sql := do
  return Sql.word (word ++ " check ") ++ (← s.membershipTest column " in " values).parens

/-- One of a list of values. A native enumeration is a type of its own, which is made before the
table. -/
def enumerationType (s : Scope) (method : String) (column : Value) (values : List Value)
    (native : Bool) (name : Value) : Ddl Sql := do
  match s.grammar with
  | .postgres | .cockroach =>
    if !native then s.testedType "text" column values
    else if !name.isTruthy then throw (.invalid .enumName)
    else
      let name ← s.wrap name
      let values ← s.literals values
      s.pushFirst method
        (Sql.word "create type " ++ name ++ Sql.word " as enum " ++ values.parens)
      return name
  | .redshift => return Sql.word "varchar(255)"
  | .mysql => return Sql.word "enum" ++ (← s.literals values).parens
  | .oracle =>
    let lengths ← values.mapM fun v => do return (← s.display v).length
    let length := if lengths.isEmpty then 1 else lengths.foldl max 0
    s.testedType ("varchar2(" ++ toString length ++ ")") column values
  | .mssql => s.testedType "nvarchar(100)" column values
  | .ansi | .sqlite => s.testedType "text" column values

/-- The type of a column, by the name of the column. -/
def typeText (s : Scope) (method : String) (column : Value) : ColumnType Value → Ddl Sql
  | .increments key => pure (Sql.word (s.grammar.incrementsWord false key))
  | .bigIncrements key => pure (Sql.word (s.grammar.incrementsWord true key))
  | .integer length =>
    match s.grammar with
    | .mysql => s.sizedIf length.isTruthy "int" length
    | .mssql => pure (Sql.word "int")
    | _ => pure (Sql.word "integer")
  | .tinyint length =>
    match s.grammar with
    | .mysql => s.sizedIf length.isTruthy "tinyint" length
    | .postgres | .cockroach | .redshift | .oracle => pure (Sql.word "smallint")
    | _ => pure (Sql.word "tinyint")
  | .smallint => pure (Sql.word "smallint")
  | .mediumint => pure (Sql.word s.grammar.mediumWord)
  | .bigInteger => pure (Sql.word (if s.grammar = .oracle then "number(20, 0)" else "bigint"))
  | .text size =>
    match s.grammar, size with
    | .mysql, .str "mediumtext" => pure (Sql.word "mediumtext")
    | .mysql, .str "longtext" => pure (Sql.word "longtext")
    | g, _ => pure (Sql.word g.textWord)
  | .varchar length => s.varcharType length
  | .floating precision scale => s.floatType false precision scale
  | .double precision scale => s.floatType true precision scale
  | .decimal precision scale => decimalType precision scale
  | .boolean =>
    match s.grammar with
    | .oracle => do
      let column ← s.wrap column
      return Sql.word "number(1, 0) check (" ++ column ++ Sql.word " in (0, 1))"
    | .mssql => pure (Sql.word "bit")
    | _ => pure (Sql.word "boolean")
  | .date => pure (Sql.word "date")
  | .datetime withZone precision => s.momentType false withZone precision
  | .time =>
    pure (Sql.word (if s.grammar = .oracle then "timestamp with local time zone" else "time"))
  | .timestamp withZone precision => s.momentType true withZone precision
  | .binary length => s.binaryType length
  | .enumeration values native name => s.enumerationType method column values native name
  | .json => pure (Sql.word (s.grammar.jsonWord false))
  | .jsonb => pure (Sql.word (s.grammar.jsonWord true))
  | .uuid binary => pure (Sql.word (s.grammar.uuidWord binary))
  | .specific name => s.given name

/-- The type of a column; an existing column may get a type in words. -/
def columnType (s : Scope) (method : String) (c : Column Value) : Ddl Sql :=
  match c.alteredType.filter Value.isTruthy with
  | some type => s.given type
  | none => s.typeText method c.name c.type

end Scope

end SqlBuilder
