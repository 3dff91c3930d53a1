import SqlBuilder.Template
import SqlBuilder.Value.Basic

/-!
# SQL fragments

Rendered SQL as a list of pieces, each of a known origin: words of the library, delimited identifiers,
numbers, comments, text of the caller's, and placeholders with the values bound to them. The text and
the values of a fragment are both read off the pieces, so that they cannot drift apart.

* `Sql.text`: the text, with a `?` for each placeholder.
* `Sql.bindings`: the values, in the order of their placeholders. A value whose text was left out stays
  among them.
-/

namespace SqlBuilder

/-- A piece of rendered SQL. -/
inductive Piece
  /-- a word, an operator or punctuation of the library or the dialect -/
  | word (text : String)
  /-- a delimited identifier -/
  | name (quoting : Quoting) (segment : String)
  /-- a number -/
  | number (text : String)
  /-- a comment -/
  | comment (text : String)
  /-- a value written out -/
  | literal (text : String)
  /-- text of the caller's -/
  | raw (text : String)
  /-- a placeholder and the value bound to it -/
  | param (value : Value)
  /-- a bound value without a placeholder, whose text was left out -/
  | stray (value : Value)
  deriving Inhabited

namespace Piece

/-- The text of a piece. -/
def text : Piece → String
  | word text | number text | literal text | raw text => text
  | name quoting segment => quoting.quote segment
  | comment text => "/* " ++ text ++ " */"
  | param _ => "?"
  | stray _ => ""

/-- The value that a piece binds. -/
def binding? : Piece → Option Value
  | param value | stray value => some value
  | _ => none

end Piece

/-- Rendered SQL. -/
abbrev Sql := List Piece

namespace Sql

/-- A word of the library or the dialect. -/
def word (text : String) : Sql := [.word text]

/-- A number. -/
def number (text : String) : Sql := [.number text]

/-- A value written out. -/
def literal (text : String) : Sql := [.literal text]

/-- Text of the caller's. -/
def raw (text : String) : Sql := [.raw text]

/-- The text of a fragment. -/
def text (sql : Sql) : String :=
  String.join (sql.map Piece.text)

/-- The values of a fragment, in the order of their placeholders. -/
def bindings (sql : Sql) : List Value :=
  sql.filterMap Piece.binding?

/-- Whether a fragment has no text. -/
def isBlank (sql : Sql) : Bool :=
  sql.all fun piece => piece.text.isEmpty

/-- Fragments joined by a word. -/
def joined (separator : String) : List Sql → Sql
  | [] => []
  | [sql] => sql
  | sql :: rest => sql ++ word separator ++ joined separator rest

/-- Fragments joined by commas. -/
def commas (parts : List Sql) : Sql :=
  joined ", " parts

/-- Fragments with a word between those that have text. -/
def separated (separator : String) (parts : List Sql) : Sql :=
  parts.foldl
    (fun done sql =>
      if done.isBlank || sql.isBlank then done ++ sql else done ++ word separator ++ sql)
    []

/-- A fragment after a keyword, if it has text. -/
def after (keyword : String) (sql : Sql) : Sql :=
  if sql.isBlank then sql else word keyword ++ sql

/-- A fragment in parentheses. -/
def parens (sql : Sql) : Sql :=
  word "(" ++ sql ++ word ")"

/-- The text of a fragment without its values. -/
def frozen (sql : Sql) : Sql :=
  sql.filterMap fun
    | .param _ => some (.word "?")
    | .stray _ => none
    | piece => some piece

/-- The values of a fragment without its text. -/
def strayed (sql : Sql) : Sql :=
  sql.bindings.map .stray

/-- Binds the given values to the placeholders of a fragment, from the left; values without a
placeholder come last. -/
def refill : List Value → Sql → Sql
  | value :: values, .param _ :: rest => .param value :: refill values rest
  | values, .stray _ :: rest => refill values rest
  | values, piece :: rest => piece :: refill values rest
  | values, [] => values.map .stray

/-- A template with a text in place of its slots. -/
def spelled (text : String) (template : List (Text.Lexeme Unit)) : Sql :=
  word (String.join (template.map fun
    | .plain c => c.toString
    | .token () => text))

/-- A template with a fragment in place of its slots, which binds the values of the fragment once. -/
def filled (sql : Sql) (template : List (Text.Lexeme Unit)) : Sql :=
  let head := template.takeWhile fun
    | .plain _ => true
    | .token () => false
  match template.drop head.length with
  | [] => spelled "" head ++ sql.strayed
  | _ :: rest => spelled "" head ++ sql ++ spelled sql.text rest

/-- A fragment, if a condition holds. -/
def when (condition : Bool) (sql : Sql) : Sql :=
  if condition then sql else []

end Sql

end SqlBuilder
