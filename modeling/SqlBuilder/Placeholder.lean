import SqlBuilder.Text.Basic

/-!
# Placeholders

A compiled statement marks each bound value by a `?`; a backslash before a question mark makes it a
literal one. Drivers want other marks: `positionBindings` writes a statement for a driver, and
`inlineLiterals` writes the literals of the values in place of their marks.

* `Paramstyle`: the marks that drivers read.
* `positionBindings`: each placeholder becomes the driver's mark, and one backslash of an odd run
  before a question mark disappears.
* `inlineLiterals`: each placeholder becomes the next literal.
-/

namespace SqlBuilder

/-- The placeholder marks of drivers. -/
inductive Paramstyle
  /-- `?` -/
  | qmark
  /-- `:1`, `:2`, … -/
  | numeric
  /-- `%s`, with every percent sign of the statement written twice -/
  | format
  /-- `$1`, `$2`, … -/
  | dollar
  /-- `@p1`, `@p2`, … -/
  | atp
  /-- `%s`, for a style of an unknown name -/
  | named (name : String)
  deriving DecidableEq, Inhabited

namespace Paramstyle

/-- The style of a name. -/
def ofName : String → Paramstyle
  | "qmark" => .qmark
  | "numeric" => .numeric
  | "format" => .format
  | "dollar" => .dollar
  | "atp" => .atp
  | name => .named name

/-- The name of a style. -/
def name : Paramstyle → String
  | .qmark => "qmark"
  | .numeric => "numeric"
  | .format => "format"
  | .dollar => "dollar"
  | .atp => "atp"
  | .named name => name

/-- The mark of the `n`th placeholder, counted from one. -/
def mark (style : Paramstyle) (n : Nat) : List Char :=
  match style with
  | .qmark => ['?']
  | .numeric => ':' :: (toString n).toList
  | .dollar => '$' :: (toString n).toList
  | .atp => '@' :: 'p' :: (toString n).toList
  | .format | .named _ => ['%', 's']

/-- A character outside the placeholders, as the driver has to read it. -/
def literal (style : Paramstyle) (c : Char) : List Char :=
  if style = .format && c = '%' then ['%', '%'] else [c]

end Paramstyle

/-- Marks the placeholders of a text for a driver, after `count` placeholders and a run of `slashes`
backslashes just before the text. -/
def positionFrom (style : Paramstyle) (count slashes : Nat) : List Char → List Char
  | [] => List.replicate slashes '\\'
  | c :: cs =>
    if c = '\\' then positionFrom style count (slashes + 1) cs
    else if c = '?' then
      if slashes % 2 = 1 then
        List.replicate (slashes - 1) '\\' ++ '?' :: positionFrom style count 0 cs
      else
        List.replicate slashes '\\' ++ style.mark (count + 1) ++ positionFrom style (count + 1) 0 cs
    else List.replicate slashes '\\' ++ style.literal c ++ positionFrom style count 0 cs

/-- The statement as a driver of the given style reads it. -/
def positionBindings (style : Paramstyle) (sql : String) : String :=
  String.ofList (positionFrom style 0 0 sql.toList)

/-! ## Inlined literals -/

/-- The number of question marks without a backslash just before them. -/
def inlineSlots : List Char → Nat
  | [] => 0
  | '\\' :: '?' :: cs => inlineSlots cs
  | '?' :: cs => inlineSlots cs + 1
  | _ :: cs => inlineSlots cs

/-- Writes the literals in place of the question marks, from the left; a question mark after a
backslash loses the backslash, and one without a literal stays. -/
def inlineFrom : List String → List Char → List Char
  | _, [] => []
  | literals, '\\' :: '?' :: cs => '?' :: inlineFrom literals cs
  | literal :: literals, '?' :: cs => literal.toList ++ inlineFrom literals cs
  | literals, c :: cs => c :: inlineFrom literals cs

/-- A statement with literals in place of its placeholders. -/
def inlineLiterals (literals : List String) (sql : String) : String :=
  String.ofList (inlineFrom literals sql.toList)

end SqlBuilder
