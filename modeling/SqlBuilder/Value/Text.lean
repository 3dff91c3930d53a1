import SqlBuilder.Value.Basic

/-!
# Texts of values

`Value.shown` is a value as messages show it, and `Value.text` a value as it reads when it stands
alone: a text without quotes. Builders have no text of their own here; the text of a query is a
matter of compiling it.
-/

namespace SqlBuilder.Value

/-- Several texts between two brackets. -/
def bracketed (opening closing : String) (parts : List String) : String :=
  opening ++ Text.joinWith ", " parts ++ closing

/-- The parts of a tuple; a single one has a comma after it. -/
def tupled : List String → String
  | [part] => "(" ++ part ++ ",)"
  | parts => bracketed "(" ")" parts

/-- What is made of a response, as messages show it. -/
def shownOutput : Option Output → String
  | none => "None"
  | some .hasRows => "<function>"
  | some (.rebuild _) => "<TableRebuild>"

mutual

/-- A value as messages show it. -/
def shown : Value → String
  | scalar s => s.shown
  | list items => bracketed "[" "]" (shownAll items)
  | tuple items => tupled (shownAll items)
  | map entries => bracketed "\x7b" "\x7d" (shownEntries entries)
  | set items =>
    match shownAll items with
    | [] => "set()"
    | parts => bracketed "\x7b" "\x7d" parts
  | compiled c => shownCompiled c
  | other _ form => form
  | v => "<" ++ v.kind ++ ">"

/-- A compiled statement as messages show it, field by field. -/
def shownCompiled : Compiled Value → String
  | ⟨sql, object, bindings, method, options, timeout, cancel, asName, returning, output, dialect⟩ =>
    "CompiledQuery(sql=" ++ shownOr (Text.quoted sql) object ++
      ", bindings=" ++ tupled (shownAll bindings) ++ ", method=" ++ Text.quoted method ++
      ", options=" ++ bracketed "\x7b" "\x7d" (shownEntries options) ++
      ", timeout=" ++ shownOr "None" timeout ++
      ", cancel_on_timeout=" ++ shownOr "False" cancel ++
      ", alias=" ++ shownOr "None" asName ++
      ", returning=" ++ (if returning.isEmpty then "None" else tupled (shownAll returning)) ++
      ", output=" ++ shownOutput output ++ ", dialect=" ++ dialect.elim "None" Text.quoted ++ ")"

/-- A value as messages show it, or a text in its place if there is none. -/
def shownOr (text : String) : Option Value → String
  | none => text
  | some v => shown v

/-- Several values as messages show them. -/
def shownAll : List Value → List String
  | [] => []
  | v :: vs => shown v :: shownAll vs

/-- The entries of a mapping as messages show them. -/
def shownEntries : List (Value × Value) → List String
  | [] => []
  | (k, v) :: entries => (shown k ++ ": " ++ shown v) :: shownEntries entries

end

/-- A value as it reads when it stands alone. -/
def text : Value → String
  | scalar s => s.text
  | v => v.shown

/-- The column that a value names. -/
def columnName : Value → ColumnName
  | str name => .text name
  | null => .null
  | v => .other v.shown

/-- A set's items in the order of their shown forms; any other value as it is. -/
def sorted : Value → Value
  | set items => list (items.mergeSort fun a b => a.shown ≤ b.shown)
  | v => v

end SqlBuilder.Value
