import SqlBuilder.Log

/-!
# JSON texts of values

Values as JSON documents in ASCII, with a comma and a blank between items and a colon and a blank
after keys. What JSON has no form for is written as a string, with the text that `foreign` gives.
-/

namespace SqlBuilder.Value

/-- A scalar in JSON, if JSON has a form for it. The interpreter limits the digits of an integer that it writes, and
the depth of the lists around it; both limits are settings of its own, and are left out here. -/
def scalarJson? : Scalar → Option String
  | .null => some "null"
  | .bool b => some (if b then "true" else "false")
  | .int n => some (toString n)
  | .float x => some x.jsonText
  | .str s => some (Text.jsonQuoted s)
  | _ => none

/-- A key of a mapping as a JSON string. -/
def keyJson? : Value → Option String
  | .str s => some (Text.jsonQuoted s)
  | .scalar (.decimal _) => none
  | .scalar s => (scalarJson? s).map Text.jsonQuoted
  | _ => none

mutual

/-- A value as a JSON document. -/
def json (foreign : Value → Compile String) : Value → Compile String
  | .scalar s =>
    match scalarJson? s with
    | some text => pure text
    | none => do return Text.jsonQuoted (← foreign (.scalar s))
  | .list items => do return bracketed "[" "]" (← jsonAll foreign items)
  | .tuple items => do return bracketed "[" "]" (← jsonAll foreign items)
  | .map entries => do return bracketed "\x7b" "\x7d" (← jsonEntries foreign entries)
  | v => do return Text.jsonQuoted (← foreign v)

/-- Several values as JSON documents. -/
def jsonAll (foreign : Value → Compile String) : List Value → Compile (List String)
  | [] => pure []
  | v :: vs => do
    let first ← json foreign v
    return first :: (← jsonAll foreign vs)

/-- The entries of a mapping in JSON. -/
def jsonEntries (foreign : Value → Compile String) : List (Value × Value) → Compile (List String)
  | [] => pure []
  | (k, v) :: entries => do
    match keyJson? k with
    | none => throw wrongType
    | some key =>
      let text ← json foreign v
      return (key ++ ": " ++ text) :: (← jsonEntries foreign entries)

end

/-- Refuses every value that JSON has no form for. -/
def noForeign (_ : Value) : Compile String :=
  throw wrongType

end SqlBuilder.Value
