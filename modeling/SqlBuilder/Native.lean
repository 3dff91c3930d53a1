import SqlBuilder.Log

/-!
# Statements in the driver's form

A compiled statement with the placeholders and the bindings that the driver of a client reads.
-/

namespace SqlBuilder

/-- SQL text and bindings in the driver's form. -/
structure Native where
  sql : String
  bindings : List Value
  deriving Inhabited

/-- A statement in the driver's form as a value. -/
def Native.toValue (n : Native) : Value :=
  .other "NativeQuery"
    ("NativeQuery(sql=" ++ Text.quoted n.sql ++ ", bindings=" ++ (Value.tuple n.bindings).shown ++ ")")

/-- A value in the driver's form, where truth values are numbers. -/
def Value.asInteger : Value → Value
  | .bool b => .int (if b then 1 else 0)
  | v => v

namespace Client

/-- Bindings in the driver's form. -/
def prepare (c : Client Value) (bindings : List Value) : List Value :=
  if c.capabilities.booleansAsIntegers then bindings.map Value.asInteger else bindings

/-- The failure of bringing an object that is no text into the driver's form: a style that writes
percent signs twice asks the object to replace them, and any other looks for marks in a text. -/
def nativeFault (c : Client Value) (v : Value) : Error :=
  match c.style, v with
  | .format, .scalar (.bytes _) | .format, .scalar (.day _) | .format, .scalar (.moment _) => wrongType
  | .format, v => v.missing "replace"
  | _, _ => wrongType

/-- A compiled statement in the driver's form; it is reported where the client asks for that. -/
def native (c : Client Value) (q : Compiled Value) : Compile Native := do
  if let some v := q.object then throw (c.nativeFault v)
  let native : Native := ⟨c.positionBindings q.sql, c.prepare q.bindings⟩
  if c.debug then
    report
      { event := "query.native"
        level := .debug
        fields :=
          [("dialect", .str c.dialectName), ("method", .str q.method), ("sql", .str native.sql),
           ("bindings", .list native.bindings)] }
  return native

end Client

end SqlBuilder
