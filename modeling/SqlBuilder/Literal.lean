import SqlBuilder.Value.Json
import SqlBuilder.Time.Zone
import SqlBuilder.Placeholder

/-!
# Literals

Values as SQL literals, for the places where a statement cannot bind them. The record `LiteralStyle`
says how each kind of value is written.

* `Literal.backslashed`, `Literal.doubled`: the two forms of a quoted text.
* `Literal.momentText`: a moment on a clock of a given zone.
* `Literal.render`: any value.
-/

namespace SqlBuilder.Literal

/-! ## Texts -/

/-- A character inside a text with backslashes. -/
def backslashChar (c : Char) : List Char :=
  match c.toNat with
  | 0 => ['\\', '0']
  | 8 => ['\\', 'b']
  | 9 => ['\\', 't']
  | 10 => ['\\', 'n']
  | 13 => ['\\', 'r']
  | 26 => ['\\', 'Z']
  | 34 => ['\\', '"']
  | 39 => ['\\', '\'']
  | 92 => ['\\', '\\']
  | _ => [c]

/-- A quoted text with backslashes before quotes and controls. -/
def backslashed (s : String) : String :=
  String.ofList ('\'' :: s.toList.flatMap backslashChar ++ ['\''])

/-- A character inside a text with doubled quotes. -/
def doubledChar (c : Char) : List Char :=
  if c = '\'' then ['\'', '\''] else [c]

/-- A quoted text with its quotes doubled. -/
def doubled (s : String) : String :=
  String.ofList ('\'' :: s.toList.flatMap doubledChar ++ ['\''])

/-- A quoted text. -/
def text (style : StringStyle) (s : String) : String :=
  match style with
  | .backslash => backslashed s
  | .doubled => doubled s
  | .national => "N'" ++ s ++ "'"

/-- A text as an element of an array in braces. -/
def braceQuoted (s : String) : String :=
  String.ofList ('"' :: s.toList.flatMap (fun c => if c = '\\' || c = '"' then ['\\', c] else [c]) ++
    ['"'])

/-! ## Moments -/

/-- How far the machine's own clock is ahead of universal time, in minutes. This is an assumption: a machine may be
set to any zone, and here it is one whose clock runs on universal time. -/
def localMinutes : Int := 0

/-- A moment on a clock of the zone, to the millisecond. A moment of unknown offset is shown as it
is; the zone `local` is that of the machine, and a zone that names no offset is universal time. -/
def clockReading (zone : String) (m : Moment) : Except Error String :=
  match m.offset with
  | none => .ok m.clockText
  | some _ =>
    let shift := if zone = "local" then localMinutes else (zoneMinutes? zone).getD 0
    match m.toUniversal?.bind fun u => u.shifted? (shift * 60) u.offset with
    | some shifted => .ok shifted.clockText
    | none => .error (.fault .overflow)

/-- The text of a moment. -/
def momentText (style : DateStyle) (zone : String) (m : Moment) : Except Error String :=
  match style with
  | .clock => clockReading zone m
  | .iso => .ok m.text

/-- The text of a date. -/
def dayText (style : DateStyle) (d : Day) : String :=
  match style with
  | .clock => (Moment.ofDay d).clockText
  | .iso => d.text

/-! ## Values -/

/-- How nested queries print. -/
structure Printers where
  /-- the SQL text of a query, or what a raw expression was given in place of one -/
  sql : Value → Compile Value
  /-- the text of any value, which for a query is its SQL with literals in place of placeholders -/
  display : Value → Compile String

/-- A truth value. -/
def truth (style : LiteralStyle) (b : Bool) : String :=
  if style.bits then if b then "1" else "0" else if b then "true" else "false"

/-- The SQL text of a query or a raw expression. A schema change makes several texts, which have no
place where one is wanted. -/
def nested (printers : Printers) (v : Value) : Compile String := do
  match ← printers.sql v with
  | .str sql => return sql
  | _ => throw wrongType

/-- A value that is no scalar and no sequence. -/
def object (style : LiteralStyle) (printers : Printers) (v : Value) : Compile String :=
  match style.objects with
  | .kind => pure ("<" ++ v.kind ++ ">")
  | .json =>
    if v.isBuilder then nested printers v
    else do return text style.strings (← v.json printers.display)

/-- A scalar. -/
def scalar (style : LiteralStyle) (zone : String) (s : Scalar) : Compile String :=
  match s with
  | .null | .undefined => pure "NULL"
  | .bool b => pure (truth style b)
  | .int _ | .float _ | .decimal _ => pure s.text
  | .str t => pure (text style.strings t)
  | .day d => pure (text style.strings (dayText style.dates d))
  | .moment m => do
    match momentText style.dates zone m with
    | .ok t => return text style.strings t
    | .error e => throw e
  | .bytes bs =>
    pure (match style.bytes with
      | .quotedHex => "X'" ++ Text.hexOfBytes bs ++ "'"
      | .plainHex => "0x" ++ Text.hexOfBytes bs)

/-- A scalar as an element of an array in braces. The interpreter limits the digits of an integer that it writes, and
the depth of the lists around it; both limits are settings of its own, and are left out here. -/
def braceScalar : Scalar → String
  | .null => "NULL"
  | .bool b => if b then "true" else "false"
  | .int n => toString n
  | .float x => x.text
  | .decimal d => d.text
  | s => braceQuoted s.text

mutual

/-- A value as an element of an array in braces. -/
def braceItem (printers : Printers) : Value → Compile String
  | .scalar s => pure (braceScalar s)
  | .list items => do return "\x7b" ++ Text.joinWith "," (← braceItems printers items) ++ "\x7d"
  | .tuple items => do return "\x7b" ++ Text.joinWith "," (← braceItems printers items) ++ "\x7d"
  | v => do return braceQuoted (← printers.display v)

/-- The elements of an array in braces. -/
def braceItems (printers : Printers) : List Value → Compile (List String)
  | [] => pure []
  | v :: vs => do
    let first ← braceItem printers v
    return first :: (← braceItems printers vs)

end

/-- A sequence as a literal, from the three forms that its items can take. -/
def sequence (style : ArrayStyle) (listed braced bracketed : Compile (List String)) :
    Compile String :=
  match style with
  | .items => do return Text.joinWith ", " (← listed)
  | .braces => do return doubled ("\x7b" ++ Text.joinWith "," (← braced) ++ "\x7d")
  | .brackets => do return "[" ++ Text.joinWith "," (← bracketed) ++ "]"

mutual

/-- A value as a literal. -/
def render (style : LiteralStyle) (printers : Printers) (zone : String) : Value → Compile String
  | .scalar s => scalar style zone s
  | .list items =>
    sequence style.arrays (listItems style printers zone items) (braceItems printers items)
      (bracketItems style printers zone items)
  | .tuple items =>
    sequence style.arrays (listItems style printers zone items) (braceItems printers items)
      (bracketItems style printers zone items)
  | v => object style printers v

/-- The items of a list, with inner sequences in parentheses. -/
def listItems (style : LiteralStyle) (printers : Printers) (zone : String) :
    List Value → Compile (List String)
  | [] => pure []
  | .list items :: vs => do
    let first := "(" ++ Text.joinWith ", " (← listItems style printers zone items) ++ ")"
    return first :: (← listItems style printers zone vs)
  | .tuple items :: vs => do
    let first := "(" ++ Text.joinWith ", " (← listItems style printers zone items) ++ ")"
    return first :: (← listItems style printers zone vs)
  | v :: vs => do
    let first ← render style printers zone v
    return first :: (← listItems style printers zone vs)

/-- The items of a sequence in brackets, each a literal of its own. -/
def bracketItems (style : LiteralStyle) (printers : Printers) (zone : String) :
    List Value → Compile (List String)
  | [] => pure []
  | v :: vs => do
    let first ← render style printers zone v
    return first :: (← bracketItems style printers zone vs)

end

/-- Whether a value is written as the SQL that it stands for. -/
def standsForSql (style : LiteralStyle) (v : Value) : Bool :=
  v.isBuilder && match style.objects with
    | .json => true
    | .kind => false

/-- A value as it is written at the top: what a raw expression was given in place of a text stays what
it is. -/
def result (style : LiteralStyle) (printers : Printers) (zone : String) (v : Value) :
    Compile Value := do
  if standsForSql style v then printers.sql v else return .str (← render style printers zone v)

/-- The literal for a placeholder; a raw expression without a text leaves nothing there. -/
def forSlot (style : LiteralStyle) (printers : Printers) (zone : String) (v : Value) :
    Compile String := do
  match ← result style printers zone v with
  | .str text => return text
  | .null => return ""
  | _ => throw wrongType

/-- The literals for the placeholders of a text, as far as there are values. -/
def forSlots (style : LiteralStyle) (printers : Printers) (zone : String) :
    Nat → List Value → Compile (List String)
  | 0, _ => pure []
  | _, [] => pure []
  | slots + 1, v :: vs => do
    let first ← forSlot style printers zone v
    return first :: (← forSlots style printers zone slots vs)

/-- A statement with the literals of its values in place of its placeholders. -/
def inline (style : LiteralStyle) (printers : Printers) (zone sql : String)
    (bindings : List Value) : Compile String := do
  return inlineLiterals (← forSlots style printers zone (inlineSlots sql.toList) bindings) sql

end SqlBuilder.Literal
