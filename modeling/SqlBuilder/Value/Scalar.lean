import SqlBuilder.Number.FloatText
import SqlBuilder.Time.Moment
import SqlBuilder.Text.Quoted

/-!
# Scalars

The values without parts that a statement can bind, with their texts: `Scalar.text` as they stand
alone and `Scalar.shown` as messages show them.
-/

namespace SqlBuilder

/-- A value without parts. -/
inductive Scalar
  /-- SQL's null -/
  | null
  | bool (b : Bool)
  | int (n : Int)
  | float (x : FloatText)
  | decimal (d : Decimal)
  | str (s : String)
  | bytes (bs : List UInt8)
  | day (d : Day)
  | moment (m : Moment)
  /-- a value that was never supplied -/
  | undefined
  deriving Inhabited

namespace Scalar

/-- A truth value as messages show it. -/
def boolText (b : Bool) : String :=
  if b then "True" else "False"

/-- A length of time in microseconds as messages show it. -/
def durationShown (micros : Int) : String :=
  let days := Int.fdiv micros 86400000000
  let seconds := Int.fmod micros 86400000000 / 1000000
  let rest := Int.fmod micros 1000000
  let parts := (if days = 0 then [] else ["days=" ++ toString days]) ++
    (if seconds = 0 then [] else ["seconds=" ++ toString seconds]) ++
    (if rest = 0 then [] else ["microseconds=" ++ toString rest])
  "datetime.timedelta(" ++ (if parts.isEmpty then "0" else Text.joinWith ", " parts) ++ ")"

/-- A distance from universal time in microseconds as messages show it. -/
def offsetShown (distance : Int) : String :=
  if distance = 0 then "datetime.timezone.utc"
  else "datetime.timezone(" ++ durationShown distance ++ ")"

/-- A moment as messages show it; zero seconds and microseconds at the end are left out. -/
def momentShown (m : Moment) : String :=
  let fields := [m.date.year, m.date.month, m.date.day, m.hour, m.minute] ++
    (if m.micro ≠ 0 then [m.second, m.micro] else if m.second ≠ 0 then [m.second] else [])
  let zone := match m.distance? with
    | none => []
    | some distance => ["tzinfo=" ++ offsetShown distance]
  "datetime.datetime(" ++ Text.joinWith ", " (fields.map toString ++ zone) ++ ")"

/-- The text of a scalar that stands alone. -/
def text : Scalar → String
  | null => "None"
  | bool b => boolText b
  | int n => toString n
  | float x => x.text
  | decimal d => d.text
  | str s => s
  | bytes bs => Text.quotedBytes bs
  | day d => d.text
  | moment m => m.textWith " "
  | undefined => "UNDEFINED"

/-- A scalar as messages show it. -/
def shown : Scalar → String
  | decimal d => "Decimal('" ++ d.text ++ "')"
  | str s => Text.quoted s
  | day d =>
    "datetime.date(" ++ Text.joinWith ", " [toString d.year, toString d.month, toString d.day] ++ ")"
  | moment m => momentShown m
  | s => s.text

/-- The name of the kind of a scalar. -/
def kind : Scalar → String
  | null => "NoneType"
  | bool _ => "bool"
  | int _ => "int"
  | float _ => "float"
  | decimal _ => "Decimal"
  | str _ => "str"
  | bytes _ => "bytes"
  | day _ => "date"
  | moment _ => "datetime"
  | undefined => "_Undefined"

/-- Whether a scalar counts as present: nulls, falsehood, zeros and empty texts do not. -/
def isTruthy : Scalar → Bool
  | null | undefined => false
  | bool b => b
  | int n => n != 0
  | float x => !x.isZero
  | decimal d => !d.isZero
  | str s => s != ""
  | bytes bs => !bs.isEmpty
  | day _ | moment _ => true

/-- Whether a scalar can be the key of a mapping; a result that raises an alarm cannot. -/
def isKey : Scalar → Bool
  | decimal d => !d.isSignaling
  | _ => true

/-! ## Equality -/

/-- The number that a truth value or a number stands for. -/
def number? : Scalar → Option Decimal
  | bool b => some (.finite false (if b then 1 else 0) 0)
  | int n => some (.finite (n < 0) n.natAbs 0)
  | float x => x.toDecimal?
  | decimal d => some d
  | _ => none

/-- Equality of scalars; numbers of different kinds are compared by what they denote. -/
def same (a b : Scalar) : Bool :=
  match a, b with
  | null, null => true
  | str s, str t => s == t
  | bytes s, bytes t => s == t
  | day d, day d' => d == d'
  | moment m, moment m' =>
    match m.instant?, m'.instant? with
    | some t, some t' => t == t'
    | none, none => m.wallMicros == m'.wallMicros
    | _, _ => false
  | undefined, undefined => true
  | _, _ =>
    match a.number?, b.number? with
    | some x, some y => x.same y
    | _, _ => false

end Scalar

end SqlBuilder
