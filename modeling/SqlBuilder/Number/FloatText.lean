import SqlBuilder.Number.Double

/-!
# Floating point numbers by their text

A floating point value is held as its shortest decimal text. The library prints the text, compares the
exact value of the double, and takes its whole part where a size is wanted.
-/

namespace SqlBuilder

/-- A double-precision number, given by the shortest decimal text that reads back as it. -/
structure FloatText where
  text : String
  deriving DecidableEq, Inhabited

namespace FloatText

/-- The decimal number that the text spells. -/
def decimal? (x : FloatText) : Option Decimal :=
  Decimal.ofText? x.text

/-- Whether the value is zero, of either sign. -/
def isZero (x : FloatText) : Bool :=
  x.decimal?.any Decimal.isZero

/-- The text in a JSON document, where the special values have names of their own. -/
def jsonText (x : FloatText) : String :=
  match x.decimal? with
  | some (.infinite negative) => if negative then "-Infinity" else "Infinity"
  | some (.undefined _ _ _) => "NaN"
  | _ => x.text

/-- The exact value of the double. -/
def toDecimal? (x : FloatText) : Option Decimal :=
  x.decimal?.bind Decimal.nearestDouble?

/-- The whole part, toward zero, of a finite value. -/
def truncate? (x : FloatText) : Option Int :=
  x.toDecimal?.bind Decimal.truncate?

end FloatText

end SqlBuilder
