import SqlBuilder.Text.Basic

/-!
# Decimal numbers

Decimal numbers of any precision, kept as they are written: a sign, a coefficient and a power of ten,
so that trailing zeros survive. `Decimal.ofText?` reads the written form and `Decimal.text` prints
the scientific one: positional while the exponent is not positive and the value not too small, with
an exponent otherwise.
-/

namespace SqlBuilder

/-- A decimal number, an infinity or an undefined result. -/
inductive Decimal
  /-- The number `± coefficient · 10 ^ exponent`. -/
  | finite (negative : Bool) (coefficient : Nat) (exponent : Int)
  | infinite (negative : Bool)
  /-- No number; `signaling` ones raise an alarm when they are used. A payload says why. -/
  | undefined (negative signaling : Bool) (payload : Nat)
  deriving Inhabited

namespace Decimal

open Text

/-! ## Reading -/

/-- The digits at the start of a text, and the rest. -/
def spanDigits (cs : List Char) : List Char × List Char :=
  (cs.takeWhile isDigit, cs.dropWhile isDigit)

/-- A signed whole number that takes the whole text. -/
def exponent? : List Char → Option Int
  | '+' :: cs => if cs.isEmpty || !cs.all isDigit then none else some (digitsValue cs)
  | '-' :: cs => if cs.isEmpty || !cs.all isDigit then none else some (-(digitsValue cs : Int))
  | cs => if cs.isEmpty || !cs.all isDigit then none else some (digitsValue cs)

/-- An unsigned number: digits with an optional point and an optional exponent. -/
def unsigned? (negative : Bool) (cs : List Char) : Option Decimal :=
  let (whole, rest) := spanDigits cs
  let (fraction, rest) := match rest with
    | '.' :: rest => spanDigits rest
    | _ => ([], rest)
  if whole.isEmpty && fraction.isEmpty then none
  else
    let coefficient := digitsValue (whole ++ fraction)
    let scale : Int := -(fraction.length : Int)
    match rest with
    | [] => some (.finite negative coefficient scale)
    | 'e' :: rest | 'E' :: rest => (exponent? rest).map fun e => .finite negative coefficient (e + scale)
    | _ => none

/-- The payload after the name of an undefined result: digits, or nothing. -/
def payload? (cs : List Char) : Option Nat :=
  if cs.all isDigit then some (digitsValue cs) else none

/-- A number without its sign, or the name of a special value in any letter case. -/
def body? (negative : Bool) (cs : List Char) : Option Decimal :=
  match lowerChars cs with
  | ['i', 'n', 'f'] | ['i', 'n', 'f', 'i', 'n', 'i', 't', 'y'] => some (.infinite negative)
  | 'n' :: 'a' :: 'n' :: rest => (payload? rest).map (.undefined negative false)
  | 's' :: 'n' :: 'a' :: 'n' :: rest => (payload? rest).map (.undefined negative true)
  | _ => unsigned? negative cs

/-- The decimal number that a text denotes; underscores and surrounding blanks do not count. -/
def ofText? (s : String) : Option Decimal :=
  match (stripChars s.toList).filter (· != '_') with
  | '-' :: cs => body? true cs
  | '+' :: cs => body? false cs
  | cs => body? false cs

/-! ## Printing -/

/-- An exponent with its sign. -/
def exponentText (e : Int) : String :=
  if e < 0 then toString e else "+" ++ toString e

/-- The text of `coefficient · 10 ^ exponent`. -/
def unsignedText (coefficient : Nat) (exponent : Int) : String :=
  let digits := toString coefficient
  let left : Int := exponent + digits.length
  let point : Int := if exponent ≤ 0 && left > -6 then left else 1
  let body :=
    if point ≤ 0 then "0." ++ String.ofList (List.replicate (-point).toNat '0') ++ digits
    else if point ≥ digits.length then
      digits ++ String.ofList (List.replicate (point - digits.length).toNat '0')
    else
      String.ofList (digits.toList.take point.toNat) ++ "." ++
        String.ofList (digits.toList.drop point.toNat)
  if left = point then body else body ++ "E" ++ exponentText (left - point)

/-- The text of a decimal number. -/
def text : Decimal → String
  | .finite negative coefficient exponent =>
    (if negative then "-" else "") ++ unsignedText coefficient exponent
  | .infinite negative => if negative then "-Infinity" else "Infinity"
  | .undefined negative signaling payload =>
    (if negative then "-" else "") ++ (if signaling then "sNaN" else "NaN") ++
      (if payload = 0 then "" else toString payload)

/-- The number of digits of a coefficient. -/
def digitCount (coefficient : Nat) : Nat :=
  (toString coefficient).length

/-- The coefficient over a power of ten, cut to its whole part. -/
def cut (coefficient places : Nat) : Nat :=
  if digitCount coefficient ≤ places then 0 else coefficient / Nat.pow 10 places

/-- The whole part, toward zero, of a finite number. -/
def truncate? : Decimal → Option Int
  | .finite negative coefficient exponent =>
    let size : Nat :=
      if exponent ≥ 0 then coefficient * Nat.pow 10 exponent.toNat
      else cut coefficient (-exponent).toNat
    some (if negative then -(size : Int) else size)
  | _ => none

/-- The whole number that a finite number is, if it is one. -/
def whole? (d : Decimal) : Option Int :=
  match d with
  | .finite _ coefficient exponent =>
    let places := (-exponent).toNat
    if coefficient = 0 || places = 0 ||
        (places < digitCount coefficient && coefficient % Nat.pow 10 places = 0) then d.truncate?
    else none
  | _ => none

/-- Whether the value is one that raises an alarm. -/
def isSignaling : Decimal → Bool
  | .undefined _ signaling _ => signaling
  | _ => false

/-- Whether two decimals denote the same number. Numbers of different magnitudes are told apart
before their coefficients are brought to one scale. -/
def same : Decimal → Decimal → Bool
  | .finite s m e, .finite s' m' e' =>
    if m = 0 || m' = 0 then m == m'
    else
      let low := min e e'
      s == s' && e + digitCount m == e' + digitCount m' &&
        m * Nat.pow 10 (e - low).toNat == m' * Nat.pow 10 (e' - low).toNat
  | .infinite s, .infinite s' => s == s'
  | _, _ => false

/-- Whether the value is zero. -/
def isZero : Decimal → Bool
  | .finite _ coefficient _ => coefficient == 0
  | _ => false

end Decimal

end SqlBuilder
