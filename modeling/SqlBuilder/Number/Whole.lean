import SqlBuilder.Value.Basic

/-!
# Whole numbers from values

The whole number that a value stands for where a size is wanted: texts are read, numbers are cut to
their whole parts.
-/

namespace SqlBuilder

namespace Text

/-- Whether underscores stand only between two digits. -/
def underscoresBetween : List Char → Bool
  | [] => true
  | ['_'] => false
  | '_' :: '_' :: _ => false
  | _ :: cs => underscoresBetween cs

/-- How many digits a text may have to be read as a number. -/
def digitLimit : Nat := 4300

/-- An unsigned whole number; underscores may stand between digits. -/
def unsignedWhole? (cs : List Char) : Option Nat :=
  let digits := cs.filter (· != '_')
  if digits.isEmpty || !digits.all isDigit || cs.head? == some '_' || !underscoresBetween cs ||
      digits.length > digitLimit then none
  else some (digitsValue digits)

/-- The whole number that a text spells, with blanks around it. -/
def whole? (s : String) : Option Int :=
  match trimmed isMargin s.toList with
  | '-' :: cs => (unsignedWhole? cs).map fun n => -(n : Int)
  | '+' :: cs => (unsignedWhole? cs).map Int.ofNat
  | cs => (unsignedWhole? cs).map Int.ofNat

end Text

/-- How a value fails to be a whole number. -/
inductive NoWhole
  /-- it is no number -/
  | notNumeric
  /-- it is infinite -/
  | infinite

/-- The whole number that a value stands for. -/
def Value.whole : Value → Except NoWhole Int
  | .int n => .ok n
  | .bool b => .ok (if b then 1 else 0)
  | .str s => (Text.whole? s).elim (.error .notNumeric) .ok
  | .scalar (.bytes bs) =>
    if bs.all (· < 128) then
      (Text.whole? (String.ofList (bs.map fun b => Char.ofNat b.toNat))).elim (.error .notNumeric) .ok
    else .error .notNumeric
  | .scalar (.float x) =>
    match x.truncate?, x.decimal? with
    | some n, _ => .ok n
    | none, some (.infinite _) => .error .infinite
    | none, _ => .error .notNumeric
  | .scalar (.decimal d) =>
    match d.truncate?, d with
    | some n, _ => .ok n
    | none, .infinite _ => .error .infinite
    | none, _ => .error .notNumeric
  | _ => .error .notNumeric

end SqlBuilder
