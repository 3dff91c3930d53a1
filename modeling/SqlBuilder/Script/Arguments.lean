import SqlBuilder.Statement.Builder

/-!
# Arguments of calls

The evaluated arguments of a call, and their assignment to the parameters of the method: by position
first, then by keyword. Too many arguments, unknown keywords and missing parameters are faults.
-/

namespace SqlBuilder

/-- The evaluated arguments of a call. -/
structure Arguments where
  positional : List Value := []
  keywords : List (String × Value) := []
  deriving Inhabited

/-- Parameters with the values they received. -/
abbrev Bound := List (String × Value)

namespace Bound

/-- The value of a parameter, if the call gave one. -/
def given? (b : Bound) (name : String) : Option Value :=
  b.lookup name

/-- The value of a parameter, null if the call gave none. -/
def get (b : Bound) (name : String) : Value :=
  (b.given? name).getD .null

/-- The value of a parameter as a truth value. -/
def flag (b : Bound) (name : String) (default : Bool) : Bool :=
  (b.given? name).elim default Value.isTruthy

end Bound

namespace Arguments

/-- Keyword arguments are known, and none repeats an argument that is bound already. -/
def keywordsFit (known : List String) (bound : Bound) (keywords : List (String × Value)) : Bool :=
  keywords.all fun (name, _) => known.contains name && (bound.lookup name).isNone

/-- Assigns arguments to parameters, of which the first `required` must receive one. -/
def bind (a : Arguments) (parameters : List String) (required : Nat) : Except Error Bound :=
  let bound := parameters.zip a.positional
  let all := bound ++ a.keywords
  if a.positional.length ≤ parameters.length && keywordsFit parameters bound a.keywords &&
      (parameters.take required).all fun name => (all.lookup name).isSome then
    .ok all
  else .error wrongType

/-- The arguments of a method that takes any number of them, with some keywords besides; a single
sequence stands for its items. -/
def variadic (a : Arguments) (keywords : List String) : Except Error (List Value × Bound) :=
  if keywordsFit keywords [] a.keywords then .ok (Value.flattenArguments a.positional, a.keywords)
  else .error wrongType

/-- The arguments of a method that takes none. -/
def none_ (a : Arguments) : Except Error Unit := do
  let _ ← a.bind [] 0

/-- The argument of a method that takes one. -/
def one (a : Arguments) (parameter : String) : Except Error Value := do
  return (← a.bind [parameter] 1).get parameter

/-- The argument of a method that takes one by position. -/
def only (a : Arguments) : Except Error Value :=
  match a.positional, a.keywords with
  | [v], [] => .ok v
  | _, _ => .error wrongType

end Arguments

/-! ## Arguments of a certain kind -/

namespace Value

/-- A text. -/
def asText : Value → Except Error String
  | str s => .ok s
  | _ => .error wrongType

/-- The items of a value that can be gone through: a sequence, a set, the keys of a mapping or the
characters of a text. -/
def items : Value → Except Error (List Value)
  | list items | tuple items | set items => .ok items
  | map entries => .ok (entries.map (·.1))
  | str s => .ok (s.toList.map fun c => str (String.ofList [c]))
  | .scalar (.bytes bs) => .ok (bs.map fun b => int b.toNat)
  | _ => .error wrongType

/-- The item at a place of a sequence, or of a number in a mapping. -/
def item (place : Nat) : Value → Except Error Value
  | list items | tuple items => items[place]?.elim (.error (.fault .outOfRange)) .ok
  | map entries => (lookup? (.int place) entries).elim (.error (.fault .missingKey)) .ok
  | str s => s.toList[place]?.elim (.error (.fault .outOfRange)) fun c => .ok (str (String.ofList [c]))
  | .scalar (.bytes bs) => bs[place]?.elim (.error (.fault .outOfRange)) fun b => .ok (int b.toNat)
  | _ => .error wrongType

/-- The two items of a value that has two. -/
def pair (v : Value) : Except Error (Value × Value) := do
  match ← v.items with
  | [first, second] => return (first, second)
  | _ => throw (.fault .badValue)

/-- The entry of a mapping that a value with two items describes. -/
def entry (v : Value) : Except Error (Value × Value) := do
  let (key, value) ← v.pair
  if key.isKey then return (key, value) else throw wrongType

/-- The entries that a value brings to a mapping: those of a mapping, or one for each item. -/
def pairs : Value → Except Error (List (Value × Value))
  | map entries => .ok entries
  | v => do (← v.items).mapM entry

/-- The bindings of a raw expression: a mapping, a sequence, or a single value. -/
def rawBindings : Value → RawBindings Value
  | null => .positional []
  | map entries => .named entries
  | list items | tuple items => .positional items
  | v => .positional [v]

end Value

end SqlBuilder
