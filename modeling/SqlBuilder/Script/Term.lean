import SqlBuilder.Value.Scalar

/-!
# Scripts

The calls that a caller makes on builders, written down: a call has a name and arguments, and a chain
of calls is made each on the result of the one before. Arguments are terms: scalars and containers,
callbacks, and builders given by the calls that make them. Terms are syntax; running them is the
business of other modules.
-/

namespace SqlBuilder

/-- A call by name, with arguments by position and by keyword. -/
structure Call (τ : Type) where
  name : String
  arguments : List τ := []
  keywords : List (String × τ) := []

/-- A client as a caller names it. -/
inductive ClientSource (τ : Type)
  /-- a dialect's name, a connection address, a list of settings, or something that names no client -/
  | source (settings : τ)
  /-- another client with some settings changed -/
  | withConfig (base : ClientSource τ) (changes : List (String × τ))
  /-- another client without its hooks -/
  | withoutProcessing (base : ClientSource τ)

/-- An argument of a call. -/
inductive Term
  | scalar (s : Scalar)
  | list (items : List Term)
  | tuple (items : List Term)
  | map (entries : List (Term × Term))
  | set (items : List Term)
  /-- a callback, which runs each chain on the object it is given -/
  | callback (chains : List (List (Call Term)))
  | query (client : Option (ClientSource Term)) (table : Option Term) (calls : List (Call Term))
  /-- a raw expression, with or without a client of its own -/
  | raw (sql : Term) (bindings : Option Term) (detached : Bool) (calls : List (Call Term))
  | reference (name : Term) (calls : List (Call Term))
  /-- the current time, to a number of fractional digits -/
  | now (precision : Term)
  | schema (calls : List (Call Term))
  | compiled (sql : Term) (bindings : List Term) (timeout cancelOnTimeout : Option Term)
  /-- a shared object, by its name -/
  | variable_ (name : String)
  deriving Inhabited

/-- A chain of calls. -/
abbrev Chain := List (Call Term)

end SqlBuilder
