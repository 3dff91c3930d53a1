import SqlBuilder.Schema.Definition
import SqlBuilder.Script.Term

/-!
# Values

The operands of statements: scalars, containers of values, callbacks, and the builders themselves.
-/

namespace SqlBuilder

/-- What a shared object is. -/
inductive SharedKind
  | query | raw | reference
  deriving DecidableEq, Inhabited

/-- A reference to an object that several statements share. -/
structure SharedObject where
  id : Nat
  kind : SharedKind
  deriving DecidableEq, Inhabited

/-- An operand of a statement. -/
inductive Value
  | scalar (s : Scalar)
  | list (items : List Value)
  | tuple (items : List Value)
  | map (entries : List (Value × Value))
  | set (items : List Value)
  | callback (chains : List Chain)
  | query (q : Query Value)
  | raw (r : Raw Value)
  | shared (object : SharedObject)
  | schema (s : Schema Value)
  | compiled (c : Compiled Value)
  /-- the open choice of what an insert does about conflicts over some columns -/
  | conflict (q : Query Value) (columns : List Value)
  /-- an object of which only its kind and its shown form are known -/
  | other (kind form : String)

namespace Value

instance : Inhabited Value := ⟨.scalar .null⟩

/-! ## Scalars as values -/

/-- SQL's null. -/
@[match_pattern] abbrev null : Value := .scalar .null

/-- A truth value. -/
@[match_pattern] abbrev bool (b : Bool) : Value := .scalar (.bool b)

/-- A whole number. -/
@[match_pattern] abbrev int (n : Int) : Value := .scalar (.int n)

/-- A text. -/
@[match_pattern] abbrev str (s : String) : Value := .scalar (.str s)

/-- A value that was never supplied. -/
@[match_pattern] abbrev undefined : Value := .scalar .undefined

/-! ## Kinds -/

/-- Whether a value is a query builder. -/
def isQuery : Value → Bool
  | query _ | shared ⟨_, .query⟩ => true
  | _ => false

/-- Whether a value is a raw expression. -/
def isRaw : Value → Bool
  | raw _ | shared ⟨_, .raw⟩ | shared ⟨_, .reference⟩ => true
  | _ => false

/-- Whether a value is a schema change. -/
def isSchema : Value → Bool
  | schema _ => true
  | _ => false

/-- Whether a value is compiled to SQL: a query, a raw expression or a schema change. -/
def isBuilder (v : Value) : Bool :=
  v.isQuery || v.isRaw || v.isSchema

/-- Whether a value is a callback. -/
def isCallback : Value → Bool
  | callback _ => true
  | _ => false

/-- The items of a list or a tuple. -/
def sequence? : Value → Option (List Value)
  | list items | tuple items => some items
  | _ => none

/-- The entries of a mapping. -/
def entries? : Value → Option (List (Value × Value))
  | map entries => some entries
  | _ => none

/-- The text of a text value. -/
def str? : Value → Option String
  | str s => some s
  | _ => none

/-- A value that is present; null is not. -/
def present? : Value → Option Value
  | null => none
  | v => some v

/-- Whether a value is a whole or a floating number; truth values are not. -/
def isNumber : Value → Bool
  | .scalar (.int _) | .scalar (.float _) => true
  | _ => false

/-- Whether a value counts as present: nulls, falsehood, zeros and empty containers do not. -/
def isTruthy : Value → Bool
  | scalar s => s.isTruthy
  | list items | tuple items | set items => !items.isEmpty
  | map entries => !entries.isEmpty
  | _ => true

/-- The name of the kind of a value. -/
def kind : Value → String
  | scalar s => s.kind
  | list _ => "list"
  | tuple _ => "tuple"
  | map _ => "dict"
  | set _ => "set"
  | callback _ => "function"
  | query _ | shared ⟨_, .query⟩ => "QueryBuilder"
  | raw r => if r.reference.isSome then "Ref" else "Raw"
  | shared ⟨_, .raw⟩ => "Raw"
  | shared ⟨_, .reference⟩ => "Ref"
  | schema _ => "SchemaBuilder"
  | compiled _ => "CompiledQuery"
  | conflict _ _ => "OnConflictBuilder"
  | other kind _ => kind

/-! ## Undefined values -/

mutual

/-- Whether a value is, or holds inside its containers, an undefined one. -/
def containsUndefined : Value → Bool
  | undefined => true
  | list items => anyUndefined items
  | tuple items => anyUndefined items
  | map entries => entryUndefined entries
  | _ => false

/-- Whether one of several values contains an undefined one. -/
def anyUndefined : List Value → Bool
  | [] => false
  | v :: vs => containsUndefined v || anyUndefined vs

/-- Whether the value of an entry contains an undefined one. -/
def entryUndefined : List (Value × Value) → Bool
  | [] => false
  | (_, v) :: entries => containsUndefined v || entryUndefined entries

end

/-- The positions of the values that contain an undefined one, counted from `start`. -/
def undefinedPositions (start : Nat) : List Value → List Value
  | [] => []
  | v :: vs =>
    let rest := undefinedPositions (start + 1) vs
    if v.containsUndefined then int start :: rest else rest

/-- The positions of a sequence, or the keys of a mapping, whose values contain an undefined one. -/
def undefinedKeys : Value → List Value
  | map entries => entries.filterMap fun (k, v) => if v.containsUndefined then some k else none
  | list items | tuple items => undefinedPositions 0 items
  | v => if v.containsUndefined then [int 0] else []

/-! ## Equality -/

/-- The scalar that a value is. -/
def scalar? : Value → Option Scalar
  | scalar s => some s
  | _ => none

/-- Whether a value is a scalar equal to a given one. -/
def isScalar (v : Value) (s : Scalar) : Bool :=
  v.scalar?.any fun t => t.same s

/-! ## Mappings -/

mutual

/-- Whether a value can be the key of a mapping: lists, mappings, sets and compiled statements cannot,
nor a tuple that holds one. -/
def isKey : Value → Bool
  | scalar s => s.isKey
  | list _ | map _ | set _ | compiled _ => false
  | tuple items => areKeys items
  | _ => true

/-- Whether each of several values can be the key of a mapping. -/
def areKeys : List Value → Bool
  | [] => true
  | v :: vs => isKey v && areKeys vs

end

/-- The value of a key in a mapping. -/
def lookup? (key : Scalar) (entries : List (Value × Value)) : Option Value :=
  (entries.find? fun (k, _) => k.isScalar key).map (·.2)

/-- The value of a textual key in a mapping. -/
def get? (key : String) (entries : List (Value × Value)) : Option Value :=
  lookup? (.str key) entries

mutual

/-- Whether two values are the same key of a mapping: scalars by what they denote, tuples item by
item, and shared objects by which object they are. -/
def sameKey : Value → Value → Bool
  | scalar s, scalar t => s.same t
  | tuple items, tuple others => sameKeys items others
  | shared o, shared o' => o == o'
  | _, _ => false

/-- Whether two lists hold the same keys, one by one. -/
def sameKeys : List Value → List Value → Bool
  | [], [] => true
  | v :: vs, w :: ws => sameKey v w && sameKeys vs ws
  | _, _ => false

end

/-- The items of a set: of several that are the same key, the first. -/
def distinct (items : List Value) : List Value :=
  items.foldl (fun done v => if done.any fun w => w.sameKey v then done else done ++ [v]) []

/-- Sets the value of a key: an old one keeps its place. -/
def insertEntry (entries : List (Value × Value)) (key value : Value) : List (Value × Value) :=
  if entries.any fun (k, _) => k.sameKey key then
    entries.map fun (k, v) => if k.sameKey key then (k, value) else (k, v)
  else entries ++ [(key, value)]

/-- The mapping that a list of entries makes when each is set in turn. -/
def mapping (entries : List (Value × Value)) : List (Value × Value) :=
  entries.foldl (fun done (k, v) => insertEntry done k v) []

/-- A mapping with the entries of another set in turn. -/
def mergeEntries (entries changes : List (Value × Value)) : List (Value × Value) :=
  changes.foldl (fun done (k, v) => insertEntry done k v) entries

/-! ## Sequences -/

/-- A whole number; a truth value is one of `0` and `1`. -/
def asWhole? : Value → Option Int
  | int n => some n
  | bool b => some (if b then 1 else 0)
  | _ => none

/-- A value followed by another of its kind: sequences and bytes can be, and whole numbers are added. -/
def follow? : Value → Value → Option Value
  | list items, list more => some (list (items ++ more))
  | tuple items, tuple more => some (tuple (items ++ more))
  | scalar (.bytes bs), scalar (.bytes more) => some (scalar (.bytes (bs ++ more)))
  | v, w => do return int ((← v.asWhole?) + (← w.asWhole?))

/-! ## Argument lists -/

/-- The values of a variable argument list: a single sequence stands for its items. -/
def flattenArguments : List Value → List Value
  | [list items] | [tuple items] => items
  | values => values

/-- The columns that a value names: a sequence its items, any other value itself. -/
def columnList : Value → List Value
  | list items | tuple items => items
  | v => [v]

end Value

end SqlBuilder
