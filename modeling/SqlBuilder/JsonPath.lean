import SqlBuilder.Text.Scan
import SqlBuilder.Text.Basic

/-!
# JSON paths

A path such as `$.a.b[0]["c.d"]` names a value inside a JSON document by the keys on the way to it.
`JsonPath.keys` lists them; characters that belong to no step are passed over.
-/

namespace SqlBuilder.JsonPath

open Text

/-- Whether a character may stand in a plain key. -/
def isKeyChar (c : Char) : Bool :=
  c != '.' && c != '[' && c != ']'

/-- Whether a character quotes a key. -/
def isQuote (c : Char) : Bool :=
  c == '\'' || c == '"'

/-- A decimal index in brackets, after the opening one. -/
def index? (cs : List Char) : Option (List Char × Nat) :=
  let digits := cs.takeWhile isDigit
  match cs.drop digits.length with
  | ']' :: _ => if digits.isEmpty then none else some (digits, digits.length + 2)
  | _ => none

/-- A quoted key in brackets, after the opening one. -/
def quoted? : List Char → Option (List Char × Nat)
  | [] => none
  | q :: cs =>
    if !isQuote q then none
    else
      let key := cs.takeWhile fun c => !isQuote c
      match cs.drop key.length with
      | _ :: ']' :: _ => some (key, key.length + 4)
      | _ => none

/-- The step at the start of a text: its key and its width. -/
def step? : List Char → Option (List Char × Nat)
  | '[' :: cs => (index? cs).or (quoted? cs)
  | cs =>
    let key := cs.takeWhile isKeyChar
    if key.isEmpty then none else some (key, key.length)

/-- The keys of a path, in order. -/
def keys (path : String) : List String :=
  let cs := match path.toList with
    | '$' :: cs => cs
    | cs => cs
  (tokens step? cs).map String.ofList

end SqlBuilder.JsonPath
