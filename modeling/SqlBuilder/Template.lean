import SqlBuilder.Text.Chars
import SqlBuilder.Text.Scan

/-!
# Templates

The slots in the text of a raw expression. A template with positional bindings has `?` for a value and
`??` for an identifier; one with named bindings has `:key` and `:key:`. A backslash before a slot makes
it text. The statements that a dialect is described by have slots of another kind, a name in braces.

* `Template.positional`: the parts of a template with positional slots.
* `Template.named`: the parts of a template with named slots.
* `Template.braced`: the parts of a template with a slot in braces.
-/

namespace SqlBuilder.Template

open Text

/-- A part of a template with positional slots; a slot knows its own text. -/
inductive Part
  | text (cs : List Char)
  | value (cs : List Char)
  | identifier (cs : List Char)
  deriving DecidableEq, Inhabited

/-- The parts of a template with positional slots. A backslash before one question mark is kept and
makes it text; before two it belongs to a slot for a value. -/
def positional : List Char → List Part
  | [] => []
  | '\\' :: '?' :: '?' :: cs => .value ['\\', '?', '?'] :: positional cs
  | '\\' :: '?' :: cs => .text ['\\', '?'] :: positional cs
  | '?' :: '?' :: cs => .identifier ['?', '?'] :: positional cs
  | '?' :: cs => .value ['?'] :: positional cs
  | c :: cs => .text [c] :: positional cs

/-- A part of a template with named slots. -/
inductive NamedPart
  | text (cs : List Char)
  | value (key : List Char)
  | identifier (key : List Char)
  deriving DecidableEq, Inhabited

/-- The slot at the start of a text, after its first colon, and its width. A key between two colons is
an identifier, unless the second one begins a cast; with three colons after it, the last two do. -/
def slot? (cs : List Char) : Option (NamedPart × Nat) :=
  let key := cs.takeWhile isWord
  if key.isEmpty then none
  else
    match cs.drop key.length with
    | ':' :: ':' :: ':' :: _ => some (.identifier key, key.length + 1)
    | ':' :: ':' :: _ => some (.value key, key.length)
    | ':' :: _ => some (.identifier key, key.length + 1)
    | _ => some (.value key, key.length)

/-- The part at the start of a text and its width: a slot, the text of a slot after a backslash, which
is left out, or a single character. -/
def namedPart? : List Char → Option (NamedPart × Nat)
  | [] => none
  | '\\' :: ':' :: cs =>
    match slot? cs with
    | some (_, width) => some (.text (':' :: cs.take width), width + 2)
    | none => some (.text ['\\'], 1)
  | ':' :: cs =>
    match slot? cs with
    | some (part, width) => some (part, width + 1)
    | none => some (.text [':'], 1)
  | c :: _ => some (.text [c], 1)

/-- The parts of a template with named slots. -/
def named (cs : List Char) : List NamedPart :=
  tokens namedPart? cs

/-! ## Slots in braces -/

/-- A template with slots in braces that makes no sense. -/
inductive BraceFault
  /-- a brace without its other half -/
  | unmatched
  /-- a slot of a name that nothing is given for -/
  | unknown
  /-- a slot without a name, or with a number for one -/
  | numbered
  deriving DecidableEq, Inhabited

/-- What a brace of a template begins. -/
inductive BraceToken
  /-- a brace, which is written twice -/
  | brace (c : Char)
  | slot (name : List Char)
  | unmatched
  deriving DecidableEq, Inhabited

/-- A slot in braces or a brace. -/
def readBrace? : List Char → Option (BraceToken × Nat)
  | '\x7b' :: '\x7b' :: _ => some (.brace '\x7b', 2)
  | '\x7d' :: '\x7d' :: _ => some (.brace '\x7d', 2)
  | '\x7d' :: _ => some (.unmatched, 1)
  | '\x7b' :: cs =>
    let name := cs.takeWhile (· != '\x7d')
    if name.length = cs.length || name.contains '\x7b' then some (.unmatched, 1)
    else some (.slot name, name.length + 2)
  | _ => none

/-- The characters of a template and the slots of a name among them. -/
def braced (slot : String) (template : String) : Except BraceFault (List (Lexeme Unit)) :=
  (scan readBrace? template.toList).mapM fun
    | .plain c | .token (.brace c) => .ok (.plain c)
    | .token .unmatched => .error .unmatched
    | .token (.slot name) =>
      if name = slot.toList then .ok (.token ())
      else if name.all Char.isDigit then .error .numbered
      else .error .unknown

end SqlBuilder.Template
