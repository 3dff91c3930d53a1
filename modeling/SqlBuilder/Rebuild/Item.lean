import SqlBuilder.Error
import SqlBuilder.Text.Scan

/-!
# Items of a stored table definition

The stored text of a table definition, split into its items: the definitions of columns and the
constraints of the table. An item tells by its first words what it is.

* `Definition.split`: the text before the items, the items, and the text after them.
* `Item.column?`: the column that an item defines.
* `Item.isPrimaryKey`, `Item.isNamed`: what kind of constraint an item is.
* `Item.withoutNotNull`, `Item.withNotNull`: a column that may or may not be null.
-/

namespace SqlBuilder

open Text

/-- A definition of a column or a constraint. -/
abbrev Item := List Char

/-! ## Words -/

namespace Phrase

/-- Drops a word in any letter case from the start of a text. -/
def dropWord? : List Char → List Char → Option (List Char)
  | [], cs => some cs
  | _ :: _, [] => none
  | w :: ws, c :: cs => if sameLetter w c then dropWord? ws cs else none

/-- Drops the whitespace at the start of a text, of which there has to be some. -/
def dropBlanks? : List Char → Option (List Char)
  | [] => none
  | c :: cs => if isBlank c then some (cs.dropWhile isBlank) else none

/-- Whether a word that stands before a text ends there. -/
def endsWord : List Char → Bool
  | [] => true
  | c :: _ => !isWord c

/-- Drops words with whitespace between them; the last one ends there. -/
def drop? : List String → List Char → Option (List Char)
  | [], cs => some cs
  | [word], cs => (dropWord? word.toList cs).filter endsWord
  | word :: words, cs => do drop? words (← dropBlanks? (← dropWord? word.toList cs))

/-- Whether a text begins with some words. -/
def begins (words : List String) (cs : List Char) : Bool :=
  (drop? words cs).isSome

/-- The texts after one or more blanks at the start. -/
def blankTails : List Char → List (List Char)
  | [] => []
  | c :: cs => if isBlank c then cs :: blankTails cs else []

/-- A text, and what comes after one of the marks if it begins with one. -/
def markTails (marks : List Char) : List Char → List (List Char)
  | [] => [[]]
  | c :: cs => if marks.contains c then [cs, c :: cs] else [c :: cs]

end Phrase

/-! ## Splitting a definition -/

/-- A table definition split at its items. -/
structure Definition where
  /-- the text before the opening parenthesis -/
  head : List Char
  items : List Item
  /-- the text after the closing parenthesis -/
  tail : List Char
  deriving Inhabited

namespace Definition

/-- The quote that closes a quoted part, if a character opens one. -/
def closing? (c : Char) : Option Char :=
  if c = '[' then some ']'
  else if c = '\'' || c = '"' || c = '\x60' then some c
  else none

/-- The items up to the closing parenthesis, and the text after it. `quote` closes the quoted part
that the text is in, `depth` counts the open parentheses, and `current` holds the item so far, from
its end. -/
def itemsFrom (quote : Option Char) (depth : Nat) (current : List Char) :
    List Char → Option (List Item × List Char)
  | [] => none
  | c :: cs =>
    match quote with
    | some q => itemsFrom (if c = q then none else some q) depth (c :: current) cs
    | none =>
      match closing? c with
      | some q => itemsFrom (some q) depth (c :: current) cs
      | none =>
        if c = '(' then itemsFrom none (depth + 1) (c :: current) cs
        else if c = ')' then
          match depth with
          | 0 => some ([stripChars current.reverse], cs)
          | depth + 1 => itemsFrom none depth (c :: current) cs
        else if c = ',' && depth = 0 then
          (itemsFrom none 0 [] cs).map fun (items, rest) =>
            (stripChars current.reverse :: items, rest)
        else itemsFrom none depth (c :: current) cs

/-- Splits a definition; commas inside parentheses or quotes do not split, and empty items do not
count. -/
def split (sql : String) : Except Error Definition :=
  let head := sql.toList.takeWhile (· != '(')
  match sql.toList.drop head.length with
  | [] => .error (.definitionNotFound sql)
  | _ :: body =>
    match itemsFrom none 0 [] body with
    | some (items, tail) => .ok { head, items := items.filter (!·.isEmpty), tail }
    | none => .error (.definitionUnbalanced sql)

end Definition

/-! ## What an item is -/

namespace Item

/-- The words that begin a constraint of a table. -/
def constraintWords : List (List String) :=
  [["constraint"], ["primary", "key"], ["foreign", "key"], ["unique"], ["check"]]

/-- Whether an item is a constraint of the table. -/
def isConstraint (item : Item) : Bool :=
  constraintWords.any fun words => Phrase.begins words item

/-- The quote that closes a quoted name, if a character opens one. -/
def nameClosing? (c : Char) : Option Char :=
  if c = '[' then some ']' else if c = '"' || c = '\x60' then some c else none

/-- The first word of an item. -/
def firstWord (item : Item) : Except Error (List Char) :=
  match firstWord? item with
  | some word => .ok word
  | none => .error (.fault .outOfRange)

/-- The column that an item defines; a constraint defines none. -/
def column? (item : Item) : Except Error (Option (List Char)) :=
  if isConstraint item then .ok none
  else
    match item with
    | [] => .error (.fault .outOfRange)
    | c :: cs =>
      match nameClosing? c with
      | none => (firstWord item).map some
      | some q =>
        let name := cs.takeWhile (· != q)
        if name.length < cs.length then .ok (some name) else .error (.fault .badValue)

/-- Whether an item is a primary key, with or without a name. -/
def isPrimaryKey (item : Item) : Bool :=
  Phrase.begins ["primary", "key"] item ||
    (do
      let rest ← Phrase.dropBlanks? (← Phrase.dropWord? "constraint".toList item)
      let named := rest.dropWhile fun c => !isBlank c
      Phrase.drop? ["primary", "key"] (← Phrase.dropBlanks? named)).isSome

/-- Whether an item is a constraint of a given name and kind; the name may be quoted. -/
def isNamed (name : List Char) (kind : List String) (item : Item) : Bool :=
  match Phrase.dropWord? "constraint".toList item with
  | none => false
  | some rest =>
    ((Phrase.blankTails rest).flatMap (Phrase.markTails ['\x60', '"', '['])).any fun rest =>
      match Phrase.dropWord? name rest with
      | none => false
      | some rest =>
        (Phrase.markTails ['\x60', '"', ']'] rest).any fun rest =>
          ((Phrase.dropBlanks? rest).bind (Phrase.drop? kind)).isSome

/-! ## Nullability -/

/-- The width of the words that forbid nulls, with the whitespace before them, at the start of a
text. -/
def notNull? (cs : List Char) : Option (Unit × Nat) :=
  match (Phrase.dropBlanks? cs).bind (Phrase.drop? ["not", "null"]) with
  | some rest => some ((), cs.length - rest.length)
  | none => none

/-- A definition without the words that forbid nulls. -/
def withoutNotNull (item : Item) : Item :=
  (scan notNull? item).filterMap fun
    | .plain c => some c
    | .token () => none

/-- A definition with the words that forbid nulls. -/
def withNotNull (item : Item) : Item :=
  if (tokens notNull? item).isEmpty then item ++ " not null".toList else item

end Item

end SqlBuilder
