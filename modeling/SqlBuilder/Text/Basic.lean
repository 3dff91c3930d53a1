import SqlBuilder.Text.Chars

/-!
# Texts as lists of characters

Trimming, splitting, searching and replacing, stated on `List Char` so that laws go by induction,
with a form on `String` where a caller holds one.

* `strip`, `splitBlank`: surrounding and separating whitespace.
* `splitOn`: the pieces between the occurrences of a character.
* `findInfix`: the first occurrence of a text in another.
* `replaceAll`: every occurrence of a text replaced, from the left.
-/

namespace SqlBuilder.Text

/-! ## Trimming -/

/-- Drops characters of a class at the end. -/
def trimmedRight (isMargin : Char → Bool) (cs : List Char) : List Char :=
  (cs.reverse.dropWhile isMargin).reverse

/-- Drops characters of a class at both ends. -/
def trimmed (isMargin : Char → Bool) (cs : List Char) : List Char :=
  trimmedRight isMargin (cs.dropWhile isMargin)

/-- Drops whitespace at both ends. -/
def stripChars (cs : List Char) : List Char :=
  trimmed isBlank cs

/-- A blank that may stand around a number; the separator controls may not. -/
def isMargin (c : Char) : Bool :=
  isBlank c && !(28 ≤ c.toNat && c.toNat ≤ 31)

/-- A text without the whitespace around it. -/
def strip (s : String) : String :=
  String.ofList (stripChars s.toList)

/-- The first run of characters that are not whitespace. -/
def firstWord? (cs : List Char) : Option (List Char) :=
  match cs.dropWhile isBlank with
  | [] => none
  | rest => some (rest.takeWhile fun c => !isBlank c)

/-! ## Splitting and joining -/

/-- The pieces of a text between the occurrences of a separator; never empty. -/
def splitOn (separator : Char) : List Char → List (List Char)
  | [] => [[]]
  | c :: rest =>
    if c = separator then [] :: splitOn separator rest
    else match splitOn separator rest with
      | [] => [[c]]
      | piece :: pieces => (c :: piece) :: pieces

/-- The text before the last separator and the text after it, if the separator occurs. -/
def splitLast? (separator : Char) (cs : List Char) : Option (List Char × List Char) :=
  let back := cs.reverse
  match back.dropWhile (· != separator) with
  | [] => none
  | _ :: before => some (before.reverse, (back.takeWhile (· != separator)).reverse)

/-- Texts joined by a separator. -/
def joinWith (separator : String) (parts : List String) : String :=
  separator.intercalate parts

/-! ## Searching and replacing -/

/-- The rest of a text after a given beginning. -/
def dropStart? : List Char → List Char → Option (List Char)
  | [], cs => some cs
  | _ :: _, [] => none
  | p :: ps, c :: cs => if p = c then dropStart? ps cs else none

/-- The position of the first occurrence of `pattern`. -/
def findInfix (pattern : List Char) : List Char → Option Nat
  | [] => if pattern.isEmpty then some 0 else none
  | c :: cs =>
    if (dropStart? pattern (c :: cs)).isSome then some 0 else (findInfix pattern cs).map (· + 1)

/-- Whether `pattern` occurs in a text. -/
def hasInfix (pattern cs : List Char) : Bool :=
  (findInfix pattern cs).isSome

/-- Replaces the occurrences of `pattern` from the left; `skip` counts the characters of an occurrence
that are still to be passed over. -/
def replaceFrom (pattern replacement : List Char) : Nat → List Char → List Char
  | _, [] => []
  | skip + 1, _ :: cs => replaceFrom pattern replacement skip cs
  | 0, c :: cs =>
    if (dropStart? pattern (c :: cs)).isSome then
      replacement ++ replaceFrom pattern replacement (pattern.length - 1) cs
    else c :: replaceFrom pattern replacement 0 cs

/-- Replaces every occurrence of a non-empty `pattern`; an empty one occurs nowhere. -/
def replaceAll (pattern replacement cs : List Char) : List Char :=
  if pattern.isEmpty then cs else replaceFrom pattern replacement 0 cs

/-- Every occurrence of a non-empty text replaced by another. -/
def replace (s pattern replacement : String) : String :=
  String.ofList (replaceAll pattern.toList replacement.toList s.toList)

/-- Whether a text begins with another. -/
def startsWith (s start : String) : Bool :=
  (dropStart? start.toList s.toList).isSome

/-- Whether a text ends with another. -/
def endsWith (s ending : String) : Bool :=
  (dropStart? ending.toList.reverse s.toList.reverse).isSome

/-! ## Hexadecimal digits -/

/-- The lower-case hexadecimal digit of a number below sixteen. -/
def hexDigit (n : Nat) : Char :=
  if n < 10 then Char.ofNat (48 + n) else Char.ofNat (87 + n)

/-- The last `width` hexadecimal digits of a number. -/
def hexDigits : Nat → Nat → List Char
  | 0, _ => []
  | width + 1, n => hexDigits width (n / 16) ++ [hexDigit (n % 16)]

/-- The value of a hexadecimal digit of either case. -/
def hexValue? (c : Char) : Option Nat :=
  if c.isDigit then some (c.toNat - 48)
  else if 'a' ≤ c && c ≤ 'f' then some (c.toNat - 87)
  else if 'A' ≤ c && c ≤ 'F' then some (c.toNat - 55)
  else none

/-! ## Decimal numbers -/

/-- A number with at least `width` digits, filled with zeros. -/
def padded (width n : Nat) : String :=
  let digits := toString n
  String.ofList (List.replicate (width - digits.length) '0') ++ digits

/-- The number that a run of decimal digits of any script denotes. -/
def digitsValue (cs : List Char) : Nat :=
  cs.foldl (fun n c => n * 10 + (digitValue? c).getD 0) 0

end SqlBuilder.Text
