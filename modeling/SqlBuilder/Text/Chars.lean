import SqlBuilder.Text.WordTable
import SqlBuilder.Text.PrintableTable
import SqlBuilder.Text.CaseTable

/-!
# Character classes and letter case

The classes of characters that the library distinguishes, each with a closed rule on ASCII and a
table beyond it: blanks, word characters, decimal digits and printable characters. Letter case
follows Unicode, including the mappings to several characters and the final sigma.

* `isBlank`, `isWord`, `digitValue?`, `isPrintable`: the classes.
* `lower`, `upper`: the case mappings of a text.
* `sameLetter`: equality of characters when case is ignored.
-/

namespace SqlBuilder.Text

/-- Membership of a code point in a list of inclusive ranges. -/
def inRanges (ranges : List (Nat × Nat)) (n : Nat) : Bool :=
  ranges.any fun (first, last) => first ≤ n && n ≤ last

/-! ## Classes -/

/-- Whitespace: the ASCII controls that separate, the blank, and the Unicode separators. -/
def isBlank (c : Char) : Bool :=
  let n := c.toNat
  (9 ≤ n && n ≤ 13) || (28 ≤ n && n ≤ 32) || n == 0x85 || n == 0xA0 || n == 0x1680 ||
    (0x2000 ≤ n && n ≤ 0x200A) || n == 0x2028 || n == 0x2029 || n == 0x202F || n == 0x205F ||
    n == 0x3000

/-- A letter, digit or numeral of any script, or the underscore. -/
def isWord (c : Char) : Bool :=
  if c.toNat < 128 then c.isAlphanum || c == '_' else inRanges wordRanges c.toNat

/-- The value of a decimal digit of any script. -/
def digitValue? (c : Char) : Option Nat :=
  let n := c.toNat
  if n < 128 then if c.isDigit then some (n - 48) else none
  else (digitZeros.find? fun start => start ≤ n && n < start + 10).map (n - ·)

/-- A decimal digit of any script. -/
def isDigit (c : Char) : Bool :=
  (digitValue? c).isSome

/-- A character that a quoted text shows as it is. -/
def isPrintable (c : Char) : Bool :=
  if c.toNat < 128 then 32 ≤ c.toNat && c.toNat < 127 else inRanges printableRanges c.toNat

/-! ## Letter case -/

/-- The image of a code point under the first run that holds it. -/
def applyRuns (runs : List (Nat × Nat × Nat × Int)) (n : Nat) : Nat :=
  match runs.find? fun (first, last, step, _) => first ≤ n && n ≤ last && (n - first) % step == 0 with
  | some (_, _, _, shift) => ((n : Int) + shift).toNat
  | none => n

/-- The lower-case form of one character, as one character. -/
def lowerChar (c : Char) : Char :=
  if c.toNat < 128 then c.toLower
  else if c.toNat == 0x130 then 'i' else Char.ofNat (applyRuns lowerRuns c.toNat)

/-- Whether a character has letter case. -/
def isCased (c : Char) : Bool :=
  if c.toNat < 128 then c.isAlpha else inRanges casedRanges c.toNat

/-- Whether a character may stand inside a run of cased letters without ending it. -/
def isCaseIgnorable (c : Char) : Bool :=
  if c.toNat < 128 then ['\'', '.', ':', '^', (Char.ofNat 96)].contains c
  else inRanges caseIgnorableRanges c.toNat

/-- Whether the next character that counts for letter case is a cased one. -/
def meetsCased (cs : List Char) : Bool :=
  match cs.dropWhile isCaseIgnorable with
  | c :: _ => isCased c
  | [] => false

/-- Lower-casing with the characters already read, nearest first: a capital sigma at the end of a
word becomes the final sigma. -/
def lowerFrom (before : List Char) : List Char → List Char
  | [] => []
  | c :: rest =>
    let image :=
      if c.toNat < 128 then [c.toLower]
      else if c.toNat == 0x3A3 then
        [if meetsCased before && !meetsCased rest then Char.ofNat 0x3C2 else Char.ofNat 0x3C3]
      else match lowerExpansions.lookup c.toNat with
        | some codes => codes.map Char.ofNat
        | none => [Char.ofNat (applyRuns lowerRuns c.toNat)]
    image ++ lowerFrom (c :: before) rest

/-- The characters of a text in lower case. -/
def lowerChars (cs : List Char) : List Char :=
  lowerFrom [] cs

/-- A text in lower case. -/
def lower (s : String) : String :=
  String.ofList (lowerChars s.toList)

/-- The upper-case form of one character. -/
def upperChar (c : Char) : List Char :=
  if c.toNat < 128 then [c.toUpper]
  else match upperExpansions.lookup c.toNat with
    | some codes => codes.map Char.ofNat
    | none => [Char.ofNat (applyRuns upperRuns c.toNat)]

/-- A text in upper case. -/
def upper (s : String) : String :=
  String.ofList (s.toList.flatMap upperChar)

/-- Whether two characters match when case is ignored. -/
def sameLetter (a b : Char) : Bool :=
  let x := lowerChar a
  let y := lowerChar b
  x == y || caseTwins.any fun twins => twins.contains x.toNat && twins.contains y.toNat

end SqlBuilder.Text
