import SqlBuilder.Text.Basic

/-!
# Quoted texts

Two quoted forms of a text: the one that messages show (`quoted`), in single quotes unless the text
holds one and no double quote, and the one that JSON texts hold (`jsonQuoted`), in ASCII.
-/

namespace SqlBuilder.Text

/-! ## In messages -/

/-- One character of a quoted text: the quote in use and the backslash are escaped, and so is every
character that is not printable. -/
def quotedChar (quote c : Char) : List Char :=
  let n := c.toNat
  if c = quote || c = '\\' then ['\\', c]
  else if c = '\t' then ['\\', 't']
  else if c = '\n' then ['\\', 'n']
  else if c = '\r' then ['\\', 'r']
  else if isPrintable c then [c]
  else if n < 0x100 then '\\' :: 'x' :: hexDigits 2 n
  else if n < 0x10000 then '\\' :: 'u' :: hexDigits 4 n
  else '\\' :: 'U' :: hexDigits 8 n

/-- A text as messages quote it. -/
def quoted (s : String) : String :=
  let cs := s.toList
  let quote := if cs.contains '\'' && !cs.contains '"' then '"' else '\''
  String.ofList (quote :: cs.flatMap (quotedChar quote) ++ [quote])

/-! ## In JSON texts -/

/-- One character of a JSON string, in ASCII; a character beyond the basic plane takes two units. -/
def jsonChar (c : Char) : List Char :=
  let n := c.toNat
  if c = '"' || c = '\\' then ['\\', c]
  else if c = '\n' then ['\\', 'n']
  else if c = '\r' then ['\\', 'r']
  else if c = '\t' then ['\\', 't']
  else if n = 8 then ['\\', 'b']
  else if n = 12 then ['\\', 'f']
  else if 32 ≤ n && n < 127 then [c]
  else if n < 0x10000 then '\\' :: 'u' :: hexDigits 4 n
  else
    '\\' :: 'u' :: hexDigits 4 (0xD800 + (n - 0x10000) / 0x400) ++
      ('\\' :: 'u' :: hexDigits 4 (0xDC00 + (n - 0x10000) % 0x400))

/-- A text as a JSON string. -/
def jsonQuoted (s : String) : String :=
  String.ofList ('"' :: s.toList.flatMap jsonChar ++ ['"'])

/-! ## Bytes -/

/-- One byte of a quoted byte string. -/
def quotedByte (quote : Char) (b : UInt8) : List Char :=
  let n := b.toNat
  let c := Char.ofNat n
  if c = quote || c = '\\' then ['\\', c]
  else if c = '\t' then ['\\', 't']
  else if c = '\n' then ['\\', 'n']
  else if c = '\r' then ['\\', 'r']
  else if 32 ≤ n && n < 127 then [c]
  else '\\' :: 'x' :: hexDigits 2 n

/-- Bytes without the blanks around them. -/
def stripBytes (bytes : List UInt8) : List UInt8 :=
  let isBlankByte (b : UInt8) : Bool := b == 32 || (9 ≤ b && b ≤ 13)
  ((bytes.dropWhile isBlankByte).reverse.dropWhile isBlankByte).reverse

/-- A byte string as messages quote it. -/
def quotedBytes (bytes : List UInt8) : String :=
  let quote := if bytes.contains 39 && !bytes.contains 34 then '"' else '\''
  String.ofList ('b' :: quote :: bytes.flatMap (quotedByte quote) ++ [quote])

/-- The hexadecimal text of a byte string. -/
def hexOfBytes (bytes : List UInt8) : String :=
  String.ofList (bytes.flatMap fun b => hexDigits 2 b.toNat)

/-- A blank or one of the five ASCII controls that move the pen. -/
def isAsciiSpace (c : Char) : Bool :=
  c = ' ' || (9 ≤ c.toNat && c.toNat ≤ 13)

/-- Reads pairs of hexadecimal digits; ASCII whitespace may stand between two pairs. -/
def bytesOfHex : List Char → Option (List UInt8)
  | [] => some []
  | [c] => if isAsciiSpace c then some [] else none
  | c :: d :: rest =>
    if isAsciiSpace c then bytesOfHex (d :: rest)
    else do
      let high ← hexValue? c
      let low ← hexValue? d
      let bytes ← bytesOfHex rest
      return UInt8.ofNat (high * 16 + low) :: bytes

/-- The bytes that a hexadecimal text denotes. -/
def bytesOfHex? (s : String) : Option (List UInt8) :=
  bytesOfHex s.toList

end SqlBuilder.Text
