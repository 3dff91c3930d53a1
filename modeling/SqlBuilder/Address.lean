import SqlBuilder.Text.Basic

/-!
# Connection addresses

An address consists of a scheme, an authority after two slashes, and a rest. The authority names the
host, after a user and before a port; a host in brackets is a version 6 address of the internet
protocol, or one of a version to come.

* `Address.split`: the scheme of an address and what follows it.
* `Address.isVersion4`, `Address.isVersion6`: the written forms of numeric hosts.
* `Address.isProper`: whether the authority of an address can be read.
-/

namespace SqlBuilder.Address

open Text

/-! ## Schemes -/

/-- Whether a character may stand in the scheme of an address. -/
def isSchemeChar (c : Char) : Bool :=
  c.isAlphanum || c == '+' || c == '-' || c == '.'

/-- An address without blanks before it, tabs and line breaks. -/
def cleaned (address : List Char) : List Char :=
  (address.dropWhile fun c => c.toNat ≤ 32).filter fun c => c != '\t' && c != '\n' && c != '\r'

/-- The scheme of an address in lower case, and the rest of the address; without a proper scheme the
whole address is the rest. -/
def split (address : List Char) : List Char × List Char :=
  let cs := cleaned address
  let name := cs.takeWhile (· != ':')
  match cs.drop name.length with
  | _ :: rest =>
    if (name.head?.any Char.isAlpha) && name.all isSchemeChar then (name.map Char.toLower, rest)
    else ([], cs)
  | [] => ([], cs)

/-- The authority that what follows the scheme begins with; it is empty without two slashes. -/
def authority : List Char → List Char
  | '/' :: '/' :: rest => rest.takeWhile fun c => c != '/' && c != '?' && c != '#'
  | _ => []

/-! ## Hosts -/

/-- Whether a character is a hexadecimal digit. -/
def isHex (c : Char) : Bool :=
  c.isDigit || (97 ≤ c.toNat && c.toNat ≤ 102) || (65 ≤ c.toNat && c.toNat ≤ 70)

/-- A number of a version 4 address: up to 255, without needless zeros. -/
def isOctet (cs : List Char) : Bool :=
  !cs.isEmpty && cs.length ≤ 3 && cs.all Char.isDigit && (cs.length == 1 || cs.head? != some '0') &&
    digitsValue cs ≤ 255

/-- A version 4 address: four numbers between points. -/
def isVersion4 (cs : List Char) : Bool :=
  let parts := splitOn '.' cs
  parts.length == 4 && parts.all isOctet

/-- A group of a version 6 address. -/
def isGroup (cs : List Char) : Bool :=
  !cs.isEmpty && cs.length ≤ 4 && cs.all isHex

/-- The parts of a version 6 address, where a version 4 address at the end counts as two groups; none
if that is not one. -/
def groups? (parts : List (List Char)) : Option (List (List Char)) :=
  match parts.getLast? with
  | none => none
  | some last =>
    if last.contains '.' then
      if isVersion4 last then some (parts.dropLast ++ [['0'], ['0']]) else none
    else some parts

/-- What stands on one side of the gap between two colons: groups, or nothing where the gap is at the
end of the address. -/
def side (parts : List (List Char)) : List (List Char) :=
  if parts == [[]] then [] else parts

/-- Whether groups make an address: eight of them, or fewer around one gap. -/
def groupsFit (parts : List (List Char)) : Bool :=
  let inner := (parts.drop 1).dropLast
  match inner.filter List.isEmpty with
  | [] => parts.length == 8 && parts.all isGroup
  | [_] =>
    let place := (inner.takeWhile (!·.isEmpty)).length + 1
    let sides := side (parts.take place) ++ side (parts.drop (place + 1))
    sides.length ≤ 7 && sides.all isGroup
  | _ => false

/-- A version 6 address, with the name of a zone after a percent sign if it has one. -/
def isVersion6 (cs : List Char) : Bool :=
  let address := cs.takeWhile (· != '%')
  let zoneFits := match cs.drop address.length with
    | [] => true
    | _ :: zone => !zone.isEmpty && !zone.contains '%'
  let parts := splitOn ':' address
  zoneFits && parts.length ≥ 3 && (groups? parts).any groupsFit

/-- An address of a version to come: its number after `v`, a point and a text. -/
def isLaterVersion : List Char → Bool
  | 'v' :: cs =>
    let number := cs.takeWhile isHex
    !number.isEmpty &&
      match cs.drop number.length with
      | '.' :: _ :: _ => true
      | _ => false
  | _ => false

/-- Whether a host may stand in brackets. -/
def isBracketed (host : List Char) : Bool :=
  if host.head? == some 'v' then isLaterVersion host else isVersion6 host

/-- The host of an authority with brackets, if nothing but a port stands beside them. -/
def host? (authority : List Char) : Option (List Char) :=
  let place := (splitLast? '@' authority).elim authority (·.2)
  match place with
  | '[' :: rest =>
    let host := rest.takeWhile (· != ']')
    match rest.drop (host.length + 1) with
    | [] | ':' :: _ => some host
    | _ => none
  | place => if place.contains '[' then none else some (place.takeWhile (· != ':'))

/-! ## Authorities -/

/-- The characters whose compatible form holds one that separates the parts of an address. -/
def disguised : List Nat :=
  [0x2047, 0x2048, 0x2049, 0x2100, 0x2101, 0x2105, 0x2106, 0x2A74, 0xFE13, 0xFE16, 0xFE55, 0xFE56,
   0xFE5F, 0xFE6B, 0xFF03, 0xFF0F, 0xFF1A, 0xFF1F, 0xFF20]

/-- Whether an authority can be read: brackets come in pairs around a proper host, and no character
looks like a separator. -/
def isReadable (authority : List Char) : Bool :=
  let opened := authority.contains '['
  let closed := authority.contains ']'
  opened == closed && (!opened || (host? authority).any isBracketed) &&
    !authority.any fun c => disguised.contains c.toNat

/-- Whether the authority of an address can be read. -/
def isProper (address : List Char) : Bool :=
  isReadable (authority (split address).2)

end SqlBuilder.Address
