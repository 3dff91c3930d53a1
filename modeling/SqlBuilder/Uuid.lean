import SqlBuilder.Script.Arguments

/-!
# Packed UUIDs

A UUID packed into sixteen bytes. In the ordered form the high part of the time comes first, so that
the packed UUIDs of a clock sort by time.

* `Uuid.pack`, `Uuid.unpack`: the packed form of a text, and the text of a packed form.
-/

namespace SqlBuilder.Uuid

/-- Part of a list, from one position up to another. -/
def slice (bs : List UInt8) (first last : Nat) : List UInt8 :=
  (bs.take last).drop first

/-- The sixteen bytes that a hexadecimal text denotes. -/
def ofHex (text : String) : Except Error (List UInt8) :=
  match Text.bytesOfHex? text with
  | some bs => if bs.length = 16 then .ok bs else .error (.invalid (.uuidText (Text.quoted text)))
  | none => .error (.invalid (.uuidText (Text.quoted text)))

/-- The packed form of a UUID text, with or without dashes. -/
def pack (text : String) (ordered : Bool) : Except Error (List UInt8) := do
  let bs ← ofHex (Text.replace text "-" "")
  return if ordered then slice bs 6 8 ++ slice bs 4 6 ++ slice bs 0 4 ++ slice bs 8 16 else bs

/-- The groups of bytes between the dashes of a text. -/
def groups (bs : List UInt8) (ordered : Bool) : List (List UInt8) :=
  if ordered then [slice bs 4 8, slice bs 2 4, slice bs 0 2, slice bs 8 10, slice bs 10 16]
  else [slice bs 0 4, slice bs 4 6, slice bs 6 8, slice bs 8 10, slice bs 10 16]

/-- The text of a packed UUID. -/
def unpack (bs : List UInt8) (ordered : Bool) : Except Error String :=
  if bs.length = 16 then
    .ok (Text.joinWith "-" ((groups bs ordered).map Text.hexOfBytes))
  else .error (.invalid (.uuidSize bs.length))

/-- The byte that a value stands for. -/
def byte : Value → Except Error UInt8
  | .int n => if 0 ≤ n && n < 256 then .ok (UInt8.ofNat n.toNat) else .error (.fault .badValue)
  | .bool b => .ok (if b then 1 else 0)
  | _ => .error wrongType

/-- The packed form that a value stands for: bytes, their hexadecimal text or their list, or a number
of zero bytes. -/
def packedOf : Value → Except Error (List UInt8)
  | .str text => ofHex text
  | .scalar (.bytes bs) => .ok bs
  | .int (.ofNat n) => if n < Nat.pow 2 40 then
      if n = 16 then .ok (List.replicate 16 0) else .error (.invalid (.uuidSize n))
    else .error (.fault .overflow)
  | .int _ => .error (.fault .badValue)
  | .bool b => .error (.invalid (.uuidSize (if b then 1 else 0)))
  | v => do (← v.items).mapM byte

/-- The outcome of a call by name. -/
def call (name : String) (a : Arguments) : Except Error Value := do
  match name with
  | "uuid_to_bin" =>
    let b ← a.bind ["uuid", "ordered"] 1
    match b.get "uuid" with
    | .str text => return .scalar (.bytes (← pack text (b.flag "ordered" true)))
    | .scalar (.bytes _) | .scalar (.day _) | .scalar (.moment _) => throw wrongType
    | v => throw (v.missing "replace")
  | "bin_to_uuid" =>
    let b ← a.bind ["value", "ordered"] 1
    return .str (← unpack (← packedOf (b.get "value")) (b.flag "ordered" true))
  | _ => throw noSuchMember

end SqlBuilder.Uuid
