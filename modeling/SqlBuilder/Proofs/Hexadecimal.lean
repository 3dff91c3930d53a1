import SqlBuilder.Text.Quoted

/-!
# Bytes in hexadecimal

Bytes are written in lower-case hexadecimal digits, two for each. They are read from digits of either case that stand
in pairs, with ASCII whitespace between the pairs.

* `Text.hexDigitsIn`: the digits of a text, in lower case.
* `Text.HexPairs`: digits in pairs, with whitespace between the pairs.
* `Text.bytesOfHex_hexOfBytes`: bytes are read back from their digits.
* `Text.bytesOfHex?_iff`: a text is read as the bytes that are written in its digits, if these stand in pairs.
-/

namespace SqlBuilder.Text

/-! ## Digits -/

/-- A hexadecimal digit of either case. -/
def isHexDigit (c : Char) : Bool :=
  "0123456789abcdefABCDEF".toList.contains c

/-- The hexadecimal digits of a text, in lower case. -/
def hexDigitsIn (cs : List Char) : List Char :=
  (cs.filter isHexDigit).map Char.toLower

theorem hexDigitsIn_cons {c : Char} (digit : isHexDigit c = true) (cs : List Char) :
    hexDigitsIn (c :: cs) = c.toLower :: hexDigitsIn cs := by
  simp [hexDigitsIn, digit]

theorem hexDigitsIn_cons_of_not {c : Char} (other : isHexDigit c = false) (cs : List Char) :
    hexDigitsIn (c :: cs) = hexDigitsIn cs := by
  simp [hexDigitsIn, other]

/-- A digit has a value below sixteen, and its lower-case form is the digit that this value is written as. -/
theorem hexValue?_of_isHexDigit {c : Char} (digit : isHexDigit c = true) :
    ∃ n < 16, hexValue? c = some n ∧ hexDigit n = c.toLower := by
  -- by `all`, which is decided over the digits; a statement about all members is decided over all characters
  have each : ("0123456789abcdefABCDEF".toList.all fun c =>
      (hexValue? c).any fun n => n < 16 && hexDigit n == c.toLower) = true := by decide
  have own := List.all_eq_true.mp each c (List.contains_iff_mem.mp digit)
  obtain ⟨n, value, facts⟩ := (Option.any_eq_true _ _).mp own
  obtain ⟨bound, lower⟩ := Bool.and_eq_true_iff.mp facts
  exact ⟨n, of_decide_eq_true bound, value, eq_of_beq lower⟩

/-- Only digits have values. -/
theorem isHexDigit_of_hexValue? {c : Char} {n : Nat} (value : hexValue? c = some n) : isHexDigit c = true := by
  have codes : ∀ n < 103, 48 ≤ n ∧ n ≤ 57 ∨ 97 ≤ n ∧ n ≤ 102 ∨ 65 ≤ n ∧ n ≤ 70 →
      isHexDigit (Char.ofNat n) = true := by decide
  have code : 48 ≤ c.toNat ∧ c.toNat ≤ 57 ∨ 97 ≤ c.toNat ∧ c.toNat ≤ 102 ∨ 65 ≤ c.toNat ∧ c.toNat ≤ 70 := by
    simp only [hexValue?, Char.isDigit_iff_toNat, Bool.and_eq_true, decide_eq_true_eq, Char.le_def,
      UInt32.le_iff_toNat_le] at value
    split at value
    · exact .inl ‹_›
    split at value
    · exact .inr (.inl ‹_›)
    split at value
    · exact .inr (.inr ‹_›)
    · cases value
  rw [← Char.ofNat_toNat c]
  exact codes c.toNat (by omega) code

/-- A number below sixteen is the value of the digit that it is written as. -/
theorem hexValue?_hexDigit : ∀ n < 16, hexValue? (hexDigit n) = some n := by
  decide

/-- Whitespace is no digit. -/
theorem isAsciiSpace_of_isHexDigit {c : Char} (digit : isHexDigit c = true) : isAsciiSpace c = false := by
  have each : "0123456789abcdefABCDEF".toList.all (!isAsciiSpace ·) = true := by decide
  exact (Bool.not_eq_true' _).mp (List.all_eq_true.mp each c (List.contains_iff_mem.mp digit))

/-! ## Bytes -/

theorem toList_hexOfBytes_cons (b : UInt8) (bs : List UInt8) :
    (hexOfBytes (b :: bs)).toList =
      hexDigit (b.toNat / 16) :: hexDigit (b.toNat % 16) :: (hexOfBytes bs).toList := by
  have byte := b.toNat_lt
  have high : b.toNat / 16 % 16 = b.toNat / 16 := Nat.mod_eq_of_lt (by omega)
  simp [hexOfBytes, hexDigits, high]

theorem toList_hexOfBytes_flatten (parts : List (List UInt8)) :
    (hexOfBytes parts.flatten).toList = (parts.map fun part => (hexOfBytes part).toList).flatten := by
  simp only [hexOfBytes, String.toList_ofList, List.flatMap_def, List.map_flatten, List.flatten_flatten, List.map_map]
  rfl

theorem length_hexOfBytes (bs : List UInt8) : (hexOfBytes bs).toList.length = 2 * bs.length := by
  induction bs with
  | nil => rfl
  | cons b bs ih =>
    rw [toList_hexOfBytes_cons, List.length_cons, List.length_cons, List.length_cons, ih]
    omega

/-- Bytes are written in digits only. -/
theorem isHexDigit_of_mem_hexOfBytes {bs : List UInt8} {c : Char} (within : c ∈ (hexOfBytes bs).toList) :
    isHexDigit c = true := by
  induction bs with
  | nil => cases within
  | cons b bs ih =>
    have byte := b.toNat_lt
    rw [toList_hexOfBytes_cons, List.mem_cons, List.mem_cons] at within
    rcases within with rfl | rfl | rest
    · exact isHexDigit_of_hexValue? (hexValue?_hexDigit (b.toNat / 16) (by omega))
    · exact isHexDigit_of_hexValue? (hexValue?_hexDigit (b.toNat % 16) (by omega))
    · exact ih rest

/-- Whitespace before a pair is passed over. -/
theorem bytesOfHex_space {c : Char} (space : isAsciiSpace c = true) (cs : List Char) :
    bytesOfHex (c :: cs) = bytesOfHex cs := by
  cases cs <;> simp [bytesOfHex, space]

/-- A pair of digits is read as one byte. -/
theorem bytesOfHex_pair {c d : Char} {high low : Nat} (first : hexValue? c = some high)
    (second : hexValue? d = some low) (cs : List Char) :
    bytesOfHex (c :: d :: cs) = (bytesOfHex cs).map (UInt8.ofNat (high * 16 + low) :: ·) := by
  have digit : isAsciiSpace c = false := isAsciiSpace_of_isHexDigit (isHexDigit_of_hexValue? first)
  rw [bytesOfHex, digit, first, second]
  cases bytesOfHex cs <;> rfl

/-- Bytes are read back from their digits. -/
theorem bytesOfHex_hexOfBytes (bs : List UInt8) : bytesOfHex (hexOfBytes bs).toList = some bs := by
  induction bs with
  | nil => rfl
  | cons b bs ih =>
    have byte := b.toNat_lt
    have high := hexValue?_hexDigit (b.toNat / 16) (by omega)
    have low := hexValue?_hexDigit (b.toNat % 16) (by omega)
    rw [toList_hexOfBytes_cons, bytesOfHex_pair high low, ih, Nat.div_add_mod', UInt8.ofNat_toNat, Option.map_some]

/-! ## Pairs of digits -/

/-- Hexadecimal digits in pairs, with ASCII whitespace before, between and behind the pairs. -/
inductive HexPairs : List Char → Prop
  | nil : HexPairs []
  | space {c : Char} {cs : List Char} : isAsciiSpace c = true → HexPairs cs → HexPairs (c :: cs)
  | pair {c d : Char} {cs : List Char} :
    isHexDigit c = true → isHexDigit d = true → HexPairs cs → HexPairs (c :: d :: cs)

/-- Digits in pairs are read as bytes, which are written in the same digits. -/
theorem HexPairs.reads {cs : List Char} (pairs : HexPairs cs) :
    ∃ bs, bytesOfHex cs = some bs ∧ (hexOfBytes bs).toList = hexDigitsIn cs := by
  induction pairs with
  | nil => exact ⟨[], rfl, rfl⟩
  | @space c cs space _ ih =>
    obtain ⟨bs, read, written⟩ := ih
    have other : isHexDigit c = false := Bool.eq_false_iff.mpr fun digit => by
      rw [isAsciiSpace_of_isHexDigit digit] at space
      cases space
    exact ⟨bs, (bytesOfHex_space space cs).trans read, written.trans (hexDigitsIn_cons_of_not other cs).symm⟩
  | @pair c d cs first second _ ih =>
    obtain ⟨bs, read, written⟩ := ih
    obtain ⟨high, highBound, highValue, highLower⟩ := hexValue?_of_isHexDigit first
    obtain ⟨low, lowBound, lowValue, lowLower⟩ := hexValue?_of_isHexDigit second
    have byte : (UInt8.ofNat (high * 16 + low)).toNat = high * 16 + low :=
      UInt8.toNat_ofNat_of_lt' (show high * 16 + low < 256 by omega)
    have highHalf : (high * 16 + low) / 16 = high := by omega
    have lowHalf : (high * 16 + low) % 16 = low := by omega
    refine ⟨UInt8.ofNat (high * 16 + low) :: bs, ?_, ?_⟩
    · rw [bytesOfHex_pair highValue lowValue, read, Option.map_some]
    · rw [toList_hexOfBytes_cons, byte, highHalf, lowHalf, highLower, lowLower, written, hexDigitsIn_cons first,
        hexDigitsIn_cons second]

/-- Nothing but digits in pairs is read. -/
theorem HexPairs.of_bytesOfHex {cs : List Char} {bs : List UInt8} (read : bytesOfHex cs = some bs) : HexPairs cs := by
  fun_induction bytesOfHex cs generalizing bs with
  | case1 => exact .nil
  | case2 c space => exact .space space .nil
  | case3 => cases read
  | case4 c d cs space ih => exact .space space (ih read)
  | case5 c d cs space ih =>
    obtain ⟨high, first, read⟩ := Option.bind_eq_some_iff.mp read
    obtain ⟨low, second, read⟩ := Option.bind_eq_some_iff.mp read
    obtain ⟨bytes, rest, -⟩ := Option.bind_eq_some_iff.mp read
    exact .pair (isHexDigit_of_hexValue? first) (isHexDigit_of_hexValue? second) (ih rest)

theorem bytesOfHex_isSome_iff {cs : List Char} : (bytesOfHex cs).isSome = true ↔ HexPairs cs := by
  constructor
  · intro some
    exact .of_bytesOfHex (Option.eq_some_of_isSome some)
  · intro pairs
    obtain ⟨bs, read, -⟩ := pairs.reads
    rw [read, Option.isSome_some]

instance (cs : List Char) : Decidable (HexPairs cs) :=
  decidable_of_iff _ bytesOfHex_isSome_iff

/-- A text is read as the bytes that are written in its digits, if these stand in pairs. -/
theorem bytesOfHex?_iff {s : String} {bs : List UInt8} :
    bytesOfHex? s = some bs ↔ HexPairs s.toList ∧ hexDigitsIn s.toList = (hexOfBytes bs).toList := by
  constructor
  · intro read
    have pairs := HexPairs.of_bytesOfHex read
    obtain ⟨others, same, written⟩ := pairs.reads
    obtain rfl : others = bs := Option.some.inj (same.symm.trans read)
    exact ⟨pairs, written.symm⟩
  · rintro ⟨pairs, digits⟩
    obtain ⟨others, read, written⟩ := pairs.reads
    -- bytes that are written in the same digits are the same
    have same : bytesOfHex (hexOfBytes others).toList = bytesOfHex (hexOfBytes bs).toList :=
      congrArg bytesOfHex (written.trans digits)
    rw [bytesOfHex_hexOfBytes, bytesOfHex_hexOfBytes] at same
    exact read.trans same

end SqlBuilder.Text
