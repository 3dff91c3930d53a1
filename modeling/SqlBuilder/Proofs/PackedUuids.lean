import Mathlib.Data.List.SplitLengths
import SqlBuilder.Proofs.Hexadecimal
import SqlBuilder.Uuid

/-!
# Packed UUIDs read back

A UUID that is packed into sixteen bytes is written out again as its text in the canonical form: thirty-two lower-case
digits in five groups with dashes between them. The other way round, the text of packed bytes is packed into these. In
the ordered form the fields of the time are exchanged on both ways.

* `Uuid.IsHex`, `Uuid.canonical`: the texts that are accepted, and the form in which they are written out.
* `Uuid.groups_packed`, `Uuid.packed_groups`: the fields are exchanged back.
* `Uuid.unpack_packed`, `Uuid.pack_canonical`: the two ways there and back.
* `Uuid.calls_invertible`: the outcomes of the calls on every text and on all bytes.
-/

namespace SqlBuilder

/-! ## Parts of lists and texts -/

/-- A list is split into the parts that it is made of. -/
theorem splitLengths_flatten {α : Type} (parts : List (List α)) :
    (parts.map List.length).splitLengths parts.flatten = parts := by
  induction parts with
  | nil => rfl
  | cons part parts ih => simp [ih]

namespace Text

/-- A character that is replaced by nothing is left out. -/
theorem replaceFrom_nil (c : Char) (cs : List Char) : replaceFrom [c] [] 0 cs = cs.filter (· ≠ c) := by
  induction cs with
  | nil => rfl
  | cons d cs ih =>
    by_cases same : c = d
    · subst same
      simp [replaceFrom, dropStart?, ih]
    · simp [replaceFrom, dropStart?, same, Ne.symm same, ih]

/-- Without the separators, the parts of a text follow on each other. -/
theorem filter_intercalate {separator : Char} {parts : List (List Char)} (free : ∀ part ∈ parts, separator ∉ part) :
    ([separator].intercalate parts).filter (· ≠ separator) = parts.flatten := by
  induction parts with
  | nil => rfl
  | cons part parts ih =>
    have own : part.filter (· ≠ separator) = part :=
      List.filter_eq_self.mpr fun c within => decide_eq_true fun same => free part (.head _) (same ▸ within)
    have others := ih fun other within => free other (.tail _ within)
    cases parts with
    | nil => simpa using own
    | cons next parts =>
      rw [List.intercalate_cons_cons, List.filter_append, List.filter_append, own, others]
      simp

end Text

namespace Uuid

/-! ## Texts -/

/-- A text without its dashes. -/
def dashless (text : String) : String :=
  String.ofList (text.toList.filter (· ≠ '-'))

/-- Thirty-two hexadecimal digits in pairs, with nothing but ASCII whitespace between the pairs. -/
def IsHex (text : String) : Prop :=
  Text.HexPairs text.toList ∧ (Text.hexDigitsIn text.toList).length = 32

instance (text : String) : Decidable (IsHex text) :=
  inferInstanceAs (Decidable (_ ∧ _))

/-- Digits in groups of eight, four, four, four and twelve, with dashes between the groups. -/
def canonical (digits : List Char) : String :=
  String.ofList (['-'].intercalate ([8, 4, 4, 4, 12].splitLengths digits))

theorem replace_dash (text : String) : Text.replace text "-" "" = dashless text := by
  simp [Text.replace, Text.replaceAll, dashless, Text.replaceFrom_nil]

/-- A dash is no digit. -/
theorem hexDigitsIn_dashless (text : String) :
    Text.hexDigitsIn (dashless text).toList = Text.hexDigitsIn text.toList := by
  have noDash : ∀ c ∈ text.toList, (Text.isHexDigit c && decide (c ≠ '-')) = Text.isHexDigit c := by
    intro c _
    by_cases dash : c = '-'
    · subst dash
      rfl
    · simp [dash]
  rw [dashless, String.toList_ofList, Text.hexDigitsIn, List.filter_filter, List.filter_congr noDash]
  rfl

/-- The canonical form of thirty-two digits is these and dashes. -/
theorem dashless_canonical {digits : List Char} (count : digits.length = 32) (plain : '-' ∉ digits) :
    dashless (canonical digits) = String.ofList digits := by
  have whole : ([8, 4, 4, 4, 12].splitLengths digits).flatten = digits :=
    List.flatten_splitLengths digits _ count.le
  have free : ∀ part ∈ [8, 4, 4, 4, 12].splitLengths digits, '-' ∉ part := fun part within dash =>
    plain (whole ▸ List.mem_flatten.mpr ⟨part, within, dash⟩)
  rw [dashless, canonical, String.toList_ofList, Text.filter_intercalate free, whole]

/-- Thirty-two digits in pairs are read as sixteen bytes, which are written in the same digits. -/
theorem ofHex_of_isHex {text : String} (hex : IsHex text) :
    ∃ bs, bs.length = 16 ∧ ofHex text = .ok bs ∧ (Text.hexOfBytes bs).toList = Text.hexDigitsIn text.toList := by
  obtain ⟨pairs, count⟩ := hex
  obtain ⟨bs, read, written⟩ := pairs.reads
  have size : bs.length = 16 := by
    rw [← written, Text.length_hexOfBytes] at count
    omega
  refine ⟨bs, size, ?_, written⟩
  rw [ofHex, Text.bytesOfHex?, read]
  exact if_pos size

/-- Every other text is refused. -/
theorem ofHex_of_not_isHex {text : String} (other : ¬ IsHex text) :
    ofHex text = .error (.invalid (.uuidText (Text.quoted text))) := by
  unfold ofHex
  cases read : Text.bytesOfHex? text with
  | none => rfl
  | some bs =>
    obtain ⟨pairs, digits⟩ := Text.bytesOfHex?_iff.mp read
    have size : bs.length ≠ 16 := fun size => other ⟨pairs, by rw [digits, Text.length_hexOfBytes, size]⟩
    exact if_neg size

theorem ofHex_hexOfBytes {bs : List UInt8} (size : bs.length = 16) : ofHex (Text.hexOfBytes bs) = .ok bs := by
  rw [ofHex, Text.bytesOfHex?, Text.bytesOfHex_hexOfBytes]
  exact if_pos size

/-! ## Fields -/

/-- The sixteen bytes of a text in the order in which they are packed. -/
def packed (bs : List UInt8) (ordered : Bool) : List UInt8 :=
  if ordered then slice bs 6 8 ++ slice bs 4 6 ++ slice bs 0 4 ++ slice bs 8 16 else bs

theorem length_packed {bs : List UInt8} (size : bs.length = 16) (ordered : Bool) :
    (packed bs ordered).length = 16 := by
  cases ordered <;> simp [packed, slice, size]

theorem lengths_groups {bs : List UInt8} (size : bs.length = 16) (ordered : Bool) :
    (groups bs ordered).map List.length = [4, 2, 2, 2, 6] := by
  cases ordered <;> simp [groups, slice, size]

/-- The groups of packed bytes are the fields of the bytes that were packed. -/
theorem groups_packed {bs : List UInt8} (size : bs.length = 16) (ordered : Bool) :
    groups (packed bs ordered) ordered = [4, 2, 2, 2, 6].splitLengths bs := by
  cases ordered with
  | false => simp [groups, packed, slice, List.drop_take]
  | true => simp [groups, packed, slice, List.take_append, List.drop_append, List.drop_take, List.take_take, size]

/-- The groups of bytes are packed into these. -/
theorem packed_groups {bs : List UInt8} (size : bs.length = 16) (ordered : Bool) :
    packed (groups bs ordered).flatten ordered = bs := by
  have whole (sizes : List Nat) (sum : sizes.sum = 16) : (sizes.splitLengths bs).flatten = bs :=
    List.flatten_splitLengths bs sizes (size.trans sum.symm).le
  cases ordered with
  | false => simpa [groups, packed, slice, List.drop_take] using whole [4, 2, 2, 2, 6] rfl
  | true =>
    -- in ordered bytes the fields of the time stand the other way round
    simpa [groups, packed, slice, List.take_append, List.drop_append, List.drop_take, List.take_take, size] using
      whole [2, 2, 4, 2, 6] rfl

theorem length_flatten_groups {bs : List UInt8} (size : bs.length = 16) (ordered : Bool) :
    (groups bs ordered).flatten.length = 16 := by
  rw [List.length_flatten, lengths_groups size]
  rfl

/-! ## There and back -/

theorem pack_eq (text : String) (ordered : Bool) :
    pack text ordered = (ofHex (dashless text)).map (packed · ordered) := by
  rw [pack, replace_dash]
  cases ofHex (dashless text) <;> rfl

theorem lengths_hexGroups {bs : List UInt8} (size : bs.length = 16) (ordered : Bool) :
    ((groups bs ordered).map fun group => (Text.hexOfBytes group).toList).map List.length = [8, 4, 4, 4, 12] := by
  have twice : List.length ∘ (fun group => (Text.hexOfBytes group).toList) = (2 * ·) ∘ List.length :=
    funext Text.length_hexOfBytes
  rw [List.map_map, twice, ← List.map_map, lengths_groups size]
  rfl

/-- Sixteen bytes are written out as the canonical form of the digits of their groups. -/
theorem unpack_eq {bs : List UInt8} (size : bs.length = 16) (ordered : Bool) :
    unpack bs ordered = .ok (canonical (Text.hexOfBytes (groups bs ordered).flatten).toList) := by
  have joined : (Text.joinWith "-" ((groups bs ordered).map Text.hexOfBytes)).toList =
      ['-'].intercalate ((groups bs ordered).map fun group => (Text.hexOfBytes group).toList) := by
    rw [Text.joinWith, String.toList_intercalate, List.map_map]
    rfl
  rw [unpack, if_pos size, canonical, Text.toList_hexOfBytes_flatten, ← lengths_hexGroups size ordered,
    splitLengths_flatten, ← joined, String.ofList_toList]

/-- Packed bytes are written out as the canonical form of the digits that they were packed from. -/
theorem unpack_packed {bs : List UInt8} (size : bs.length = 16) (ordered : Bool) :
    unpack (packed bs ordered) ordered = .ok (canonical (Text.hexOfBytes bs).toList) := by
  have whole : ([4, 2, 2, 2, 6].splitLengths bs).flatten = bs := List.flatten_splitLengths bs _ size.le
  rw [unpack_eq (length_packed size ordered), groups_packed size, whole]

/-- The canonical form of the digits of bytes is read as these. -/
theorem pack_canonical {bs : List UInt8} (size : bs.length = 16) (ordered : Bool) :
    pack (canonical (Text.hexOfBytes bs).toList) ordered = .ok (packed bs ordered) := by
  have count : (Text.hexOfBytes bs).toList.length = 32 := by rw [Text.length_hexOfBytes, size]
  have plain : '-' ∉ (Text.hexOfBytes bs).toList := fun dash =>
    absurd (Text.isHexDigit_of_mem_hexOfBytes dash) (by decide)
  rw [pack_eq, dashless_canonical count plain, String.ofList_toList, ofHex_hexOfBytes size]
  rfl

/-! ## Calls -/

/-- The outcome of packing a value. -/
def toBin (v : Value) (ordered : Bool) : Except Error Value :=
  call "uuid_to_bin" { positional := [v, .bool ordered] }

/-- The outcome of writing a packed value out. -/
def ofBin (v : Value) (ordered : Bool) : Except Error Value :=
  call "bin_to_uuid" { positional := [v, .bool ordered] }

theorem bind_ordered {value order : String} (different : order ≠ value) (v : Value) (ordered : Bool) :
    ∃ b, Arguments.bind { positional := [v, .bool ordered] } [value, order] 1 = .ok b ∧ b.get value = v ∧
      b.flag order true = ordered := by
  refine ⟨[(value, v), (order, .bool ordered)], ?_, ?_, ?_⟩
  · simp [Arguments.bind, Arguments.keywordsFit]
  · simp [Bound.get, Bound.given?]
  · have second : (order == value) = false := beq_eq_false_iff_ne.mpr different
    simp [Bound.flag, Bound.given?, List.lookup_cons, second, Value.isTruthy, Scalar.isTruthy]

theorem toBin_str (text : String) (ordered : Bool) :
    toBin (.str text) ordered = (pack text ordered).map fun bs => .scalar (.bytes bs) := by
  obtain ⟨b, bound, value, order⟩ := bind_ordered (show "ordered" ≠ "uuid" by decide) (.str text) ordered
  simp only [toBin, call, bound, bind, Except.bind, value, order]
  cases pack text ordered <;> rfl

theorem ofBin_eq (v : Value) (ordered : Bool) :
    ofBin v ordered = (packedOf v >>= (unpack · ordered)).map .str := by
  obtain ⟨b, bound, value, order⟩ := bind_ordered (show "ordered" ≠ "value" by decide) v ordered
  simp only [ofBin, call, bound, bind, Except.bind, value, order]
  cases packedOf v with
  | error e => rfl
  | ok bs => cases unpack bs ordered <;> rfl

theorem ofBin_str (text : String) (ordered : Bool) :
    ofBin (.str text) ordered = (ofHex text >>= (unpack · ordered)).map .str :=
  ofBin_eq (.str text) ordered

theorem ofBin_bytes (bs : List UInt8) (ordered : Bool) :
    ofBin (.scalar (.bytes bs)) ordered = (unpack bs ordered).map .str :=
  ofBin_eq (.scalar (.bytes bs)) ordered

/-- Sixteen bytes and their digits are written out as one text. -/
theorem ofBin_hexOfBytes {bs : List UInt8} (size : bs.length = 16) (ordered : Bool) :
    ofBin (.str (Text.hexOfBytes bs)) ordered = ofBin (.scalar (.bytes bs)) ordered := by
  rw [ofBin_str, ofHex_hexOfBytes size, ofBin_bytes]
  rfl

/-- A text of thirty-two digits is packed into sixteen bytes, which are written out as its canonical form. Sixteen bytes
and their digits are written out as one text, which is packed into these bytes. Every other text is refused on both
ways, and so are bytes of every other number. -/
theorem calls_invertible (ordered : Bool) :
    (∀ text, IsHex (dashless text) → ∃ bs, bs.length = 16 ∧
      toBin (.str text) ordered = .ok (.scalar (.bytes bs)) ∧
      ofBin (.scalar (.bytes bs)) ordered = .ok (.str (canonical (Text.hexDigitsIn text.toList)))) ∧
    (∀ bs, bs.length = 16 → ∃ text,
      ofBin (.scalar (.bytes bs)) ordered = .ok (.str text) ∧
      ofBin (.str (Text.hexOfBytes bs)) ordered = .ok (.str text) ∧
      toBin (.str text) ordered = .ok (.scalar (.bytes bs))) ∧
    (∀ text, ¬ IsHex (dashless text) →
      toBin (.str text) ordered = .error (.invalid (.uuidText (Text.quoted (dashless text))))) ∧
    (∀ text, ¬ IsHex text → ofBin (.str text) ordered = .error (.invalid (.uuidText (Text.quoted text)))) ∧
    ∀ bs, bs.length ≠ 16 →
      ofBin (.scalar (.bytes bs)) ordered = .error (.invalid (.uuidSize bs.length)) := by
  refine ⟨fun text hex => ?_, fun bs size => ?_, fun text other => ?_, fun text other => ?_, fun bs size => ?_⟩
  · obtain ⟨bs, size, read, digits⟩ := ofHex_of_isHex hex
    refine ⟨packed bs ordered, length_packed size ordered, ?_, ?_⟩
    · rw [toBin_str, pack_eq, read]
      rfl
    · rw [ofBin_bytes, unpack_packed size, digits, hexDigitsIn_dashless]
      rfl
  · have written := unpack_eq size ordered
    refine ⟨canonical (Text.hexOfBytes (groups bs ordered).flatten).toList, ?_, ?_, ?_⟩
    · rw [ofBin_bytes, written]
      rfl
    · rw [ofBin_hexOfBytes size, ofBin_bytes, written]
      rfl
    · rw [toBin_str, pack_canonical (length_flatten_groups size ordered), packed_groups size]
      rfl
  · rw [toBin_str, pack_eq, ofHex_of_not_isHex other]
    rfl
  · rw [ofBin_str, ofHex_of_not_isHex other]
    rfl
  · rw [ofBin_bytes, unpack, if_neg size]
    rfl

/-- Digits of both cases with dashes inside a pair and at the end and with whitespace between pairs, a text that is too
short, one with dashes where none may stand, and too few bytes. -/
theorem calls_invertible_spaced :
    let text := "6-CCD780c baba-1026-9564\t5B8C656024DB-"
    let written := "6ccd780c-baba-1026-9564-5b8c656024db"
    let bs : List UInt8 :=
      [0x10, 0x26, 0xba, 0xba, 0x6c, 0xcd, 0x78, 0x0c, 0x95, 0x64, 0x5b, 0x8c, 0x65, 0x60, 0x24, 0xdb]
    (IsHex (dashless text) ∧ bs.length = 16 ∧ ¬ IsHex (dashless "6ccd780c-baba") ∧ ¬ IsHex written ∧
      [0, 0, 0, 0].length ≠ 16) ∧
      (∃ bs, bs.length = 16 ∧ toBin (.str text) true = .ok (.scalar (.bytes bs)) ∧
        ofBin (.scalar (.bytes bs)) true = .ok (.str written)) ∧
      (∃ text, ofBin (.scalar (.bytes bs)) true = .ok (.str text) ∧
        ofBin (.str "1026baba6ccd780c95645b8c656024db") true = .ok (.str text) ∧
        toBin (.str text) true = .ok (.scalar (.bytes bs))) ∧
      toBin (.str "6ccd780c-baba") true = .error (.invalid (.uuidText "'6ccd780cbaba'")) ∧
      ofBin (.str written) true = .error (.invalid (.uuidText "'6ccd780c-baba-1026-9564-5b8c656024db'")) ∧
      ofBin (.scalar (.bytes [0, 0, 0, 0])) true = .error (.invalid (.uuidSize 4)) := by
  intro text written bs
  obtain ⟨texts, bytes, shortTexts, dashedTexts, shortBytes⟩ := calls_invertible true
  have hex : IsHex (dashless text) := by decide +kernel
  have short : ¬ IsHex (dashless "6ccd780c-baba") := by decide +kernel
  have dashed : ¬ IsHex written := by decide +kernel
  have form : canonical (Text.hexDigitsIn text.toList) = written := by decide +kernel
  have digits : Text.hexOfBytes bs = "1026baba6ccd780c95645b8c656024db" := by decide +kernel
  have shownShort : Text.quoted (dashless "6ccd780c-baba") = "'6ccd780cbaba'" := by decide +kernel
  have shownDashed : Text.quoted written = "'6ccd780c-baba-1026-9564-5b8c656024db'" := by decide +kernel
  exact ⟨⟨hex, rfl, short, dashed, by decide⟩, form ▸ texts text hex, digits ▸ bytes bs rfl,
    shownShort ▸ shortTexts _ short, shownDashed ▸ dashedTexts _ dashed, shortBytes [0, 0, 0, 0] (by decide)⟩

end Uuid

end SqlBuilder
