import Mathlib.Algebra.GroupWithZero.Nat
import Mathlib.Data.List.Basic
import SqlBuilder.Text.Basic

/-!
# Numbers in digits

Numbers are written in decimal digits, with zeros before them where they have to fill a width, and are read back from
these.

* `Text.isDigit_of_mem_repr`, `mem_toString_int`: the characters of a number.
* `Text.digitsValue_repr`, `Text.digitsValue_padded`: a number is read back from its digits.
-/

namespace SqlBuilder

namespace Text

/-- A number is written with digits. -/
theorem isDigit_of_mem_repr {n : Nat} {c : Char} (h : c ∈ n.repr.toList) : c.isDigit = true := by
  rw [Nat.toList_repr] at h
  exact Nat.isDigit_of_mem_toDigits (by decide) (by decide) h

/-- Digits of the usual script have the usual values. -/
theorem digitValue?_of_isDigit {c : Char} (digit : c.isDigit = true) : digitValue? c = some (c.toNat - 48) := by
  have ascii : c.toNat < 128 := Nat.lt_of_le_of_lt (Char.isDigit_iff_toNat.mp digit).2 (by decide)
  simp [digitValue?, ascii, digit]

theorem digitsValue_eq {cs : List Char} (digits : ∀ c ∈ cs, c.isDigit = true) :
    digitsValue cs = Nat.ofDigitChars 10 cs 0 := by
  rw [Nat.ofDigitChars_eq_foldl, digitsValue]
  refine List.foldl_ext _ _ _ fun n c hc => ?_
  have zero : '0'.toNat = 48 := rfl
  rw [digitValue?_of_isDigit (digits c hc), zero, Nat.mul_comm, Option.getD_some]

/-- A number is read back from its digits. -/
theorem digitsValue_repr (n : Nat) : digitsValue n.repr.toList = n := by
  rw [digitsValue_eq fun c hc => isDigit_of_mem_repr hc, Nat.toList_repr]
  exact Nat.ofDigitChars_ten_toDigits

/-! ## Numbers of a width -/

theorem toList_padded (width n : Nat) :
    (padded width n).toList = List.replicate (width - n.repr.length) '0' ++ n.repr.toList := by
  rw [padded, String.toList_append, String.toList_ofList]
  rfl

theorem isDigit_of_mem_padded {width n : Nat} {c : Char} (h : c ∈ (padded width n).toList) : c.isDigit = true := by
  rw [toList_padded] at h
  rcases List.mem_append.mp h with zero | digit
  · rw [(List.mem_replicate.mp zero).2]
    rfl
  · exact isDigit_of_mem_repr digit

/-- A number that is not too long fills its width. -/
theorem length_padded {width n : Nat} (filled : 0 < width) (fits : n < 10 ^ width) :
    (padded width n).toList.length = width := by
  have short : n.repr.length ≤ width := by
    rw [← String.length_toList, Nat.toList_repr]
    exact (Nat.length_toDigits_le_iff (by decide) filled).mpr fits
  rw [toList_padded, List.length_append, List.length_replicate, String.length_toList]
  omega

/-- A number is read back from its digits with the zeros before them. -/
theorem digitsValue_padded (width n : Nat) : digitsValue (padded width n).toList = n := by
  have digits : ∀ c ∈ (padded width n).toList, c.isDigit = true := fun c hc => isDigit_of_mem_padded hc
  rw [digitsValue_eq digits, toList_padded, Nat.ofDigitChars_append, Nat.ofDigitChars_replicate_zero, Nat.mul_zero,
    ← digitsValue_eq fun c hc => isDigit_of_mem_repr hc, digitsValue_repr]

end Text

/-- A whole number is written with digits, after a sign if it is negative. -/
theorem mem_toString_int {n : Int} {c : Char} (h : c ∈ (toString n).toList) : c = '-' ∨ c.isDigit = true := by
  cases n with
  | ofNat m => exact .inr (Text.isDigit_of_mem_repr h)
  | negSucc m =>
    have split : toString (Int.negSucc m) = "-" ++ (m + 1).repr := rfl
    rw [split, String.toList_append] at h
    rcases List.mem_append.mp h with h | h
    · exact .inl (by simpa using h)
    · exact .inr (Text.isDigit_of_mem_repr h)

end SqlBuilder
