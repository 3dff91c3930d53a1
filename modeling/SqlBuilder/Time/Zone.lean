import SqlBuilder.Time.Moment

/-!
# Time zone texts

The texts that name the offset of a clock: `Z`, or a sign with hours and optional minutes. What
follows them does not count.
-/

namespace SqlBuilder

open Text

/-- The offset in minutes that a time zone text names. -/
def zoneMinutes? (zone : String) : Option Int :=
  if zone == "Z" then some 0
  else match zone.toList with
    | sign :: a :: b :: rest =>
      if (sign == '+' || sign == '-' || isBlank sign) && isDigit a && isDigit b then
        let tail := match rest with
          | ':' :: rest => rest
          | rest => rest
        let minutes := match tail with
          | c :: d :: _ => if isDigit c && isDigit d then digitsValue [c, d] else 0
          | _ => 0
        let size : Int := (digitsValue [a, b] * 60 + minutes : Nat)
        some (if sign == '-' then -size else size)
      else none
    | _ => none

end SqlBuilder
