import SqlBuilder.Text.Basic

/-!
# Identifier quoting

A delimited identifier stands between an opening and a closing quote, and a closing quote inside it is
written twice. The projection of all columns, `*`, is never quoted.
-/

namespace SqlBuilder

/-- The quotes around one identifier segment. -/
structure Quoting where
  openQuote : String := "\""
  closeQuote : String := "\""
  /-- Both quotes are texts. A closing quote that is none cannot be written twice, so that nothing
  but the projection of all columns can be written. -/
  areTexts : Bool := true
  deriving DecidableEq, Inhabited

namespace Quoting

/-- Whether a segment can be written. -/
def canQuote (q : Quoting) (segment : String) : Bool :=
  q.areTexts || segment = "*"

/-- Writes one segment as a delimited identifier. -/
def quote (q : Quoting) (segment : String) : String :=
  if segment = "*" then segment
  else q.openQuote ++ Text.replace segment q.closeQuote (q.closeQuote ++ q.closeQuote) ++ q.closeQuote

/-- The text between the quotes, where `cut` drops as many characters as the closing quote has. -/
def inner (q : Quoting) (cs : List Char) : List Char :=
  let width := q.closeQuote.length
  let stop := if width = 0 then 0 else cs.length - width
  (cs.take stop).drop q.openQuote.length

/-- The segment that a delimited identifier stands for; any other text stands for itself. -/
def unquote (q : Quoting) (text : String) : String :=
  if Text.startsWith text q.openQuote && Text.endsWith text q.closeQuote then
    String.ofList (Text.replaceAll (q.closeQuote ++ q.closeQuote).toList q.closeQuote.toList
      (q.inner text.toList))
  else text

end Quoting

end SqlBuilder
