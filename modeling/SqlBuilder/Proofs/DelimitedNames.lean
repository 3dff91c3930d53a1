import SqlBuilder.Proofs.Injection
import SqlBuilder.Proofs.NameRecursion

/-!
# Delimited identifiers read back

A delimited identifier can be read back in two ways: by taking the quotes off a text that is nothing but
one, and by a reader that goes from the left up to the closing quote and knows where the name ends whatever
follows, unless it is another closing quote.

* `Quotes.delimited?`: the name at the start of a text, and what follows it.
* `Quotes.delimited?_iff`: a text that is read so is a delimited identifier, and is read in no other way.
* `Quoting.quote_decodable`: every segment is read back from the identifier that it is written as.
-/

namespace SqlBuilder

/-! ## A reader -/

/-- The name up to a closing quote, which is written twice inside, and what follows. -/
def closed? (right : Char) : List Char → Option (List Char × List Char)
  | [] => none
  | [c] => if c = right then some ([], []) else none
  | c :: d :: cs =>
    if c ≠ right then (closed? right (d :: cs)).map fun (name, rest) => (c :: name, rest)
    else if d = right then (closed? right cs).map fun (name, rest) => (c :: name, rest)
    else some ([], d :: cs)

/-- The name in the delimited identifier at the start of a text, and what follows. -/
def Quotes.delimited? (q : Quotes) (text : String) : Option (String × String) :=
  match text.toList with
  | [] => none
  | c :: cs =>
    if c = q.left then (closed? q.right cs).map fun (name, rest) => (String.ofList name, String.ofList rest)
    else none

theorem doubled_cons (right c : Char) (cs : List Char) :
    doubled right (c :: cs) = (if c = right then [c, c] else [c]) ++ doubled right cs := rfl

/-- What is read up to a closing quote is a name with its closing quotes written twice, and a single one. -/
theorem closed?_iff {right : Char} {cs name rest : List Char} :
    closed? right cs = some (name, rest) ↔
      cs = doubled right name ++ right :: rest ∧ rest.head? ≠ some right := by
  -- By the recursion of the reader; the first character of the name says which case it was read in.
  fun_induction closed? right cs generalizing name with
  | case1 => simp
  | case2 =>
    cases name with
    | nil => simp +contextual [doubled, eq_comm]
    | cons c name =>
      rw [doubled_cons]
      split <;> simp
  | case3 c ne =>
    cases name with
    | nil => simp [doubled, ne]
    | cons d name =>
      rw [doubled_cons]
      split <;> simp
  | case4 c d cs ne ih =>
    cases name with
    | nil => simp [doubled, ne]
    | cons e name =>
      rw [doubled_cons]
      by_cases same : c = e
      · subst same
        simp [ne, ih]
      · split <;> simp [same]
  | case5 c cs eq ih =>
    obtain rfl : c = right := not_not.mp eq
    cases name with
    | nil =>
      have after : c :: cs = rest → rest.head? = some c := by rintro rfl; rfl
      simpa [doubled] using after
    | cons d name =>
      rw [doubled_cons]
      by_cases same : d = c
      · simp [same, ih]
      · simp [same, Ne.symm same]
  | case6 c d cs eq ne =>
    obtain rfl : c = right := not_not.mp eq
    cases name with
    | nil =>
      have after : d :: cs = rest → rest.head? ≠ some c := by rintro rfl; simpa using ne
      simpa [doubled, eq_comm] using after
    | cons e name =>
      rw [doubled_cons]
      by_cases same : e = c
      · simp [same, ne]
      · simp [same, Ne.symm same]

/-- A text that is read as a delimited identifier is one, and is read in no other way. -/
theorem Quotes.delimited?_iff {q : Quotes} {text name rest : String} :
    q.delimited? text = some (name, rest) ↔
      text.toList = q.left :: doubled q.right name.toList ++ q.right :: rest.toList ∧
        rest.toList.head? ≠ some q.right := by
  unfold Quotes.delimited?
  cases text.toList with
  | nil => simp
  | cons c cs =>
    by_cases left : c = q.left
    · have read : ((closed? q.right cs).map fun (name, rest) => (String.ofList name, String.ofList rest)) =
          some (name, rest) ↔ closed? q.right cs = some (name.toList, rest.toList) := by
        constructor
        · intro h
          obtain ⟨⟨cs, ds⟩, found, eq⟩ := Option.map_eq_some_iff.mp h
          cases eq
          simpa using found
        · intro h
          simp [h]
      simp [left, read, closed?_iff]
    · simp [left]

/-! ## Quotes taken off -/

/-- Two closing quotes in a row become one again. -/
theorem replaceFrom_doubled (right : Char) (cs : List Char) :
    Text.replaceFrom [right, right] [right] 0 (doubled right cs) = cs := by
  induction cs with
  | nil => rfl
  | cons c cs ih =>
    rw [doubled_cons]
    by_cases quote : c = right
    · simp [quote, Text.replaceFrom, Text.dropStart?, ih]
    · simp [quote, Text.replaceFrom, Text.dropStart?, Ne.symm quote, ih]

variable {quoting : Quoting} {q : Quotes}

/-- A segment is the unquoted form of the identifier that it is written as. -/
theorem Quoting.unquote_quote (left : quoting.openQuote = String.singleton q.left)
    (right : quoting.closeQuote = String.singleton q.right) (star : q.left ≠ '*') (segment : String) :
    quoting.unquote (quoting.quote segment) = segment := by
  by_cases all : segment = "*"
  · -- the projection of all columns has no quotes to take off
    have kept : quoting.quote segment = "*" := by rw [all]; rfl
    have bare : Text.startsWith "*" quoting.openQuote = false := by
      simp [Text.startsWith, left, Text.dropStart?, star]
    rw [kept, Quoting.unquote, bare, all]
    rfl
  · have written := toList_quote left right all
    have opens : Text.startsWith (quoting.quote segment) quoting.openQuote = true := by
      rw [Text.startsWith, Text.dropStart?_isSome, written, left]
      simp
    have closes : Text.endsWith (quoting.quote segment) quoting.closeQuote = true := by
      rw [Text.endsWith, Text.dropStart?_isSome, written, right]
      simp
    have inside : quoting.inner (quoting.quote segment).toList = doubled q.right segment.toList := by
      rw [written, Quoting.inner, left, right]
      simp
    rw [Quoting.unquote, opens, closes, Bool.and_self, if_pos rfl, inside, right]
    simp [Text.replaceAll, replaceFrom_doubled]

/-- A reader takes exactly the identifier from the front of a text and finds the segment in it. -/
theorem Quoting.delimited?_quote (left : quoting.openQuote = String.singleton q.left)
    (right : quoting.closeQuote = String.singleton q.right) {segment rest : String} (all : segment ≠ "*")
    (follows : rest.toList.head? ≠ some q.right) :
    q.delimited? (quoting.quote segment ++ rest) = some (segment, rest) := by
  refine Quotes.delimited?_iff.mpr ⟨?_, follows⟩
  rw [String.toList_append, toList_quote left right all]
  simp

/-- A segment is read back from the identifier that it is written as: by taking the quotes off, and by a
reader that stops right behind it, so that no two segments are written in the same way. -/
theorem Quoting.quote_decodable (left : quoting.openQuote = String.singleton q.left)
    (right : quoting.closeQuote = String.singleton q.right) (star : q.left ≠ '*') :
    (∀ segment, quoting.unquote (quoting.quote segment) = segment) ∧
      (∀ segment rest, segment ≠ "*" → rest.toList.head? ≠ some q.right →
        q.delimited? (quoting.quote segment ++ rest) = some (segment, rest)) ∧
      Function.Injective quoting.quote := by
  have back : Function.LeftInverse quoting.unquote quoting.quote := unquote_quote left right star
  exact ⟨back, fun _ _ => delimited?_quote left right, back.injective⟩

/-- Names in brackets, of which only the closing one is written twice. -/
theorem Quoting.brackets_decodable :
    let brackets : Quoting := { openQuote := "[", closeQuote := "]" }
    (brackets.openQuote = String.singleton '[' ∧ brackets.closeQuote = String.singleton ']' ∧ '[' ≠ '*') ∧
      brackets.quote "a]][b" = "[a]]]][b]" ∧ brackets.unquote "[a]]]][b]" = "a]][b" ∧
      Quotes.delimited? ⟨'[', ']'⟩ ("[a]]]][b]" ++ ".[c]") = some ("a]][b", ".[c]") := by
  intro brackets
  have decodes := @quote_decodable brackets ⟨'[', ']'⟩ rfl rfl (by decide)
  have written : brackets.quote "a]][b" = "[a]]]][b]" := by decide
  exact ⟨⟨rfl, rfl, by decide⟩, written, written ▸ decodes.1 "a]][b",
    written ▸ decodes.2.1 "a]][b" ".[c]" (by decide) (by decide)⟩

end SqlBuilder
