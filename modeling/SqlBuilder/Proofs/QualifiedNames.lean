import SqlBuilder.Proofs.ConstraintNames
import SqlBuilder.Proofs.Results

/-!
# Names in a schema

A name in a schema is written with a dot behind the name of the schema, and read again as the two segments: each
is one delimited identifier, without the blanks around it.

* `SingleName`: names of one segment, without an alias.
* `Scope.segmentSql`, `Scope.nameIn`: a segment, and a name in a schema.
* `Scope.Quotes.wrapString_nameIn`: a name in a schema is rendered as the two segments.
-/

namespace SqlBuilder

namespace Text

theorem isBlank_head_dropWhile (cs : List Char) : ∀ c ∈ (cs.dropWhile isBlank).head?, isBlank c = false := by
  intro c first
  have begins := List.head?_dropWhile_not isBlank cs
  rwa [first] at begins

/-- A text without the blanks around it has none around it. -/
theorem stripChars_stripChars (cs : List Char) : stripChars (stripChars cs) = stripChars cs := by
  rcases List.eq_nil_or_concat (stripChars cs) with none_ | ⟨front, x, whole⟩
  · rw [none_]
    rfl
  · rw [List.concat_eq_append] at whole
    have back : ((cs.dropWhile isBlank).reverse.dropWhile isBlank).reverse = front ++ [x] := whole
    rw [whole]
    refine stripChars_of_ends (fun c first => ?_) ?_
    · -- it is a beginning of what follows the first blanks
      obtain ⟨rest, split⟩ : front ++ [x] <+: cs.dropWhile isBlank := by
        rw [← back, ← List.reverse_suffix, List.reverse_reverse]
        exact List.dropWhile_suffix isBlank
      refine isBlank_head_dropWhile cs c ?_
      rw [← split, Option.mem_def, List.head?_append, first]
      rfl
    · refine isBlank_head_dropWhile (cs.dropWhile isBlank).reverse x ?_
      rw [List.reverse_eq_iff.mp back]
      simp

theorem hasAlias_iff {cs : List Char} : hasAlias cs = false ↔ ¬ Scope.aliasMark <:+: cs.map Char.toLower := by
  refine ⟨fun h => ?_, hasAlias_of_not_infix⟩
  have missing := findInfix_of_hasAlias h
  rw [findInfix_lowerChars, Option.map_eq_none_iff] at missing
  exact findInfix_eq_none.mp missing

/-- A name in a schema has no alias if neither of the two has one. -/
theorem hasAlias_dotted {front cs : List Char} (h : hasAlias front = false) (h' : hasAlias cs = false) :
    hasAlias (front ++ '.' :: cs) = false := by
  rw [hasAlias_iff, List.map_append, List.map_cons]
  intro within
  rcases infix_or_infix_of_mark (by decide) within with first | second
  · exact hasAlias_iff.mp h first
  · exact hasAlias_iff.mp h' second

/-- A part of a name without an alias has none either. -/
theorem hasAlias_of_infix {part cs : List Char} (within : part <:+: cs) (h : hasAlias cs = false) :
    hasAlias part = false :=
  hasAlias_iff.mpr fun found => hasAlias_iff.mp h (found.trans (within.map Char.toLower))

theorem splitOn_dotted {front cs : List Char} (outer : '.' ∉ front) (inner : '.' ∉ cs) :
    splitOn '.' (front ++ '.' :: cs) = [front, cs] := by
  induction front with
  | nil => simp [splitOn, splitOn_of_notMem inner]
  | cons c front ih =>
    obtain ⟨first, rest⟩ := not_or.mp (mt List.mem_cons.mpr outer)
    rw [List.cons_append, splitOn, if_neg (Ne.symm first), ih rest]

end Text

/-- A name of one segment without an alias. -/
structure SingleName (name : String) : Prop where
  undotted : '.' ∉ name.toList
  unaliased : Text.hasAlias name.toList = false

instance (name : String) : Decidable (SingleName name) :=
  decidable_of_iff ('.' ∉ name.toList ∧ Text.hasAlias name.toList = false) ⟨fun ⟨a, b⟩ => ⟨a, b⟩, fun ⟨a, b⟩ => ⟨a, b⟩⟩

namespace Scope

variable {s : Scope}

/-- A segment of a name, as it is quoted. -/
def segmentSql (s : Scope) (name : String) : Sql :=
  [.name s.capabilities.quoting (String.ofList (Text.stripChars name.toList))]

/-- A name in a schema, as the two are quoted. -/
def nameIn (s : Scope) (schema name : String) : Sql :=
  s.segmentSql schema ++ Sql.word "." ++ s.segmentSql name

namespace Quotes

variable (h : s.Quotes)

include h

theorem segment_eq (cs : List Char) :
    s.segment cs = pure [.name s.capabilities.quoting (String.ofList (Text.stripChars cs))] := by
  unfold segment identifier delimited
  simp only [h.unhooked, Quoting.canQuote, h.textual, Bool.true_or, if_true]

/-- A name of one segment is one delimited identifier. -/
theorem wrapString_single {name : String} (single : SingleName name) :
    s.wrapString name = pure (s.segmentSql name) := by
  unfold wrapString wrapFrom
  simp only [Text.findInfix_of_hasAlias single.unaliased, Text.splitOn_of_notMem single.undotted]
  rw [List.mapM_cons, h.segment_eq]
  rfl

/-- A name in a schema is rendered as the two segments. -/
theorem wrapString_nameIn {schema name : String} (outer : SingleName schema) (inner : SingleName name) :
    s.wrapString (schema ++ "." ++ name) = pure (s.nameIn schema name) := by
  have chars : (schema ++ "." ++ name).toList = schema.toList ++ '.' :: name.toList := by simp
  have unaliased := Text.hasAlias_dotted outer.unaliased inner.unaliased
  -- the rendering recurs on the first segment
  have first : Text.hasAlias (Text.stripChars schema.toList) = false :=
    Text.hasAlias_of_infix (Text.stripChars_infix _) outer.unaliased
  have undotted : '.' ∉ Text.stripChars schema.toList := mt Text.mem_of_mem_stripChars outer.undotted
  unfold wrapString
  rw [chars, List.length_append, List.length_cons, ← Nat.add_assoc, wrapFrom]
  simp only [Text.findInfix_of_hasAlias unaliased, Text.splitOn_dotted outer.undotted inner.undotted]
  rw [wrapFrom]
  simp only [Text.findInfix_of_hasAlias first, Text.splitOn_of_notMem undotted, List.mapM_cons, h.segment_eq,
    Text.stripChars_stripChars]
  rfl

end Quotes

end Scope

end SqlBuilder
