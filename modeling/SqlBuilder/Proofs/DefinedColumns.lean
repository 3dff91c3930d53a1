import SqlBuilder.Proofs.Positions
import SqlBuilder.Proofs.WrittenOut
import SqlBuilder.Schema.Column

/-!
# Columns without question marks

A column definition has no question marks where its name, its sizes, its default and whatever else it is made
from are written without them. The statements that it asks for have none either, so that they have no
placeholders, as they have no values.

* `Ddl.Maintains`: a step that adds statements with a property.
* `Compiled.Marked`: a statement whose question marks are the placeholders of its values.
* `Ddl.Marks`: a step that adds such statements.
* `ColumnType.Clean`, `Column.Clean`: what a column is made from is written without question marks.
* `Scope.columnText_marks`: a column definition, and the statements that it asks for.
-/

namespace SqlBuilder

/-! ## Statements -/

/-- The statements that a step adds have a property, and it keeps one of the progress; its result has a property. -/
def Ddl.Maintains {α : Type} (P : Compiled Value → Prop) (I : Progress → Prop) (step : Ddl α) (Q : α → Prop) : Prop :=
  ∀ statements p a statements' p', (∀ c ∈ statements, P c) → I p → step statements p = .ok (a, statements') p' →
    (∀ c ∈ statements', P c) ∧ I p' ∧ Q a

namespace Ddl.Maintains

variable {α β : Type} {P : Compiled Value → Prop} {I : Progress → Prop} {Q : α → Prop} {R : β → Prop}

protected theorem pure {a : α} (h : Q a) : Maintains P I (pure a) Q := by
  rintro statements p _ _ _ all holds ⟨⟩
  exact ⟨all, holds, h⟩

protected theorem throw (e : Error) : Maintains P I (throw e : Ddl α) Q := by
  rintro statements p _ _ _ - - ⟨⟩

theorem bind {step : Ddl β} {f : β → Ddl α} (hs : Maintains P I step R) (h : ∀ b, R b → Maintains P I (f b) Q) :
    Maintains P I (step >>= f) Q := by
  intro statements p a statements' p' all holds run
  obtain ⟨⟨b, added⟩, q, first, rest⟩ := Compile.bind_ok.mp run
  obtain ⟨all', holds', result⟩ := hs _ _ _ _ _ all holds first
  exact h b result _ _ _ _ _ all' holds' rest

/-- A compilation adds nothing. -/
theorem lift {c : Compile α} (h : ∀ p a p', I p → c p = .ok a p' → I p' ∧ Q a) : Maintains P I (liftM c) Q := by
  intro statements p a statements' p' all holds run
  obtain ⟨b, q, first, rest⟩ := Compile.bind_ok.mp run
  obtain ⟨⟨⟩, rfl⟩ := Compile.pure_ok.mp rest
  obtain ⟨kept, result⟩ := h _ _ _ holds first
  exact ⟨all, kept, result⟩

/-- A step that is made if a condition holds, with what comes after it. -/
theorem optional {condition : Prop} [Decidable condition] {step : Ddl Unit} (hs : Maintains P I step fun _ => True)
    {k : Unit → Ddl α} (hk : Maintains P I (k ()) Q) :
    Maintains P I (have k := k; if condition then step >>= fun r => k r else k ()) Q := by
  simp only
  split
  · exact hs.bind fun _ _ => hk
  · exact hk

theorem mapM {f : β → Ddl α} {bs : List β} (h : ∀ b ∈ bs, Maintains P I (f b) Q) :
    Maintains P I (bs.mapM f) fun as => ∀ a ∈ as, Q a := by
  induction bs with
  | nil => exact .pure nofun
  | cons b bs ih =>
    rw [List.mapM_cons]
    refine (h b (.head _)).bind fun a ha => ?_
    refine (ih fun b hb => h b (.tail _ hb)).bind fun as has => .pure ?_
    exact List.forall_mem_cons.mpr ⟨ha, has⟩

theorem forM {f : β → Ddl Unit} {bs : List β} (h : ∀ b ∈ bs, Maintains P I (f b) fun _ => True) :
    Maintains P I (bs.forM f) fun _ => True := by
  induction bs with
  | nil => exact .pure trivial
  | cons b bs ih =>
    change Maintains P I (f b >>= fun _ => bs.forM f) _
    exact (h b (.head _)).bind fun _ _ => ih fun b hb => h b (.tail _ hb)

end Ddl.Maintains

/-- The question marks of a statement are the placeholders of its values. -/
structure Compiled.Marked (c : Compiled Value) : Prop where
  marks : marksFrom 0 c.sql.toList = c.bindings.length
  escapes : escapesFrom 0 c.sql.toList = 0

/-- A step adds statements whose question marks are the placeholders of their values, and leaves nothing bound
if nothing is bound before it; its result has a property. -/
def Ddl.Marks {α : Type} (step : Ddl α) (P : α → Prop) : Prop :=
  ∀ statements p a statements' p', (∀ c ∈ statements, Compiled.Marked c) → p.bound = [] →
    step statements p = .ok (a, statements') p' → (∀ c ∈ statements', Compiled.Marked c) ∧ p'.bound = [] ∧ P a

namespace Ddl.Marks

variable {α β : Type} {P : α → Prop}

protected theorem pure {a : α} (h : P a) : Marks (pure a) P :=
  Maintains.pure h

protected theorem throw (e : Error) : Marks (throw e) P :=
  Maintains.throw e

theorem bind {Q : β → Prop} {step : Ddl β} {f : β → Ddl α} (hs : Marks step Q) (h : ∀ b, Q b → Marks (f b) P) :
    Marks (step >>= f) P :=
  Maintains.bind hs h

theorem have_ {x : β} {body : β → Ddl α} (h : Marks (body x) P) : Marks (have y := x; body y) P :=
  h

/-- A compilation that binds nothing adds nothing. -/
theorem lift {c : Compile α} (h : c.Quiet P) : Marks (liftM c) P := by
  refine Maintains.lift fun p a p' bound run => ?_
  obtain ⟨kept, result⟩ := h p a p' run
  exact ⟨kept.trans bound, result⟩

/-- A step that is made if a condition holds, with what comes after it. -/
theorem optional {condition : Prop} [Decidable condition] {step : Ddl Unit} (hs : Marks step fun _ => True)
    {k : Unit → Ddl α} (hk : Marks (k ()) P) :
    Marks (have k := k; if condition then step >>= fun r => k r else k ()) P :=
  Maintains.optional hs hk

theorem mapM {f : β → Ddl α} {bs : List β} (h : ∀ b ∈ bs, Marks (f b) P) :
    Marks (bs.mapM f) fun as => ∀ a ∈ as, P a :=
  Maintains.mapM h

theorem forM {f : β → Ddl Unit} {bs : List β} (h : ∀ b ∈ bs, Marks (f b) fun _ => True) :
    Marks (bs.forM f) fun _ => True :=
  Maintains.forM h

end Ddl.Marks

/-- The placeholders of a fragment of which no value lost its place are as many as its values, and there are no
other question marks. -/
theorem Sql.marks_text {sql : Sql} (h : ∀ piece ∈ sql, piece.Slotted) (kept : ∀ v, .stray v ∉ sql) :
    marksFrom 0 sql.text.toList = sql.bindings.length ∧ sql.text.toList.count '?' = sql.bindings.length := by
  induction sql with
  | nil => exact ⟨rfl, rfl⟩
  | cons piece sql ih =>
    have split : Sql.text (piece :: sql) = piece.text ++ Sql.text sql := by simp [Sql.text]
    obtain ⟨marks, count⟩ := ih (fun piece hp => h piece (.tail _ hp)) fun v within => kept v (.tail _ within)
    rw [split, String.toList_append, List.count_append, bindings_cons, List.length_append]
    rcases h piece (.head _) with ⟨v, rfl⟩ | ⟨unmarked, settled⟩
    · have slot : (Piece.param v).text.toList = ['?'] := by simp [Piece.text]
      rw [slot, List.singleton_append]
      simp [marksFrom, Piece.binding?, marks, count, Nat.add_comm]
    · have silent : piece.binding? = none := by
        cases piece with
        | param v => exact absurd unmarked (by simp [Text.Unmarked, Piece.text])
        | stray v => exact absurd (.head _) (kept v)
        | _ => rfl
      rw [marksFrom_append _ ⟨settled, fun _ => rfl⟩, marksFrom_of_plain unmarked, List.count_eq_zero_of_not_mem unmarked,
        silent, marks, count]
      simp

namespace Scope

variable {s : Scope}

/-- A text without question marks makes a statement without placeholders. -/
theorem marked_of_unmarked {method : String} {sql : Sql} {output : Option Output} (h : sql.Unmarked) :
    (s.statementOf method sql [] output).Marked where
  marks := marksFrom_of_plain h 0
  escapes := by
    have none_ := count_question 0 sql.text.toList
    rw [List.count_eq_zero_of_not_mem h] at none_
    exact (Nat.add_eq_zero_iff.mp none_.symm).2

theorem pushWith_maintains {P : Compiled Value → Prop} {I : Progress → Prop} {method : String} {sql : Sql}
    {bindings : List Value} {output : Option Output} (h : P (s.statementOf method sql bindings output))
    (unbound : ∀ p, I p → I { p with bound := [] }) :
    (s.pushWith method sql bindings output).Maintains P I fun _ => True := by
  intro statements p a statements' p' all holds run
  unfold pushWith at run
  split at run
  · cases run
    exact ⟨all, holds, trivial⟩
  · cases run
    exact ⟨List.forall_mem_append.mpr ⟨all, List.forall_mem_singleton.mpr h⟩, unbound p holds, trivial⟩

theorem pushFirst_maintains {P : Compiled Value → Prop} {I : Progress → Prop} {method : String} {sql : Sql}
    (h : P (s.statementOf method sql [])) : (s.pushFirst method sql).Maintains P I fun _ => True := by
  rintro statements p _ _ _ all holds ⟨⟩
  exact ⟨List.forall_mem_cons.mpr ⟨h, all⟩, holds, trivial⟩

theorem pushWith_marks {method : String} {sql : Sql} {bindings : List Value} {output : Option Output}
    (h : (s.statementOf method sql bindings output).Marked) :
    (s.pushWith method sql bindings output).Marks fun _ => True :=
  pushWith_maintains h fun _ _ => rfl

/-- Adds a statement whose values are those of its own placeholders. -/
theorem pushBound_marks {method : String} {sql : Sql} (h : ∀ piece ∈ sql, piece.Slotted)
    (kept : ∀ v, .stray v ∉ sql) : (s.pushBound method sql).Marks fun _ => True := by
  obtain ⟨marks, count⟩ := Sql.marks_text h kept
  have each := count_question 0 sql.text.toList
  refine pushWith_marks ⟨marks, ?_⟩
  change escapesFrom 0 sql.text.toList = 0
  omega

/-- Adds a statement whose text has no question marks. -/
theorem push_marks {method : String} {sql : Sql} {output : Option Output} (h : sql.Unmarked) :
    (s.push method sql output).Marks fun _ => True := by
  intro statements p a statements' p' marked bound run
  have pushed : s.pushWith method sql p.bound output statements p = .ok (a, statements') p' := run
  rw [bound] at pushed
  exact pushWith_marks (marked_of_unmarked h) _ _ _ _ _ marked bound pushed

theorem pushFirst_marks {method : String} {sql : Sql} (h : sql.Unmarked) :
    (s.pushFirst method sql).Marks fun _ => True :=
  pushFirst_maintains (marked_of_unmarked h)

end Scope

/-! ## Types -/

/-- The sizes, the names and the values of a column type are written without question marks. -/
def ColumnType.Clean (s : Scope) : ColumnType Value → Prop
  | .integer size | .tinyint size | .varchar size | .binary size | .datetime _ size | .timestamp _ size
  | .specific size => s.Displays size
  | .floating precision scale | .double precision scale => s.Displays precision ∧ s.Displays scale
  | .enumeration values native name =>
    (∀ v ∈ values, s.Spells v ∧ s.Displays v) ∧ (native = true → s.Names name)
  | _ => True

namespace Grammar

theorem unmarked_incrementsWord (g : Grammar) (big key : Bool) : Text.Unmarked (g.incrementsWord big key) := by
  have primary : Text.Unmarked (if key then " primary key" else "") := by cases key <;> decide
  unfold incrementsWord
  cases g <;> cases big <;> simp only [Text.unmarked_append, primary] <;> decide

theorem unmarked_mediumWord (g : Grammar) : Text.Unmarked g.mediumWord := by
  cases g <;> decide

theorem unmarked_textWord (g : Grammar) : Text.Unmarked g.textWord := by
  cases g <;> decide

theorem unmarked_jsonWord (g : Grammar) (binary : Bool) : Text.Unmarked (g.jsonWord binary) := by
  cases g <;> cases binary <;> decide

theorem unmarked_uuidWord (g : Grammar) (binary : Bool) : Text.Unmarked (g.uuidWord binary) := by
  cases g <;> cases binary <;> decide

theorem unmarked_floatWord (g : Grammar) (double : Bool) : Text.Unmarked (g.floatWord double) := by
  cases g <;> cases double <;> decide

end Grammar

namespace Scope

variable {s : Scope}

theorem sized_quiet {word : String} (hw : Text.Unmarked word) {sizes : List Value}
    (h : ∀ size ∈ sizes, s.Displays size) : (s.sized word sizes).Quiet Sql.Unmarked := by
  refine (Compile.Quiet.mapM fun size hs => (h size hs).given).bind fun sqls hs => .pure ?_
  simp [hw, Sql.unmarked_commas hs]

theorem sizedIf_quiet {word : String} (hw : Text.Unmarked word) {size : Value} (h : s.Displays size)
    (condition : Bool) : (s.sizedIf condition word size).Quiet Sql.Unmarked := by
  unfold sizedIf
  split
  · exact sized_quiet hw (by simpa using h)
  · exact .pure (Sql.unmarked_word.mpr hw)

theorem wholeSize_quiet (size : Value) (usual : Int) : (wholeSize size usual).Quiet Sql.Unmarked := by
  unfold wholeSize
  split
  · exact .pure (Sql.unmarked_number _)
  · exact .pure (Sql.unmarked_number _)
  · exact .throw _

theorem membershipTest_quiet {column : Value} (hc : s.Names column) {word : String} (hw : Text.Unmarked word)
    {values : List Value} (hv : ∀ v ∈ values, s.Spells v) :
    (s.membershipTest column word values).Quiet Sql.Unmarked := by
  refine hc.wrap.bind fun name hn => (literals_quiet hv).bind fun list hl => .pure ?_
  simp [hn, hw, hl]

theorem floatType_quiet {double : Bool} {precision scale : Value} (hp : s.Displays precision)
    (hs : s.Displays scale) : (s.floatType double precision scale).Quiet Sql.Unmarked := by
  have usual : s.Displays (.int 2) := displays_of_text rfl (by decide)
  have present {v w : Value} (h : s.Displays v) (found : v.present? = some w) : s.Displays w := by
    unfold Value.present? at found
    split at found
    · cases found
    · cases found
      exact h
  unfold floatType
  simp only
  split
  next given found =>
    refine sized_quiet (Grammar.unmarked_floatWord _ _) ?_
    simp only [List.mem_cons, List.not_mem_nil, or_false]
    rintro size (rfl | rfl)
    · exact present hp found
    · cases given : scale.present? with
      | none => exact usual
      | some size => exact present hs given
  · exact .pure (Sql.unmarked_word.mpr (Grammar.unmarked_floatWord _ _))

theorem momentType_quiet {precision : Value} (h : s.Displays precision) (timestamp withZone : Bool) :
    (s.momentType timestamp withZone precision).Quiet Sql.Unmarked := by
  unfold momentType
  simp only
  split
  · exact .pure (by cases timestamp <;> decide)
  · exact .pure (by decide)
  · exact sizedIf_quiet (by cases withZone <;> decide) h _
  · exact sizedIf_quiet (by cases withZone <;> decide) h _
  · exact .pure (by cases withZone <;> decide)
  · exact sizedIf_quiet (by cases timestamp <;> decide) h _
  · refine (sizedIf_quiet (by decide) h _).bind fun base hb => .pure ?_
    exact Sql.unmarked_append.mpr ⟨hb, Sql.unmarked_when (by decide)⟩
  · exact sizedIf_quiet (by cases withZone <;> decide) h _

theorem binaryType_quiet {length : Value} (h : s.Displays length) : (s.binaryType length).Quiet Sql.Unmarked := by
  have sized {word : String} (hw : Text.Unmarked word) : (s.sized word [length]).Quiet Sql.Unmarked :=
    sized_quiet hw (by simpa using h)
  unfold binaryType
  split
  · exact .pure (by decide)
  · exact .pure (by decide)
  · exact .pure (by decide)
  · split
    · exact sized (by decide)
    · exact .pure (by decide)
  · split
    · exact sized (by decide)
    · exact .pure (by decide)
  · exact .pure (by decide)

theorem varcharType_quiet {length : Value} (h : s.Displays length) : (s.varcharType length).Quiet Sql.Unmarked := by
  have sized {word : String} (hw : Text.Unmarked word) : (s.sized word [length]).Quiet Sql.Unmarked :=
    sized_quiet hw (by simpa using h)
  unfold varcharType
  split
  · exact sized (by decide)
  · exact sized (by decide)
  · refine (wholeSize_quiet _ _).bind fun size hs => .pure ?_
    simp +decide [hs]

theorem decimalType_quiet (precision scale : Value) : (decimalType precision scale).Quiet Sql.Unmarked := by
  unfold decimalType
  split
  · exact .pure (by decide)
  · refine (wholeSize_quiet _ _).bind fun first hf => (wholeSize_quiet _ _).bind fun second hs => .pure ?_
    have both : Sql.Unmarked (Sql.commas [first, second]) := Sql.unmarked_commas (by simp [hf, hs])
    simp +decide [both]

theorem testedType_quiet {word : String} (hw : Text.Unmarked word) {column : Value} (hc : s.Names column)
    {values : List Value} (hv : ∀ v ∈ values, s.Spells v) :
    (s.testedType word column values).Quiet Sql.Unmarked := by
  refine (membershipTest_quiet hc (by decide) hv).bind fun test ht => .pure ?_
  simp +decide [hw, ht]

theorem enumerationType_marks {method : String} {column : Value} (hc : s.Names column) {values : List Value}
    {native : Bool} {name : Value} (hv : ∀ v ∈ values, s.Spells v ∧ s.Displays v)
    (hn : native = true → s.Names name) :
    (s.enumerationType method column values native name).Marks Sql.Unmarked := by
  have spells : ∀ v ∈ values, s.Spells v := fun v h => (hv v h).1
  have tested {word : String} (hw : Text.Unmarked word) : (s.testedType word column values).Quiet Sql.Unmarked :=
    testedType_quiet hw hc spells
  unfold enumerationType
  split
  case h_1 | h_2 =>
    split
    · exact .lift (tested (by decide))
    next wanted =>
      split
      · exact .throw _
      · refine .bind (.lift (hn (by simpa using wanted)).wrap) fun name hname => ?_
        refine .bind (.lift (literals_quiet spells)) fun list hl => ?_
        refine .bind (pushFirst_marks ?_) fun _ _ => .pure hname
        simp +decide [hname, hl]
  · exact .pure (by decide)
  · refine .bind (.lift (literals_quiet spells)) fun list hl => .pure ?_
    simp +decide [hl]
  · refine .bind (.mapM (P := fun _ => True) fun v h => ?_) fun lengths _ => .lift (tested ?_)
    · exact .bind (.lift (hv v h).2) fun _ _ => .pure trivial
    · simp only [Text.unmarked_append]
      exact ⟨⟨by decide, Text.unmarked_int (Int.ofNat _)⟩, by decide⟩
  · exact .lift (tested (by decide))
  · exact .lift (tested (by decide))
  · exact .lift (tested (by decide))

/-- A column type, which may ask for a statement that makes it. -/
theorem typeText_marks {method : String} {column : Value} (hc : s.Names column) {type : ColumnType Value}
    (h : type.Clean s) : (s.typeText method column type).Marks Sql.Unmarked := by
  cases type with
  | increments key => exact .pure (Sql.unmarked_word.mpr (Grammar.unmarked_incrementsWord _ _ _))
  | bigIncrements key => exact .pure (Sql.unmarked_word.mpr (Grammar.unmarked_incrementsWord _ _ _))
  | integer size =>
    simp only [typeText]
    split
    · exact .lift (sizedIf_quiet (by decide) h _)
    · exact .pure (by decide)
    · exact .pure (by decide)
  | tinyint size =>
    simp only [typeText]
    split
    · exact .lift (sizedIf_quiet (by decide) h _)
    all_goals exact .pure (by decide)
  | smallint => exact .pure (by decide)
  | mediumint => exact .pure (Sql.unmarked_word.mpr (Grammar.unmarked_mediumWord _))
  | bigInteger => exact .pure (by split <;> decide)
  | text size =>
    simp only [typeText]
    split
    · exact .pure (by decide)
    · exact .pure (by decide)
    · exact .pure (Sql.unmarked_word.mpr (Grammar.unmarked_textWord _))
  | varchar size => exact .lift (varcharType_quiet h)
  | floating precision scale => exact .lift (floatType_quiet h.1 h.2)
  | double precision scale => exact .lift (floatType_quiet h.1 h.2)
  | decimal precision scale => exact .lift (decimalType_quiet precision scale)
  | boolean =>
    simp only [typeText]
    split
    · refine .bind (.lift hc.wrap) fun name hn => .pure ?_
      simp +decide [hn]
    · exact .pure (by decide)
    · exact .pure (by decide)
  | date => exact .pure (by decide)
  | datetime withZone precision => exact .lift (momentType_quiet h _ _)
  | time => exact .pure (by split <;> decide)
  | timestamp withZone precision => exact .lift (momentType_quiet h _ _)
  | binary size => exact .lift (binaryType_quiet h)
  | enumeration values native name => exact enumerationType_marks hc h.1 h.2
  | json => exact .pure (Sql.unmarked_word.mpr (Grammar.unmarked_jsonWord _ _))
  | jsonb => exact .pure (Sql.unmarked_word.mpr (Grammar.unmarked_jsonWord _ _))
  | uuid binary => exact .pure (Sql.unmarked_word.mpr (Grammar.unmarked_uuidWord _ _))
  | specific name => exact .lift (Displays.given h)

end Scope

/-! ## Checks -/

namespace Scope

/-- A name that is left out if it is not given is written without question marks. -/
def NamesIfGiven (s : Scope) (name : Value) : Prop :=
  name.isTruthy = true → s.Names name

/-- The two ends of a range are literals without question marks. -/
def SpellsRange (s : Scope) (range : Value) : Prop :=
  ∀ low high, range.pair = .ok (low, high) → s.Spells low ∧ s.Spells high

/-- The ends of a range, or of several ranges, are literals without question marks. -/
structure SpellsRanges (s : Scope) (ranges : Value) : Prop where
  one : s.SpellsRange ranges
  several : ∀ items, ranges.items = .ok items → ∀ range ∈ items, s.SpellsRange range

/-- The default of a column is written without question marks. -/
def Defaults (s : Scope) (c : Column Value) (v : Value) : Prop :=
  if v.isRaw then s.Inlines (s.source v .null)
  else
    match c.type.isJson, v with
    | true, .list _ | true, .map _ => (v.json Value.noForeign).Quiet Text.Unmarked
    | _, v => s.Spells v

end Scope

/-- What the checks of a column compare with, and their names, are written without question marks. -/
structure ColumnChecks.Clean (s : Scope) (k : ColumnChecks Value) : Prop where
  positive : ∀ name ∈ k.positive, s.NamesIfGiven name
  negative : ∀ name ∈ k.negative, s.NamesIfGiven name
  isIn : ∀ check ∈ k.isIn, (∀ v ∈ check.1, s.Spells v) ∧ s.NamesIfGiven check.2
  notIn : ∀ check ∈ k.notIn, (∀ v ∈ check.1, s.Spells v) ∧ s.NamesIfGiven check.2
  between : ∀ check ∈ k.between, s.SpellsRanges check.1 ∧ s.NamesIfGiven check.2
  length : ∀ check ∈ k.length, (s.operator check.1).Quiet Sql.Unmarked ∧ s.NamesIfGiven check.2.2
  regex : ∀ check ∈ k.regex, s.Spells check.1 ∧ s.NamesIfGiven check.2

/-- What a column is made from is written without question marks. -/
structure Column.Clean (s : Scope) (c : Column Value) : Prop where
  name : s.Names c.name
  type : c.type.Clean s
  alteredType : ∀ type ∈ c.alteredType, s.Displays type
  defaultTo : ∀ v ∈ c.defaultTo, s.Defaults c v
  comment : ∀ text ∈ c.comment, Text.Unmarked text
  collation : ∀ v ∈ c.collation, s.Names v ∧ s.Displays v ∧ s.Spells v
  after : ∀ v ∈ c.after, s.Names v
  checks : c.checks.Clean s

namespace Scope

variable {s : Scope}

/-- A column type, or the words in its place. -/
theorem columnType_marks {method : String} {c : Column Value} (h : c.Clean s) :
    (s.columnType method c).Marks Sql.Unmarked := by
  unfold columnType
  split
  next type given => exact .lift (h.alteredType type (Option.mem_filter_iff.mp given).1).given
  · exact typeText_marks h.name h.type

theorem defaultText_quiet {c : Column Value} {v : Value} (h : s.Defaults c v) :
    (s.defaultText c v).Quiet Sql.Unmarked := by
  unfold Defaults at h
  unfold defaultText
  split at h
  next raw =>
    rw [if_pos raw]
    exact writtenOut_quiet h
  next plain =>
    rw [if_neg plain]
    cases json : c.type.isJson with
    | false =>
      rw [json] at h
      exact Spells.literalSql h
    | true =>
      rw [json] at h
      cases v with
      | list items => exact Compile.Quiet.bind h fun text ht => (s.spells_str ht).literalSql
      | map entries => exact Compile.Quiet.bind h fun text ht => (s.spells_str ht).literalSql
      | _ => exact Spells.literalSql h

theorem unmarked_nullability (v : Value) : (nullability v).Unmarked := by
  unfold nullability
  split <;> decide

theorem commentStatement_quiet {t : Table Value} (ht : (s.tableName t).Quiet Sql.Unmarked) {c : Column Value}
    (h : c.Clean s) {comment : String} (hc : Text.Unmarked comment) :
    (s.commentStatement t c comment).Quiet Sql.Unmarked := by
  refine ht.bind fun table htable => h.name.wrap.bind fun column hcolumn => ?_
  refine (s.spells_str hc).literalSql.bind fun text htext => .pure ?_
  simp +decide [htable, hcolumn, htext]

/-- What may come after the type of a column. -/
theorem modifier_quiet {c : Column Value} (h : c.Clean s) (type : Sql) (m : ColumnModifier) :
    (s.modifier c type m).Quiet Sql.Unmarked := by
  cases m with
  | unsigned => exact .pure (Sql.unmarked_when (by decide))
  | nullable =>
    refine .pure ?_
    cases c.nullable with
    | none => exact Sql.unmarked_nil
    | some v => exact unmarked_nullability v
  | default_ =>
    simp only [modifier]
    split
    · exact .pure Sql.unmarked_nil
    next v given =>
      split
      · exact .pure Sql.unmarked_nil
      · refine (defaultText_quiet (h.defaultTo v given)).bind fun text ht => .pure ?_
        simp +decide [ht]
  | comment =>
    simp only [modifier]
    split
    next comment _ given =>
      refine (s.spells_str (h.comment comment given)).literalSql.bind fun text ht => .pure ?_
      simp +decide [ht]
    · exact .pure Sql.unmarked_nil
  | collate =>
    simp only [modifier]
    split
    · exact .pure Sql.unmarked_nil
    next collation given =>
      obtain ⟨names, displays, spells⟩ := h.collation collation given
      have written {name : Sql} (hn : name.Unmarked) : (Sql.word " collate " ++ name).Unmarked := by
        simp +decide [hn]
      split
      · exact spells.literalSql.bind fun name hn => .pure (written hn)
      · exact displays.given.bind fun name hn => .pure (written hn)
      · exact names.wrap.bind fun name hn => .pure (written hn)
  | first => exact .pure (Sql.unmarked_when (by decide))
  | after =>
    simp only [modifier]
    split
    · exact .pure Sql.unmarked_nil
    next column given =>
      refine (h.after column given).wrap.bind fun name hn => .pure ?_
      simp +decide [hn]

theorem modifierStatements_quiet {t : Table Value} (ht : (s.tableName t).Quiet Sql.Unmarked) {c : Column Value}
    (h : c.Clean s) (m : ColumnModifier) :
    (s.modifierStatements t c m).Quiet fun sqls => ∀ sql ∈ sqls, sql.Unmarked := by
  unfold modifierStatements
  split
  · split
    · exact .pure nofun
    · exact .pure nofun
    next comment given _ =>
      exact (commentStatement_quiet ht h (h.comment comment given)).bind fun sql hs => .pure (by simpa using hs)
  · exact .pure nofun

theorem check_quiet {test : Sql} (ht : test.Unmarked) {name : Value} (hn : s.NamesIfGiven name) :
    (s.check test name).Quiet Sql.Unmarked := by
  have written {named : Sql} (h : named.Unmarked) :
      (Sql.word " " ++ named ++ Sql.word "check " ++ test.parens).Unmarked := by simp +decide [h, ht]
  unfold check
  split
  next given =>
    refine (hn given).wrap.bind fun sql hs => .pure (written ?_)
    simp +decide [hs]
  · exact .pure (written Sql.unmarked_nil)

theorem rangeTest_quiet {column range : Value} (hc : s.Names column) (hr : s.SpellsRange range) :
    (s.rangeTest column range).Quiet Sql.Unmarked := by
  refine (Compile.Quiet.liftCompile fun ends he => (hr ends.1 ends.2 he)).bind fun ends ⟨low, high⟩ => ?_
  refine hc.wrap.bind fun name hn => low.literalSql.bind fun first hf => ?_
  refine high.literalSql.bind fun second hs => .pure ?_
  simp +decide [hn, hf, hs]

theorem rangesTest_quiet {column values : Value} (hc : s.Names column) (hv : s.SpellsRanges values) :
    (s.rangesTest column values).Quiet Sql.Unmarked := by
  have tests {ranges : List Value} (h : ∀ range ∈ ranges, s.SpellsRange range) :
      (do return Sql.joined " or " (← ranges.mapM (s.rangeTest column)) : Compile Sql).Quiet Sql.Unmarked :=
    (Compile.Quiet.mapM fun range hr => rangeTest_quiet hc (h range hr)).bind fun sqls hs =>
      .pure (Sql.unmarked_joined (by decide) hs)
  refine (Compile.Quiet.liftCompile (P := fun _ => True) fun _ _ => trivial).bind fun several _ => ?_
  simp only
  split
  · exact (Compile.Quiet.liftCompile hv.several).bind fun ranges hr => tests hr
  · exact tests (by simpa using hv.one)

theorem lengthTest_quiet {column operator length : Value} (hc : s.Names column)
    (ho : (s.operator operator).Quiet Sql.Unmarked) : (s.lengthTest column operator length).Quiet Sql.Unmarked := by
  have word (g : Grammar) : Text.Unmarked (lengthWord g) := by cases g <;> decide
  refine ho.bind fun test ht => hc.wrap.bind fun name hn => (wholeSize_quiet _ _).bind fun size hs => .pure ?_
  simp +decide [ht, hn, hs, word]

theorem patternTest_quiet {column pattern : Value} (hc : s.Names column) (hp : s.Spells pattern) :
    (s.patternTest column pattern).Quiet Sql.Unmarked := by
  have written {operator : String} (ho : Text.Unmarked operator) :
      (do
        let pattern ← s.literalSql pattern
        return (← s.wrap column) ++ Sql.word operator ++ pattern : Compile Sql).Quiet Sql.Unmarked := by
    refine hp.literalSql.bind fun text ht => hc.wrap.bind fun name hn => .pure ?_
    simp [ho, ht, hn]
  unfold patternTest
  split
  case h_1 | h_2 | h_3 => exact written (by decide)
  case h_4 | h_5 => exact written (by decide)
  all_goals exact .bind (Q := fun _ => False) (.throw _) fun _ h => h.elim

theorem signTest_quiet {column : Value} (hc : s.Names column) {word : String} (hw : Text.Unmarked word) :
    (s.signTest column word).Quiet Sql.Unmarked :=
  hc.wrap.bind fun name hn => .pure (by simp [hn, hw])

/-- The checks of a column. -/
theorem columnChecks_quiet {c : Column Value} (h : c.Clean s) : (s.columnChecks c).Quiet Sql.Unmarked := by
  have k := h.checks
  have checked {α : Type} {check : Option α} {f : α → Compile Sql} (h : ∀ a ∈ check, (f a).Quiet Sql.Unmarked) :
      (check.mapM f).Quiet fun sql => ∀ part ∈ sql, part.Unmarked := by
    cases check with
    | none => exact .pure nofun
    | some a => exact (h a rfl).bind fun sql hs => .pure (by simpa using hs)
  refine .bind (checked fun name hn => ?_) fun positive h₁ => ?_
  · exact (signTest_quiet h.name (by decide)).bind fun test ht => check_quiet ht (k.positive name hn)
  refine .bind (checked fun name hn => ?_) fun negative h₂ => ?_
  · exact (signTest_quiet h.name (by decide)).bind fun test ht => check_quiet ht (k.negative name hn)
  refine .bind (checked fun check hc => ?_) fun isIn h₃ => ?_
  · obtain ⟨values, named⟩ := k.isIn check hc
    exact (membershipTest_quiet h.name (by decide) values).bind fun test ht => check_quiet ht named
  refine .bind (checked fun check hc => ?_) fun notIn h₄ => ?_
  · obtain ⟨values, named⟩ := k.notIn check hc
    exact (membershipTest_quiet h.name (by decide) values).bind fun test ht => check_quiet ht named
  refine .bind (checked fun check hc => ?_) fun between h₅ => ?_
  · obtain ⟨ranges, named⟩ := k.between check hc
    exact (rangesTest_quiet h.name ranges).bind fun test ht => check_quiet ht named
  refine .bind (checked fun check hc => ?_) fun length h₆ => ?_
  · obtain ⟨operator, named⟩ := k.length check hc
    exact (lengthTest_quiet h.name operator).bind fun test ht => check_quiet ht named
  refine .bind (checked fun check hc => ?_) fun regex h₇ => .pure ?_
  · obtain ⟨pattern, named⟩ := k.regex check hc
    exact (patternTest_quiet h.name pattern).bind fun test ht => check_quiet ht named
  rw [Sql.unmarked_flatten]
  intro sql hs
  obtain ⟨part, hp, rfl⟩ := List.mem_filterMap.mp hs
  simp only [List.mem_cons, List.not_mem_nil, or_false] at hp
  rcases hp with rfl | rfl | rfl | rfl | rfl | rfl | rfl
  · exact h₁ _ rfl
  · exact h₂ _ rfl
  · exact h₃ _ rfl
  · exact h₄ _ rfl
  · exact h₅ _ rfl
  · exact h₆ _ rfl
  · exact h₇ _ rfl

/-! ## Definitions -/

/-- A column definition without question marks, followed by statements without them. -/
structure ClearColumn (text : ColumnText) : Prop where
  definition : text.definition.Unmarked
  comments : ∀ sql ∈ text.comments, sql.Unmarked

/-- The definition of a column and the statements that it asks for have no question marks. -/
theorem columnText_marks {method : String} {t : Table Value} (ht : (s.tableName t).Quiet Sql.Unmarked)
    {c : Column Value} (h : c.Clean s) : (s.columnText method t c).Marks ClearColumn := by
  have modified (type : Sql) (m : ColumnModifier) : Ddl.Marks (do
      let text ← s.modifier c type m
      return (text, ← s.modifierStatements t c m)) fun x => x.1.Unmarked ∧ ∀ sql ∈ x.2, sql.Unmarked :=
    .bind (.lift (modifier_quiet h type m)) fun text htext =>
      .bind (.lift (modifierStatements_quiet ht h m)) fun statements hs => .pure ⟨htext, hs⟩
  refine .bind (.lift h.name.wrap) fun name hname => .bind (columnType_marks h) fun type htype => ?_
  refine .bind (.mapM fun m _ => modified type m) fun modifiers hm => ?_
  refine .bind (.lift (columnChecks_quiet h)) fun checks hc => .pure ⟨?_, ?_⟩
  · have texts : Sql.Unmarked (modifiers.map (·.1)).flatten := by
      rw [Sql.unmarked_flatten]
      intro sql hs
      obtain ⟨modifier, hmem, rfl⟩ := List.mem_map.mp hs
      exact (hm modifier hmem).1
    simp +decide only [Sql.unmarked_append, hname, htype, hc, texts, and_self]
  · intro sql hs
    obtain ⟨statements, hmap, hs⟩ := List.mem_flatten.mp hs
    obtain ⟨modifier, hmem, rfl⟩ := List.mem_map.mp hmap
    exact (hm modifier hmem).2 sql hs

end Scope

end SqlBuilder
