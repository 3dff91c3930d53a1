import SqlBuilder.Proofs.NullConstraints
import SqlBuilder.Proofs.TableRebuilds

/-!
# Building a table again with other nullability

Where nulls are allowed or forbidden in a column, its table is built again from the stored definition. Only the
definition of that column changes, by the constraint that forbids nulls alone, if the constraint is found where it
stands; all columns are copied under their names.

* `Item.NullsChanged`: what becomes of the definition of the column.
* `Item.NullabilityChanges`: what becomes of any item.
* `Scope.rebuilds_nullability`: the plans that come of a change of nullability.
-/

namespace SqlBuilder

open List (Forall₂)

/-! ## Definitions -/

/-- How nulls are allowed or forbidden in the definition of a column. -/
def ColumnChange.nulls (allowed : Bool) : ColumnChange :=
  if allowed then .allowNull else .forbidNull

namespace Item

/-- What becomes of the definition of a column in which nulls are allowed or forbidden: the constraint is left out
wherever it stands, or it is there and was added if it was not; all else is the same. -/
def NullsChanged (allowed : Bool) (item item' : Item) : Prop :=
  if allowed then Relaxed .outside item item' ∧ ¬ item'.ForbidsNull
  else item'.ForbidsNull ∧ (item' = item ∨ ¬ item.ForbidsNull ∧ item' = item ++ " not null".toList)

/-- What is found in an item is what stands there, as far as a change of its nullability asks for it. -/
def ReadsNulls (allowed : Bool) (item : Item) : Prop :=
  if allowed then item.PlainNulls else item.FindsNull ↔ item.ForbidsNull

instance (allowed : Bool) (item : Item) : Decidable (item.ReadsNulls allowed) :=
  inferInstanceAs (Decidable (if allowed then _ else _))

theorem ReadsNulls.changed {item : Item} {allowed : Bool} (plain : item.ReadsNulls allowed) (scanned : Outside item) :
    NullsChanged allowed item ((ColumnChange.nulls allowed).apply item) := by
  cases allowed with
  | true => exact ⟨relaxed_withoutNotNull plain scanned, forbidsNull_withoutNotNull plain⟩
  | false => exact forbidsNull_withNotNull plain scanned

theorem Declares.column?_changed {name : String} {item : Item} (h : item.Declares name) {allowed : Bool}
    (plain : item.ReadsNulls allowed) :
    ((ColumnChange.nulls allowed).apply item).column? = .ok (some name.toList) := by
  cases allowed with
  | true => exact h.column?_withoutNotNull plain
  | false => exact h.column?_withNotNull

/-- What becomes of an item that says what it defines, when the nullability of a column is changed: only the definition
of that column changes. -/
def NullabilityChanges (column : String) (allowed : Bool) (told : Item × Option String) (item' : Item) : Prop :=
  if told.2 = some column then NullsChanged allowed told.1 item' else item' = told.1

end Item

section Changes

open DefinitionChange (changedItem)

variable {items : List Item} {owns : List (Option String)} {column : String}

theorem changedItem_of_told {item : Item} {own : Option String} (told : item.Says own) (column : String)
    (change : ColumnChange) : changedItem column change item = if own = some column then change.apply item else item := by
  have same : own.map String.toList = some column.toList ↔ own = some column := by
    cases own <;> simp [String.toList_inj]
  rw [changedItem, told.column?]
  simp [Except.toOption, same]

/-- The items that a change of the nullability of a column makes. -/
theorem nullability_changed (told : Forall₂ Item.Says items owns) (wellFormed : ∀ item ∈ items, item.WellFormed)
    {allowed : Bool} (plain : ∀ item ∈ items, item.Declares column → item.ReadsNulls allowed) :
    Forall₂ (Item.NullabilityChanges column allowed) (items.zip owns)
        (items.map (changedItem column (.nulls allowed))) ∧
      ∀ item ∈ items, (changedItem column (.nulls allowed) item).column? = item.column? := by
  induction told with
  | nil => exact ⟨.nil, nofun⟩
  | @cons item own items owns first _ ih =>
    obtain ⟨whole, wellFormed⟩ := List.forall_mem_cons.mp wellFormed
    obtain ⟨plainly, plain⟩ := List.forall_mem_cons.mp plain
    obtain ⟨changed, same⟩ := ih wellFormed plain
    have scanned : Item.Outside item := Definition.after?_of_after? whole.scanned
    have kept := changedItem_of_told first column (.nulls allowed)
    rw [List.zip_cons_cons, List.map_cons, kept]
    by_cases named : own = some column
    · subst named
      have declares : item.Declares column := first
      rw [if_pos rfl]
      refine ⟨.cons ?_ changed, List.forall_mem_cons.mpr ⟨?_, same⟩⟩
      · rw [Item.NullabilityChanges, if_pos rfl]
        exact (plainly declares).changed scanned
      · rw [kept, if_pos rfl, declares.column?_changed (plainly declares), first.column?]
        rfl
    · rw [if_neg named]
      refine ⟨.cons ?_ changed, List.forall_mem_cons.mpr ⟨?_, same⟩⟩
      · rw [Item.NullabilityChanges, if_neg named]
      · rw [kept, if_neg named]

end Changes

namespace Scope

variable {s : Scope}

/-- A change of the nullability of a column asks for the definition of its table. -/
theorem nullability_gives (sqlite : s.client.dialect = .sqlite) (t : Table Value) (column : String) (allowed : Bool) :
    ∃ question : Compiled Value,
      question.output = some (.rebuild ⟨t.name, Dialect.sqlite.capabilities.quoting,
        .column (.text column) (.nulls allowed)⟩) ∧
      (s.tableStatement t (if allowed then .setNullable (.str column) else .dropNullable (.str column))).Gives ()
        [question] := by
  have rebuilt : s.tableStatement t (if allowed then .setNullable (.str column) else .dropNullable (.str column)) =
      s.rebuild t (.column (.text column) (.nulls allowed)) := by
    cases allowed <;>
    · simp only [tableStatement, changeNullable, grammar_of_sqlite sqlite]
      rfl
  obtain ⟨question, output, gives⟩ := rebuild_gives (s := s) t (.column (.text column) (.nulls allowed))
  rw [capabilities_of_sqlite sqlite] at output
  exact ⟨question, output, rebuilt ▸ gives⟩

/-- A table is built again with other nullability of a column: of its definitions only that of the column changes, by
its constraint alone, and all columns are copied under their names. -/
theorem rebuilds_nullability (sqlite : s.client.dialect = .sqlite) (t : Table Value) {definition : String}
    {d : Definition} (accepted : Definition.split definition = .ok d) {owns : List (Option String)}
    (told : Forall₂ Item.Says d.items owns) {column : String} (within : some column ∈ owns)
    {allowed : Bool} (plain : ∀ item ∈ d.items, item.Declares column → item.ReadsNulls allowed) {rows : Value}
    {indexes : List Value} (stored : rows.Stores definition indexes) :
    ∃ (question : Compiled Value) (output : Output) (items : List Item),
      (s.tableStatement t (if allowed then .setNullable (.str column) else .dropNullable (.str column))).Gives ()
        [question] ∧
      question.output = some output ∧
      output.interpret rows = .ok (.statements
        (((Rebuild.texts t.name (owns.filterMap id) items d.tail).map Value.str ++ indexes).map Rebuild.statement)) ∧
      Forall₂ (Item.NullabilityChanges column allowed) (d.items.zip owns) items := by
  have wellFormed := Definition.wellFormed_of_split accepted
  obtain ⟨question, output, gives⟩ := nullability_gives sqlite t column allowed
  obtain ⟨changed, same⟩ := nullability_changed told wellFormed plain
  obtain ⟨item, member, defines⟩ := exists_of_mem_right told within
  have applied := DefinitionChange.apply_column_of_readable (fun item hi => (wellFormed item hi).column?)
    ⟨item, member, defines.column?⟩ (.nulls allowed)
  have old := Rebuild.columns_of_owns told
  have planned := Rebuild.plan_of_columns accepted applied old ((Rebuild.columns_map same).trans old) t.name indexes
  refine ⟨question, _, _, gives, output, ?_, changed⟩
  rw [Output.interpret, Rebuild.statements_stored stored, planned]
  rfl

/-- The words are in a default and in a check as well, behind quotes. -/
theorem rebuilds_nullability_quoted :
    let client : Client Value := { dialect := .sqlite }
    let s : Scope := ({ client } : Environment).scope client
    let t : Table Value := { client, method := .alter, name := "t" }
    let items : List Item := ["\x60a\x60 varchar(9) not null default 'not null' check (\x60a\x60 <> 'not  null')".toList,
      "b integer".toList, "unique (b)".toList]
    let owns := [some "a", some "b", none]
    let d : Definition := { head := "create table t ".toList, items, tail := [] }
    let definition := String.ofList (d.head ++ '(' :: (Definition.listed items ++ ')' :: d.tail))
    let indexes := ["create index i on t (b)"]
    let rows := catalogRows definition indexes
    s.client.dialect = .sqlite ∧ Definition.split definition = .ok d ∧ Forall₂ Item.Says d.items owns ∧
      some "a" ∈ owns ∧ (∀ allowed, ∀ item ∈ d.items, item.Declares "a" → item.ReadsNulls allowed) ∧
      rows.Stores definition (indexes.map .str) ∧
      ∀ allowed : Bool, ∃ (question : Compiled Value) (output : Output) (items' : List Item),
        (s.tableStatement t (if allowed then .setNullable (.str "a") else .dropNullable (.str "a"))).Gives ()
          [question] ∧
        question.output = some output ∧
        output.interpret rows = .ok (.statements (((Rebuild.texts t.name (owns.filterMap id) items' d.tail).map
          Value.str ++ indexes.map Value.str).map Rebuild.statement)) ∧
        Forall₂ (Item.NullabilityChanges "a" allowed) (d.items.zip owns) items' := by
  intro client s t items owns d definition indexes rows
  have wellFormed : ∀ item ∈ items, item.WellFormed := by decide +kernel
  have accepted : Definition.split definition = .ok d :=
    Definition.split_wellFormed (by decide) wellFormed String.toList_ofList
  have quoted : Item.Declares "a"
      ('\x60' :: ("a".toList ++ '\x60' :: " varchar(9) not null default 'not null' check (\x60a\x60 <> 'not  null')".toList)) :=
    .quoted rfl (by decide) (by decide)
  have bare : Item.Declares "b" ("b".toList ++ " integer".toList) :=
    .bare (by decide) (by decide) (by decide) (by decide)
  have unique : Item.Constrains "unique (b)".toList :=
    ⟨["unique"], by decide, "unique".toList, " (b)".toList, rfl, by decide, rfl, by decide⟩
  have told : Forall₂ Item.Says items owns := .cons quoted (.cons bare (.cons unique .nil))
  have plain : ∀ allowed, ∀ item ∈ items, item.ReadsNulls allowed := by decide +kernel
  have stored : rows.Stores definition (indexes.map .str) := stores_catalogRows _ _
  exact ⟨rfl, accepted, told, by decide, fun allowed item hi _ => plain allowed item hi, stored,
    fun allowed => rebuilds_nullability rfl t accepted told (by decide) (fun item hi _ => plain allowed item hi) stored⟩

/-- The words are left out of a check too, and they are not added where they stand in a default. -/
theorem rebuilds_nullability_misread :
    let client : Client Value := { dialect := .sqlite }
    let env : Environment := { client }
    let rebuilt (method : String) (definition : String) : Option (List String) := do
      let changed : Schema Value := { client, operations :=
        [.table .alter (.str "t") none (.callback [[⟨method, [.scalar (.str "a")], []⟩]])] }
      let output ← (← (changed.compile env).outcome.1.toOption.bind fun cs => cs.head?).output
      match output.interpret (catalogRows definition []) with
      | .ok (.statements list) => some (list.map (·.sql))
      | _ => none
    rebuilt "set_nullable" "create table \x60t\x60 (\x60a\x60 text not null check (\x60a\x60 is not null), \x60c\x60 integer)" =
        some ["create table \x60_quarry_tmp_t\x60 (\x60a\x60 text check (\x60a\x60 is), \x60c\x60 integer)",
          "insert into \x60_quarry_tmp_t\x60 (\x60a\x60, \x60c\x60) select \x60a\x60, \x60c\x60 from \x60t\x60",
          "drop table \x60t\x60", "alter table \x60_quarry_tmp_t\x60 rename to \x60t\x60"] ∧
      rebuilt "drop_nullable" "create table \x60t\x60 (\x60a\x60 text default ' not null', \x60c\x60 integer)" =
        some ["create table \x60_quarry_tmp_t\x60 (\x60a\x60 text default ' not null', \x60c\x60 integer)",
          "insert into \x60_quarry_tmp_t\x60 (\x60a\x60, \x60c\x60) select \x60a\x60, \x60c\x60 from \x60t\x60",
          "drop table \x60t\x60", "alter table \x60_quarry_tmp_t\x60 rename to \x60t\x60"] := by
  decide +kernel

end Scope

end SqlBuilder
