import SqlBuilder.Proofs.StoredNames
import SqlBuilder.Proofs.TableRebuilds

/-!
# Building a table again with other constraints

A change of the constraints of a table leaves the definitions of its columns as they are: a constraint is added behind
them, and what is dropped is none of them. All columns are copied, under the names that are read from their
definitions.

* `DefinitionChange.IsOfConstraints`: changes that are about constraints only.
* `Rebuild.KeepsColumns`: what the new definitions have in common with the old ones, and the columns that are copied.
* `Scope.rebuilds_constraints`: the plans that come of a change of constraints.
-/

namespace SqlBuilder

open List (Forall₂)

/-! ## Columns among the items -/

section Items

variable {items : List Item}

/-- Constraints among the items do not matter for the columns. -/
theorem Rebuild.columns_filter (items : List Item) :
    columns (items.filter (!·.isConstraint)) = columns items := by
  induction items with
  | nil => rfl
  | cons item items ih =>
    cases constraint : item.isConstraint with
    | false => rw [List.filter_cons_of_pos (by simp [constraint]), columns_cons, columns_cons, ih]
    | true =>
      rw [List.filter_cons_of_neg (by simp [constraint]), columns_cons, Item.column?_of_isConstraint constraint, ih]
      cases columns items <;> rfl

/-- The columns of items from which names are read. -/
theorem Rebuild.columns_of_readable (h : ∀ item ∈ items, ∃ own, item.column? = .ok own) :
    ∃ names : List String, columns items = .ok (names.map String.toList) := by
  induction items with
  | nil => exact ⟨[], rfl⟩
  | cons item items ih =>
    obtain ⟨⟨own, read⟩, others⟩ := List.forall_mem_cons.mp h
    obtain ⟨names, rest⟩ := ih others
    refine ⟨own.toList.map String.ofList ++ names, ?_⟩
    rw [columns_cons, read, rest]
    cases own <;> simp [Except.bind, Except.map]

end Items

/-! ## Changes of constraints -/

namespace DefinitionChange

variable {items : List Item}

/-- A change is about constraints only: one is added, or some are dropped. -/
def IsOfConstraints : DefinitionChange → Prop
  | .column _ _ => False
  | .addConstraint definition => Item.isConstraint definition.toList = true
  | _ => True

/-- What is dropped is found among the items that define no column. -/
theorem dropConstraints_of_readable (readable : ∀ item ∈ items, ∃ own, item.column? = .ok own)
    (dropped : Item → Bool) :
    dropConstraints dropped items = .ok (items.filter fun item => !(item.isConstraint && dropped item)) := by
  have step (kept : List Item) : List.filterAuxM (fun item => do return (← item.column?).isSome || !dropped item) items kept =
      .ok ((items.filter fun item => !(item.isConstraint && dropped item)).reverse ++ kept) := by
    induction items generalizing kept with
    | nil => rfl
    | cons item items ih =>
      obtain ⟨⟨own, read⟩, others⟩ := List.forall_mem_cons.mp readable
      have kind := Item.isConstraint_of_column? read
      have one : (do return (← item.column?).isSome || !dropped item : Except Error Bool) =
          .ok (!(item.isConstraint && dropped item)) := by
        rw [read, kind]
        cases own <;> rfl
      rw [List.filterAuxM, one]
      cases keeps : !(item.isConstraint && dropped item) with
      | true =>
        rw [List.filter_cons_of_pos (by simpa using keeps)]
        refine (ih others (item :: kept)).trans ?_
        simp
      | false =>
        rw [List.filter_cons_of_neg (by simpa using keeps)]
        exact ih others kept
  unfold dropConstraints List.filterM
  rw [step []]
  simp [bind, Except.bind, pure, Except.pure]

/-- A change of constraints keeps the definitions of columns. -/
theorem apply_of_constraints {change : DefinitionChange} (h : change.IsOfConstraints)
    (readable : ∀ item ∈ items, ∃ own, item.column? = .ok own) :
    ∃ items', change.apply items = .ok items' ∧
      items'.filter (!·.isConstraint) = items.filter (!·.isConstraint) := by
  have dropping (dropped : Item → Bool) : ∃ items', dropConstraints dropped items = .ok items' ∧
      items'.filter (!·.isConstraint) = items.filter (!·.isConstraint) := by
    refine ⟨_, dropConstraints_of_readable readable dropped, ?_⟩
    rw [List.filter_filter]
    refine List.filter_congr fun item _ => ?_
    cases item.isConstraint <;> simp
  cases change with
  | column _ _ => exact h.elim
  | addConstraint definition =>
    refine ⟨_, rfl, ?_⟩
    have added : Item.isConstraint definition.toList = true := h
    simp [List.filter_append, added]
  | dropPrimary => exact dropping _
  | dropForeign _ => exact dropping _
  | dropCheck _ => exact dropping _

end DefinitionChange

/-! ## Plans -/

/-- New definitions have the columns of the old ones, unchanged and in order, and these are copied: under their names,
if the old definitions are columns of readable names and constraints. -/
structure Rebuild.KeepsColumns (old new : List Item) (names : List String) : Prop where
  same : new.filter (!·.isConstraint) = old.filter (!·.isConstraint)
  kept : ∀ columns : List Item, columns.Sublist old → (∀ item ∈ columns, ∃ name, item.Declares name) →
    columns.Sublist new
  named : ∀ owns, Forall₂ Item.Says old owns → names = owns.filterMap id

/-- The plan of a change of constraints. -/
theorem Rebuild.plan_of_constraints {definition : String} {d : Definition}
    (accepted : Definition.split definition = .ok d) {change : DefinitionChange} (h : change.IsOfConstraints)
    (table : String) (indexes : List Value) :
    ∃ items names, plan ⟨table, Dialect.sqlite.capabilities.quoting, change⟩ definition indexes =
        .ok (((texts table names items d.tail).map Value.str ++ indexes).map statement) ∧
      KeepsColumns d.items items names := by
  have readable : ∀ item ∈ d.items, ∃ own, item.column? = .ok own := fun item within =>
    (Definition.wellFormed_of_split accepted item within).column?
  obtain ⟨items, changed, same⟩ := DefinitionChange.apply_of_constraints h readable
  obtain ⟨names, old⟩ := columns_of_readable readable
  have new : columns items = .ok (names.map String.toList) := by
    rw [← columns_filter, same, columns_filter, old]
  refine ⟨items, names, plan_of_columns accepted changed old new table indexes, same, fun columns within declared => ?_,
    fun owns told => ?_⟩
  · have all : columns.filter (!·.isConstraint) = columns := by
      refine List.filter_eq_self.mpr fun item hi => ?_
      obtain ⟨name, declares⟩ := declared item hi
      have own : item.Says (some name) := declares
      have column : item.isConstraint = false := Item.isConstraint_of_column? own.column?
      simp [column]
    have whole := within.filter (!·.isConstraint)
    rw [all, ← same] at whole
    exact whole.trans List.filter_sublist
  · have read := Except.ok.inj (old.symm.trans (columns_of_owns told))
    exact (List.map_injective_iff.mpr fun _ _ => String.toList_inj.mp) read

/-! ## Statements -/

/-- How many constraints a change of a table adds or drops, if it is about constraints. -/
def TableStatement.constraints? : TableStatement Value → Option Nat
  | .primary _ _ | .foreign _ | .check _ | .dropPrimary _ | .dropForeign _ _ => some 1
  | .dropChecks names => some names.length
  | _ => none

/-- A fragment begins with the phrase of a constraint. -/
def Sql.Constrains (sql : Sql) : Prop :=
  Item.isConstraint sql.text.toList = true

namespace Scope

variable {s : Scope} {t : Table Value}

/-- A step that adds questions for the catalog: the answers are for building a table again with other constraints. -/
def RebuildsConstraints (s : Scope) (t : Table Value) (count : Nat) (step : Ddl Unit) : Prop :=
  ∀ statements p statements' p', step statements p = .ok ((), statements') p' →
    ∃ questions : List (Compiled Value), statements' = statements ++ questions ∧ questions.length = count ∧
      ∀ question ∈ questions, ∃ change : DefinitionChange, change.IsOfConstraints ∧
        question.output = some (.rebuild ⟨t.name, s.capabilities.quoting, change⟩)

theorem pushOn_filled {sql : Sql} (filled : sql.isBlank = false) (output : Option Output)
    (statements : List (Compiled Value)) (p : Progress) : s.pushOn t sql output statements p =
      .ok ((), statements ++ [s.statementOf (tableMethod t) sql p.bound output]) { p with bound := [] } := by
  have bound : s.pushOn t sql output statements p = s.pushWith (tableMethod t) sql p.bound output statements p := rfl
  rw [bound, pushWith, filled]
  rfl

namespace RebuildsConstraints

/-- A compilation before such a step. -/
theorem after_lift {α : Type} {P : α → Prop} {c : Compile α} (result : ∀ p a p', c p = .ok a p' → P a)
    {step : α → Ddl Unit} {count : Nat} (h : ∀ a, P a → s.RebuildsConstraints t count (step a)) :
    s.RebuildsConstraints t count (liftM c >>= step) := by
  intro statements p statements' p' run
  obtain ⟨⟨a, _⟩, q, first, rest⟩ := Compile.bind_ok.mp run
  obtain ⟨b, q', own, lifted⟩ := Compile.bind_ok.mp first
  obtain ⟨⟨⟩, rfl⟩ := Compile.pure_ok.mp lifted
  exact h _ (result _ _ _ own) _ _ _ _ rest

theorem rebuild {change : DefinitionChange} (h : change.IsOfConstraints) :
    s.RebuildsConstraints t 1 (s.rebuild t change) := by
  rw [Scope.rebuild, literalSql_str]
  refine after_lift (P := (· = Sql.literal (Literal.text s.capabilities.escape.strings t.name))) ?_ ?_
  · rintro p _ _ ⟨⟩
    rfl
  · rintro _ rfl statements p statements' p' run
    rw [pushOn_filled rfl] at run
    obtain ⟨⟨⟩, -⟩ := EStateM.Result.ok.inj run
    exact ⟨[_], rfl, rfl, List.forall_mem_singleton.mpr ⟨change, h, rfl⟩⟩

theorem forM {α : Type} {f : α → Ddl Unit} (list : List α) (h : ∀ a ∈ list, s.RebuildsConstraints t 1 (f a)) :
    s.RebuildsConstraints t list.length (list.forM f) := by
  induction list with
  | nil =>
    intro statements p statements' p' run
    obtain ⟨⟨⟩, -⟩ := Compile.pure_ok.mp run
    exact ⟨[], (List.append_nil _).symm, rfl, fun _ within => absurd within List.not_mem_nil⟩
  | cons a list ih =>
    intro statements p statements' p' run
    obtain ⟨⟨⟨⟩, _⟩, q, first, rest⟩ := Compile.bind_ok.mp run
    obtain ⟨one, rfl, single, asked⟩ := h a (.head _) _ _ _ _ first
    obtain ⟨more, rfl, count, others⟩ := ih (fun a ha => h a (.tail _ ha)) _ _ _ _ rest
    refine ⟨one ++ more, List.append_assoc .., ?_, List.forall_mem_append.mpr ⟨asked, others⟩⟩
    rw [List.length_append, single, count, List.length_cons, Nat.add_comm]

end RebuildsConstraints

/-! ### Constraints that are added -/

theorem constrains_named (rest : Sql) : (Sql.word "constraint " ++ rest).Constrains := by
  rw [Sql.Constrains, Sql.text_append, Sql.text_word, String.toList_append]
  rfl

theorem constrains_check (rest : Sql) : (Sql.word "check " ++ rest).Constrains := by
  rw [Sql.Constrains, Sql.text_append, Sql.text_word, String.toList_append]
  rfl

theorem primaryText_constrains {columns : List Value} {name : Option Value} {p p' : Progress} {sql : Sql}
    (run : s.primaryText t columns name p = .ok sql p') : sql.Constrains := by
  obtain ⟨key, _, -, run⟩ := Compile.bind_ok.mp run
  obtain ⟨list, _, -, run⟩ := Compile.bind_ok.mp run
  obtain ⟨rfl, -⟩ := Compile.pure_ok.mp run
  simp only [List.append_assoc]
  exact constrains_named _

theorem foreignText_constrains {key : ForeignKey Value} {p p' : Progress} {sql : Sql}
    (run : s.foreignText t key p = .ok sql p') : sql.Constrains := by
  unfold foreignText at run
  cases given : key.references with
  | none => simp only [given] at run; cases run
  | some references =>
    cases other : key.table with
    | none => simp only [given, other] at run; cases run
    | some table =>
      simp only [given, other] at run
      obtain ⟨name, _, -, run⟩ := Compile.bind_ok.mp run
      obtain ⟨columns, _, -, run⟩ := Compile.bind_ok.mp run
      obtain ⟨table, _, -, run⟩ := Compile.bind_ok.mp run
      obtain ⟨references, _, -, run⟩ := Compile.bind_ok.mp run
      obtain ⟨onDelete, _, -, run⟩ := Compile.bind_ok.mp run
      obtain ⟨onUpdate, _, -, run⟩ := Compile.bind_ok.mp run
      obtain ⟨deferrable, _, -, run⟩ := Compile.bind_ok.mp run
      obtain ⟨rfl, -⟩ := Compile.pure_ok.mp run
      simp only [List.append_assoc]
      exact constrains_named _

theorem checkText_constrains {constraint : CheckConstraint Value} {p p' : Progress} {sql : Sql}
    (run : s.checkText constraint p = .ok sql p') : sql.Constrains := by
  unfold checkText at run
  cases given : constraint.name.filter Value.isTruthy with
  | none =>
    simp only [given] at run
    obtain ⟨named, _, first, run⟩ := Compile.bind_ok.mp run
    obtain ⟨rfl, -⟩ := Compile.pure_ok.mp first
    obtain ⟨test, _, -, run⟩ := Compile.bind_ok.mp run
    obtain ⟨rfl, -⟩ := Compile.pure_ok.mp run
    exact constrains_check _
  | some name =>
    simp only [given] at run
    obtain ⟨key, _, -, run⟩ := Compile.bind_ok.mp run
    obtain ⟨named, _, first, run⟩ := Compile.bind_ok.mp run
    obtain ⟨rfl, -⟩ := Compile.pure_ok.mp first
    obtain ⟨test, _, -, run⟩ := Compile.bind_ok.mp run
    obtain ⟨rfl, -⟩ := Compile.pure_ok.mp run
    simp only [List.append_assoc]
    exact constrains_named _

theorem addConstraint_rebuilds (sqlite : s.client.dialect = .sqlite) {c : Compile Sql}
    (constrains : ∀ p sql p', c p = .ok sql p' → sql.Constrains) :
    s.RebuildsConstraints t 1 (do s.addConstraint t (← c)) := by
  refine .after_lift constrains fun sql constraint => ?_
  rw [addConstraint, if_pos (grammar_of_sqlite sqlite)]
  exact .rebuild constraint

/-- A change of the constraints of a table asks for its definition, once for each of them. -/
theorem tableStatement_rebuilds (sqlite : s.client.dialect = .sqlite) {change : TableStatement Value} {count : Nat}
    (kind : change.constraints? = some count) : s.RebuildsConstraints t count (s.tableStatement t change) := by
  have grammar := grammar_of_sqlite sqlite
  cases change with
  | primary columns name =>
    cases kind
    exact addConstraint_rebuilds sqlite fun _ _ _ => primaryText_constrains
  | foreign key =>
    cases kind
    exact addConstraint_rebuilds sqlite fun _ _ _ => foreignText_constrains
  | check constraint =>
    cases kind
    exact addConstraint_rebuilds sqlite fun _ _ _ => checkText_constrains
  | dropPrimary name =>
    cases kind
    rw [tableStatement, dropPrimary, grammar]
    exact .rebuild trivial
  | dropForeign columns name =>
    cases kind
    rw [tableStatement, dropForeign, grammar]
    simp only
    split
    · exact .after_lift (P := fun _ => True) (fun _ _ _ _ => trivial) fun _ _ => .rebuild trivial
    · exact .after_lift (P := fun _ => True) (fun _ _ _ _ => trivial) fun _ _ => .rebuild trivial
  | dropChecks names =>
    cases kind
    refine .forM names fun name _ => ?_
    rw [dropCheck, grammar]
    exact .after_lift (P := fun _ => True) (fun _ _ _ _ => trivial) fun _ _ => .rebuild trivial
  | _ => cases kind

/-- A table is built again with other constraints: its copy has the suffix of its definition and the definitions of its
columns, unchanged and in order; all of them are copied, the copy takes the place of the table, and the indexes are
created again in the order of the catalog. -/
theorem rebuilds_constraints (sqlite : s.client.dialect = .sqlite) {change : TableStatement Value} {count : Nat}
    (kind : change.constraints? = some count) {statements statements' : List (Compiled Value)} {p p' : Progress}
    (run : s.tableStatement t change statements p = .ok ((), statements') p') {definition : String} {d : Definition}
    (accepted : Definition.split definition = .ok d) {rows : Value} {indexes : List Value}
    (stored : rows.Stores definition indexes) :
    ∃ questions : List (Compiled Value), statements' = statements ++ questions ∧ questions.length = count ∧
      ∀ question ∈ questions, ∃ (output : Output) (items : List Item) (names : List String),
        question.output = some output ∧
        output.interpret rows = .ok (.statements
          (((Rebuild.texts t.name names items d.tail).map Value.str ++ indexes).map Rebuild.statement)) ∧
        Rebuild.KeepsColumns d.items items names := by
  obtain ⟨questions, rfl, counted, asked⟩ := tableStatement_rebuilds sqlite kind _ _ _ _ run
  refine ⟨questions, rfl, counted, fun question within => ?_⟩
  obtain ⟨change, constraints, output⟩ := asked question within
  obtain ⟨items, names, planned, keeps⟩ := Rebuild.plan_of_constraints accepted constraints t.name indexes
  refine ⟨_, items, names, output, ?_, keeps⟩
  rw [Output.interpret, Rebuild.statements_stored stored, capabilities_of_sqlite sqlite, planned]
  rfl

/-- Two checks that are dropped from a table with a column of a reserved name, constraints of both kinds and an index:
all three columns are copied. -/
theorem rebuilds_constraints_checks :
    let client : Client Value := { dialect := .sqlite }
    let s : Scope := ({ client } : Environment).scope client
    let t : Table Value := { client, method := .alter, name := "t" }
    let change : TableStatement Value := .dropChecks [.str "small", .str "positive"]
    let items : List Item := ["\"a b\" int check (\"a b\" > 0)".toList, "[check] text default ', ('".toList,
      "id$ int".toList, "constraint positive check (id$ > 0)".toList, "primary key (\"a b\", id$)".toList]
    let d : Definition := { head := "CREATE TABLE t ".toList, items, tail := " strict".toList }
    let definition := String.ofList (d.head ++ '(' :: (Definition.listed items ++ ')' :: d.tail))
    let indexes := ["create index i on t (id$)"]
    let rows := catalogRows definition indexes
    s.client.dialect = .sqlite ∧ change.constraints? = some 2 ∧ Definition.split definition = .ok d ∧
      rows.Stores definition (indexes.map .str) ∧
      ∃ (p' : Progress) (questions : List (Compiled Value)), s.tableStatement t change [] {} = .ok ((), questions) p' ∧
        questions.length = 2 ∧ ∀ question ∈ questions, ∃ (output : Output) (items' : List Item),
          question.output = some output ∧
          output.interpret rows = .ok (.statements
            ((Rebuild.texts t.name ["a b", "check", "id$"] items' d.tail ++ indexes).map
              fun sql => Rebuild.statement (.str sql))) ∧
          (items.take 3).Sublist items' := by
  intro client s t change items d definition indexes rows
  have wellFormed : ∀ item ∈ items, item.WellFormed := by decide +kernel
  have accepted : Definition.split definition = .ok d :=
    Definition.split_wellFormed (by decide) wellFormed String.toList_ofList
  have stored : rows.Stores definition (indexes.map .str) := stores_catalogRows _ _
  have quoted : Item.Declares "a b" ('"' :: ("a b".toList ++ '"' :: " int check (\"a b\" > 0)".toList)) :=
    .quoted rfl (by decide) (by decide)
  have reserved : Item.Declares "check" ('[' :: ("check".toList ++ ']' :: " text default ', ('".toList)) :=
    .quoted rfl (by decide) (by decide)
  have bare : Item.Declares "id$" ("id$".toList ++ " int".toList) :=
    .bare (by decide) (by decide) (by decide) (by decide)
  have check : Item.Constrains "constraint positive check (id$ > 0)".toList :=
    ⟨["constraint"], by decide, "constraint".toList, " positive check (id$ > 0)".toList, rfl, by decide, rfl, by decide⟩
  have key : Item.Constrains "primary key (\"a b\", id$)".toList :=
    ⟨["primary", "key"], by decide, "primary key".toList, " (\"a b\", id$)".toList, rfl, by decide, rfl, by decide⟩
  have told : Forall₂ Item.Says items [some "a b", some "check", some "id$", none, none] :=
    .cons quoted (.cons reserved (.cons bare (.cons check (.cons key .nil))))
  have declared : ∀ item ∈ items.take 3, ∃ name, item.Declares name := by
    have three : items.take 3 = ['"' :: ("a b".toList ++ '"' :: " int check (\"a b\" > 0)".toList),
      '[' :: ("check".toList ++ ']' :: " text default ', ('".toList), "id$".toList ++ " int".toList] := rfl
    rw [three]
    simp only [List.forall_mem_cons]
    exact ⟨⟨_, quoted⟩, ⟨_, reserved⟩, ⟨_, bare⟩, nofun⟩
  obtain ⟨first, -, gives⟩ := rebuild_gives (s := s) t (.dropCheck "small")
  obtain ⟨second, -, gives'⟩ := rebuild_gives (s := s) t (.dropCheck "positive")
  have whole : (s.tableStatement t change).Gives () [first, second] :=
    ((Ddl.Gives.lift (.pure _)).bind_silent gives).bind (((Ddl.Gives.lift (.pure _)).bind_silent gives').bind (.pure ()))
  obtain ⟨p', run, -⟩ := whole [] {} rfl
  obtain ⟨questions, same, counted, answered⟩ := rebuilds_constraints (s := s) rfl rfl run accepted stored
  refine ⟨rfl, rfl, accepted, stored, p', questions, by rw [run, same]; rfl, counted, fun question within => ?_⟩
  obtain ⟨output, items', names, output_, statements, keeps⟩ := answered question within
  obtain rfl := keeps.named _ told
  refine ⟨output, items', output_, ?_, keeps.kept _ (List.take_sublist 3 items) declared⟩
  rw [statements]
  simp [Function.comp_def]

/-- The name of a column with its quote in it is read too short, and a column whose name goes on behind a reserved word
is taken for a constraint: neither is copied, though the old table is dropped. -/
theorem rebuilds_constraints_quoted :
    let client : Client Value := { dialect := .sqlite }
    let env : Environment := { client }
    let dropped : Schema Value :=
      { client, operations := [.table .alter (.str "t") none (.callback [[⟨"drop_primary", [], []⟩]])] }
    let rebuilt (definition : String) : Option (List String) := do
      let output ← (← (dropped.compile env).outcome.1.toOption.bind fun cs => cs.head?).output
      match output.interpret (catalogRows definition []) with
      | .ok (.statements list) => some (list.map (·.sql))
      | _ => none
    rebuilt "create table \x60t\x60 (\x60a\x60\x60b\x60 varchar(255), \x60c\x60 integer)" =
        some ["create table \x60_quarry_tmp_t\x60 (\x60a\x60\x60b\x60 varchar(255), \x60c\x60 integer)",
          "insert into \x60_quarry_tmp_t\x60 (\x60a\x60, \x60c\x60) select \x60a\x60, \x60c\x60 from \x60t\x60",
          "drop table \x60t\x60", "alter table \x60_quarry_tmp_t\x60 rename to \x60t\x60"] ∧
      rebuilt "create table \x60t\x60 (check$ integer, \x60c\x60 integer)" =
        some ["create table \x60_quarry_tmp_t\x60 (check$ integer, \x60c\x60 integer)",
          "insert into \x60_quarry_tmp_t\x60 (\x60c\x60) select \x60c\x60 from \x60t\x60",
          "drop table \x60t\x60", "alter table \x60_quarry_tmp_t\x60 rename to \x60t\x60"] := by
  decide +kernel

end Scope

end SqlBuilder
