import SqlBuilder.Proofs.ConstraintNames
import SqlBuilder.Proofs.ConstraintRebuilds

/-!
# Constraints that are added and dropped again

Where a table is built again to change its constraints, dropping a constraint takes back that it was added: its text is
found among the definitions by its kind and its name, or, if it is a primary key, by its kind alone. It is found if the
name stands in the text as it is looked for. Blanks at the ends of a name do not stand there, and for the dashes in a
default name underscores do; and a primary key is not found if there is a blank in its name.

* `Undoes`: a statement that drops the constraint that another one adds, and the definitions that it looks for.
* `DefinitionChange.drop_added`: the definitions after both changes.
* `Scope.TakesBack`: a constraint that was added, and a statement that drops it.
* `Scope.drops_added`: adding a constraint and dropping it leaves the definitions as they were.
-/

namespace SqlBuilder

open Text (isBlank)

/-! ## Statements that undo each other -/

/-- A name stands in a definition as it is, but for its quotes. -/
structure WrittenName (name : String) : Prop extends PlainName name where
  filled : name ≠ ""
  unquoted : '\x60' ∉ name.toList

/-- A name without blanks stands in a definition as it is, but for its quotes. -/
structure SolidName (name : String) : Prop where
  undotted : '.' ∉ name.toList
  unquoted : '\x60' ∉ name.toList
  solid : ∀ c ∈ name.toList, isBlank c = false

/-- A name without blanks is plain. -/
theorem SolidName.plain {name : String} (h : SolidName name) : PlainName name where
  undotted := h.undotted
  unaliased := Text.hasAlias_of_solid h.solid
  trimmed := Text.stripChars_of_solid h.solid

/-- A default name of a primary key has no blanks if the name of the table has none. -/
theorem SolidName.key {table : String} (h : SolidName table) : SolidName (table ++ "_pkey") where
  undotted := by simp [h.undotted]
  unquoted := by simp [h.unquoted]
  solid := by
    rw [String.toList_append, List.forall_mem_append]
    exact ⟨h.solid, by decide⟩

/-- A statement drops the constraint that another one adds to a table, by the same name or the same default name,
which stands in the definition as it is. The last of them says which definitions are constraints of that kind and
name. -/
inductive Undoes (table : String) : TableStatement Value → TableStatement Value → (Item → Prop) → Prop
  | primary {columns : List Value} {name : String} (filled : name ≠ "") (solid : SolidName name) :
    Undoes table (.primary columns (some (.str name))) (.dropPrimary (some (.str name))) Item.BearsKey
  | primaryDefault {columns : List Value} (solid : SolidName table) :
    Undoes table (.primary columns none) (.dropPrimary none) Item.BearsKey
  | foreign {key : ForeignKey Value} {name : String} (named : key.name = some (.str name))
    (written : WrittenName name) :
    Undoes table (.foreign key) (.dropForeign key.columns key.name) (Item.Bears name.toList ["foreign", "key"])
  | foreignDefault {key : ForeignKey Value} {columns : List String} (unnamed : key.name = none)
    (strings : key.columns = columns.map .str) (part : Text.IsNamePart table.toList)
    (parts : ∀ column ∈ columns, Text.IsNamePart column.toList) (starts : ∀ c ∈ table.toList.head?, isBlank c = false) :
    Undoes table (.foreign key) (.dropForeign key.columns key.name)
      (Item.Bears (foreignName table columns).toList ["foreign", "key"])
  | check {constraint : CheckConstraint Value} {name : String} (named : constraint.name = some (.str name))
    (written : WrittenName name) :
    Undoes table (.check constraint) (.dropChecks [.str name]) (Item.Bears name.toList ["check"])

/-! ## Changes of definitions -/

namespace DefinitionChange

variable {items : List Item}

/-- A change drops some of the constraints. -/
def DropsThose (change : DefinitionChange) (Same : Item → Prop) : Prop :=
  ∃ dropped : Item → Bool, (∀ items, change.apply items = dropConstraints dropped items) ∧
    ∀ item, dropped item = true ↔ Same item

theorem dropsThose_primary : DropsThose .dropPrimary Item.BearsKey :=
  ⟨Item.isPrimaryKey, fun _ => rfl, fun _ => Item.isPrimaryKey_iff⟩

theorem dropsThose_foreign (name : String) :
    DropsThose (.dropForeign name) (Item.Bears name.toList ["foreign", "key"]) :=
  ⟨Item.isNamed name.toList ["foreign", "key"], fun _ => rfl,
    fun _ => Item.isNamed_iff ⟨_, _, rfl, by decide, by decide⟩⟩

theorem dropsThose_check (name : String) : DropsThose (.dropCheck name) (Item.Bears name.toList ["check"]) :=
  ⟨Item.isNamed name.toList ["check"], fun _ => rfl, fun _ => Item.isNamed_iff ⟨_, _, rfl, by decide, by decide⟩⟩

/-- A constraint behind other definitions is dropped without an effect on them. -/
theorem dropConstraints_append {dropped : Item → Bool} {definition : Item} (constraint : definition.isConstraint = true)
    (found : dropped definition = true) (items : List Item) :
    dropConstraints dropped (items ++ [definition]) = dropConstraints dropped items := by
  let keeps (item : Item) : Except Error Bool := do return (← item.column?).isSome || !dropped item
  have last : keeps definition = .ok false := by
    simp only [keeps, Item.column?_of_isConstraint constraint, found]
    rfl
  have step (kept : List Item) :
      List.filterAuxM keeps (items ++ [definition]) kept = List.filterAuxM keeps items kept := by
    induction items generalizing kept with
    | nil =>
      rw [List.nil_append, List.filterAuxM, List.filterAuxM, last]
      rfl
    | cons item items ih =>
      rw [List.cons_append, List.filterAuxM, List.filterAuxM]
      exact bind_congr fun keep => ih _
  change (do return (← List.filterAuxM keeps (items ++ [definition]) []).reverse) = _
  rw [step]
  rfl

/-- A constraint that is added and dropped again leaves what dropping it leaves of the other definitions: all of them
if none is one of the same kind and name. -/
theorem drop_added {change : DefinitionChange} {Same : Item → Prop} (drops : change.DropsThose Same)
    {definition : String} (constraint : Item.isConstraint definition.toList = true) (same : Same definition.toList)
    (items : List Item) : ((addConstraint definition).apply items >>= change.apply) = change.apply items ∧
      ((∀ item ∈ items, ∃ own, item.column? = .ok own) → (∀ item ∈ items, ¬ Same item) →
        change.apply items = .ok items) := by
  obtain ⟨dropped, applied, finds⟩ := drops
  constructor
  · change change.apply (items ++ [definition.toList]) = _
    rw [applied, applied, dropConstraints_append constraint ((finds _).mpr same)]
  · intro readable none_
    rw [applied, dropConstraints_of_readable readable]
    refine congrArg Except.ok (List.filter_eq_self.mpr fun item within => ?_)
    have kept : dropped item = false := by
      rw [Bool.eq_false_iff, Ne, finds]
      exact none_ item within
    simp [kept]

end DefinitionChange

/-! ## Definitions of constraints -/

namespace Item

/-- A constraint is written with its name, which is then read from it. -/
theorem bears_written {name : String} (unquoted : '\x60' ∉ name.toList) {kind : List String} {rest : List Char}
    (begins : Phrase.begins kind rest = true) :
    Bears name.toList kind ("constraint".toList ++ ([' '] ++ (nameText name ++ ([' '] ++ rest)))) := by
  have blank : Phrase.Blanks [' '] := ⟨List.cons_ne_nil _ _, by decide⟩
  by_cases star : name = "*"
  · rw [star, nameText_star]
    have unmarked (quotes : List Char) : Phrase.Mark quotes [] := .inl rfl
    exact .intro (.refl _) blank (unmarked _) (.refl _) (unmarked _) blank begins
  · have written : nameText name ++ ([' '] ++ rest) =
        ['\x60'] ++ (name.toList ++ (['\x60'] ++ ([' '] ++ rest))) := by rw [nameText_quoted star unquoted]; simp
    rw [written]
    exact .intro (.refl _) blank (.inr ⟨_, by simp, rfl⟩) (.refl _) (.inr ⟨_, by simp, rfl⟩) blank begins

/-- A primary key is written with its name, which has no blanks in it. -/
theorem bearsKey_written {name : String} (solid : SolidName name) {rest : List Char}
    (begins : Phrase.begins ["primary", "key"] rest = true) :
    BearsKey ("constraint".toList ++ ([' '] ++ (nameText name ++ ([' '] ++ rest)))) := by
  have blank : Phrase.Blanks [' '] := ⟨List.cons_ne_nil _ _, by decide⟩
  have each : nameText name ≠ [] ∧ ∀ c ∈ nameText name, isBlank c = false := by
    by_cases star : name = "*"
    · rw [star, nameText_star]
      exact ⟨List.cons_ne_nil _ _, by decide⟩
    · rw [nameText_quoted star solid.unquoted]
      refine ⟨List.cons_ne_nil _ _, ?_⟩
      simp only [List.forall_mem_cons, List.forall_mem_append]
      exact ⟨rfl, solid.solid, rfl, nofun⟩
  exact .named (.refl _) blank each.1 each.2 blank begins

end Item

/-- A fragment is a constraint of a name: the words of its kind stand behind the name. -/
def Sql.ConstrainsAs (sql : Sql) (name : String) (kind : String) : Prop :=
  ∃ rest, sql.text.toList =
    "constraint".toList ++ ([' '] ++ (Item.nameText name ++ ([' '] ++ (kind.toList ++ rest))))

namespace Compile.Gives

/-- The result of a compilation that always has one. -/
theorem eq_of_ok {α : Type} {c : Compile α} {a b : α} {values : List Value} {p p' : Progress} (h : c.Gives a values)
    (run : c p = .ok b p') : b = a := by
  obtain ⟨q, own, -⟩ := h p
  exact (EStateM.Result.ok.inj (run.symm.trans own)).1

end Compile.Gives

namespace Scope

variable {s : Scope} {t : Table Value} {p p' : Progress}

/-! ## Statements -/

/-- For building a table again the catalog is asked. -/
theorem rebuild_ok {change : DefinitionChange} {statements statements' : List (Compiled Value)}
    (run : s.rebuild t change statements p = .ok ((), statements') p') :
    ∃ question : Compiled Value, statements' = statements ++ [question] ∧
      question.output = some (.rebuild ⟨t.name, s.capabilities.quoting, change⟩) := by
  rw [rebuild, literalSql_str, liftM_pure, pure_bind, pushOn_filled rfl] at run
  obtain ⟨⟨⟩, -⟩ := EStateM.Result.ok.inj run
  exact ⟨_, rfl, rfl⟩

section Texts

variable (sqlite : s.client.dialect = .sqlite)

include sqlite

/-- A constraint that is added is a definition behind the others. -/
theorem addConstraint_ok {c : Compile Sql} {statements statements' : List (Compiled Value)}
    (run : (do s.addConstraint t (← c) : Ddl Unit) statements p = .ok ((), statements') p') :
    ∃ sql q, c p = .ok sql q ∧ ∃ question : Compiled Value, statements' = statements ++ [question] ∧
      question.output = some (.rebuild ⟨t.name, s.capabilities.quoting, .addConstraint sql.text⟩) := by
  obtain ⟨⟨sql, _⟩, q, first, run⟩ := Compile.bind_ok.mp run
  obtain ⟨_, q', own, lifted⟩ := Compile.bind_ok.mp first
  obtain ⟨⟨⟩, rfl⟩ := Compile.pure_ok.mp lifted
  simp only [addConstraint, if_pos (grammar_of_sqlite sqlite)] at run
  exact ⟨sql, _, own, rebuild_ok run⟩

/-- A constraint begins with its name and the words of its kind. -/
theorem constrainsAs {name : String} (word kind : String) (written : word = " " ++ kind) (rest : Sql) :
    (Sql.word "constraint " ++ ([Piece.name s.capabilities.quoting name] ++ (Sql.word word ++ rest))).ConstrainsAs
      name kind := by
  refine ⟨rest.text.toList, ?_⟩
  rw [written, capabilities_of_sqlite sqlite]
  simp only [Sql.text_append, Sql.text_word, Sql.text_name, String.toList_append, Item.nameText]
  rfl

theorem primaryText_ok {columns : List Value} {name : Option Value} {sql : Sql} {key : String}
    (named : (s.primaryName t name).Gives [.name s.capabilities.quoting key] [])
    (run : s.primaryText t columns name p = .ok sql p') : sql.ConstrainsAs key "primary key " := by
  obtain ⟨_, _, first, run⟩ := Compile.bind_ok.mp run
  obtain rfl := named.eq_of_ok first
  obtain ⟨list, _, -, run⟩ := Compile.bind_ok.mp run
  obtain ⟨rfl, -⟩ := Compile.pure_ok.mp run
  simp only [List.append_assoc]
  exact constrainsAs sqlite " primary key " "primary key " (by decide +kernel) _

theorem foreignText_ok {key : ForeignKey Value} {sql : Sql} {name : String}
    (named : (s.indexName t "foreign" key.columns key.name).Gives [.name s.capabilities.quoting name] [])
    (run : s.foreignText t key p = .ok sql p') : sql.ConstrainsAs name "foreign key " := by
  unfold foreignText at run
  cases given : key.references with
  | none => simp only [given] at run; cases run
  | some references =>
    cases other : key.table with
    | none => simp only [given, other] at run; cases run
    | some table =>
      simp only [given, other] at run
      obtain ⟨_, _, first, run⟩ := Compile.bind_ok.mp run
      obtain rfl := named.eq_of_ok first
      obtain ⟨columns, _, -, run⟩ := Compile.bind_ok.mp run
      obtain ⟨table, _, -, run⟩ := Compile.bind_ok.mp run
      obtain ⟨references, _, -, run⟩ := Compile.bind_ok.mp run
      obtain ⟨onDelete, _, -, run⟩ := Compile.bind_ok.mp run
      obtain ⟨onUpdate, _, -, run⟩ := Compile.bind_ok.mp run
      obtain ⟨deferrable, _, -, run⟩ := Compile.bind_ok.mp run
      obtain ⟨rfl, -⟩ := Compile.pure_ok.mp run
      simp only [List.append_assoc]
      exact constrainsAs sqlite " foreign key " "foreign key " (by decide +kernel) _

theorem checkText_ok {constraint : CheckConstraint Value} {sql : Sql} {name : String} {given : Value}
    (present : constraint.name.filter Value.isTruthy = some given)
    (named : (s.wrap given).Gives [.name s.capabilities.quoting name] [])
    (run : s.checkText constraint p = .ok sql p') : sql.ConstrainsAs name "check " := by
  unfold checkText at run
  simp only [present] at run
  obtain ⟨_, _, first, run⟩ := Compile.bind_ok.mp run
  obtain rfl := named.eq_of_ok first
  obtain ⟨_, _, joined, run⟩ := Compile.bind_ok.mp run
  obtain ⟨rfl, -⟩ := Compile.pure_ok.mp joined
  obtain ⟨test, _, -, run⟩ := Compile.bind_ok.mp run
  obtain ⟨rfl, -⟩ := Compile.pure_ok.mp run
  refine ⟨test.parens.text.toList, ?_⟩
  rw [capabilities_of_sqlite sqlite]
  simp only [List.append_assoc, Sql.text_append, Sql.text_word, Sql.text_name, String.toList_append, Item.nameText]
  rfl

end Texts

/-- A response is asked for, to build a table again with a change. -/
def Asks (s : Scope) (t : Table Value) (question : Compiled Value) (change : DefinitionChange) : Prop :=
  question.output = some (.rebuild ⟨t.name, s.capabilities.quoting, change⟩)

/-- A constraint was added, and a statement that drops constraints takes it back. -/
def TakesBack (s : Scope) (t : Table Value) (Same : Item → Prop) (statements statements' : List (Compiled Value))
    (drop : Ddl Unit) : Prop :=
  ∃ (added dropped : Compiled Value) (adds drops : DefinitionChange),
    statements' = statements ++ [added] ∧ s.Asks t added adds ∧ drop.Gives () [dropped] ∧ s.Asks t dropped drops ∧
      ∀ items, (adds.apply items >>= drops.apply) = drops.apply items ∧
        ((∀ item ∈ items, ∃ own, item.column? = .ok own) → (∀ item ∈ items, ¬ Same item) →
          (adds.apply items >>= drops.apply) = .ok items)

section Kinds

variable (sqlite : s.client.dialect = .sqlite) {statements statements' : List (Compiled Value)}

include sqlite

/-- A statement that adds a constraint, and one that drops constraints, of which it is one. -/
theorem takesBack_of_same {c : Compile Sql} {Same : Item → Prop}
    (same : ∀ p sql p', c p = .ok sql p' → sql.Constrains ∧ Same sql.text.toList) {drop : Ddl Unit}
    {drops : DefinitionChange} (dropsThose : drops.DropsThose Same)
    (asks : ∃ question, s.Asks t question drops ∧ drop.Gives () [question])
    (run : (do s.addConstraint t (← c) : Ddl Unit) statements p = .ok ((), statements') p') :
    s.TakesBack t Same statements statements' drop := by
  obtain ⟨sql, q, rendered, added, rfl, asked⟩ := addConstraint_ok sqlite run
  obtain ⟨constraint, bears⟩ := same _ _ _ rendered
  obtain ⟨dropped, asked', gives⟩ := asks
  refine ⟨added, dropped, _, drops, rfl, asked, gives, asked', fun items => ?_⟩
  obtain ⟨undone, kept⟩ := DefinitionChange.drop_added dropsThose constraint bears items
  exact ⟨undone, fun readable none_ => undone.trans (kept readable none_)⟩

/-- A primary key is dropped whatever its name is, but it has no blanks. -/
theorem dropPrimary_takesBack {columns : List Value} {name : Option Value} {key : String} (solid : SolidName key)
    (named : (s.primaryName t name).Gives [.name s.capabilities.quoting key] [])
    (run : s.tableStatement t (.primary columns name) statements p = .ok ((), statements') p') :
    s.TakesBack t Item.BearsKey statements statements' (s.tableStatement t (.dropPrimary name)) := by
  refine takesBack_of_same sqlite (fun p sql p' rendered => ⟨primaryText_constrains rendered, ?_⟩)
    DefinitionChange.dropsThose_primary ?_ run
  · obtain ⟨rest, text⟩ := primaryText_ok sqlite named rendered
    rw [text]
    exact Item.bearsKey_written solid rfl
  · rw [tableStatement, dropPrimary, grammar_of_sqlite sqlite]
    exact rebuild_gives t .dropPrimary

/-- A foreign key is dropped by the name that its text has. -/
theorem dropForeign_takesBack {key : ForeignKey Value} {name : String} (unquoted : '\x60' ∉ name.toList)
    (named : (s.indexName t "foreign" key.columns key.name).Gives [.name s.capabilities.quoting name] [])
    (looked : (s.tableStatement t (.dropForeign key.columns key.name)) = s.rebuild t (.dropForeign name))
    (run : s.tableStatement t (.foreign key) statements p = .ok ((), statements') p') :
    s.TakesBack t (Item.Bears name.toList ["foreign", "key"]) statements statements'
      (s.tableStatement t (.dropForeign key.columns key.name)) := by
  refine takesBack_of_same sqlite (fun p sql p' rendered => ⟨foreignText_constrains rendered, ?_⟩)
    (DefinitionChange.dropsThose_foreign name) ?_ run
  · obtain ⟨rest, text⟩ := foreignText_ok sqlite named rendered
    rw [text]
    exact Item.bears_written unquoted rfl
  · rw [looked]
    exact rebuild_gives t (.dropForeign name)

/-- A check is dropped by the name that its text has. -/
theorem dropCheck_takesBack {constraint : CheckConstraint Value} {name : String} (unquoted : '\x60' ∉ name.toList)
    (present : constraint.name.filter Value.isTruthy = some (.str name))
    (named : (s.wrap (.str name)).Gives [.name s.capabilities.quoting name] [])
    (run : s.tableStatement t (.check constraint) statements p = .ok ((), statements') p') :
    s.TakesBack t (Item.Bears name.toList ["check"]) statements statements'
      (s.tableStatement t (.dropChecks [.str name])) := by
  refine takesBack_of_same sqlite (fun p sql p' rendered => ⟨checkText_constrains rendered, ?_⟩)
    (DefinitionChange.dropsThose_check name) ?_ run
  · obtain ⟨rest, text⟩ := checkText_ok sqlite present named rendered
    rw [text]
    exact Item.bears_written unquoted rfl
  · have single : s.tableStatement t (.dropChecks [.str name]) = (do s.rebuild t (.dropCheck name); pure ()) := by
      change (do s.dropCheck t (.str name); pure ()) = _
      rw [dropCheck, grammar_of_sqlite sqlite]
      simp only [storedName, liftM_pure, pure_bind]
    rw [single]
    obtain ⟨question, asked, gives⟩ := rebuild_gives (s := s) t (.dropCheck name)
    exact ⟨question, asked, gives.then_silent (.pure ())⟩

end Kinds

/-- Adding a constraint to a table and dropping it by its name leaves the definitions that dropping it alone would
leave: the original ones, if none of them is a constraint of that kind and name. -/
theorem drops_added (sqlite : s.client.dialect = .sqlite) (unhooked : s.client.wrapIdentifier = none)
    {add drop : TableStatement Value} {Same : Item → Prop} (undoes : Undoes t.name add drop Same)
    {statements statements' : List (Compiled Value)}
    (run : s.tableStatement t add statements p = .ok ((), statements') p') :
    ∃ (added dropped : Compiled Value) (adds drops : DefinitionChange),
      statements' = statements ++ [added] ∧ s.Asks t added adds ∧ (s.tableStatement t drop).Gives () [dropped] ∧
        s.Asks t dropped drops ∧
        ∀ items, (adds.apply items >>= drops.apply) = drops.apply items ∧
          ((∀ item ∈ items, ∃ own, item.column? = .ok own) → (∀ item ∈ items, ¬ Same item) →
            (adds.apply items >>= drops.apply) = .ok items) := by
  have quotes := quotes_of_sqlite sqlite unhooked
  have grammar := grammar_of_sqlite sqlite
  -- A name that is given counts as such.
  have given {name : String} (filled : name ≠ "") :
      (some (Value.str name)).filter Value.isTruthy = some (.str name) := by
    simp [Value.isTruthy, Scalar.isTruthy, filled]
  cases undoes with
  | @primary columns name filled solid =>
    refine dropPrimary_takesBack sqlite solid ?_ run
    rw [primaryName, given filled]
    exact quotes.wrap_gives solid.plain
  | @primaryDefault columns solid =>
    exact dropPrimary_takesBack sqlite solid.key (quotes.wrapString_gives solid.key.plain) run
  | @foreign key name given_ written =>
    refine dropForeign_takesBack sqlite written.unquoted ?_ ?_ run
    · rw [indexName, given_, given written.filled]
      exact quotes.wrap_gives written.toPlainName
    · rw [tableStatement, dropForeign, grammar, given_]
      simp only [given written.filled, storedName, liftM_pure, pure_bind]
  | @foreignDefault key columns unnamed strings part parts starts =>
    obtain ⟨plain, unquoted, same⟩ := foreignName_plain part parts starts
    have generated : s.generatedName t "foreign" key.columns = pure (foreignName t.name columns) := by
      have shown : columns.mapM (fun column => s.display (.str column)) = pure (columns.map id) := List.mapM_pure
      rw [generatedName, strings, List.mapM_map, Function.comp_def, shown, List.map_id]
      rfl
    refine dropForeign_takesBack sqlite unquoted ?_ ?_ run
    · rw [indexName, unnamed, generated]
      simp only [Option.filter_none, pure_bind, same]
      exact quotes.wrapString_gives plain
    · rw [tableStatement, dropForeign, grammar, unnamed]
      simp only [Option.filter_none, generated, liftM_pure, pure_bind]
  | @check constraint name given_ written =>
    have present : constraint.name.filter Value.isTruthy = some (.str name) := by rw [given_, given written.filled]
    exact dropCheck_takesBack sqlite written.unquoted present (quotes.wrap_gives written.toPlainName) run

/-- A foreign key by its default name, in a table with a blank and capitals in its name and another foreign key. -/
theorem drops_added_default :
    let client : Client Value := { dialect := .sqlite }
    let s : Scope := ({ client } : Environment).scope client
    let t : Table Value := { client, method := .alter, name := "My Table" }
    let key : ForeignKey Value :=
      { columns := [.str "a", .str "B c"], references := some (.list [.str "x", .str "y"]), table := some "u" }
    let items : List Item := ["\x60a\x60 integer".toList, "\x60B c\x60 integer".toList,
      "constraint \x60my table_a_foreign\x60 foreign key (\x60a\x60) references \x60u\x60 (\x60x\x60)".toList]
    ∃ (p' : Progress) (added dropped : Compiled Value) (adds drops : DefinitionChange),
      s.tableStatement t (.foreign key) [] {} = .ok ((), [added]) p' ∧ s.Asks t added adds ∧
        (s.tableStatement t (.dropForeign key.columns none)).Gives () [dropped] ∧ s.Asks t dropped drops ∧
        (adds.apply items >>= drops.apply) = .ok items := by
  intro client s t key items
  have succeeds : (match s.tableStatement t (.foreign key) [] {} with
    | .ok _ _ => true
    | .error _ _ => false) = true := by decide +kernel
  have strings : key.columns = ["a", "B c"].map Value.str := rfl
  have undoes : Undoes t.name (.foreign key) (.dropForeign key.columns key.name) _ :=
    .foreignDefault rfl strings (by decide +kernel) (by decide +kernel) (by decide +kernel)
  have readable : ∀ item ∈ items, ∃ own, item.column? = .ok own := by
    simp only [items, List.forall_mem_cons]
    exact ⟨⟨_, rfl⟩, ⟨_, rfl⟩, ⟨_, rfl⟩, nofun⟩
  have others : ∀ item ∈ items, ¬ Item.Bears (foreignName t.name ["a", "B c"]).toList ["foreign", "key"] item := by
    have missed : ∀ item ∈ items,
        Item.isNamed (foreignName t.name ["a", "B c"]).toList ["foreign", "key"] item = false := by decide +kernel
    intro item within bears
    rw [← Item.isNamed_iff ⟨_, _, rfl, by decide, by decide⟩, missed item within] at bears
    cases bears
  split at succeeds
  next result p' run =>
    obtain ⟨⟨⟩, statements⟩ := result
    obtain ⟨added, dropped, adds, drops, rfl, asked, gives, asked', undone⟩ :=
      Scope.drops_added (s := s) (t := t) rfl rfl undoes run
    exact ⟨p', added, dropped, adds, drops, run, asked, gives, asked', (undone items).2 readable others⟩
  · cases succeeds

/-- The default name of a foreign key is looked for with the dashes of the table, for which underscores stand in the
definition; a primary key is not found by a name with a blank in it; and where a check is dropped, a foreign key is
whose name goes on behind that of the check with a blank and the word itself. -/
theorem drops_added_dashed :
    let client : Client Value := { dialect := .sqlite }
    let s : Scope := ({ client } : Environment).scope client
    let changed (table : String) (add drop : TableStatement Value) (items : List String) : Option (List String) := do
      let t : Table Value := { client, method := .alter, name := table, statements := [add, drop] }
      let statements ← match s.tableStatements t [] {} with
        | .ok (_, statements) _ => some statements
        | .error _ _ => none
      let changes : List DefinitionChange := statements.filterMap fun c => match c.output with
        | some (.rebuild r) => some r.change
        | _ => none
      let changed : Except Error (List Item) :=
        changes.foldlM (fun items change => DefinitionChange.apply change items) (items.map String.toList)
      return (← changed.toOption).map String.ofList
    let column := "\x60a\x60 integer"
    changed "my-table" (.foreign { columns := [.str "a"], references := some (.str "id"), table := some "u" })
        (.dropForeign [.str "a"] none) [column] =
        some [column, "constraint \x60my_table_a_foreign\x60 foreign key (\x60a\x60) references \x60u\x60 (\x60id\x60)"] ∧
      changed "my table" (.primary [.str "a"] none) (.dropPrimary none) [column] =
        some [column, "constraint \x60my table_pkey\x60 primary key (\x60a\x60)"] ∧
      changed "t" (.check { predicate := .str "a > 0", name := some (.str "c") }) (.dropChecks [.str "c"])
          [column, "constraint \x60c check\x60 foreign key (\x60a\x60) references \x60u\x60 (\x60id\x60)"] =
        some [column] := by
  decide +kernel

end Scope

end SqlBuilder
