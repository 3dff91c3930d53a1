import SqlBuilder.Proofs.DefinedTables
import SqlBuilder.Render.Compile

/-!
# Placeholders of schema changes

The values in a data definition are written out, and its statements go through the form for the driver all the
same. Where nothing that is written out has a question mark, the form of every statement is its text, with the
marks of the driver in place of the placeholders of its own values, and with percent signs as the driver reads
them. A question mark in a literal is no placeholder, but becomes one in the form.

* `Paramstyle.markedFrom`: a text with marks in place of its question marks.
* `View.Clean`, `SchemaOperation.Clean`, `Schema.Clean`: what a change is made from is written without question
  marks.
* `Schema.compile_marks`: the placeholders of the statements of a schema change.
-/

namespace SqlBuilder

/-! ## Forms for drivers -/

/-- A text with the marks of a driver in place of its question marks, after some of these, and with everything
else as the driver has to read it. -/
def Paramstyle.markedFrom (style : Paramstyle) : Nat → List Char → List Char
  | _, [] => []
  | count, c :: cs =>
    if c = '?' then style.mark (count + 1) ++ style.markedFrom (count + 1) cs
    else style.literal c ++ style.markedFrom count cs

/-- Where no question mark is anything else than a placeholder, the form has a mark for each of them. -/
theorem positionFrom_of_escapes {style : Paramstyle} {count slashes : Nat} {cs : List Char}
    (h : escapesFrom slashes cs = 0) :
    positionFrom style count slashes cs = List.replicate slashes '\\' ++ style.markedFrom count cs := by
  fun_induction positionFrom style count slashes cs with
  | case1 => simp [Paramstyle.markedFrom]
  | case2 count slashes cs ih =>
    have single : style.literal '\\' = ['\\'] := by simp [Paramstyle.literal]
    rw [ih (by simpa [escapesFrom] using h), List.replicate_succ', Paramstyle.markedFrom]
    simp [single]
  | case3 count slashes cs odd _ ih => simp [escapesFrom, odd] at h
  | case4 count slashes cs even _ ih =>
    rw [ih (by simpa [escapesFrom, even] using h), Paramstyle.markedFrom]
    simp
  | case5 count slashes c cs slash mark ih =>
    rw [ih (by simpa [escapesFrom, slash, mark] using h), Paramstyle.markedFrom]
    simp [mark]

/-! ## What schema changes are made from -/

/-- A change of a view is written without question marks. -/
def ViewStatement.Clean (s : Scope) : ViewStatement Value → Prop
  | .renameColumn old new => s.Identifies old ∧ s.Names new
  | .defaultTo column value =>
    s.Names column ∧ if value.isRaw then s.Inlines (s.source value .null) else s.Spells value

/-- What a view is made from is written without question marks. -/
structure View.Clean (s : Scope) (v : View Value) : Prop where
  name : s.Identifies v.name
  schema : ∀ schema ∈ v.schema, s.Displays schema
  columns : ∀ column ∈ v.columns, s.Names column
  query : ∀ query ∈ v.query, s.Inlines (s.source query .null)
  statements : ∀ statement ∈ v.statements, statement.Clean s

/-- A statement of the caller's has no question marks besides its placeholders. -/
def Operand.Slotted : Operand → Prop
  | .sql part => (∀ piece ∈ part, piece.Slotted) ∧ ∀ v, .stray v ∉ part
  | .object _ => True

/-- What an operation on a schema is made from is written without question marks. -/
def SchemaOperation.Clean (s : Scope) (schema : Option Value) : SchemaOperation Value → Prop
  | .table method name like callback =>
    (s.builtTable schema method name like callback).Quiet fun t =>
      (∀ v ∈ t.context, s.Displays v) ∧ t.Clean { s with context := t.context }
  | .view method name callback => (s.builtView schema method name callback).Quiet (View.Clean s)
  | .renameTable old new | .renameView old new => s.Identifies old ∧ s.Names new
  | .dropTable name _ | .refreshView name _ | .dropView name _ _ => s.Identifies name
  | .createSchema name _ | .dropSchema name _ _ | .createExtension name _ | .dropExtension name _ => s.Names name
  | .raw sql bindings => (s.nested.raw s.client none (Raw.ofValue s.client sql bindings)).Returns Operand.Slotted
  | .hasTable _ | .hasColumn _ _ => True

/-- The scope in which the statements of a schema change are rendered. -/
def Schema.scope (env : Environment) (schema : Schema Value) : Scope where
  env
  client := schema.client
  nested := .ofDepth env (nestingLimit - 1)

/-- What a schema change is made from is written without question marks. -/
structure Schema.Clean (env : Environment) (change : Schema Value) : Prop where
  schema : ∀ v ∈ change.schema, (change.scope env).Displays v
  operations : ∀ operation ∈ change.operations, operation.Clean (change.scope env) change.schema

/-! ## Questions for the catalog -/

/-- A text has a number of placeholders and no other question marks. -/
def hasMarks (count : Nat) (cs : List Char) : Bool :=
  marksFrom 0 cs == count && escapesFrom 0 cs == 0

/-- The characters of a template with a text in place of its slots. -/
def Template.spelling (filling : String) (parts : List (Text.Lexeme Unit)) : List Char :=
  parts.flatMap fun
    | .plain c => [c]
    | .token () => filling.toList

theorem Template.toList_spelled (filling : String) (parts : List (Text.Lexeme Unit)) :
    (Sql.spelled filling parts).text.toList = spelling filling parts := by
  have word (w : String) : (Sql.word w).text = w := by simp [Sql.word, Sql.text, Piece.text]
  rw [Sql.spelled, word, String.toList_join, List.flatMap_map, spelling]
  refine congrArg (List.flatMap · parts) (funext fun part => ?_)
  cases part <;> simp

/-- A template of a question has placeholders for a number of values, and for one more in the place of its slot if
it has one. -/
def Template.asks (default : String) (count : Nat) (template : String) : Bool :=
  match braced "schema" template with
  | .ok parts =>
    if Text.hasInfix "\x7bschema\x7d".toList template.toList then
      hasMarks (count + 1) (spelling "?" parts) && hasMarks count (spelling default parts)
    else hasMarks count (spelling "" parts)
  | .error _ => true

/-- Whether the text of a statement passes a test, if it has one. -/
def SlottedStatement.passes (test : String → Bool) : SlottedStatement → Bool
  | .text template => test template
  | .container | .object => true

/-- The questions of a dialect for its catalog, with the number of the names that each is about. -/
def CatalogQueries.questions (catalog : CatalogQueries) : List (SlottedStatement × Nat) :=
  [(catalog.hasTable, 1), (catalog.hasColumn, 2)]

theorem Dialect.asks {d : Dialect} (builtin : d ∈ Dialect.builtin) {question : SlottedStatement × Nat}
    (known : question ∈ d.capabilities.catalog.questions) {template : String} (text : question.1 = .text template) :
    Template.asks d.capabilities.catalog.schemaDefault question.2 template = true := by
  have each : ∀ d ∈ Dialect.builtin, ∀ question ∈ d.capabilities.catalog.questions,
      question.1.passes fun template => Text.isAscii template &&
        Template.asks d.capabilities.catalog.schemaDefault question.2 (String.ofList (Text.ascii template)) := by
    simp only [Template.asks, Template.braced, String.toList_ofList]
    decide +kernel
  have passed := each d builtin question known
  rw [text, SlottedStatement.passes, Bool.and_eq_true] at passed
  exact Text.of_ascii (P := (Template.asks _ _ · = true)) passed

namespace Scope

variable {s : Scope}

theorem searchedSchema_quiet (schema : Option Value) : (s.searchedSchema schema).Quiet fun _ => True := by
  unfold searchedSchema
  split
  · exact .pure trivial
  · exact .bind (.liftCompile (P := fun _ => True) fun _ _ => trivial) fun _ _ => .pure trivial
  · exact .pure trivial

/-- A question for the catalog has its names bound, and the schema if one is known. -/
theorem catalogQuestion_marks {schema : Option Value} {statement : SlottedStatement} {names : List Value}
    (h : ∀ template, statement = .text template →
      Template.asks s.capabilities.catalog.schemaDefault names.length template = true) :
    (s.catalogQuestion schema statement names).Marks fun _ => True := by
  unfold catalogQuestion
  refine .optional (.throw _) ?_
  cases statement with
  | container | object => exact .bind (Q := fun _ => False) (.lift (.throw _)) fun _ h => h.elim
  | text template =>
    refine .bind (.lift (.pure (P := (· = template)) rfl)) ?_
    rintro template rfl
    extract_lets slot k
    have hk (filling : String) (values : List Value)
        (marks : ∀ parts, Template.braced "schema" template = .ok parts →
          hasMarks values.length (Template.spelling filling parts) = true) : (k (filling, values)).Marks fun _ => True := by
      have parted : (slotted "schema" template).Quiet fun parts => Template.braced "schema" template = .ok parts := by
        unfold slotted
        split
        next parts found => exact .pure found
        · exact .throw _
      refine .bind (.lift parted) fun parts found => pushWith_marks ?_
      have exactly := marks parts found
      simp only [hasMarks, Bool.and_eq_true, beq_iff_eq, ← Template.toList_spelled] at exactly
      exact ⟨exactly.1, exactly.2⟩
    have asked (parts : List (Text.Lexeme Unit)) (found : Template.braced "schema" template = .ok parts) :
        if Text.hasInfix slot.toList template.toList then
          hasMarks (names.length + 1) (Template.spelling "?" parts) = true ∧
            hasMarks names.length (Template.spelling s.capabilities.catalog.schemaDefault parts) = true
        else hasMarks names.length (Template.spelling "" parts) = true := by
      have asks := h template rfl
      simp only [Template.asks, found] at asks
      split
      next slotful =>
        rw [if_pos slotful, Bool.and_eq_true] at asks
        exact asks
      next slotless =>
        rw [if_neg slotless] at asks
        exact asks
    split
    next slotless =>
      refine .bind (.pure (P := (· = ("", names))) rfl) ?_
      rintro _ rfl
      refine hk _ _ fun parts found => ?_
      rw [Bool.not_eq_true'] at slotless
      simpa only [slotless, Bool.false_eq_true, if_false] using asked parts found
    next slotful =>
      rw [Bool.not_eq_true', Bool.not_eq_false] at slotful
      simp only [slotful, if_true] at asked
      refine .bind (.lift (searchedSchema_quiet schema)) fun searched _ => ?_
      split
      next schema =>
        refine .bind (.pure (P := (· = ("?", names ++ [schema]))) rfl) ?_
        rintro _ rfl
        refine hk _ _ fun parts found => ?_
        rw [List.length_append]
        exact (asked parts found).1
      · refine .bind (.pure (P := (· = (s.capabilities.catalog.schemaDefault, names))) rfl) ?_
        rintro _ rfl
        exact hk _ _ fun parts found => (asked parts found).2

/-! ## Views -/

section

variable {v : View Value} (clean : s.Clean) (hv : v.Clean s)

include clean hv

theorem viewName_quiet : (s.viewName v).Quiet Sql.Unmarked :=
  clean.qualified hv.schema hv.name.names hv.name.displays

/-- Creates a view from a query that is written out. -/
theorem createViewQuery_marks {words : String} (hw : Text.Unmarked words) :
    (s.createViewQuery v words).Marks fun _ => True := by
  unfold createViewQuery
  split
  · exact .throw _
  next query given =>
    refine .bind (.lift (viewName_quiet clean hv)) fun name hname => ?_
    extract_lets check k
    have option : Sql.Unmarked check := by
      unfold check
      cases v.checkOption with
      | none => exact Sql.unmarked_nil
      | some option => cases option <;> decide
    have hk : ∀ columns : Sql, columns.Unmarked → (k columns).Marks fun _ => True := by
      intro columns hcolumns
      refine .bind (.lift (writtenOut_quiet (hv.query query given))) fun text htext => push_marks ?_
      simp +decide [hw, hname, hcolumns, htext, option]
    split
    · exact .bind (.pure Sql.unmarked_nil) hk
    · refine .bind (.lift (columnizeAll_quiet hv.columns)) fun list hl => .bind (.pure ?_) hk
      simp +decide [hl]

/-- Creates a view, or replaces one. -/
theorem createView_marks : (s.createView v).Marks fun _ => True := by
  have replacing := clean.replacing
  unfold createView
  split
  · split
    · refine .bind (.lift (viewName_quiet clean hv)) fun name hname => .bind (push_marks ?_) fun _ _ => ?_
      · simp +decide [hname]
      · exact createViewQuery_marks clean hv (by decide)
    · exact createViewQuery_marks clean hv (by decide)
    · exact createViewQuery_marks clean hv (Text.unmarked_append.mpr ⟨replacing, by decide⟩)
  · split
    · exact createViewQuery_marks clean hv (by decide)
    · exact .lift (.throw _)
  · exact createViewQuery_marks clean hv (by decide)

theorem renameViewColumn_marks {old new : Value} (ho : s.Identifies old) (hn : s.Names new) :
    (s.renameViewColumn v old new).Marks fun _ => True := by
  unfold renameViewColumn
  split
  · refine .bind (.lift hv.name.displays) fun _ _ => .bind (.lift ho.displays) fun _ _ => ?_
    exact columnRename_marks _ _ _
  · split
    · refine .bind (.lift (viewName_quiet clean hv)) fun name hname => ?_
      refine .bind (.lift ho.names.wrap) fun first hf => .bind (.lift hn.wrap) fun second hs => push_marks ?_
      simp +decide [hname, hf, hs]
    · exact .throw _

theorem setViewDefault_marks {column value : Value} (hc : s.Names column)
    (hd : if value.isRaw then s.Inlines (s.source value .null) else s.Spells value) :
    (s.setViewDefault v column value).Marks fun _ => True := by
  unfold setViewDefault
  split
  · extract_lets k
    have hk : ∀ default : Sql, default.Unmarked → (k default).Marks fun _ => True := by
      intro default hdefault
      refine .bind (.lift (viewName_quiet clean hv)) fun name hname => .bind (.lift hc.wrap) fun sql hs => ?_
      exact push_marks (by simp +decide [hname, hs, hdefault])
    split
    next raw =>
      rw [if_pos raw] at hd
      exact .bind (.lift (writtenOut_quiet hd)) hk
    next plain =>
      rw [if_neg plain] at hd
      exact .bind (.lift hd.literalSql) hk
  · exact .throw _

/-- The question marks of all statements about a view are the placeholders of their values. -/
theorem viewStatements_marks : (s.viewStatements v).Marks fun _ => True := by
  unfold viewStatements
  split
  · refine .forM fun statement hs => ?_
    have written := hv.statements statement hs
    cases statement with
    | renameColumn old new => exact renameViewColumn_marks clean hv written.1 written.2
    | defaultTo column value => exact setViewDefault_marks clean hv written.1 written.2
  · exact createView_marks clean hv

end

/-! ## Operations -/

/-- A change whose values are its own. -/
theorem ownStatements_marks {change : Ddl Unit} (h : change.Marks fun _ => True) :
    (ownStatements change).Marks fun _ => True := by
  refine .bind (Q := fun own => ∀ c ∈ own.2, c.Marked) (.lift (.ownBindings_unbound ?_)) fun own marked' => ?_
  · exact fun p own p' bound run => (h [] p own.1 own.2 p' (List.forall_mem_nil _) bound run).1
  · rintro statements p _ _ _ marked bound ⟨⟩
    exact ⟨List.forall_mem_append.mpr ⟨marked, marked'⟩, bound, trivial⟩

section

variable {schema : Option Value} (clean : s.Clean) (hschema : ∀ v ∈ schema, s.Displays v)

include clean hschema

theorem rename_marks {kind : String} (hk : Text.Unmarked kind) {old new : Value} (ho : s.Identifies old)
    (hn : s.Names new) : (s.rename schema kind old new).Marks fun _ => True := by
  have qualified := clean.qualified hschema ho.names ho.displays
  have renamed {words : String} (hw : Text.Unmarked words) :
      (rename.renamed s schema old new words).Marks fun _ => True := by
    refine .bind (.lift qualified) fun first hf => .bind (.lift hn.wrap) fun second hs => push_marks ?_
    simp +decide [hw, hf, hs]
  unfold rename
  split
  · exact .bind (.lift (plainName_quiet hschema ho.displays)) fun _ _ => objectRename_marks _ _ _
  · exact renamed (by decide)
  · exact renamed (by decide)
  · refine .bind (.lift qualified) fun first hf => .bind (.lift hn.wrap) fun second hs => push_marks ?_
    simp +decide [hk, hf, hs]

theorem dropTable_marks {name : Value} (hn : s.Identifies name) (ifExists : Bool) :
    (s.dropTable schema name ifExists).Marks fun _ => True := by
  refine .bind (.lift (clean.qualified hschema hn.names hn.displays)) fun sql hs => ?_
  split
  · exact push_marks (by simp +decide [hs])
  · split
    · refine .have_ (push_marks ?_)
      have dropped : (Sql.word "drop table " ++ sql).Unmarked := by simp +decide [hs]
      have statement : Text.Unmarked (Text.replace (Sql.word "drop table " ++ sql).text "'" "''") :=
        Text.Unmarked.replace dropped (by decide)
      rw [Sql.unmarked_raw]
      simp +decide only [Text.unmarked_append, statement, and_self]
    · exact push_marks (by simp +decide [hs])

theorem dropView_marks {name : Value} (hn : s.Identifies name) (ifExists materialized : Bool) :
    (s.dropView schema name ifExists materialized).Marks fun _ => True := by
  unfold dropView
  refine .optional (.lift (.throw _)) ?_
  refine .bind (.lift (clean.qualified hschema hn.names hn.displays)) fun sql hs => push_marks ?_
  cases ifExists <;> cases materialized <;> simp +decide [hs]

omit clean hschema in
theorem onNamespace_marks {method kind before after : String} {name : Value} (hn : s.Names name)
    (hm : Text.Unmarked method) (hk : Text.Unmarked kind) (hb : Text.Unmarked before) (ha : Text.Unmarked after) :
    (s.onNamespace method kind before name after).Marks fun _ => True := by
  unfold onNamespace
  split
  · refine .bind (.lift hn.wrap) fun sql hs => push_marks ?_
    simp +decide [hm, hk, hb, ha, hs]
  · exact .lift (.throw _)

omit clean hschema in
/-- An object in place of a text has no question marks that count, as it is no text. -/
theorem pushObject_marks {method : String} {v : Value} : (s.pushObject method v).Marks fun _ => True := by
  rintro statements p _ _ _ marked bound ⟨⟩
  exact ⟨List.forall_mem_append.mpr ⟨marked, List.forall_mem_singleton.mpr ⟨rfl, rfl⟩⟩, bound, trivial⟩

omit clean hschema in
theorem rawStatement_marks {sql bindings : Value}
    (h : (s.nested.raw s.client none (Raw.ofValue s.client sql bindings)).Returns Operand.Slotted) :
    (s.rawStatement sql bindings).Marks fun _ => True := by
  refine .have_ (.bind (.lift (.ownBindings h)) fun operand slotted => ?_)
  cases operand with
  | sql part => exact pushBound_marks slotted.1 slotted.2
  | object v =>
    simp only
    split
    · exact pushObject_marks
    · exact .pure trivial

/-- The question marks of the statements of an operation are the placeholders of their values. -/
theorem operation_marks {operation : SchemaOperation Value} (h : operation.Clean s schema)
    (builtin : s.client.dialect ∈ Dialect.builtin) : (s.operation schema operation).Marks fun _ => True := by
  cases operation with
  | table method name like callback =>
    refine .bind (.lift h) fun t ⟨context, ht⟩ => ownStatements_marks (tableStatements_marks ?_ ht)
    exact { clean with context }
  | renameTable old new => exact rename_marks clean hschema (by decide) h.1 h.2
  | dropTable name ifExists => exact dropTable_marks clean hschema h ifExists
  | hasTable name => exact catalogQuestion_marks fun _ => Dialect.asks builtin (.head _)
  | hasColumn table column => exact catalogQuestion_marks fun _ => Dialect.asks builtin (.tail _ (.head _))
  | view method name callback =>
    exact .bind (.lift h) fun v hv => ownStatements_marks (viewStatements_marks clean hv)
  | refreshView name concurrently =>
    simp only [operation]
    split
    · refine .bind (.lift (clean.qualified hschema h.names h.displays)) fun sql hs => push_marks ?_
      cases concurrently <;> simp +decide [hs]
    · exact .lift (.throw _)
  | dropView name ifExists materialized => exact dropView_marks clean hschema h ifExists materialized
  | renameView old new => exact rename_marks clean hschema (by decide) h.1 h.2
  | createSchema name ifNotExists =>
    exact onNamespace_marks h (by decide) (by decide) (by cases ifNotExists <;> decide) (by decide)
  | dropSchema name ifExists cascade =>
    exact onNamespace_marks h (by decide) (by decide) (by cases ifExists <;> decide) (by cases cascade <;> decide)
  | createExtension name ifNotExists =>
    exact onNamespace_marks h (by decide) (by decide) (by cases ifNotExists <;> decide) (by decide)
  | dropExtension name ifExists =>
    exact onNamespace_marks h (by decide) (by decide) (by cases ifExists <;> decide) (by decide)
  | raw sql bindings => exact rawStatement_marks h

end

/-- The question marks of the statements of a schema change are the placeholders of their values. -/
theorem schemaChange_marks {change : Schema Value} {p p' : Progress} {cs : List (Compiled Value)} (clean : s.Clean)
    (hschema : ∀ v ∈ change.schema, s.Displays v)
    (operations : ∀ operation ∈ change.operations, operation.Clean s change.schema)
    (builtin : s.client.dialect ∈ Dialect.builtin) (fresh : p.bound = []) (run : s.schemaChange change p = .ok cs p') :
    ∀ c ∈ cs, c.Marked := by
  have steps : (change.operations.forM (s.operation change.schema)).Marks fun _ => True :=
    .forM fun operation within => operation_marks clean hschema (operations operation within) builtin
  unfold schemaChange at run
  obtain ⟨⟨_, statements⟩, q, made, rest⟩ := Compile.bind_ok.mp run
  obtain ⟨rfl, rfl⟩ := Compile.pure_ok.mp rest
  exact (steps [] p _ _ _ (List.forall_mem_nil _) fresh made).1

end Scope

/-! ## Schema changes -/

/-- The built-in dialects have no question marks in what they put into data definitions. -/
theorem Schema.clean_scope (env : Environment) {change : Schema Value}
    (builtin : change.client.dialect ∈ Dialect.builtin) : (change.scope env).Clean := by
  have words : ∀ d ∈ Dialect.builtin,
      Text.Unmarked d.capabilities.quoting.openQuote ∧ Text.Unmarked d.capabilities.quoting.closeQuote ∧
        Text.Unmarked d.capabilities.aliasKeyword ∧
        (∀ words ∈ d.capabilities.alterColumnPrelude, Text.Unmarked words) ∧
        Text.Unmarked d.capabilities.views.createOrReplace := by
    decide
  obtain ⟨openQuote, closeQuote, aliasKeyword, prelude, replacing⟩ := words _ builtin
  exact { openQuote, closeQuote, aliasKeyword, prelude, replacing, context := nofun }

/-- Where nothing that is written out in a schema change has a question mark, the question marks of each statement
are the placeholders of its values, and its form for the driver is its text with the marks of the driver in their
place. -/
theorem Schema.compile_marks {env : Environment} {change : Schema Value}
    (builtin : change.client.dialect ∈ Dialect.builtin) (clean : change.Clean env) {p p' : Progress}
    {cs : List (Compiled Value)} (fresh : p.bound = []) (run : change.compile env p = .ok cs p') :
    ∀ c ∈ cs, marksFrom 0 c.sql.toList = c.bindings.length ∧ escapesFrom 0 c.sql.toList = 0 ∧
      (c.object = none → ∃ native, (∀ q, ∃ q', change.client.native c q = .ok native q') ∧
        native.sql.toList = change.client.style.markedFrom 0 c.sql.toList ∧
        native.bindings.length = c.bindings.length) := by
  have rendered : (change.scope env).schemaChange change p = .ok cs p' := Environment.settled_ok run
  intro c within
  obtain ⟨marks, escapes⟩ := Scope.schemaChange_marks (clean_scope env builtin) clean.schema clean.operations builtin
    fresh rendered c within
  refine ⟨marks, escapes, fun text => ?_⟩
  let native : Native := ⟨change.client.positionBindings c.sql, change.client.prepare c.bindings⟩
  refine ⟨native, change.client.native_ok text, ?_, change.client.length_prepare c.bindings⟩
  exact String.toList_ofList.trans (positionFrom_of_escapes escapes)

/-- A table with a percent sign in a default, a view, and a question for the catalog. -/
theorem Schema.compile_marks_table :
    let client : Client Value := { dialect := .postgres }
    let env : Environment := { client }
    let defined : Value := .callback [[⟨"string", [.scalar (.str "q")], []⟩,
      ⟨"default_to", [.scalar (.str "50%")], []⟩, ⟨"comment", [.scalar (.str "half")], []⟩]]
    let selected : Value := .callback [[⟨"as_", [.scalar (.str "select 7 % 2")], []⟩]]
    let change : Schema Value :=
      { client, operations := [.table .create (.str "t") none defined, .view .create (.str "v") selected,
                               .hasTable (.str "t")] }
    change.client.dialect ∈ Dialect.builtin ∧ change.Clean env ∧ ∃ cs p', change.compile env {} = .ok cs p' ∧
      ∀ c ∈ cs, marksFrom 0 c.sql.toList = c.bindings.length ∧ escapesFrom 0 c.sql.toList = 0 ∧
        (c.object = none → ∃ native, (∀ q, ∃ q', change.client.native c q = .ok native q') ∧
          native.sql.toList = change.client.style.markedFrom 0 c.sql.toList ∧
          native.bindings.length = c.bindings.length) := by
  intro client env defined selected change
  have builtin : change.client.dialect ∈ Dialect.builtin := .head _
  have scope : (change.scope env).Clean := Schema.clean_scope env builtin
  have column : Column.Clean (change.scope env)
      { name := .str "q", type := .varchar (.int 255), defaultTo := some (.str "50%"), comment := some "half" } := {
    name := scope.names_str (by decide)
    type := Scope.displays_of_text rfl (by decide)
    alteredType := nofun
    defaultTo := by
      rintro _ ⟨⟩
      exact Scope.spells_str (change.scope env) (by decide : Text.Unmarked "50%")
    comment := by decide
    collation := nofun
    after := nofun
    checks := ⟨nofun, nofun, nofun, nofun, nofun, nofun, nofun⟩ }
  have table : SchemaOperation.Clean (change.scope env) none (.table .create (.str "t") none defined) := by
    have built : (change.scope env).builtTable none .create (.str "t") none defined = pure
        { client, method := .create, name := "t",
          columns := [{ name := .str "q", type := .varchar (.int 255), defaultTo := some (.str "50%"),
                        comment := some "half" }] } := rfl
    change Compile.Quiet (Scope.builtTable _ _ _ _ _ _) _
    rw [built]
    exact .pure ⟨nofun, {
      name := by decide
      like := nofun
      schema := nofun
      columns := List.forall_mem_singleton.mpr column
      statements := List.forall_mem_nil _
      checks := List.forall_mem_nil _
      comment := nofun
      engine := nofun
      charset := nofun
      collation := nofun
      inherits := nofun }⟩
  have view : SchemaOperation.Clean (change.scope env) none (.view .create (.str "v") selected) := by
    have built : (change.scope env).builtView none .create (.str "v") selected = pure
        { client, method := .create, name := .str "v", query := some (.str "select 7 % 2") } := rfl
    have source : (change.scope env).source (.str "select 7 % 2") .null = pure (Sql.raw "select 7 % 2") := rfl
    change Compile.Quiet (Scope.builtView _ _ _ _ _) _
    rw [built]
    exact .pure {
      name := scope.identifies_str (by decide)
      schema := nofun
      columns := List.forall_mem_nil _
      query := by
        rintro _ ⟨⟩
        rw [source]
        exact .pure ⟨List.forall_mem_singleton.mpr (.inr (by decide)), List.forall_mem_nil _⟩
      statements := List.forall_mem_nil _ }
  have clean : change.Clean env := {
    schema := nofun
    operations :=
      List.forall_mem_cons.mpr ⟨table, List.forall_mem_cons.mpr ⟨view, List.forall_mem_singleton.mpr trivial⟩⟩ }
  have succeeds : (change.compile env).outcome.1.isOk = true := by decide +kernel
  unfold Compile.outcome at succeeds
  split at succeeds
  next cs p' run => exact ⟨builtin, clean, cs, p', run, Schema.compile_marks builtin clean rfl run⟩
  · cases succeeds

/-- A question mark in a value that is written out becomes a placeholder of the driver, and so does that of an
operator in a query that is written out. -/
theorem Schema.compile_marks_literal :
    let native (operation : SchemaOperation Value) : Option (List (String × String × Nat)) :=
      let client : Client Value := { dialect := .postgres }
      let change : Schema Value := { client, operations := [operation] }
      (change.compile { client }).outcome.1.toOption.bind fun cs => cs.mapM fun c =>
        (client.native c).outcome.1.toOption.map fun native => (c.sql, native.sql, native.bindings.length)
    let column : Chain := [⟨"string", [.scalar (.str "q")], []⟩, ⟨"default_to", [.scalar (.str "what?")], []⟩]
    let tagged : Term := .query none (some (.scalar (.str "t")))
      [⟨"where", [.scalar (.str "tags"), .scalar (.str "?"), .scalar (.str "k")], []⟩]
    native (.table .create (.str "t") none (.callback [column])) =
        some [("create table \"t\" (\"q\" varchar(255) default 'what?')",
          "create table \"t\" (\"q\" varchar(255) default 'what%s')", 0)] ∧
      native (.view .create (.str "v") (.callback [[⟨"as_", [tagged], []⟩]])) =
        some [("create view \"v\" as select * from \"t\" where \"tags\" ? 'k'",
          "create view \"v\" as select * from \"t\" where \"tags\" %s 'k'", 0)] := by
  decide +kernel

end SqlBuilder
