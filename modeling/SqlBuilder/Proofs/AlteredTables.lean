import SqlBuilder.Proofs.ChangedParts
import SqlBuilder.Proofs.QualifiedNames
import SqlBuilder.Proofs.TableRebuilds

/-!
# Changes of tables and views in a schema

The statements that change a table or a view name it where the dialect has a place for it, and where a schema is set
they name it in that schema. Two of them do not: SQL Server renames a column by the name of the table alone, and
SQLite builds a table again that is looked up, copied and dropped by its name alone.

* `Sql.AlteredBy`, `Scope.Apart`: the statements with a place for the table, and those that are about no table.
* `Scope.AltersIn`: the statements of a change in a schema.
* `Scope.PartsOf`: what stands in them besides the table or the view.
* `Scope.tableStatements_altersIn`, `Scope.viewStatements_altersIn`: the statements of one change.
* `Rebuild.Replaces`: the statements that build a table again.
* `Schema.alterations_in_schema`: the compiled statements of all changes.
-/

namespace SqlBuilder

/-! ## Statements -/

/-- A statement that has the table or the view in its place, and parts of a sort in the others. -/
inductive Sql.AlteredBy (target : Sql) (Part : Sql → Prop) : Sql → Prop
  | table {change : Sql} (made : Part change) :
      AlteredBy target Part (Sql.word "alter table " ++ target ++ Sql.word " " ++ change)
  | viewColumn {old new : Sql} (first : Part old) (second : Part new) :
      AlteredBy target Part
        (Sql.word "alter view " ++ target ++ Sql.word " rename " ++ old ++ Sql.word " to " ++ new)
  | viewDefault {column default : Sql} (named : Part column) (made : Part default) :
      AlteredBy target Part
        (Sql.word "alter view " ++ target ++ Sql.word " alter " ++ column ++ Sql.word " set default " ++ default)
  | comment {text : Sql} (made : Part text) :
      AlteredBy target Part (Sql.word "comment on table " ++ target ++ Sql.word " is " ++ text)
  | columnComment {column text : Sql} (named : Part column) (made : Part text) :
      AlteredBy target Part
        (Sql.word "comment on column " ++ target ++ Sql.word "." ++ column ++ Sql.word " is " ++ text)
  | newIndex {kind : String} (known : kind = "index" ∨ kind = "unique index") {index using_ columns rows : Sql}
      (named : Part index) (sort : Part using_) (listed : Part columns) (covered : Part rows) :
      AlteredBy target Part
        (Sql.word ("create " ++ kind ++ " ") ++ index ++ Sql.word " on " ++ target ++ using_ ++ Sql.word " " ++
          columns.parens ++ rows)
  | oldIndex {index : Sql} (named : Part index) :
      AlteredBy target Part (Sql.word "drop index " ++ index ++ Sql.word " on " ++ target)
  | oldUnique {index : Sql} (named : Part index) :
      AlteredBy target Part (Sql.word "drop index " ++ target ++ Sql.word "@" ++ index ++ Sql.word " cascade")

namespace Scope

/-- What a dotted name is rendered as, in some context for the hook. -/
def WritesName (s : Scope) (name : String) (sql : Sql) : Prop :=
  ∃ context p p', ({ s with context } : Scope).wrapString name p = .ok sql p'

/-- A statement that has a dotted name in the place of the table or the view. -/
def Alters (s : Scope) (name : String) (Part : Sql → Prop) (sql : Sql) : Prop :=
  ∃ target, s.WritesName name target ∧ target.AlteredBy Part sql

/-- A statement about no table: one that makes a type, one that a dialect needs before others, and one about an index
that the dialect finds without its table. -/
inductive Apart (s : Scope) (schema : String) (Part : Sql → Prop) : Sql → Prop
  | enumeration {name values : Sql} (named : Part name) (listed : Part values) :
      Apart s schema Part (Sql.word "create type " ++ name ++ Sql.word " as enum " ++ values.parens)
  | prelude {words : String} (known : words ∈ s.capabilities.alterColumnPrelude) : Apart s schema Part (Sql.word words)
  | index (sqlite : s.grammar = .sqlite) {name : Sql} (named : Part name) :
      Apart s schema Part (Sql.word "drop index " ++ name)
  | indexIn {outer : Sql} (written : s.WritesName schema outer) {name : Sql} (named : Part name) :
      Apart s schema Part (Sql.word "drop index " ++ outer ++ Sql.word "." ++ name)

/-- A statement of a change of a table or a view in a schema, with parts of a sort besides the table or the view. -/
inductive AltersIn (s : Scope) (schema name : String) (Part : Sql → Prop) (c : Compiled Value) : Prop
  /-- it names the table or the view in the schema -/
  | named {sql : Sql} (alters : s.Alters (schema ++ "." ++ name) Part sql) (text : c.sql = sql.text)
      (final : c.output = none)
  | apart {sql : Sql} (apart : s.Apart schema Part sql) (text : c.sql = sql.text) (final : c.output = none)
  /-- a column is renamed, and the table or the view is bound without the schema -/
  | columnRenamed (mssql : s.grammar = .mssql) {old : String} {new : Value}
      (text : c.sql = "exec sp_rename ?, ?, 'COLUMN'") (bound : c.bindings = [.str (name ++ "." ++ old), new])
      (final : c.output = none)
  /-- the table is looked up without the schema, to build it again -/
  | rebuilt (sqlite : s.grammar = .sqlite) {change : DefinitionChange}
      (text : c.sql = "SELECT type, sql FROM sqlite_master WHERE (type='table' OR " ++
        "(type='index' AND sql IS NOT NULL)) AND tbl_name=" ++ Literal.text s.capabilities.escape.strings name)
      (output : c.output = some (.rebuild ⟨name, s.capabilities.quoting, change⟩))

variable {s : Scope} {schema name : String} {Part : Sql → Prop}

/-- The context for the hook makes no difference to what a statement may be. -/
theorem AltersIn.of_context {context : Option Value} {c : Compiled Value}
    (h : ({ s with context } : Scope).AltersIn schema name Part c) : s.AltersIn schema name Part c := by
  cases h with
  | named alters text final => exact .named alters text final
  | apart apart text final =>
    refine .apart (s := s) ?_ text final
    cases apart with
    | enumeration named listed => exact .enumeration named listed
    | prelude known => exact .prelude (s := s) known
    | index sqlite named => exact .index (s := s) sqlite named
    | indexIn written named => exact .indexIn (s := s) written named
  | columnRenamed mssql text bound final => exact .columnRenamed mssql text bound final
  | rebuilt sqlite text output => exact .rebuilt sqlite text output

/-- A table that is built again is found by its name alone. -/
theorem AltersIn.table_of_rebuild {c : Compiled Value} (h : s.AltersIn schema name Part c) {r : Rebuild}
    (output : c.output = some (.rebuild r)) : r.table = name := by
  cases h with
  | named _ _ final | apart _ _ final | columnRenamed _ _ _ final => cases final.symm.trans output
  | rebuilt _ _ asked =>
    cases asked.symm.trans output
    rfl

theorem altersIn_context (context : Option Value) :
    ({ s with context } : Scope).AltersIn schema name = s.AltersIn schema name := by
  funext Part c
  refine propext ⟨.of_context, fun h => ?_⟩
  -- a scope is itself in its own context
  have own : ({ ({ s with context } : Scope) with context := s.context } : Scope).AltersIn schema name Part c := h
  exact own.of_context

end Scope

/-! ## Steps -/

/-- The statements that a step adds have a property, and so has its result. -/
abbrev Ddl.Adds {α : Type} (P : Compiled Value → Prop) (step : Ddl α) (Q : α → Prop) : Prop :=
  step.Maintains P (fun _ => True) Q

namespace Ddl.Maintains

variable {α β : Type} {P : Compiled Value → Prop} {Q : α → Prop} {R : β → Prop}

/-- A compilation adds nothing. -/
theorem of_returns {c : Compile α} (h : c.Returns Q) : Ddl.Adds P (liftM c) Q :=
  lift fun p a p' _ run => ⟨trivial, h p a p' run⟩

/-- A compilation of which nothing has to be known. -/
theorem silent {c : Compile α} : Ddl.Adds P (liftM c) fun _ => True :=
  of_returns fun _ _ _ _ => trivial

/-- A step after a compilation. -/
theorem after {c : Compile β} {f : β → Ddl α} (hc : c.Returns R) (h : ∀ b, R b → Ddl.Adds P (f b) Q) :
    Ddl.Adds P (liftM c >>= f) Q :=
  (of_returns hc).bind h

/-- A step after a compilation of which nothing has to be known. -/
theorem after_any {c : Compile β} {f : β → Ddl α} (h : ∀ b, Ddl.Adds P (f b) Q) : Ddl.Adds P (liftM c >>= f) Q :=
  silent.bind fun b _ => h b

theorem after_pure {b : β} {f : β → Ddl α} (h : Ddl.Adds P (f b) Q) : Ddl.Adds P (pure b >>= f) Q := by
  rwa [pure_bind]

/-- What a step gives is what a run of it gives. -/
theorem of_run {step : Ddl α} {R : α → Prop} (h : Ddl.Adds P step R)
    (given : ∀ made p a made' p', step made p = .ok (a, made') p' → Q a) : Ddl.Adds P step Q :=
  fun made p a made' p' all holds run =>
    let ⟨all', holds', _⟩ := h made p a made' p' all holds run
    ⟨all', holds', given made p a made' p' run⟩

end Ddl.Maintains

namespace Scope

variable {s : Scope} {schema name : String} {t : Table Value} {P : Compiled Value → Prop}

theorem push_adds {method : String} {sql : Sql} {output : Option Output}
    (h : ∀ bindings, P (s.statementOf method sql bindings output)) :
    Ddl.Adds P (s.push method sql output) fun _ => True :=
  fun statements p => pushWith_maintains (I := fun _ => True) (h p.bound) (fun _ _ => trivial) statements p

/-- A change whose values are its own adds what the change adds. -/
theorem ownStatements_adds {R : Compiled Value → Prop} {change : Ddl Unit} (h : Ddl.Adds P change fun _ => True)
    (weaker : ∀ c, P c → R c) : Ddl.Adds R (ownStatements change) fun _ => True := by
  have own : (change.run []).Returns fun result => ∀ c ∈ result.2, R c :=
    fun p result p' run c within =>
      weaker c ((h [] p result.1 result.2 p' (List.forall_mem_nil _) trivial run).1 c within)
  refine .bind (.lift fun p result p' _ run => ⟨trivial, (Compile.Quiet.ownBindings own p result p' run).2⟩)
    fun result all' => ?_
  rintro statements p _ _ _ all _ ⟨⟩
  exact ⟨List.forall_mem_append.mpr ⟨all, all'⟩, trivial, trivial⟩

/-! ## Names -/

theorem filter_schema (filled : schema ≠ "") :
    (some (Value.str schema)).filter Value.isTruthy = some (.str schema) := by
  simp [Option.filter, Value.isTruthy, Scalar.isTruthy, filled]

/-- A name in a schema is the two of them with a dot between. -/
theorem qualified_str (filled : schema ≠ "") :
    s.qualified (some (.str schema)) (.str name) = s.wrapString (schema ++ "." ++ name) := by
  unfold qualified
  rw [filter_schema filled]
  rfl

theorem wrap_written : (s.wrap (.str name)).Returns (s.WritesName name) := by
  rw [wrap_str]
  exact fun p sql p' run => ⟨s.context, p, p', run⟩

section

variable (target : t.target = (.alter, name, some (.str schema))) (filled : schema ≠ "")

include target

theorem name_of_target : t.name = name :=
  congrArg (·.2.1) target

theorem schema_of_target : t.schema = some (.str schema) :=
  congrArg (·.2.2) target

include filled

theorem tableName_written : (s.tableName t).Returns (s.WritesName (schema ++ "." ++ name)) := by
  rw [tableName, name_of_target target, schema_of_target target, qualified_str filled]
  exact fun p sql p' run => ⟨s.context, p, p', run⟩

/-! ## Keys and indexes -/

omit target filled in
/-- A statement that has the table in its place. -/
theorem pushOn_altersIn {sql : Sql} (alters : s.Alters (schema ++ "." ++ name) (s.Part t) sql) :
    Ddl.Adds (s.AltersIn schema name (s.Part t)) (s.pushOn t sql) fun _ => True :=
  push_adds fun _ => .named alters rfl rfl

/-- A step that is made with the name of the table. -/
theorem after_tableName {f : Sql → Ddl Unit}
    (h : ∀ table, s.WritesName (schema ++ "." ++ name) table →
      Ddl.Adds (s.AltersIn schema name (s.Part t)) (f table) fun _ => True) :
    Ddl.Adds (s.AltersIn schema name (s.Part t)) (liftM (s.tableName t) >>= f) fun _ => True :=
  .after (tableName_written target filled) h

theorem alter_altersIn {change : Sql} (made : s.Part t change) :
    Ddl.Adds (s.AltersIn schema name (s.Part t)) (s.alter t change) fun _ => True :=
  after_tableName target filled fun table written => pushOn_altersIn ⟨table, written, .table made⟩

section Keys

variable {columns : List Value} {own : Option Value} {options : List (String × Value)}
  (listed : ∀ v ∈ columns, v ∈ t.given) (named : ∀ v ∈ own, v ∈ t.given)
  (asked : ∀ v ∈ options.map (·.2), v ∈ t.given)

include listed

theorem createIndex_altersIn {kind : String} (known : kind = "index" ∨ kind = "unique index") {index using_ : Sql}
    (named : s.Part t index) (sort : s.Part t using_) {predicate : Option Value}
    (asked : ∀ v ∈ predicate, v ∈ t.given) :
    Ddl.Adds (s.AltersIn schema name (s.Part t)) (s.createIndex t kind index using_ columns predicate)
      fun _ => True :=
  after_tableName target filled fun table written => .after (columnizeAll_part listed) fun _ list =>
    .after (indexedRows_part asked) fun _ rows =>
      pushOn_altersIn ⟨table, written, .newIndex known named sort list rows⟩

include named

theorem dropIndex_altersIn :
    Ddl.Adds (s.AltersIn schema name (s.Part t)) (s.dropIndex t columns own) fun _ => True := by
  unfold dropIndex
  refine .after (indexName_part "index" listed named) fun key hkey => ?_
  split
  · exact alter_altersIn target filled (Part.words (by decide) |>.append hkey)
  · exact after_tableName target filled fun table written => pushOn_altersIn ⟨table, written, .oldIndex hkey⟩
  next sqlite => exact push_adds fun _ => .apart (.index sqlite hkey) rfl rfl
  · rw [schema_of_target target, filter_schema filled]
    exact .after wrap_written fun outer written => push_adds fun _ => .apart (.indexIn written hkey) rfl rfl

theorem dropUnique_altersIn :
    Ddl.Adds (s.AltersIn schema name (s.Part t)) (s.dropUnique t columns own) fun _ => True := by
  unfold dropUnique
  refine .after (indexName_part "unique" listed named) fun key hkey => ?_
  split
  · exact after_tableName target filled fun table written => pushOn_altersIn ⟨table, written, .oldUnique hkey⟩
  · exact alter_altersIn target filled (Part.words (by decide) |>.append hkey)
  next sqlite => exact push_adds fun _ => .apart (.index sqlite hkey) rfl rfl
  · exact alter_altersIn target filled (Part.words (by decide) |>.append hkey)

include asked

theorem addIndex_altersIn :
    Ddl.Adds (s.AltersIn schema name (s.Part t)) (s.addIndex t columns own options) fun _ => True := by
  unfold addIndex
  extract_lets predicate
  have given {option : String} : ∀ v ∈ option? options option, v ∈ t.given := fun v h => asked v (mem_of_option? h)
  split
  · exact .silent
  · refine .optional .silent (.after (indexName_part "index" listed named) fun key hkey => ?_)
    extract_lets k
    have hk {kind : Sql} (hkind : s.Part t kind) :
        Ddl.Adds (s.AltersIn schema name (s.Part t)) (k kind) fun _ => True :=
      .after (givenAfter_part (by decide) given) fun _ husing => .after (columnizeAll_part listed) fun _ hlist =>
        alter_altersIn target filled (Part.words (by decide) |>.append hkind |>.append (.words (by decide))
          |>.append hkey |>.append hlist.parens |>.append husing)
    split
    next kind truthy =>
      exact .after (given_part (given kind (Option.mem_filter_iff.mp truthy).1)) fun _ hkind =>
        .after_pure (hk (hkind.append (.words (by decide))))
    · exact .after_pure (hk .none)
  · refine .after (indexName_part "index" listed named) fun key hkey => ?_
    extract_lets k
    have hk {using_ : Sql} (husing : s.Part t using_) :
        Ddl.Adds (s.AltersIn schema name (s.Part t)) (k using_) fun _ => True :=
      createIndex_altersIn target filled listed (.inl rfl) hkey husing given
    split
    case h_1 | h_2 => exact .after (givenAfter_part (by decide) given) fun _ => hk
    · exact .after_pure (hk .none)

theorem addUnique_altersIn :
    Ddl.Adds (s.AltersIn schema name (s.Part t)) (s.addUnique t columns own options) fun _ => True := by
  unfold addUnique
  extract_lets predicate deferrable
  have given {option : String} : ∀ v ∈ option? options option, v ∈ t.given := fun v h => asked v (mem_of_option? h)
  have key := indexName_part (s := s) "unique" listed named
  split
  · exact .optional .silent (.after key fun _ hkey =>
      createIndex_altersIn target filled listed (.inr rfl) hkey .none given)
  · exact .after_any fun _ => .after key fun _ hkey => .after (columnizeAll_part listed) fun _ hlist =>
      alter_altersIn target filled (Part.words (by decide) |>.append hkey |>.append hlist.parens)
  · refine .after key fun _ hkey => ?_
    extract_lets asConstraint
    split
    · exact .optional (.throw _) (.after (columnizeAll_part listed) fun _ hlist =>
        .after (deferrableClause_part given) fun _ hclause =>
          alter_altersIn target filled (Part.words (by decide) |>.append hkey |>.append (.words (by decide))
            |>.append hlist.parens |>.append hclause))
    · exact .optional (.throw _) (createIndex_altersIn target filled listed (.inr rfl) hkey .none given)

end Keys

/-! ## Columns -/

omit target filled in
/-- A native enumeration is a type of its own, which is made by a statement about no table. -/
theorem enumerationType_altersIn {method : String} {column : Value} {values : List Value} {native : Bool}
    {type : Value} (named : (s.wrap type).Returns (s.Part t)) (listed : (s.literals values).Returns (s.Part t)) :
    Ddl.Adds (s.AltersIn schema name (s.Part t)) (s.enumerationType method column values native type)
      fun _ => True := by
  unfold enumerationType
  split
  case h_1 | h_2 =>
    split
    · exact .silent
    · split
      · exact .throw _
      · refine .after named fun word hword => .after listed fun list hlist => ?_
        exact .bind (pushFirst_maintains (.apart (.enumeration hword hlist) rfl rfl)) fun _ _ => .pure trivial
  · exact .pure trivial
  · exact .after_any fun list => .pure trivial
  · exact .bind (.mapM (Q := fun _ => True) fun v _ => .after_any fun _ => .pure trivial) fun lengths _ => .silent
  all_goals exact .silent

section Columns

variable {c : Column Value} (own : c ∈ t.columns)

include own

omit target filled in
theorem columnType_altersIn (method : String) :
    Ddl.Adds (s.AltersIn schema name (s.Part t)) (s.columnType method c) (s.Part t) := by
  refine .of_run (R := fun _ => True) ?_ fun _ _ _ _ _ run =>
    .column own (@ColumnPart.type s c s.context _ _ _ _ _ _ run)
  unfold columnType
  split
  · exact .silent
  · cases type : c.type with
    | enumeration values native name =>
      exact enumerationType_altersIn (fun p _ p' run => .column own (.typeName type ⟨s.context, p, p', run⟩))
        fun p _ p' run => .column own (.typeValues type ⟨s.context, p, p', run⟩)
    | boolean =>
      simp only [typeText]
      split
      · exact .after_any fun _ => .pure trivial
      all_goals exact .pure trivial
    | integer | tinyint | text =>
      simp only [typeText]
      split
      all_goals first | exact .silent | exact .pure trivial
    | _ => first | exact .silent | exact .pure trivial

theorem commentStatement_written {comment : String} (given : c.comment = some comment) :
    (s.commentStatement t c comment).Returns (s.Alters (schema ++ "." ++ name) (s.Part t)) :=
  .bind_of (tableName_written target filled) fun table written => .bind_of (columnName_part own) fun _ named =>
    .bind_of (columnComment_part own given) fun _ made => .pure ⟨table, written, .columnComment named made⟩

/-- The statements that follow a column have the table in its place. -/
theorem columnText_altersIn (method : String) :
    Ddl.Adds (s.AltersIn schema name (s.Part t)) (s.columnText method t c) fun text =>
      s.Part t text.definition ∧ ∀ sql ∈ text.comments, s.Alters (schema ++ "." ++ name) (s.Part t) sql := by
  have modified (type : Sql) (m : ColumnModifier) : Ddl.Adds (s.AltersIn schema name (s.Part t)) (do
      let text ← s.modifier c type m
      return (text, ← s.modifierStatements t c m)) fun x =>
        s.Part t x.1 ∧ ∀ sql ∈ x.2, s.Alters (schema ++ "." ++ name) (s.Part t) sql := by
    refine .after (modifier_part own type m) fun text part => .bind (.of_returns ?_) fun _ all => .pure ⟨part, all⟩
    unfold modifierStatements
    split
    · split
      · exact .pure nofun
      · exact .pure nofun
      next comment given _ =>
        exact .bind_of (commentStatement_written target filled own given) fun sql written =>
          .pure (List.forall_mem_singleton.mpr written)
    · exact .pure nofun
  refine .after (columnName_part own) fun word hword => .bind (columnType_altersIn own method) fun type htype => ?_
  refine .bind (.mapM fun m _ => modified type m) fun modifiers all => ?_
  refine .after (columnChecks_part own) fun checks hchecks => .pure ⟨?_, fun sql within => ?_⟩
  · have texts : s.Part t (modifiers.map (·.1)).flatten := .flatten fun sql within => by
      obtain ⟨modifier, mem, rfl⟩ := List.mem_map.mp within
      exact (all modifier mem).1
    exact hword |>.append (.words (by decide)) |>.append htype |>.append texts |>.append hchecks
  · obtain ⟨statements, map, within⟩ := List.mem_flatten.mp within
    obtain ⟨modifier, mem, rfl⟩ := List.mem_map.mp map
    exact (all modifier mem).2 sql within

omit own target filled in
theorem pushAll_altersIn {statements : List Sql}
    (all : ∀ sql ∈ statements, s.Alters (schema ++ "." ++ name) (s.Part t) sql) :
    Ddl.Adds (s.AltersIn schema name (s.Part t)) (s.pushAll t statements) fun _ => True :=
  .forM fun sql within => pushOn_altersIn (all sql within)

theorem addColumn_altersIn : Ddl.Adds (s.AltersIn schema name (s.Part t)) (s.addColumn t c) fun _ => True := by
  refine .bind (columnText_altersIn target filled own _) fun text ⟨definition, all⟩ => ?_
  extract_lets k
  have added {sql : Sql} (made : s.Part t sql) :
      Ddl.Adds (s.AltersIn schema name (s.Part t)) (s.alter t sql >>= k) fun _ => True :=
    .bind (alter_altersIn target filled made) fun _ _ => pushAll_altersIn all
  split
  · exact added (Part.words (by decide) |>.append definition.parens)
  all_goals exact added (Part.words (by decide) |>.append definition)

end Columns

theorem tableComment_altersIn : Ddl.Adds (s.AltersIn schema name (s.Part t)) (s.tableComment t) fun _ => True := by
  unfold tableComment
  split
  · exact .pure trivial
  next comment given =>
    have literal : (s.literalSql (.str comment)).Returns (s.Part t) :=
      fun p _ p' run => .comment given ⟨s.context, p, p', run⟩
    split
    case h_1 | h_2 => exact .silent
    · split
      · exact .after literal fun text made => alter_altersIn target filled (Part.words (by decide) |>.append made)
      · exact .pure trivial
    · exact .after literal fun text made => after_tableName target filled fun table written =>
        pushOn_altersIn ⟨table, written, .comment made⟩

theorem dropColumns_altersIn {columns : List Value} (given : ∀ v ∈ columns, v ∈ t.given) :
    Ddl.Adds (s.AltersIn schema name (s.Part t)) (s.dropColumns t columns) fun _ => True := by
  unfold dropColumns
  split
  · exact .after (columnizeAll_part given) fun list made =>
      alter_altersIn target filled (Part.words (by decide) |>.append made.parens)
  · exact .forM fun column within => .after (wrap_part (given column within)) fun word made =>
      alter_altersIn target filled (Part.words (by decide) |>.append made)

omit filled in
/-- For building a table again the catalog is asked, by the name of the table alone. -/
theorem rebuild_altersIn (sqlite : s.grammar = .sqlite) (change : DefinitionChange) :
    Ddl.Adds (s.AltersIn schema name (s.Part t)) (s.rebuild t change) fun _ => True := by
  rw [rebuild, literalSql_str, name_of_target target]
  exact .after_pure (push_adds fun _ => .rebuilt sqlite rfl rfl)

section AlteredColumns

variable {c : Column Value} (own : c ∈ t.columns)

include own

theorem alterColumnActions_altersIn :
    Ddl.Adds (s.AltersIn schema name (s.Part t)) (s.alterColumnActions t c) fun _ => True := by
  refine .after (columnName_part own) fun word hword => .bind (columnType_altersIn own _) fun type htype => ?_
  extract_lets action cast isForbidden commented k
  have acts {sql : Sql} (made : s.Part t sql) : s.Part t (action sql) :=
    Part.words (by decide) |>.append hword |>.append (.words (by decide)) |>.append made
  have casts : s.Part t cast :=
    Part.words (by decide) |>.append htype |>.append (.words (by decide)) |>.append hword
      |>.append (.words (by decide)) |>.append htype |>.append (.words (by decide))
  have hcommented (r : Unit) : Ddl.Adds (s.AltersIn schema name (s.Part t)) (commented r) fun _ => True := by
    unfold commented
    split
    · exact .pure trivial
    next comment given =>
      exact .after (commentStatement_written target filled own given) fun sql alters => pushOn_altersIn alters
  have hk {default : List Sql} (hdefault : ∀ sql ∈ default, s.Part t sql) :
      Ddl.Adds (s.AltersIn schema name (s.Part t)) (k default) fun _ => True := by
    unfold k
    extract_lets actions
    have all : ∀ sql ∈ actions, s.Part t sql := by
      have ifAsked {condition : Prop} [Decidable condition] {part : Sql} (made : s.Part t part) :
          ∀ sql ∈ (if condition then [part] else []), s.Part t sql := by
        intro sql within
        split at within
        · exact List.mem_singleton.mp within ▸ made
        · exact absurd within List.not_mem_nil
      simp only [actions, List.forall_mem_append]
      exact ⟨⟨⟨⟨ifAsked (acts (.words (by decide))), ifAsked (acts (.words (by decide)))⟩, ifAsked (acts casts)⟩,
        hdefault⟩, ifAsked (acts (.words (by decide)))⟩
    split
    · exact .bind (alter_altersIn target filled (.commas all)) fun r _ => hcommented r
    · exact hcommented ()
  split
  · exact .after_pure (hk (List.forall_mem_nil _))
  next v given =>
    exact .after (defaultText_part own given) fun sql made =>
      .after_pure (hk (List.forall_mem_singleton.mpr (acts (Part.words (by decide) |>.append made))))

theorem alterColumn_altersIn : Ddl.Adds (s.AltersIn schema name (s.Part t)) (s.alterColumn t c) fun _ => True := by
  unfold alterColumn
  extract_lets method
  have nullable : s.Part t (newNullability c) := by
    unfold newNullability
    split
    · cases c.nullable with
      | none => exact .none
      | some v => exact nullability_part v
    · exact .none
  split
  · exact .after (columnName_part own) fun word hword => .bind (columnType_altersIn own method) fun type htype =>
      alter_altersIn target filled (Part.words (by decide) |>.append hword |>.append (.words (by decide))
        |>.append htype)
  · exact .bind (columnText_altersIn target filled own method) fun text ⟨definition, _⟩ =>
      alter_altersIn target filled (Part.words (by decide) |>.append definition)
  · refine .after (columnName_part own) fun word hword => .bind (columnType_altersIn own method) fun type htype => ?_
    extract_lets k
    have hk {default : Sql} (hdefault : s.Part t default) :
        Ddl.Adds (s.AltersIn schema name (s.Part t)) (k default) fun _ => True :=
      alter_altersIn target filled (Part.words (by decide) |>.append (Part.parens
        (hword.append (.words (by decide)) |>.append htype |>.append hdefault |>.append nullable)))
    split
    · exact .after_pure (hk .none)
    next v given =>
      exact .after (defaultText_part own given) fun sql made =>
        .after_pure (hk (Part.words (by decide) |>.append made))
  · refine .after (columnName_part own) fun word hword => .bind (columnType_altersIn own method) fun type htype => ?_
    refine .bind (alter_altersIn target filled (Part.words (by decide) |>.append hword |>.append (.words (by decide))
      |>.append htype |>.append nullable)) fun _ _ => ?_
    split
    · exact .pure trivial
    next v given =>
      exact .after (defaultText_part own given) fun default made => alter_altersIn target filled
        (Part.words (by decide) |>.append made |>.append (.words (by decide)) |>.append hword)
  next sqlite =>
    exact .bind (columnText_altersIn target filled own method) fun text _ => rebuild_altersIn target sqlite _
  · exact alterColumnActions_altersIn target filled own

theorem alterColumnPrepared_altersIn :
    Ddl.Adds (s.AltersIn schema name (s.Part t)) (s.alterColumnPrepared t c) fun _ => True := by
  unfold alterColumnPrepared
  extract_lets k
  have hk (r : Unit) : Ddl.Adds (s.AltersIn schema name (s.Part t)) (k r) fun _ => True :=
    alterColumn_altersIn target filled own
  split
  · exact hk ()
  next prelude given =>
    refine .after_any fun _ => .bind (push_adds fun _ => .apart (.prelude ?_) rfl rfl) fun r _ => hk r
    exact (Option.mem_filter_iff.mp given).1

end AlteredColumns

/-- The changes of the columns, and of the comment. -/
theorem alterTable_altersIn : Ddl.Adds (s.AltersIn schema name (s.Part t)) (s.alterTable t) fun _ => True := by
  refine .bind (.forM fun c own => ?_) fun _ _ => tableComment_altersIn target filled
  split
  · exact dropColumns_altersIn target filled (List.forall_mem_singleton.mpr (Table.given_of_column own))
  · split
    · exact alterColumnPrepared_altersIn target filled own
    · exact addColumn_altersIn target filled own

/-! ## Other changes -/

theorem changeNullable_altersIn {column : Value} (given : column ∈ t.given) (allowed : Bool) :
    Ddl.Adds (s.AltersIn schema name (s.Part t)) (s.changeNullable t column allowed) fun _ => True := by
  unfold changeNullable
  extract_lets feature
  have words {first second : String} (hfirst : first ∈ Sql.changeWords) (hsecond : second ∈ Sql.changeWords) :
      s.Part t (Sql.word (if allowed then first else second)) := by
    split <;> exact .words (by assumption)
  split
  case h_1 | h_2 | h_3 => exact .silent
  · exact .after (wrap_part given) fun word made => alter_altersIn target filled
      (Part.words (by decide) |>.append (made.append (words (by decide) (by decide))).parens)
  next sqlite => exact rebuild_altersIn target sqlite _
  · exact .after (wrap_part given) fun word made => alter_altersIn target filled
      (Part.words (by decide) |>.append made |>.append (words (by decide) (by decide)))

omit target filled in
/-- In SQL Server a column is renamed by the name of the table or the view alone. -/
theorem columnRename_altersIn {Part : Sql → Prop} (mssql : s.grammar = .mssql) (method old : String) (new : Value) :
    Ddl.Adds (s.AltersIn schema name Part) (s.pushBound method (columnRename (.str (name ++ "." ++ old)) new))
      fun _ => True := by
  have text : (columnRename (.str (name ++ "." ++ old)) new).text = "exec sp_rename ?, ?, 'COLUMN'" := by
    simp only [columnRename, objectRename, Sql.text_append, Sql.text_word]
    rfl
  exact pushWith_maintains (.columnRenamed mssql text rfl rfl) fun _ _ => trivial

theorem renameColumn_altersIn {old new : Value} (first : old ∈ t.given) (second : new ∈ t.given) :
    Ddl.Adds (s.AltersIn schema name (s.Part t)) (s.renameColumn t old new) fun _ => True := by
  unfold renameColumn
  split
  next mssql =>
    rw [name_of_target target]
    exact .after_any fun column => columnRename_altersIn mssql _ column new
  · exact .after (wrap_part first) fun _ hfirst => .after (wrap_part second) fun _ hsecond =>
      alter_altersIn target filled (Part.words (by decide) |>.append hfirst |>.append (.words (by decide))
        |>.append hsecond)

theorem dropPrimary_altersIn {own : Option Value} (named : ∀ v ∈ own, v ∈ t.given) :
    Ddl.Adds (s.AltersIn schema name (s.Part t)) (s.dropPrimary t own) fun _ => True := by
  unfold dropPrimary
  split
  · exact alter_altersIn target filled (.words (by decide))
  next sqlite => exact rebuild_altersIn target sqlite _
  · exact .after (primaryName_part named) fun _ made =>
      alter_altersIn target filled (Part.words (by decide) |>.append made)

theorem dropForeign_altersIn {columns : List Value} {own : Option Value} (listed : ∀ v ∈ columns, v ∈ t.given)
    (named : ∀ v ∈ own, v ∈ t.given) :
    Ddl.Adds (s.AltersIn schema name (s.Part t)) (s.dropForeign t columns own) fun _ => True := by
  unfold dropForeign
  split
  next sqlite =>
    split
    all_goals exact .after_any fun key => rebuild_altersIn target sqlite _
  all_goals
    exact .after (indexName_part "foreign" listed named) fun _ made =>
      alter_altersIn target filled (Part.words (by decide) |>.append made)

theorem dropCheck_altersIn {check : Value} (given : check ∈ t.given) :
    Ddl.Adds (s.AltersIn schema name (s.Part t)) (s.dropCheck t check) fun _ => True := by
  unfold dropCheck
  split
  next sqlite => exact .after_any fun key => rebuild_altersIn target sqlite _
  all_goals
    exact .after (wrap_part given) fun _ made => alter_altersIn target filled (Part.words (by decide) |>.append made)

theorem addConstraint_altersIn {constraint : Sql} (made : s.Part t constraint) :
    Ddl.Adds (s.AltersIn schema name (s.Part t)) (s.addConstraint t constraint) fun _ => True := by
  unfold addConstraint
  split
  next sqlite => exact rebuild_altersIn target sqlite _
  · exact alter_altersIn target filled (Part.words (by decide) |>.append made)

/-- What is done to a table after its columns. -/
theorem tableStatement_altersIn {statement : TableStatement Value} (own : statement ∈ t.statements) :
    Ddl.Adds (s.AltersIn schema name (s.Part t)) (s.tableStatement t statement) fun _ => True := by
  have given {v : Value} (within : v ∈ statement.given) : v ∈ t.given := Table.given_of_statement own within
  have apart {columns : List Value} {name : Option Value} (all : ∀ v ∈ columns ++ name.toList, v ∈ t.given) :
      (∀ v ∈ columns, v ∈ t.given) ∧ ∀ v ∈ name, v ∈ t.given := by
    simpa [or_imp, forall_and] using all
  cases statement with
  | index columns name options =>
    obtain ⟨listed, named⟩ := apart fun v h => given (List.mem_append_left _ h)
    exact addIndex_altersIn target filled listed named fun v h => given (List.mem_append_right _ h)
  | unique columns name options =>
    obtain ⟨listed, named⟩ := apart fun v h => given (List.mem_append_left _ h)
    exact addUnique_altersIn target filled listed named fun v h => given (List.mem_append_right _ h)
  | primary columns name =>
    obtain ⟨listed, named⟩ := apart fun v h => given h
    exact .after (primaryText_part listed named) fun _ => addConstraint_altersIn target filled
  | foreign key => exact .after (foreignText_part own) fun _ => addConstraint_altersIn target filled
  | check constraint =>
    exact .after (R := s.Part t) (fun p _ p' run => .check own ⟨s.context, p, p', run⟩)
      fun _ => addConstraint_altersIn target filled
  | dropIndex columns name =>
    obtain ⟨listed, named⟩ := apart fun v h => given h
    exact dropIndex_altersIn target filled listed named
  | dropUnique columns name =>
    obtain ⟨listed, named⟩ := apart fun v h => given h
    exact dropUnique_altersIn target filled listed named
  | dropPrimary name =>
    exact dropPrimary_altersIn target filled fun v h => given (Option.mem_toList.mpr h)
  | dropForeign columns name =>
    obtain ⟨listed, named⟩ := apart fun v h => given h
    exact dropForeign_altersIn target filled listed named
  | renameColumn old new => exact renameColumn_altersIn target filled (given (.head _)) (given (.tail _ (.head _)))
  | dropColumn columns => exact dropColumns_altersIn target filled fun v h => given h
  | setNullable column => exact changeNullable_altersIn target filled (given (.head _)) true
  | dropNullable column => exact changeNullable_altersIn target filled (given (.head _)) false
  | dropChecks names => exact .forM fun check h => dropCheck_altersIn target filled (given h)

/-- All statements of a change of a table. -/
theorem tableStatements_altersIn :
    Ddl.Adds (s.AltersIn schema name (s.Part t)) (s.tableStatements t) fun _ => True := by
  have altered : t.isAltered = true := decide_eq_true (congrArg (·.1) target)
  unfold tableStatements
  -- the statements are rendered in the context of the table
  rw [← altersIn_context t.context, ← Part.eq_of_context t.context]
  extract_lets inContext k
  have hk (r : Unit) : Ddl.Adds (inContext.AltersIn schema name (inContext.Part t)) (k r) fun _ => True :=
    .forM fun statement within => tableStatement_altersIn target filled (List.mem_of_mem_filter within)
  rw [if_pos altered]
  exact .bind (alterTable_altersIn target filled) fun r _ => hk r

end

/-! ## Views -/

section

variable {v : View Value} (target : v.target = (.alter, .str name, some (.str schema))) (filled : schema ≠ "")

include target filled

theorem viewName_written : (s.viewName v).Returns (s.WritesName (schema ++ "." ++ name)) := by
  have named : v.name = .str name := congrArg (·.2.1) target
  have inSchema : v.schema = some (.str schema) := congrArg (·.2.2) target
  rw [viewName, named, inSchema, qualified_str filled]
  exact fun p sql p' run => ⟨s.context, p, p', run⟩

omit target filled in
theorem viewColumn_part {st : ViewStatement Value} (own : st ∈ v.statements) {column : Value}
    (given : column ∈ st.given) : (s.wrap column).Returns (s.ViewPart v) :=
  fun p _ p' run => .name own given ⟨s.context, p, p', run⟩

theorem renameViewColumn_altersIn {old new : Value} (own : .renameColumn old new ∈ v.statements) :
    Ddl.Adds (s.AltersIn schema name (s.ViewPart v)) (s.renameViewColumn v old new) fun _ => True := by
  have named : v.name = .str name := congrArg (·.2.1) target
  unfold renameViewColumn
  split
  next mssql =>
    rw [named]
    exact .after_pure (.after_any fun column => columnRename_altersIn mssql _ column new)
  · split
    · refine .after (viewName_written target filled) fun view written => ?_
      exact .after (viewColumn_part own (.head _)) fun _ first =>
        .after (viewColumn_part own (.tail _ (.head _))) fun _ second => push_adds fun _ =>
          .named ⟨view, written, .viewColumn first second⟩ rfl rfl
    · exact .throw _

theorem setViewDefault_altersIn {column value : Value} (own : .defaultTo column value ∈ v.statements) :
    Ddl.Adds (s.AltersIn schema name (s.ViewPart v)) (s.setViewDefault v column value) fun _ => True := by
  unfold setViewDefault
  split
  · extract_lets k
    have hk {default : Sql} (made : s.ViewPart v default) :
        Ddl.Adds (s.AltersIn schema name (s.ViewPart v)) (k default) fun _ => True := by
      refine .after (viewName_written target filled) fun view written => ?_
      exact .after (viewColumn_part own (.head _)) fun _ named => push_adds fun _ =>
        .named ⟨view, written, .viewDefault named made⟩ rfl rfl
    split
    · exact .after (fun p _ p' run => .default own (.inl ⟨s.context, p, p', run⟩)) fun _ => hk
    · exact .after (fun p _ p' run => .default own (.inr ⟨s.context, p, p', run⟩)) fun _ => hk
  · exact .throw _

/-- All statements of a change of a view. -/
theorem viewStatements_altersIn :
    Ddl.Adds (s.AltersIn schema name (s.ViewPart v)) (s.viewStatements v) fun _ => True := by
  have altered : v.method = .alter := congrArg (·.1) target
  unfold viewStatements
  rw [altered]
  refine .forM fun statement own => ?_
  cases statement with
  | renameColumn old new => exact renameViewColumn_altersIn target filled own
  | defaultTo column value => exact setViewDefault_altersIn target filled own

end

end Scope

/-! ## Rebuilds -/

namespace Rebuild

/-- Statements that build a table again under the name of a plan alone: all of them but those of the indexes, which
are the stored ones. -/
def Replaces (r : Rebuild) (list : List (Compiled Value)) : Prop :=
  let table := r.quoting.quote r.table
  let copy := r.quoting.quote ("_quarry_tmp_" ++ r.table)
  ∃ (items tail columns : String) (indexes : List (Compiled Value)), list.map (·.sql) =
    ["create table " ++ copy ++ " (" ++ items ++ ")" ++ tail,
      "insert into " ++ copy ++ " (" ++ columns ++ ") select " ++ columns ++ " from " ++ table,
      "drop table " ++ table,
      "alter table " ++ copy ++ " rename to " ++ table] ++ indexes.map (·.sql)

variable (r : Rebuild)

theorem plan_replaces (definition : String) (indexes : List Value) :
    Ensures (r.plan definition indexes) r.Replaces := by
  unfold plan
  refine .bind fun d => .bind fun items => .bind fun old => .bind fun found => ?_
  extract_lets kept table copy names body rebuilt
  split
  · exact .error _
  · refine .ok ⟨body, String.ofList d.tail, names, indexes.map statement, ?_⟩
    rw [List.map_append, List.map_append]
    rfl

/-- The statements that build a table again name it by the name of the plan alone. -/
theorem statements_replaces (rows : Value) : Ensures (r.statements rows) r.Replaces := by
  unfold statements
  refine .bind fun items => .bind fun stored => ?_
  split
  · exact .error _
  · exact r.plan_replaces _ _
  · exact .error _
  · exact .error _

end Rebuild

/-! ## Operations -/

/-- An operation that changes the table or the view of a name. -/
inductive SchemaOperation.Alters (name : String) : SchemaOperation Value → Prop
  | table (like : Option Value) (callback : Value) : Alters name (.table .alter (.str name) like callback)
  | view (callback : Value) : Alters name (.view .alter (.str name) callback)

namespace Scope

/-- What stands in the statements of an operation besides the table or the view: parts of what its callback put
together. -/
inductive PartsOf (s : Scope) (schema name : String) : SchemaOperation Value → (Sql → Prop) → Prop
  | table {like callback p t p'}
      (built : s.builtTable (some (.str schema)) .alter (.str name) like callback p = .ok t p') :
      PartsOf s schema name (.table .alter (.str name) like callback) (s.Part t)
  | view {callback p v p'} (built : s.builtView (some (.str schema)) .alter (.str name) callback p = .ok v p') :
      PartsOf s schema name (.view .alter (.str name) callback) (s.ViewPart v)

variable {s : Scope} {schema name : String}

/-- All statements of an operation that changes a table or a view. -/
theorem operation_altersIn {P : Compiled Value → Prop} (filled : schema ≠ "") {operation : SchemaOperation Value}
    (alters : operation.Alters name)
    (weaker : ∀ Part, s.PartsOf schema name operation Part → ∀ c, s.AltersIn schema name Part c → P c) :
    Ddl.Adds P (s.operation (some (.str schema)) operation) fun _ => True := by
  cases alters with
  | table like callback =>
    have built : (s.builtTable (some (.str schema)) .alter (.str name) like callback).Returns fun t =>
        t.target = (.alter, name, some (.str schema)) ∧
          s.PartsOf schema name (.table .alter (.str name) like callback) (s.Part t) :=
      fun p t p' run => ⟨builtTable_target p t p' run, .table run⟩
    exact .after built fun t ⟨target, parts⟩ =>
      ownStatements_adds (tableStatements_altersIn target filled) (weaker _ parts)
  | view callback =>
    have built : (s.builtView (some (.str schema)) .alter (.str name) callback).Returns fun v =>
        v.target = (.alter, .str name, some (.str schema)) ∧
          s.PartsOf schema name (.view .alter (.str name) callback) (s.ViewPart v) :=
      fun p v p' run => ⟨builtView_target p v p' run, .view run⟩
    exact .after built fun v ⟨target, parts⟩ =>
      ownStatements_adds (viewStatements_altersIn target filled) (weaker _ parts)

/-- A name in a schema is written as the two, each of them quoted. -/
theorem Quotes.eq_nameIn (quotes : s.Quotes) (outer : SingleName schema) (inner : SingleName name) {sql : Sql}
    (written : s.WritesName (schema ++ "." ++ name) sql) : sql = s.nameIn schema name := by
  obtain ⟨context, p, p', run⟩ := written
  have quotes' : ({ s with context } : Scope).Quotes := ⟨quotes.unhooked, quotes.textual⟩
  rw [quotes'.wrapString_nameIn outer inner] at run
  exact (Compile.pure_ok.mp run).1.symm

end Scope

namespace Schema

variable {env : Environment} {change : Schema Value} {schema : String}

/-- Changes of tables and views in a schema: each compiled statement has the table or the view of its operation in its
place, in the schema, or is about no table, but for two. SQL Server renames a column by a bound name without the
schema; SQLite asks for a table without the schema, and the statements that build it again name it without the schema.
Besides the table or the view there are words of the library, what is written of the values that the callback gave, and
names that are made up for keys. Where names are quoted as they are, the name in the schema is the two quoted names. -/
theorem alterations_in_schema (inSchema : change.schema = some (.str schema)) (filled : schema ≠ "")
    (alters : ∀ operation ∈ change.operations, ∃ name, operation.Alters name) {p p' : Progress}
    {cs : List (Compiled Value)} (run : change.compile env p = .ok cs p') :
    (∀ c ∈ cs, ∃ operation ∈ change.operations, ∃ name Part, operation.Alters name ∧
      (change.scope env).PartsOf schema name operation Part ∧ (change.scope env).AltersIn schema name Part c ∧
      ∀ r, c.output = some (.rebuild r) → ∀ rows list, r.statements rows = .ok list →
        r.table = name ∧ r.Replaces list) ∧
    (change.client.dialect ∈ Dialect.builtin → change.client.wrapIdentifier = none → SingleName schema →
      ∀ name sql, SingleName name → (change.scope env).WritesName (schema ++ "." ++ name) sql →
        sql = (change.scope env).nameIn schema name) := by
  have rendered : (change.scope env).schemaChange change p = .ok cs p' := Environment.settled_ok run
  let P (c : Compiled Value) : Prop := ∃ operation ∈ change.operations, ∃ name Part, operation.Alters name ∧
    (change.scope env).PartsOf schema name operation Part ∧ (change.scope env).AltersIn schema name Part c
  have steps : Ddl.Adds P (change.operations.forM ((change.scope env).operation change.schema)) fun _ => True := by
    refine .forM fun operation within => ?_
    obtain ⟨name, about⟩ := alters operation within
    rw [inSchema]
    exact Scope.operation_altersIn filled about fun Part parts c altersIn =>
      ⟨operation, within, name, Part, about, parts, altersIn⟩
  unfold Scope.schemaChange at rendered
  obtain ⟨⟨_, statements⟩, q, made, rest⟩ := Compile.bind_ok.mp rendered
  obtain ⟨rfl, rfl⟩ := Compile.pure_ok.mp rest
  have all := (steps [] p _ _ _ (List.forall_mem_nil _) trivial made).1
  refine ⟨fun c within => ?_, fun builtin unhooked outer name sql inner written => ?_⟩
  · obtain ⟨operation, given, name, Part, about, parts, altersIn⟩ := all c within
    refine ⟨operation, given, name, Part, about, parts, altersIn, fun r output rows list made => ?_⟩
    exact ⟨altersIn.table_of_rebuild output, r.statements_replaces rows list made⟩
  · exact (Scope.quotes_of_builtin builtin unhooked).eq_nameIn outer inner written

/-- A column with a comment and an index that is dropped, in a schema. -/
theorem alterations_in_schema_commented :
    let client : Client Value := { dialect := .postgres }
    let env : Environment := { client }
    let text (s : String) : Term := .scalar (.str s)
    let callback : Value := .callback [[⟨"string", [text "q"], []⟩, ⟨"comment", [text "half"], []⟩],
      [⟨"index", [text "q"], []⟩], [⟨"drop_index", [text "r"], []⟩]]
    let change : Schema Value :=
      { client, schema := some (.str "s"), operations := [.table .alter (.str "t") none callback] }
    (change.schema = some (.str "s") ∧ "s" ≠ "" ∧ ∀ operation ∈ change.operations, ∃ name, operation.Alters name) ∧
      ∃ cs p', change.compile env {} = .ok cs p' ∧
        ((∀ c ∈ cs, ∃ operation ∈ change.operations, ∃ name Part, operation.Alters name ∧
          (change.scope env).PartsOf "s" name operation Part ∧ (change.scope env).AltersIn "s" name Part c ∧
          ∀ r, c.output = some (.rebuild r) → ∀ rows list, r.statements rows = .ok list →
            r.table = name ∧ r.Replaces list) ∧
        ∀ sql, (change.scope env).WritesName ("s" ++ "." ++ "t") sql → sql = (change.scope env).nameIn "s" "t") ∧
        cs.map (·.sql) =
          ["alter table \"s\".\"t\" add column \"q\" varchar(255)",
            "comment on column \"s\".\"t\".\"q\" is 'half'",
            "create index \"t_q_index\" on \"s\".\"t\" (\"q\")",
            "drop index \"s\".\"t_r_index\""] := by
  intro client env text callback change
  have alters : ∀ operation ∈ change.operations, ∃ name, operation.Alters name :=
    List.forall_mem_singleton.mpr ⟨"t", .table none callback⟩
  have texts : (change.compile env).outcome.1.toOption.map (List.map (·.sql)) =
      some ["alter table \"s\".\"t\" add column \"q\" varchar(255)",
        "comment on column \"s\".\"t\".\"q\" is 'half'",
        "create index \"t_q_index\" on \"s\".\"t\" (\"q\")",
        "drop index \"s\".\"t_r_index\""] := by decide +kernel
  unfold Compile.outcome at texts
  split at texts
  next cs p' run =>
    obtain ⟨each, quoted⟩ := alterations_in_schema rfl (by decide) alters run
    have names : ∀ sql, (change.scope env).WritesName ("s" ++ "." ++ "t") sql →
        sql = (change.scope env).nameIn "s" "t" :=
      fun sql => quoted (.head _) rfl (by decide) "t" sql (by decide)
    exact ⟨⟨rfl, by decide, alters⟩, cs, p', run, ⟨each, names⟩, Option.some.inj texts⟩
  · cases texts

/-- The names that are bound where a column, a view's column and a table are renamed in a schema; and a column that is
renamed and a primary key that is dropped in a schema, with the statements that build the table again. -/
theorem alterations_alone :
    let text (s : String) : Term := .scalar (.str s)
    let compiled (dialect : Dialect) (operation : SchemaOperation Value) : Option (List (Compiled Value)) :=
      let client : Client Value := { dialect }
      let change : Schema Value := { client, schema := some (.str "s"), operations := [operation] }
      (change.compile { client }).outcome.1.toOption
    let shown (cs : List (Compiled Value)) : List (String × List (Option String)) :=
      cs.map fun c => (c.sql, c.bindings.map Value.str?)
    let renamed : Value := .callback [[⟨"rename_column", [text "a", text "b"], []⟩]]
    let viewed : Value := .callback [[⟨"column", [text "a"], []⟩, ⟨"rename", [text "b"], []⟩]]
    let dropped : Value := .callback [[⟨"drop_primary", [], []⟩]]
    let rows : Value :=
      .list [.list [.str "table", .str "create table \x60t\x60 (\x60a\x60 integer, primary key (\x60a\x60))"]]
    let rebuilt (cs : List (Compiled Value)) : List (Option (List String)) := cs.map fun c =>
      match c.output with
      | some (.rebuild r) => (r.statements rows).toOption.map (List.map (·.sql))
      | _ => none
    (compiled .mssql (.table .alter (.str "t") none renamed)).map shown =
        some [("exec sp_rename ?, ?, 'COLUMN'", [some "t.a", some "b"])] ∧
      (compiled .mssql (.view .alter (.str "t") viewed)).map shown =
        some [("exec sp_rename ?, ?, 'COLUMN'", [some "t.a", some "b"])] ∧
      (compiled .mssql (.renameTable (.str "t") (.str "b"))).map shown =
        some [("exec sp_rename ?, ?", [some "s.t", some "b"])] ∧
      (compiled .sqlite (.table .alter (.str "t") none renamed)).map shown =
        some [("alter table \x60s\x60.\x60t\x60 rename column \x60a\x60 to \x60b\x60", [])] ∧
      (compiled .sqlite (.table .alter (.str "t") none dropped)).map rebuilt =
        some [some ["create table \x60_quarry_tmp_t\x60 (\x60a\x60 integer)",
          "insert into \x60_quarry_tmp_t\x60 (\x60a\x60) select \x60a\x60 from \x60t\x60", "drop table \x60t\x60",
          "alter table \x60_quarry_tmp_t\x60 rename to \x60t\x60"]] := by
  decide +kernel

end Schema

end SqlBuilder
