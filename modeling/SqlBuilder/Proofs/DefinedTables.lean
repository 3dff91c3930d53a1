import SqlBuilder.Proofs.DefinedColumns
import SqlBuilder.Schema.Table

/-!
# Tables without question marks

The statements that define or change a table have no question marks where its names, its columns, its keys,
its checks and its options are written without them. They have no values either, except for the names that
SQL Server binds where a column is renamed.

* `TableStatement.Clean`, `Table.Clean`: what a table is made from is written without question marks.
* `Scope.createTable_marks`, `Scope.alterTable_marks`, `Scope.tableStatement_marks`: the statements.
* `Scope.tableStatements_marks`: all statements about a table.
-/

namespace SqlBuilder

namespace Scope

/-- A value is an identifier without question marks, as a name and as it is shown. -/
structure Identifies (s : Scope) (v : Value) : Prop where
  names : s.Names v
  displays : s.Displays v

/-- The conditions of a query are written out without question marks. -/
def InlinesConditions (s : Scope) (v : Value) : Prop :=
  ∀ q, s.env.query? v = some q →
    s.Inlines (s.nested.conditions s.client q.context .where_ q.statement.wheres)

end Scope

/-- The columns to which a foreign key refers. -/
def ForeignKey.referenced (key : ForeignKey Value) : List Value :=
  match key.references with
  | some (.list columns) => columns
  | some column => [column]
  | none => []

/-- What a foreign key is made from is written without question marks. -/
structure ForeignKey.Clean (s : Scope) (key : ForeignKey Value) : Prop where
  columns : ∀ column ∈ key.columns, s.Identifies column
  name : ∀ name ∈ key.name, s.Names name
  references : ∀ column ∈ key.referenced, s.Names column
  table : ∀ table ∈ key.table, Text.Unmarked table
  onUpdate : ∀ v ∈ key.onUpdate, s.Displays v
  onDelete : ∀ v ∈ key.onDelete, s.Displays v
  deferrable : ∀ v ∈ key.deferrable, s.Displays v

/-- A check is written out without question marks. -/
structure CheckConstraint.Clean (s : Scope) (c : CheckConstraint Value) : Prop where
  predicate : s.Inlines (s.source c.predicate (c.bindings.getD .null))
  name : ∀ name ∈ c.name, s.Names name

/-- What an index asks for is written without question marks. -/
structure CleanOptions (s : Scope) (options : List (String × Value)) : Prop where
  predicate : ∀ v ∈ option? options "predicate", s.InlinesConditions v
  words : ∀ name ∈ ["index_type", "storage_engine_index_type", "deferrable"], ∀ v ∈ option? options name,
    s.Displays v

/-- What is done to a table is written without question marks. -/
def TableStatement.Clean (s : Scope) : TableStatement Value → Prop
  | .index columns name options | .unique columns name options =>
    (∀ column ∈ columns, s.Identifies column) ∧ (∀ v ∈ name, s.Names v) ∧ CleanOptions s options
  | .primary columns name | .dropIndex columns name | .dropUnique columns name | .dropForeign columns name =>
    (∀ column ∈ columns, s.Identifies column) ∧ ∀ v ∈ name, s.Names v
  | .foreign key => key.Clean s
  | .dropPrimary name => ∀ v ∈ name, s.Names v
  | .check constraint => constraint.Clean s
  | .renameColumn old new => s.Identifies old ∧ s.Names new
  | .dropColumn columns => ∀ column ∈ columns, s.Names column
  | .setNullable column | .dropNullable column => s.Names column
  | .dropChecks names => ∀ name ∈ names, s.Names name

/-- What a table is made from is written without question marks. -/
structure Table.Clean (s : Scope) (t : Table Value) : Prop where
  name : Text.Unmarked t.name
  like : t.method = .createLike → s.Identifies (t.like.getD .null)
  schema : ∀ schema ∈ t.schema, s.Identifies schema
  columns : ∀ column ∈ t.columns, column.Clean s
  statements : ∀ statement ∈ t.statements, statement.Clean s
  checks : ∀ check ∈ t.checks, check.Clean s
  comment : ∀ text ∈ t.comment, Text.Unmarked text
  engine : ∀ v ∈ t.engine, s.Displays v
  charset : ∀ v ∈ t.charset, s.Displays v
  collation : ∀ v ∈ t.collation, s.Displays v
  inherits : ∀ v ∈ t.inherits, s.Names v

theorem Text.unmarked_underscored {name : String} (h : Unmarked name) : Unmarked (Scope.underscored name) := by
  refine unmarked_ofList fun within => ?_
  obtain ⟨c, hc, image⟩ := List.mem_map.mp within
  split at image
  · exact absurd image (by decide)
  · exact h (image ▸ hc)

namespace Scope

variable {s : Scope} {t : Table Value}

/-! ## Names -/

theorem displays_str (s : Scope) {text : String} (h : Text.Unmarked text) : s.Displays (.str text) :=
  displays_of_text rfl h

theorem Clean.identifies_str (clean : s.Clean) {text : String} (h : Text.Unmarked text) : s.Identifies (.str text) :=
  ⟨clean.names_str h, s.displays_str h⟩

theorem columnize_quiet {columns : List Value} (h : ∀ column ∈ columns, s.Identifies column) :
    (s.columnizeAll columns).Quiet Sql.Unmarked :=
  columnizeAll_quiet fun column hc => (h column hc).names

variable (clean : s.Clean) (ht : t.Clean s)

include clean ht

theorem tableName_quiet : (s.tableName t).Quiet Sql.Unmarked :=
  clean.qualified (fun v hv => (ht.schema v hv).displays) (clean.names_str ht.name) (s.displays_str ht.name)

omit clean in
theorem generatedName_quiet {kind : String} (hk : Text.Unmarked kind) {columns : List Value}
    (hc : ∀ column ∈ columns, s.Identifies column) : (s.generatedName t kind columns).Quiet Text.Unmarked := by
  refine (Compile.Quiet.mapM fun column h => (hc column h).displays).bind fun names hn => .pure ?_
  have joined : Text.Unmarked (Text.joinWith "_" names) := Text.unmarked_joinWith (by decide) hn
  exact Text.Unmarked.lower (by simp +decide [ht.name, joined, hk])

theorem indexName_quiet {kind : String} (hk : Text.Unmarked kind) {columns : List Value}
    (hc : ∀ column ∈ columns, s.Identifies column) {name : Option Value} (hn : ∀ v ∈ name, s.Names v) :
    (s.indexName t kind columns name).Quiet Sql.Unmarked := by
  unfold indexName
  split
  next own given => exact (hn own (Option.mem_filter_iff.mp given).1).wrap
  · refine (generatedName_quiet ht hk hc).bind fun generated hg => ?_
    exact clean.wrapString (Text.unmarked_underscored hg)

theorem primaryName_quiet {name : Option Value} (hn : ∀ v ∈ name, s.Names v) :
    (s.primaryName t name).Quiet Sql.Unmarked := by
  unfold primaryName
  split
  next own given => exact (hn own (Option.mem_filter_iff.mp given).1).wrap
  · exact clean.wrapString (Text.unmarked_append.mpr ⟨ht.name, by decide⟩)

/-! ## Constraints -/

omit clean ht in
theorem givenAfter_quiet {keyword : String} (hk : Text.Unmarked keyword) {v : Option Value}
    (hv : ∀ w ∈ v, s.Displays w) : (s.givenAfter keyword v).Quiet Sql.Unmarked := by
  unfold givenAfter
  split
  next w given =>
    refine (hv w (Option.mem_filter_iff.mp given).1).given.bind fun sql hs => .pure ?_
    simp [hk, hs]
  · exact .pure Sql.unmarked_nil

omit clean ht in
theorem deferrableClause_quiet {kind : Option Value} (hk : ∀ v ∈ kind, s.Displays v) :
    (s.deferrableClause kind).Quiet Sql.Unmarked := by
  unfold deferrableClause
  split
  · exact .pure Sql.unmarked_nil
  next v given =>
    split
    · refine (hk v (Option.mem_filter_iff.mp given).1).given.bind fun sql hs => .pure ?_
      simp +decide [hs]
    · exact .throw _

theorem primaryText_quiet {columns : List Value} (hc : ∀ column ∈ columns, s.Identifies column)
    {name : Option Value} (hn : ∀ v ∈ name, s.Names v) : (s.primaryText t columns name).Quiet Sql.Unmarked := by
  refine (primaryName_quiet clean ht hn).bind fun name hname => (columnize_quiet hc).bind fun list hl => .pure ?_
  simp +decide [hname, hl]

omit clean ht in
/-- The columns that a foreign key refers to, one or several. -/
theorem forall_referenced {P : Value → Prop} {key : ForeignKey Value} (h : ∀ column ∈ key.referenced, P column)
    {references : Value} (given : key.references = some references) : ∀ column ∈ (match references with
      | .list columns => columns
      | column => [column]), P column := by
  unfold ForeignKey.referenced at h
  rw [given] at h
  split <;> simpa using h

theorem foreignText_quiet {key : ForeignKey Value} (h : key.Clean s) :
    (s.foreignText t key).Quiet Sql.Unmarked := by
  unfold foreignText
  split
  next references table given named =>
    have referenced := forall_referenced h.references given
    refine (indexName_quiet clean ht (by decide) h.columns h.name).bind fun name hname => ?_
    refine (columnize_quiet h.columns).bind fun own hown => ?_
    refine (clean.wrapString (h.table table named)).bind fun other hother => ?_
    refine (columnizeAll_quiet referenced).bind fun list hl => ?_
    refine (givenAfter_quiet (by decide) h.onDelete).bind fun onDelete hdelete => ?_
    refine (givenAfter_quiet (by decide) h.onUpdate).bind fun onUpdate hupdate => ?_
    refine (deferrableClause_quiet h.deferrable).bind fun deferrable hdeferrable => .pure ?_
    simp +decide [hname, hown, hother, hl, hdelete, hupdate, hdeferrable]
  · exact .throw _

omit clean ht in
theorem checkText_quiet {c : CheckConstraint Value} (h : c.Clean s) : (s.checkText c).Quiet Sql.Unmarked := by
  have tested {named : Sql} (hn : named.Unmarked) : (do
      let test ← s.writtenOut c.predicate (c.bindings.getD .null)
      return named ++ Sql.word "check " ++ test.parens : Compile Sql).Quiet Sql.Unmarked := by
    refine (writtenOut_quiet h.predicate).bind fun test htest => .pure ?_
    simp +decide [hn, htest]
  unfold checkText
  split
  next name given =>
    refine (h.name name (Option.mem_filter_iff.mp given).1).wrap.bind fun sql hs => tested ?_
    simp +decide [hs]
  · exact tested Sql.unmarked_nil

/-! ## Indexes -/

/-- Adds a statement that alters a table. -/
theorem alter_marks {change : Sql} (h : change.Unmarked) : (s.alter t change).Marks fun _ => True := by
  refine .bind (.lift (tableName_quiet clean ht)) fun table htable => push_marks ?_
  simp +decide [htable, h]

omit clean ht in
theorem indexedRows_quiet {predicate : Option Value} (h : ∀ v ∈ predicate, s.InlinesConditions v) :
    (s.indexedRows predicate).Quiet Sql.Unmarked := by
  unfold indexedRows
  split
  · exact .pure Sql.unmarked_nil
  next v =>
    split
    · refine (writtenConditions_quiet (h v rfl)).bind fun sql hs => .pure ?_
      simp +decide [hs]
    · exact .throw _

theorem createIndex_marks {kind : String} (hk : Text.Unmarked kind) {name using_ : Sql} (hn : name.Unmarked)
    (hu : using_.Unmarked) {columns : List Value} (hc : ∀ column ∈ columns, s.Identifies column)
    {predicate : Option Value} (hp : ∀ v ∈ predicate, s.InlinesConditions v) :
    (s.createIndex t kind name using_ columns predicate).Marks fun _ => True := by
  refine .bind (.lift (tableName_quiet clean ht)) fun table htable => ?_
  refine .bind (.lift (columnize_quiet hc)) fun list hl => ?_
  refine .bind (.lift (indexedRows_quiet hp)) fun rows hr => push_marks ?_
  simp +decide [hk, hn, hu, htable, hl, hr]

theorem addIndex_marks {columns : List Value} (hc : ∀ column ∈ columns, s.Identifies column)
    {name : Option Value} (hn : ∀ v ∈ name, s.Names v) {options : List (String × Value)}
    (ho : CleanOptions s options) : (s.addIndex t columns name options).Marks fun _ => True := by
  have word {name : String} (known : name ∈ ["index_type", "storage_engine_index_type", "deferrable"]) :
      ∀ v ∈ option? options name, s.Displays v := ho.words name known
  unfold addIndex
  refine .have_ ?_
  split
  · exact .lift (.report _)
  · refine .optional (.lift (.throw _)) ?_
    refine .bind (.lift (indexName_quiet clean ht (by decide) hc hn)) fun key hkey => ?_
    extract_lets k
    have hk : ∀ kind : Sql, kind.Unmarked → (k kind).Marks fun _ => True := by
      intro kind hkind
      refine .bind (.lift (givenAfter_quiet (by decide) (word (by decide)))) fun using_ hu => ?_
      refine .bind (.lift (columnize_quiet hc)) fun list hl => alter_marks clean ht ?_
      simp +decide [hkind, hkey, hu, hl]
    split
    next kind given =>
      have shown := word (by decide) kind (Option.mem_filter_iff.mp given).1
      refine .bind (.lift shown.given) fun sql hs => .bind (.pure ?_) hk
      simp +decide [hs]
    · exact .bind (.pure Sql.unmarked_nil) hk
  · refine .bind (.lift (indexName_quiet clean ht (by decide) hc hn)) fun key hkey => ?_
    extract_lets k
    have hk : ∀ using_ : Sql, using_.Unmarked → (k using_).Marks fun _ => True :=
      fun using_ hu => createIndex_marks clean ht (by decide) hkey hu hc ho.predicate
    split
    case h_1 | h_2 => exact .bind (.lift (givenAfter_quiet (by decide) (word (by decide)))) hk
    · exact .bind (.pure Sql.unmarked_nil) hk

theorem addUnique_marks {columns : List Value} (hc : ∀ column ∈ columns, s.Identifies column)
    {name : Option Value} (hn : ∀ v ∈ name, s.Names v) {options : List (String × Value)}
    (ho : CleanOptions s options) : (s.addUnique t columns name options).Marks fun _ => True := by
  have deferrable : ∀ v ∈ option? options "deferrable", s.Displays v := ho.words _ (by decide)
  have named : (s.indexName t "unique" columns name).Quiet Sql.Unmarked :=
    indexName_quiet clean ht (by decide) hc hn
  unfold addUnique
  refine .have_ (.have_ ?_)
  split
  · refine .optional (.lift (.throw _)) (.bind (.lift named) fun key hkey => ?_)
    exact createIndex_marks clean ht (by decide) hkey Sql.unmarked_nil hc ho.predicate
  · refine .bind (.lift (deferrableClause_quiet deferrable)) fun _ _ => ?_
    refine .bind (.lift named) fun key hkey => .bind (.lift (columnize_quiet hc)) fun list hl => ?_
    refine alter_marks clean ht ?_
    simp +decide [hkey, hl]
  · refine .bind (.lift named) fun key hkey => .have_ ?_
    split
    · refine .optional (.throw _) (.bind (.lift (columnize_quiet hc)) fun list hl => ?_)
      refine .bind (.lift (deferrableClause_quiet deferrable)) fun clause hclause => alter_marks clean ht ?_
      simp +decide [hkey, hl, hclause]
    · refine .optional (.throw _) ?_
      exact createIndex_marks clean ht (by decide) hkey Sql.unmarked_nil hc ho.predicate

theorem dropIndex_marks {columns : List Value} (hc : ∀ column ∈ columns, s.Identifies column)
    {name : Option Value} (hn : ∀ v ∈ name, s.Names v) : (s.dropIndex t columns name).Marks fun _ => True := by
  refine .bind (.lift (indexName_quiet clean ht (by decide) hc hn)) fun key hkey => ?_
  split
  · exact alter_marks clean ht (by simp +decide [hkey])
  · refine .bind (.lift (tableName_quiet clean ht)) fun table htable => push_marks ?_
    simp +decide [hkey, htable]
  · exact push_marks (by simp +decide [hkey])
  · split
    next schema given =>
      refine .bind (.lift (ht.schema schema (Option.mem_filter_iff.mp given).1).names.wrap) fun sql hs => ?_
      exact push_marks (by simp +decide [hkey, hs])
    · exact push_marks (by simp +decide [hkey])

theorem dropUnique_marks {columns : List Value} (hc : ∀ column ∈ columns, s.Identifies column)
    {name : Option Value} (hn : ∀ v ∈ name, s.Names v) : (s.dropUnique t columns name).Marks fun _ => True := by
  refine .bind (.lift (indexName_quiet clean ht (by decide) hc hn)) fun key hkey => ?_
  split
  · refine .bind (.lift (tableName_quiet clean ht)) fun table htable => push_marks ?_
    simp +decide [hkey, htable]
  · exact alter_marks clean ht (by simp +decide [hkey])
  · exact push_marks (by simp +decide [hkey])
  · exact alter_marks clean ht (by simp +decide [hkey])

/-! ## Creating tables -/

omit clean in
theorem rebuild_marks (change : DefinitionChange) : (s.rebuild t change).Marks fun _ => True := by
  refine .bind (.lift (s.spells_str ht.name).literalSql) fun name hn => push_marks ?_
  simp +decide [hn]

omit clean ht in
theorem plainName_quiet {schema : Option Value} (hs : ∀ v ∈ schema, s.Displays v) {name : Value}
    (hn : s.Displays name) :
    (s.plainName schema name).Quiet fun v => v = name ∨ ∃ text, v = .str text ∧ Text.Unmarked text := by
  unfold plainName
  split
  next v given =>
    refine (hs v (Option.mem_filter_iff.mp given).1).bind fun first hf => hn.bind fun second hsecond => .pure ?_
    exact .inr ⟨_, rfl, by simp +decide [hf, hsecond]⟩
  · exact .pure (.inl rfl)

/-- The start of a statement that creates a table. -/
theorem createHead_quiet : (s.createHead t).Quiet Sql.Unmarked := by
  have table := tableName_quiet clean ht
  unfold createHead
  split
  · exact .throw _
  · have named := plainName_quiet (fun v hv => (ht.schema v hv).displays) (s.displays_str ht.name)
    refine named.bind fun name hname => ?_
    have spelled : s.Spells name := by
      rcases hname with rfl | ⟨text, rfl, unmarked⟩
      · exact s.spells_str ht.name
      · exact s.spells_str unmarked
    refine spelled.literalSql.bind fun text htext => table.bind fun sql hs => .pure ?_
    simp +decide [htext, hs]
  · exact table.bind fun sql hs => .pure (by simp +decide [hs])
  · exact table.bind fun sql hs => .pure (by simp +decide [hs])

/-- The keys that stand in the definition of a table. -/
theorem inlineKeys_quiet : (s.inlineKeys t).Quiet fun keys => ∀ key ∈ keys, key.Unmarked := by
  have one {c : Compile Sql} (hc : c.Quiet Sql.Unmarked) :
      (do return [← c] : Compile (List Sql)).Quiet fun keys => ∀ key ∈ keys, key.Unmarked :=
    hc.bind fun key hkey => .pure (by simpa using hkey)
  unfold inlineKeys
  split
  · exact .pure nofun
  · refine .bind (.mapM (P := fun keys => ∀ key ∈ keys, key.Unmarked) fun statement hs => ?_)
      fun keys hkeys => .pure ?_
    · have hst := ht.statements statement hs
      split
      · exact one (primaryText_quiet clean ht hst.1 hst.2)
      · exact one (foreignText_quiet clean ht hst)
      · exact .pure nofun
    · intro key hkey
      obtain ⟨part, hpart, hkey⟩ := List.mem_flatten.mp hkey
      exact hkeys part hpart key hkey

omit clean in
/-- What follows the definitions of a table. -/
theorem tableOptions_quiet : (s.tableOptions t).Quiet Sql.Unmarked := by
  unfold tableOptions
  extract_lets option
  have hoption (keyword : String) (hk : Text.Unmarked keyword) {v : Option Value} (hv : ∀ w ∈ v, s.Displays w) :
      (option keyword v).Quiet Sql.Unmarked := by
    cases v with
    | none => exact .pure Sql.unmarked_nil
    | some v => exact (hv v rfl).given.bind fun sql hs => .pure (by simp [hk, hs])
  split
  case h_1 | h_2 =>
    split
    · exact .pure Sql.unmarked_nil
    next parent given =>
      refine (ht.inherits parent (Option.mem_filter_iff.mp given).1).wrap.bind fun sql hs => .pure ?_
      simp +decide [hs]
  · refine (hoption " default character set " (by decide) ht.charset).bind fun charset hcharset => ?_
    refine (hoption " collate " (by decide) ht.collation).bind fun collation hcollation => ?_
    refine (hoption " engine = " (by decide) ht.engine).bind fun engine hengine => ?_
    extract_lets k
    have hk : ∀ comment : Sql, comment.Unmarked → (k comment).Quiet Sql.Unmarked :=
      fun comment hc => .pure (by simp [hcharset, hcollation, hengine, hc])
    split
    · exact .bind (.pure Sql.unmarked_nil) hk
    next comment given =>
      refine (s.spells_str (ht.comment comment given)).literalSql.bind fun sql hs => .bind (.pure ?_) hk
      simp +decide [hs]
  · exact .pure Sql.unmarked_nil

/-- The statement that sets the comment of a table. -/
theorem tableComment_marks : (s.tableComment t).Marks fun _ => True := by
  unfold tableComment
  split
  · exact .pure trivial
  next comment given =>
    have spelled := (s.spells_str (ht.comment comment given)).literalSql
    split
    case h_1 | h_2 => exact .lift (.report _)
    · split
      · exact .bind (.lift spelled) fun sql hs => alter_marks clean ht (by simp +decide [hs])
      · exact .pure trivial
    · refine .bind (.lift spelled) fun sql hs => .bind (.lift (tableName_quiet clean ht)) fun table htable => ?_
      exact push_marks (by simp +decide [hs, htable])

omit clean ht in
theorem pushAll_marks {statements : List Sql} (h : ∀ sql ∈ statements, sql.Unmarked) :
    (s.pushAll t statements).Marks fun _ => True :=
  .forM fun sql hs => push_marks (h sql hs)

/-- Adds a column to a table that exists. -/
theorem addColumn_marks {c : Column Value} (hc : c.Clean s) : (s.addColumn t c).Marks fun _ => True := by
  refine .bind (columnText_marks (tableName_quiet clean ht) hc) fun text htext => ?_
  extract_lets k
  have hk (r : Unit) : (k r).Marks fun _ => True := pushAll_marks htext.comments
  have added {sql : Sql} (hs : sql.Unmarked) : (s.alter t sql >>= k).Marks fun _ => True :=
    .bind (alter_marks clean ht hs) fun r _ => hk r
  split
  all_goals exact added (by simp +decide [htext.definition])

/-- Creates a table like another one. -/
theorem createLike_marks (like : t.method = .createLike) : (s.createLike t).Marks fun _ => True := by
  have other := ht.like like
  refine .bind (.lift (clean.qualified (fun v hv => (ht.schema v hv).displays) other.names other.displays))
    fun like hlike => ?_
  refine .bind (.lift (tableName_quiet clean ht)) fun table htable => push_marks ?_
  split <;> simp +decide [hlike, htable]

/-- Creates a table with its columns. -/
theorem createTable_marks : (s.createTable t).Marks fun _ => True := by
  unfold createTable
  extract_lets k
  have hk (r : Unit) : (k r).Marks fun _ => True := tableComment_marks clean ht
  split
  next like =>
    refine .bind (createLike_marks clean ht like) fun _ _ => ?_
    exact .bind (.forM fun c hc => addColumn_marks clean ht (ht.columns c hc)) fun r _ => hk r
  · refine .bind (.mapM fun c hc => columnText_marks (tableName_quiet clean ht) (ht.columns c hc))
      fun columns hcolumns => ?_
    refine .bind (.mapM (P := Sql.Unmarked) fun c hc => ?_) fun checks hchecks => ?_
    · exact .bind (.lift (checkText_quiet (ht.checks c hc))) fun sql hs => .pure (by simp +decide [hs])
    refine .bind (.lift (inlineKeys_quiet clean ht)) fun keys hkeys => ?_
    refine .have_ (.have_ (.bind (.lift (createHead_quiet clean ht)) fun head hhead => ?_))
    refine .bind (.lift (tableOptions_quiet ht)) fun options hoptions => .bind (push_marks ?_) fun _ _ => ?_
    · have definitions : (Sql.commas (columns.map (·.definition))).Unmarked := by
        refine Sql.unmarked_commas fun sql hs => ?_
        obtain ⟨column, hmem, rfl⟩ := List.mem_map.mp hs
        exact (hcolumns column hmem).definition
      have constraints : Sql.Unmarked checks.flatten := Sql.unmarked_flatten.mpr hchecks
      have inline : Sql.Unmarked (keys.map (Sql.word ", " ++ ·)).flatten := by
        refine Sql.unmarked_flatten.mpr fun sql hs => ?_
        obtain ⟨key, hmem, rfl⟩ := List.mem_map.mp hs
        simp +decide [hkeys key hmem]
      simp +decide only [Sql.unmarked_append, Sql.unmarked_parens, hhead, hoptions, definitions, constraints, inline,
        and_self]
    · exact .bind (.forM fun column hc => pushAll_marks (hcolumns column hc).comments) fun r _ => hk r

/-! ## Changing columns -/

theorem dropColumns_marks {columns : List Value} (hc : ∀ column ∈ columns, s.Names column) :
    (s.dropColumns t columns).Marks fun _ => True := by
  unfold dropColumns
  split
  · refine .bind (.lift (columnizeAll_quiet hc)) fun list hl => alter_marks clean ht ?_
    simp +decide [hl]
  · refine .forM fun column h => .bind (.lift (hc column h).wrap) fun name hn => alter_marks clean ht ?_
    simp +decide [hn]

/-- Changes a column action by action. -/
theorem alterColumnActions_marks {c : Column Value} (hc : c.Clean s) :
    (s.alterColumnActions t c).Marks fun _ => True := by
  refine .bind (.lift hc.name.wrap) fun name hname => .bind (columnType_marks hc) fun type htype => ?_
  extract_lets action cast isForbidden commented k
  have haction {sql : Sql} (hs : sql.Unmarked) : (action sql).Unmarked := by simp +decide [action, hname, hs]
  have hcast : cast.Unmarked := by simp +decide [cast, hname, htype]
  have asked {b : Prop} [Decidable b] {sql : Sql} (hs : sql.Unmarked) :
      ∀ part ∈ if b then [action sql] else [], part.Unmarked := by
    split
    · simpa using haction hs
    · exact nofun
  have hcommented : (commented ()).Marks fun _ => True := by
    unfold commented
    split
    · exact .pure trivial
    next comment given =>
      have quiet := commentStatement_quiet (tableName_quiet clean ht) hc (hc.comment comment given)
      exact .bind (.lift quiet) fun sql hs => push_marks hs
  have hk : ∀ default : List Sql, (∀ sql ∈ default, sql.Unmarked) → (k default).Marks fun _ => True := by
    intro default hdefault
    unfold k
    extract_lets actions
    have hactions : ∀ sql ∈ actions, sql.Unmarked := by
      simp only [actions, List.forall_mem_append]
      exact ⟨⟨⟨⟨asked (by decide), asked (by decide)⟩, asked hcast⟩, hdefault⟩, asked (by decide)⟩
    split
    · exact .bind (alter_marks clean ht (Sql.unmarked_commas hactions)) fun _ _ => hcommented
    · exact hcommented
  split
  · exact .bind (.pure nofun) hk
  next v given =>
    refine .bind (.lift (defaultText_quiet (hc.defaultTo v given))) fun sql hs => .bind (.pure ?_) hk
    simpa using haction (by simp +decide [hs])

omit clean ht in
theorem unmarked_newNullability (c : Column Value) : (newNullability c).Unmarked := by
  unfold newNullability
  split
  · cases c.nullable with
    | none => exact Sql.unmarked_nil
    | some v => exact unmarked_nullability v
  · exact Sql.unmarked_nil

/-- Changes a column. -/
theorem alterColumn_marks {c : Column Value} (hc : c.Clean s) : (s.alterColumn t c).Marks fun _ => True := by
  have defined {sql : Sql} (hs : sql.Unmarked) : (s.alter t sql).Marks fun _ => True := alter_marks clean ht hs
  unfold alterColumn
  refine .have_ ?_
  split
  · refine .bind (.lift hc.name.wrap) fun name hname => .bind (columnType_marks hc) fun type htype => defined ?_
    simp +decide [hname, htype]
  · refine .bind (columnText_marks (tableName_quiet clean ht) hc) fun text htext => defined ?_
    simp +decide [htext.definition]
  · refine .bind (.lift hc.name.wrap) fun name hname => .bind (columnType_marks hc) fun type htype => ?_
    extract_lets k
    have hk : ∀ default : Sql, default.Unmarked → (k default).Marks fun _ => True := by
      intro default hdefault
      refine .have_ (defined ?_)
      simp +decide [hname, htype, hdefault, unmarked_newNullability]
    split
    · exact .bind (.pure Sql.unmarked_nil) hk
    next v given =>
      refine .bind (.lift (defaultText_quiet (hc.defaultTo v given))) fun sql hs => .bind (.pure ?_) hk
      simp +decide [hs]
  · refine .bind (.lift hc.name.wrap) fun name hname => .bind (columnType_marks hc) fun type htype => ?_
    refine .bind (defined ?_) fun _ _ => ?_
    · simp +decide [hname, htype, unmarked_newNullability]
    · split
      · exact .pure trivial
      next v given =>
        refine .bind (.lift (defaultText_quiet (hc.defaultTo v given))) fun sql hs => defined ?_
        simp +decide [hs, hname]
  · exact .bind (columnText_marks (tableName_quiet clean ht) hc) fun text _ => rebuild_marks ht _
  · exact alterColumnActions_marks clean ht hc

/-- Changes a column, after the statement that a dialect needs before that. -/
theorem alterColumnPrepared_marks {c : Column Value} (hc : c.Clean s) :
    (s.alterColumnPrepared t c).Marks fun _ => True := by
  unfold alterColumnPrepared
  extract_lets k
  have hk (r : Unit) : (k r).Marks fun _ => True := alterColumn_marks clean ht hc
  split
  · exact hk ()
  next prelude given =>
    refine .bind (.lift (.report _)) fun _ _ => .bind (push_marks ?_) fun r _ => hk r
    exact Sql.unmarked_word.mpr (clean.prelude prelude (Option.mem_filter_iff.mp given).1)

/-- Changes the columns of a table. -/
theorem alterTable_marks : (s.alterTable t).Marks fun _ => True := by
  refine .bind (.forM fun c hc => ?_) fun _ _ => tableComment_marks clean ht
  have column := ht.columns c hc
  split
  · exact dropColumns_marks clean ht (by simpa using column.name)
  · split
    · exact alterColumnPrepared_marks clean ht column
    · exact addColumn_marks clean ht column

/-! ## Other changes -/

theorem changeNullable_marks {column : Value} (hc : s.Names column) (allowed : Bool) :
    (s.changeNullable t column allowed).Marks fun _ => True := by
  unfold changeNullable
  refine .have_ ?_
  split
  · exact .lift (.throw _)
  · exact .lift (.throw _)
  · exact .lift (.throw _)
  · refine .bind (.lift hc.wrap) fun name hn => alter_marks clean ht ?_
    cases allowed <;> simp +decide [hn]
  · exact rebuild_marks ht _
  · refine .bind (.lift hc.wrap) fun name hn => alter_marks clean ht ?_
    cases allowed <;> simp +decide [hn]

omit clean ht in
/-- The procedure that renames an object has its names bound. -/
theorem objectRename_slotted (old new : Value) : ∀ piece ∈ objectRename old new, piece.Slotted := by
  have words : Text.Unmarked "exec sp_rename " ∧ Text.Unmarked ", " := by decide
  have settled : "exec sp_rename ".toList.getLast? ≠ some '\\' ∧ ", ".toList.getLast? ≠ some '\\' := by decide
  intro piece hp
  simp only [objectRename, Sql.word, List.cons_append, List.nil_append, List.mem_cons, List.not_mem_nil, or_false] at hp
  rcases hp with rfl | rfl | rfl | rfl
  · exact .inr ⟨words.1, settled.1⟩
  · exact .inl ⟨_, rfl⟩
  · exact .inr ⟨words.2, settled.2⟩
  · exact .inl ⟨_, rfl⟩

omit clean ht in
theorem objectRename_marks (method : String) (old new : Value) :
    (s.pushBound method (objectRename old new)).Marks fun _ => True :=
  pushBound_marks (objectRename_slotted old new) (by simp [objectRename, Sql.word])

omit clean ht in
/-- The procedure that renames a column has its names bound. -/
theorem columnRename_marks (method : String) (old new : Value) :
    (s.pushBound method (columnRename old new)).Marks fun _ => True := by
  refine pushBound_marks (List.forall_mem_append.mpr ⟨objectRename_slotted old new, ?_⟩) ?_
  · intro piece hp
    obtain rfl := List.mem_singleton.mp hp
    exact .inr ⟨by decide, by decide⟩
  · simp [columnRename, objectRename, Sql.word]

theorem renameColumn_marks {old new : Value} (ho : s.Identifies old) (hn : s.Names new) :
    (s.renameColumn t old new).Marks fun _ => True := by
  unfold renameColumn
  split
  · exact .bind (.lift ho.displays) fun _ _ => columnRename_marks _ _ _
  · refine .bind (.lift ho.names.wrap) fun first hf => .bind (.lift hn.wrap) fun second hs => ?_
    exact alter_marks clean ht (by simp +decide [hf, hs])

theorem dropPrimary_marks {name : Option Value} (hn : ∀ v ∈ name, s.Names v) :
    (s.dropPrimary t name).Marks fun _ => True := by
  unfold dropPrimary
  split
  · exact alter_marks clean ht (by decide)
  · exact rebuild_marks ht _
  · exact .bind (.lift (primaryName_quiet clean ht hn)) fun sql hs => alter_marks clean ht (by simp +decide [hs])

omit clean ht in
theorem storedName_quiet (v : Value) : (storedName v).Quiet fun _ => True := by
  unfold storedName
  split
  · exact .pure trivial
  · exact .pure trivial
  · exact .throw _

theorem dropForeign_marks {columns : List Value} (hc : ∀ column ∈ columns, s.Identifies column)
    {name : Option Value} (hn : ∀ v ∈ name, s.Names v) : (s.dropForeign t columns name).Marks fun _ => True := by
  have named := indexName_quiet clean ht (by decide : Text.Unmarked "foreign") hc hn
  unfold dropForeign
  split
  · split
    · exact .bind (.lift (storedName_quiet _)) fun _ _ => rebuild_marks ht _
    · exact .bind (.lift (generatedName_quiet ht (by decide) hc)) fun _ _ => rebuild_marks ht _
  · exact .bind (.lift named) fun sql hs => alter_marks clean ht (by simp +decide [hs])
  · exact .bind (.lift named) fun sql hs => alter_marks clean ht (by simp +decide [hs])

theorem dropCheck_marks {name : Value} (hn : s.Names name) : (s.dropCheck t name).Marks fun _ => True := by
  unfold dropCheck
  split
  · exact .bind (.lift (storedName_quiet name)) fun _ _ => rebuild_marks ht _
  · exact .bind (.lift hn.wrap) fun sql hs => alter_marks clean ht (by simp +decide [hs])
  · exact .bind (.lift hn.wrap) fun sql hs => alter_marks clean ht (by simp +decide [hs])

theorem addConstraint_marks {constraint : Sql} (h : constraint.Unmarked) :
    (s.addConstraint t constraint).Marks fun _ => True := by
  unfold addConstraint
  split
  · exact rebuild_marks ht _
  · exact alter_marks clean ht (by simp +decide [h])

/-- What is done to a table after its columns. -/
theorem tableStatement_marks {statement : TableStatement Value} (h : statement.Clean s) :
    (s.tableStatement t statement).Marks fun _ => True := by
  cases statement with
  | index columns name options => exact addIndex_marks clean ht h.1 h.2.1 h.2.2
  | unique columns name options => exact addUnique_marks clean ht h.1 h.2.1 h.2.2
  | primary columns name =>
    exact .bind (.lift (primaryText_quiet clean ht h.1 h.2)) fun _ hs => addConstraint_marks clean ht hs
  | foreign key => exact .bind (.lift (foreignText_quiet clean ht h)) fun _ hs => addConstraint_marks clean ht hs
  | dropIndex columns name => exact dropIndex_marks clean ht h.1 h.2
  | dropUnique columns name => exact dropUnique_marks clean ht h.1 h.2
  | dropPrimary name => exact dropPrimary_marks clean ht h
  | dropForeign columns name => exact dropForeign_marks clean ht h.1 h.2
  | check constraint => exact .bind (.lift (checkText_quiet h)) fun _ hs => addConstraint_marks clean ht hs
  | renameColumn old new => exact renameColumn_marks clean ht h.1 h.2
  | dropColumn columns => exact dropColumns_marks clean ht h
  | setNullable column => exact changeNullable_marks clean ht h true
  | dropNullable column => exact changeNullable_marks clean ht h false
  | dropChecks names => exact .forM fun name hn => dropCheck_marks clean ht (h name hn)

omit clean ht in
/-- The question marks of all statements about a table are the placeholders of their values. -/
theorem tableStatements_marks (clean : { s with context := t.context }.Clean)
    (ht : t.Clean { s with context := t.context }) : (s.tableStatements t).Marks fun _ => True := by
  unfold tableStatements
  extract_lets s' k
  have hk (r : Unit) : (k r).Marks fun _ => True := by
    refine .forM fun statement hs => tableStatement_marks clean ht ?_
    exact ht.statements statement (List.mem_of_mem_filter hs)
  split
  · exact .bind (alterTable_marks clean ht) fun r _ => hk r
  · exact .bind (createTable_marks clean ht) fun r _ => hk r

end Scope

end SqlBuilder
