import SqlBuilder.Proofs.Aliases
import SqlBuilder.Proofs.DefinitionCalls
import SqlBuilder.Proofs.SchemaPlaceholders

/-!
# What stands in changes of tables and views

A change of a table is written in words of the library, besides the table itself, and in what is written of the
values that its callback gave. Nothing else is in it that has the name of the table, but for the names that are made
up for keys.

* `Table.given`: the values that a callback gave for names, and in the place of words.
* `Scope.Part`, `Scope.ViewPart`: what stands in the changes of a table, and in those of a view.
* `Scope.defaultText_part`, `Scope.modifier_part`: parts of the definition of a column.
* `Scope.primaryText_part`, `Scope.foreignText_part`: constraints.
-/

namespace SqlBuilder

/-! ## What callbacks give -/

/-- The values that a statement about a table is given for names, and in the place of words. -/
def TableStatement.given : TableStatement Value → List Value
  | .index columns own options | .unique columns own options => columns ++ own.toList ++ options.map (·.2)
  | .primary columns own | .dropIndex columns own | .dropUnique columns own | .dropForeign columns own =>
    columns ++ own.toList
  | .foreign key =>
    key.columns ++ key.name.toList ++ key.referenced ++ (key.table.map Value.str).toList ++
      (key.onUpdate.toList ++ key.onDelete.toList ++ key.deferrable.toList)
  | .dropPrimary own => own.toList
  | .check _ => []
  | .renameColumn old new => [old, new]
  | .dropColumn names | .dropChecks names => names
  | .setNullable column | .dropNullable column => [column]

/-- The values that a callback gave for the names in a table, and in the place of words. -/
def Table.given (t : Table Value) : List Value :=
  t.columns.map (·.name) ++ t.statements.flatMap TableStatement.given

/-- The names of columns that a change of a view is given. -/
def ViewStatement.given : ViewStatement Value → List Value
  | .renameColumn old new => [old, new]
  | .defaultTo column _ => [column]

theorem Table.given_of_column {t : Table Value} {c : Column Value} (own : c ∈ t.columns) : c.name ∈ t.given :=
  List.mem_append_left _ (List.mem_map_of_mem own)

theorem Table.given_of_statement {t : Table Value} {st : TableStatement Value} (own : st ∈ t.statements) {v : Value}
    (given : v ∈ st.given) : v ∈ t.given :=
  List.mem_append_right _ (List.mem_flatMap.mpr ⟨st, own, given⟩)

/-- The words in the changes of a table. -/
def Sql.changeWords : List String := [
  " ", "(", ")", ", ", "::",
  "add ", "add column ", "add constraint ", "add default ", "add unique ", "alter column ", "modify ",
  "rename column ", " to ", " for ", "type ", " type ", " using (", " default ", "set default ",
  "comment = ", "drop ", "drop column ", "drop constraint ", "drop check ", "drop index ", "drop foreign key ",
  "drop primary key", "drop default", "drop not null", "set not null", " drop not null", " set not null",
  " null", " not null",
  "constraint ", " unique ", " primary key ", " foreign key ", " references ", " on delete ", " on update ",
  " deferrable initially ", "index ", " using "]

namespace Scope

/-- What a rendering writes, in some context for the hook. -/
def WritesBy (s : Scope) (render : Scope → Compile Sql) (sql : Sql) : Prop :=
  ∃ context p p', render { s with context } p = .ok sql p'

/-- What is written of a column: its type with what it is made of, its modifiers, its default and its checks. -/
inductive ColumnPart (s : Scope) (c : Column Value) : Sql → Prop
  | type {context method made p sql made' p'}
      (written : ({ s with context } : Scope).columnType method c made p = .ok (sql, made') p') : ColumnPart s c sql
  | typeName {values native name sql} (type : c.type = .enumeration values native name)
      (written : s.WritesBy (·.wrap name) sql) : ColumnPart s c sql
  | typeValues {values native name sql} (type : c.type = .enumeration values native name)
      (written : s.WritesBy (·.literals values) sql) : ColumnPart s c sql
  | modifier {type m sql} (written : s.WritesBy (·.modifier c type m) sql) : ColumnPart s c sql
  | default {v sql} (given : c.defaultTo = some v) (written : s.WritesBy (·.defaultText c v) sql) : ColumnPart s c sql
  | comment {text sql} (given : c.comment = some text) (written : s.WritesBy (·.literalSql (.str text)) sql) :
      ColumnPart s c sql
  | checks {sql} (written : s.WritesBy (·.columnChecks c) sql) : ColumnPart s c sql

/-- What stands in the changes of a table. The name of the table itself is in the generated names of keys only. -/
inductive Part (s : Scope) (t : Table Value) : Sql → Prop
  | none : Part s t []
  | append {sql sql'} (first : Part s t sql) (second : Part s t sql') : Part s t (sql ++ sql')
  | words {text} (known : text ∈ Sql.changeWords) : Part s t (Sql.word text)
  | name {v sql} (given : v ∈ t.given) (written : s.WritesBy (·.wrap v) sql) : Part s t sql
  | names {vs sql} (given : ∀ v ∈ vs, v ∈ t.given) (written : s.WritesBy (·.columnizeAll vs) sql) : Part s t sql
  /-- in the place of a word -/
  | text {v sql} (given : v ∈ t.given) (written : s.WritesBy (·.given v) sql) : Part s t sql
  | key {kind columns sql} (given : ∀ v ∈ columns, v ∈ t.given)
      (written : s.WritesBy (fun s => do s.wrapString (underscored (← s.generatedName t kind columns))) sql) :
      Part s t sql
  | primaryKey {sql} (written : s.WritesBy (·.wrapString (t.name ++ "_pkey")) sql) : Part s t sql
  | comment {text sql} (given : t.comment = some text) (written : s.WritesBy (·.literalSql (.str text)) sql) :
      Part s t sql
  | column {c sql} (own : c ∈ t.columns) (part : s.ColumnPart c sql) : Part s t sql
  | check {c sql} (own : .check c ∈ t.statements) (written : s.WritesBy (·.checkText c) sql) : Part s t sql
  | rows {predicate sql} (given : ∀ v ∈ predicate, v ∈ t.given) (written : s.WritesBy (·.indexedRows predicate) sql) :
      Part s t sql

/-- What stands in the changes of a view. -/
inductive ViewPart (s : Scope) (v : View Value) : Sql → Prop
  | name {st} (own : st ∈ v.statements) {name sql} (given : name ∈ st.given) (written : s.WritesBy (·.wrap name) sql) :
      ViewPart s v sql
  | default {column value} (own : .defaultTo column value ∈ v.statements) {sql}
      (written : s.WritesBy (·.writtenOut value) sql ∨ s.WritesBy (·.literalSql value) sql) : ViewPart s v sql

namespace Part

variable {s : Scope} {t : Table Value} {sql : Sql}

/-- The context for the hook makes no difference to what stands in a change. -/
theorem of_context {context : Option Value} (h : ({ s with context } : Scope).Part t sql) : s.Part t sql := by
  induction h with
  | none => exact .none
  | append _ _ first second => exact .append first second
  | words known => exact .words known
  | name given written => exact .name given written
  | names given written => exact .names given written
  | text given written => exact .text given written
  | key given written => exact .key given written
  | primaryKey written => exact .primaryKey written
  | comment given written => exact .comment given written
  | column own part =>
    refine .column own ?_
    cases part with
    | type written => exact .type written
    | typeName type written => exact .typeName type written
    | typeValues type written => exact .typeValues type written
    | modifier written => exact .modifier written
    | default given written => exact .default given written
    | comment given written => exact .comment given written
    | checks written => exact .checks written
  | check own written => exact .check own written
  | rows given written => exact .rows given written

theorem eq_of_context (context : Option Value) : ({ s with context } : Scope).Part t = s.Part t := by
  funext sql
  refine propext ⟨of_context, fun h => ?_⟩
  -- a scope is itself in its own context
  have own : ({ ({ s with context } : Scope) with context := s.context } : Scope).Part t sql := h
  exact own.of_context

/-- A part in parentheses. -/
theorem parens (h : s.Part t sql) : s.Part t sql.parens :=
  Part.words (by decide) |>.append h |>.append (.words (by decide))

/-- Parts with commas between them. -/
theorem commas {parts : List Sql} (h : ∀ sql ∈ parts, s.Part t sql) : s.Part t (Sql.commas parts) := by
  match parts with
  | [] => exact .none
  | [sql] => exact h sql (.head _)
  | sql :: sql' :: rest =>
    have others : s.Part t (Sql.commas (sql' :: rest)) := commas fun sql within => h sql (.tail _ within)
    exact .append (.append (h sql (.head _)) (.words (by decide))) others

/-- Parts one after another. -/
theorem flatten {parts : List Sql} (h : ∀ sql ∈ parts, s.Part t sql) : s.Part t parts.flatten := by
  induction parts with
  | nil => exact .none
  | cons sql rest ih => exact .append (h sql (.head _)) (ih fun sql within => h sql (.tail _ within))

end Part

variable {s : Scope} {t : Table Value}

/-- An option is one of the values that a key is given. -/
theorem mem_of_option? {options : List (String × Value)} {name : String} {v : Value}
    (asked : v ∈ option? options name) : v ∈ options.map (·.2) := by
  obtain ⟨v', found, present⟩ := Option.bind_eq_some_iff.mp asked
  obtain ⟨before, after, split, -⟩ := List.lookup_eq_some_iff.mp found
  have same : v' = v := by
    unfold Value.present? at present
    split at present <;> cases present
    rfl
  exact List.mem_map.mpr ⟨(name, v'), by simp [split], same⟩

/-! ## Names -/

section Names

variable {v : Value} {columns : List Value} {own : Option Value}

theorem wrap_part (given : v ∈ t.given) : (s.wrap v).Returns (s.Part t) :=
  fun p _ p' run => .name given ⟨s.context, p, p', run⟩

theorem columnizeAll_part (given : ∀ v ∈ columns, v ∈ t.given) : (s.columnizeAll columns).Returns (s.Part t) :=
  fun p _ p' run => .names given ⟨s.context, p, p', run⟩

theorem given_part (given : v ∈ t.given) : (s.given v).Returns (s.Part t) :=
  fun p _ p' run => .text given ⟨s.context, p, p', run⟩

/-- What stands in the place of a word, after a keyword. -/
theorem givenAfter_part {keyword : String} (known : keyword ∈ Sql.changeWords) (given : ∀ v ∈ own, v ∈ t.given) :
    (s.givenAfter keyword own).Returns (s.Part t) := by
  unfold givenAfter
  split
  next v truthy =>
    exact .bind_of (given_part (given v (Option.mem_filter_iff.mp truthy).1)) fun sql part =>
      .pure (.append (.words known) part)
  · exact .pure .none

/-- The name of a key: its own, or one that is made up. -/
theorem indexName_part (kind : String) (given : ∀ v ∈ columns, v ∈ t.given) (named : ∀ v ∈ own, v ∈ t.given) :
    (s.indexName t kind columns own).Returns (s.Part t) := by
  unfold indexName
  split
  next name truthy => exact wrap_part (named name (Option.mem_filter_iff.mp truthy).1)
  · exact fun p _ p' run => .key given ⟨s.context, p, p', run⟩

theorem primaryName_part (named : ∀ v ∈ own, v ∈ t.given) : (s.primaryName t own).Returns (s.Part t) := by
  unfold primaryName
  split
  next name truthy => exact wrap_part (named name (Option.mem_filter_iff.mp truthy).1)
  · exact fun p _ p' run => .primaryKey ⟨s.context, p, p', run⟩

/-- The rows that an index covers. -/
theorem indexedRows_part (given : ∀ v ∈ own, v ∈ t.given) : (s.indexedRows own).Returns (s.Part t) :=
  fun p _ p' run => .rows given ⟨s.context, p, p', run⟩

end Names

/-! ## Constraints -/

section Constraints

variable {columns : List Value} {own : Option Value}

theorem deferrableClause_part (given : ∀ v ∈ own, v ∈ t.given) : (s.deferrableClause own).Returns (s.Part t) := by
  unfold deferrableClause
  split
  · exact .pure .none
  next kind truthy =>
    split
    · exact .bind_of (given_part (given kind (Option.mem_filter_iff.mp truthy).1)) fun sql part =>
        .pure (.append (.words (by decide)) part)
    · exact .throw _

theorem primaryText_part (given : ∀ v ∈ columns, v ∈ t.given) (named : ∀ v ∈ own, v ∈ t.given) :
    (s.primaryText t columns own).Returns (s.Part t) :=
  .bind_of (primaryName_part named) fun _ key => .bind_of (columnizeAll_part given) fun _ list =>
    .pure (Part.words (by decide) |>.append key |>.append (.words (by decide)) |>.append list.parens)

theorem foreignText_part {key : ForeignKey Value} (own : .foreign key ∈ t.statements) :
    (s.foreignText t key).Returns (s.Part t) := by
  have given {v : Value} (within : v ∈ (TableStatement.foreign key).given) : v ∈ t.given :=
    Table.given_of_statement own within
  have columns : ∀ v ∈ key.columns, v ∈ t.given := fun v within => given (by simp [TableStatement.given, within])
  have named : ∀ v ∈ key.name, v ∈ t.given := fun v within => given (by simp_all [TableStatement.given])
  have onDelete : ∀ v ∈ key.onDelete, v ∈ t.given := fun v within => given (by simp_all [TableStatement.given])
  have onUpdate : ∀ v ∈ key.onUpdate, v ∈ t.given := fun v within => given (by simp_all [TableStatement.given])
  have deferrable : ∀ v ∈ key.deferrable, v ∈ t.given := fun v within => given (by simp_all [TableStatement.given])
  unfold foreignText
  split
  next references table referenced inTable =>
    have others := forall_referenced (P := (· ∈ t.given))
      (fun v within => given (by simp [TableStatement.given, within])) referenced
    have outer : (s.wrapString table).Returns (s.Part t) :=
      wrap_str table ▸ wrap_part (given (by simp [TableStatement.given, inTable]))
    refine .bind_of (indexName_part "foreign" columns named) fun _ name => ?_
    refine .bind_of (columnizeAll_part columns) fun _ list => .bind_of outer fun _ other => ?_
    refine .bind_of (columnizeAll_part others) fun _ otherList => ?_
    refine .bind_of (givenAfter_part (by decide) onDelete) fun _ deletes => ?_
    refine .bind_of (givenAfter_part (by decide) onUpdate) fun _ updates => ?_
    refine .bind_of (deferrableClause_part deferrable) fun _ defers => .pure ?_
    exact Part.words (by decide) |>.append name |>.append (.words (by decide)) |>.append list.parens
      |>.append (.words (by decide)) |>.append other |>.append (.words (by decide)) |>.append otherList.parens
      |>.append deletes |>.append updates |>.append defers
  · exact .throw _

end Constraints

/-! ## Columns -/

section Columns

variable {c : Column Value} (own : c ∈ t.columns)

include own

theorem columnName_part : (s.wrap c.name).Returns (s.Part t) :=
  wrap_part (Table.given_of_column own)

theorem defaultText_part {v : Value} (given : c.defaultTo = some v) : (s.defaultText c v).Returns (s.Part t) :=
  fun p _ p' run => .column own (.default given ⟨s.context, p, p', run⟩)

theorem modifier_part (type : Sql) (m : ColumnModifier) : (s.modifier c type m).Returns (s.Part t) :=
  fun p _ p' run => .column own (.modifier ⟨s.context, p, p', run⟩)

theorem columnChecks_part : (s.columnChecks c).Returns (s.Part t) :=
  fun p _ p' run => .column own (.checks ⟨s.context, p, p', run⟩)

theorem columnComment_part {text : String} (given : c.comment = some text) :
    (s.literalSql (.str text)).Returns (s.Part t) :=
  fun p _ p' run => .column own (.comment given ⟨s.context, p, p', run⟩)

end Columns

theorem nullability_part (v : Value) : s.Part t (nullability v) := by
  unfold nullability
  split <;> exact .words (by decide)

end Scope

end SqlBuilder
