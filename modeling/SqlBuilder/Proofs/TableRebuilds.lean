import SqlBuilder.Proofs.SchemaPlaceholders
import SqlBuilder.Proofs.StoredDefinitions

/-!
# Building created tables again

The statement that creates a table in SQLite is what the catalog stores of it. Building the table again reads that
text back: the definitions of its columns are found under their names, and the one that is changed is changed alone.
What follows the names in the definitions has to close the quotes and parentheses that it opens, and the scanner
must find the names: it does not where a name has a quote in it, nor in a table with a parenthesis in its name.

* `Ddl.Gives`: steps with a known result that add known statements.
* `Column.Closes`: a column whose definition closes what it opens.
* `Table.Holds`: a new table with columns of some names.
* `Scope.createTable_gives`: the statement that creates a table.
* `Schema.rebuilds_created`: a created table that is built again.
-/

namespace SqlBuilder

open List (Forall₂)

/-! ## Steps with known statements -/

namespace Ddl

variable {α β : Type}

/-- While no values are bound, a step has a result and adds some statements. It leaves no values, and marks no
column as undefined. -/
def Gives (step : Ddl α) (a : α) (added : List (Compiled Value)) : Prop :=
  ∀ statements p, p.bound = [] → ∃ p', step statements p = .ok (a, statements ++ added) p' ∧ p'.bound = [] ∧
    p'.undefinedColumns = p.undefinedColumns

namespace Gives

variable {step : Ddl β} {f : β → Ddl α} {a : α} {b : β} {added more : List (Compiled Value)}

protected theorem pure (a : α) : (pure a : Ddl α).Gives a [] := by
  intro statements p fresh
  exact ⟨p, by rw [List.append_nil]; rfl, fresh, rfl⟩

protected theorem bind (h : step.Gives b added) (h' : (f b).Gives a more) : (step >>= f).Gives a (added ++ more) := by
  intro statements p fresh
  obtain ⟨p₁, first, fresh₁, marked₁⟩ := h statements p fresh
  obtain ⟨p₂, second, fresh₂, marked₂⟩ := h' _ p₁ fresh₁
  rw [List.append_assoc] at second
  exact ⟨p₂, Compile.bind_ok.mpr ⟨_, p₁, first, second⟩, fresh₂, marked₂.trans marked₁⟩

/-- A step that adds nothing before others. -/
theorem bind_silent (h : step.Gives b []) (h' : (f b).Gives a added) : (step >>= f).Gives a added :=
  h.bind h'

/-- A step that adds nothing after others. -/
theorem then_silent (h : step.Gives b added) (h' : (f b).Gives a []) : (step >>= f).Gives a added := by
  have whole := h.bind h'
  rwa [List.append_nil] at whole

/-- A compilation that binds nothing adds no statements. -/
theorem lift {c : Compile α} (h : c.Gives a []) : Ddl.Gives (liftM c) a [] := by
  intro statements p fresh
  obtain ⟨p', run, bound, marked⟩ := h p
  refine ⟨p', Compile.bind_ok.mpr ⟨a, p', run, ?_⟩, by rw [bound, fresh]; rfl, marked⟩
  rw [List.append_nil]
  rfl

theorem mapM {f : β → Ddl α} {bs : List β} {as : List α} (h : Forall₂ (fun b a => (f b).Gives a []) bs as) :
    (bs.mapM f).Gives as [] := by
  induction h with
  | nil => exact .pure []
  | cons first _ ih =>
    rw [List.mapM_cons]
    exact first.bind_silent (ih.bind_silent (.pure _))

theorem forM {f : β → Ddl Unit} {bs : List β} (h : ∀ b ∈ bs, (f b).Gives () []) : (bs.forM f).Gives () [] := by
  induction bs with
  | nil => exact .pure ()
  | cons b bs ih => exact (h b (.head _)).bind_silent (ih fun b hb => h b (.tail _ hb))

/-- A statement with text. -/
theorem push {s : Scope} {method : String} {sql : Sql} (output : Option Output) (filled : sql.isBlank = false) :
    (s.push method sql output).Gives () [s.statementOf method sql [] output] := by
  intro statements p fresh
  have pushed : s.push method sql output statements p = s.pushWith method sql p.bound output statements p := rfl
  rw [pushed, fresh, Scope.pushWith, filled]
  exact ⟨_, rfl, rfl, rfl⟩

/-- The statements of a change by itself. -/
theorem run {change : Ddl Unit} (h : change.Gives () added) :
    (ownBindings (change.run []) : Compile (Unit × List (Compiled Value))).Gives ((), added) [] := by
  intro p
  obtain ⟨p', run, -, marked⟩ := h [] { p with bound := [] } rfl
  refine ⟨{ p' with bound := p.bound }, ?_, (List.append_nil _).symm, marked⟩
  have inner : StateT.run change [] { p with bound := [] } = .ok ((), added) p' := run
  rw [ownBindings, inner]

/-- The statements of a change of its own. -/
theorem ownStatements {change : Ddl Unit} (h : change.Gives () added) : (ownStatements change).Gives () added := by
  refine (Ddl.Gives.lift h.run).bind_silent fun statements p fresh => ?_
  exact ⟨p, rfl, fresh, rfl⟩

end Gives

end Ddl

/-! ## Columns -/

/-- A fragment closes the quotes and the parentheses that it opens. -/
def Sql.Closed (sql : Sql) : Prop :=
  Definition.Closed false sql.text.toList

namespace Sql.Closed

open Definition

theorem nil : Sql.Closed [] :=
  Definition.Closed.nil

theorem append {a b : Sql} (ha : a.Closed) (hb : b.Closed) : (a ++ b).Closed := by
  have both := Definition.Closed.append ha hb
  rwa [← String.toList_append, ← text_append] at both

theorem word {text : String} (h : Definition.Closed false text.toList) : (Sql.word text).Closed := by
  rwa [Sql.Closed, text_word]

/-- Commas are closed in parentheses. -/
theorem parens {sql : Sql} (h : Definition.Closed true sql.text.toList) : sql.parens.Closed := by
  have whole : sql.parens.text.toList = '(' :: (sql.text.toList ++ ')' :: []) := by
    simp only [Sql.parens, text_append, text_word, String.toList_append]
    rfl
  rw [Sql.Closed, whole]
  exact .parens h .nil

end Sql.Closed

theorem Definition.closed_int (commas : Bool) (n : Int) : Definition.Closed commas (toString n).toList := by
  refine .of_plain (List.all_eq_true.mpr fun c hc => ?_)
  have other {d : Char} (none_ : d.isDigit = false) (sign : d ≠ '-') : c ≠ d := by
    rintro rfl
    rcases mem_toString_int hc with same | digit
    · exact sign same
    · simp [none_] at digit
  simp [Definition.isPlain, Definition.closing?, other]

/-- A size that is not infinite. -/
def Value.IsFiniteSize (size : Value) : Prop :=
  ∀ n, size.whole = .error n → n = .notNumeric

/-- A type of the library that is not given by values, with sizes that can be written. -/
def ColumnType.HasWords : ColumnType Value → Prop
  | .enumeration _ _ _ | .specific _ => False
  | .varchar length => length.IsFiniteSize
  | .decimal precision scale => precision.IsFiniteSize ∧ scale.IsFiniteSize
  | _ => True

/-- The definition of a column can be written, and what follows the name in it closes what it opens. -/
structure Column.Closes (s : Scope) (c : Column Value) : Prop where
  type : ∃ sql, (s.columnType "create" c).Gives sql [] ∧ sql.Closed
  default : ∀ v ∈ c.defaultTo, ∃ sql, (s.defaultText c v).Gives sql [] ∧ sql.Closed
  checks : ∃ sql, (s.columnChecks c).Gives sql [] ∧ sql.Closed

namespace Scope

variable {s : Scope} (sqlite : s.client.dialect = .sqlite)

include sqlite

theorem quotes_of_sqlite (unhooked : s.client.wrapIdentifier = none) : s.Quotes :=
  quotes_of_builtin (by rw [sqlite]; simp [Dialect.builtin]) unhooked

theorem grammar_of_sqlite : s.grammar = .sqlite := by
  rw [grammar, sqlite]
  rfl

theorem capabilities_of_sqlite : s.capabilities = Dialect.sqlite.capabilities := by
  rw [capabilities, Client.capabilities, sqlite]

theorem modifier_gives (t : Table Value) {c : Column Value} (closes : c.Closes s) (type : Sql) {m : ColumnModifier}
    (within : m ∈ Grammar.sqlite.modifiers) :
    ∃ sql, (s.modifier c type m).Gives sql [] ∧ sql.Closed ∧ s.modifierStatements t c m = pure [] := by
  have grammar := grammar_of_sqlite sqlite
  rcases List.mem_pair.mp within with rfl | rfl
  · refine ⟨c.nullable.elim [] nullability, .pure _, ?_, rfl⟩
    cases c.nullable with
    | none => exact .nil
    | some v =>
      have words : ∀ b : Bool, Definition.Closed false (if b then " null" else " not null").toList := by
        intro b
        cases b <;> exact .of_plain (by decide)
      exact .word (words v.isTruthy)
  · cases given : c.defaultTo with
    | none => exact ⟨[], by simp only [modifier, given]; exact .pure _, .nil, rfl⟩
    | some v =>
      obtain ⟨sql, gives, closed⟩ := closes.default v given
      have text : s.modifier c type .default_ = do return Sql.word " default " ++ (← s.defaultText c v) := by
        simp [modifier, given, grammar]
      rw [text]
      exact ⟨_, gives.map, .append (.word (.of_plain (by decide))) closed, rfl⟩

/-- A column definition begins with the name of its column and goes on with a blank. -/
theorem columnText_gives (unhooked : s.client.wrapIdentifier = none) (t : Table Value) {c : Column Value}
    {name : String} (named : c.name = .str name) (plain : PlainName name) (closes : c.Closes s) :
    ∃ rest : Sql, (s.columnText "create" t c).Gives
      { definition := [.name Dialect.sqlite.capabilities.quoting name] ++ Sql.word " " ++ rest } [] ∧ rest.Closed := by
  have wrapped := (quotes_of_sqlite sqlite unhooked).wrap_gives plain
  rw [capabilities_of_sqlite sqlite] at wrapped
  obtain ⟨type, typed, closedType⟩ := closes.type
  obtain ⟨nullable, first, closedNullable, silent⟩ :=
    modifier_gives sqlite t closes type (.head _ : ColumnModifier.nullable ∈ Grammar.sqlite.modifiers)
  obtain ⟨default, second, closedDefault, silent'⟩ :=
    modifier_gives sqlite t closes type (.tail _ (.head _) : ColumnModifier.default_ ∈ Grammar.sqlite.modifiers)
  obtain ⟨checks, checked, closedChecks⟩ := closes.checks
  have modifiers : (Grammar.sqlite.modifiers.mapM fun m => do
      let text ← s.modifier c type m
      return (text, ← s.modifierStatements t c m) : Ddl (List (Sql × List Sql))).Gives
        [(nullable, []), (default, [])] [] := by
    refine .mapM (.cons ?_ (.cons ?_ .nil))
    · rw [silent]
      exact (Ddl.Gives.lift first).bind_silent ((Ddl.Gives.lift (.pure [])).bind_silent (.pure _))
    · rw [silent']
      exact (Ddl.Gives.lift second).bind_silent ((Ddl.Gives.lift (.pure [])).bind_silent (.pure _))
  have closed := (closedType.append (closedNullable.append closedDefault)).append closedChecks
  refine ⟨type ++ (nullable ++ default) ++ checks, ?_, closed⟩
  unfold columnText
  rw [named, grammar_of_sqlite sqlite]
  refine (Ddl.Gives.lift wrapped).bind_silent (typed.bind_silent (modifiers.bind_silent ?_))
  refine (Ddl.Gives.lift checked).bind_silent ?_
  simp only [List.map_cons, List.map_nil, List.flatten_cons, List.flatten_nil, List.append_nil, List.append_assoc]
  exact .pure _

omit sqlite in
theorem literalSql_str (text : String) :
    s.literalSql (.str text) = pure (Sql.literal (Literal.text s.capabilities.escape.strings text)) := by
  have result : Literal.result s.capabilities.escape s.nested.printers "local" (.str text) =
      pure (.str (Literal.text s.capabilities.escape.strings text)) := by
    rw [Literal.result, Literal.render]
    rfl
  rw [literalSql, result]
  rfl

omit sqlite in
theorem wholeSize_gives {size : Value} (finite : size.IsFiniteSize) (usual : Int) :
    ∃ sql, (wholeSize size usual).Gives sql [] ∧ Definition.Closed true sql.text.toList := by
  have number (n : Int) : Definition.Closed true (Sql.number (toString n)).text.toList := by
    have text : (Sql.number (toString n)).text = toString n := by simp [Sql.number, Sql.text, Piece.text]
    rw [text]
    exact Definition.closed_int true n
  unfold wholeSize
  split
  · exact ⟨_, .pure _, number _⟩
  · exact ⟨_, .pure _, number _⟩
  next infinite =>
    cases finite _ infinite

omit sqlite in
theorem decimalType_gives {precision scale : Value} (finite : precision.IsFiniteSize) (finite' : scale.IsFiniteSize) :
    ∃ sql, (decimalType precision scale).Gives sql [] ∧ sql.Closed := by
  obtain ⟨size, gives, closed⟩ := wholeSize_gives finite 8
  obtain ⟨digits, gives', closed'⟩ := wholeSize_gives finite' 2
  unfold decimalType
  split
  · exact ⟨_, .pure _, .word (.of_plain (by decide))⟩
  · refine ⟨_, gives.bind_silent gives'.map, .append (.word (.of_plain (by decide))) (.parens ?_)⟩
    have both : (Sql.commas [size, digits]).text.toList = size.text.toList ++ (',' :: ' ' :: digits.text.toList) := by
      simp [Sql.commas, Sql.joined, Sql.text_word]
    have comma (cs : List Char) (h : Definition.Closed true cs) : Definition.Closed true (',' :: ' ' :: cs) :=
      .plain rfl (by decide) (by decide) (fun _ => rfl) (.blank h)
    rw [both]
    exact closed.append (comma _ closed')

omit sqlite in
/-- A text that is written out closes its quotes. -/
theorem literal_closed (text : String) : (Sql.literal (Literal.text .doubled text)).Closed := by
  have whole : (Sql.literal (Literal.text .doubled text)).text.toList =
      '\'' :: (doubled '\'' text.toList ++ ['\'']) := by
    have each : Literal.doubledChar = fun c => if c = '\'' then [c, c] else [c] := by
      funext c
      unfold Literal.doubledChar
      split
      next same => rw [same]
      · rfl
    simp [Sql.literal, Sql.text, Piece.text, Literal.text, Literal.doubled, each, doubled]
  rw [Sql.Closed, whole]
  exact .delimited rfl _

theorem typeText_gives (column : Value) {type : ColumnType Value} (words : type.HasWords) :
    ∃ sql, (s.typeText "create" column type).Gives sql [] ∧ sql.Closed := by
  have grammar := grammar_of_sqlite sqlite
  have plain {text : String} (h : text.toList.all Definition.isPlain = true) : (Sql.word text).Closed :=
    .word (.of_plain h)
  have sized {a b : String} (ha : a.toList.all Definition.isPlain = true) (hb : b.toList.all Definition.isPlain = true) :
      (Sql.word (a ++ "(" ++ b ++ ")")).Closed := by
    refine .word ?_
    simp only [String.toList_append, List.append_assoc]
    exact (Definition.Closed.of_plain ha).append (.parens (.of_plain hb) .nil)
  cases type with
  | enumeration _ _ _ => exact words.elim
  | specific _ => exact words.elim
  | varchar length =>
    obtain ⟨size, gives, closed⟩ := wholeSize_gives words 255
    simp only [typeText, varcharType, grammar]
    exact ⟨_, .lift gives.map, (plain (by decide)).append (.parens closed)⟩
  | decimal precision scale =>
    obtain ⟨sql, gives, closed⟩ := decimalType_gives words.1 words.2
    exact ⟨sql, .lift gives, closed⟩
  | uuid binary =>
    cases binary
    · exact ⟨_, by simp only [typeText, grammar]; exact .pure _, sized (a := "char") (b := "36") (by decide) (by decide)⟩
    · exact ⟨_, by simp only [typeText, grammar]; exact .pure _, sized (a := "binary") (b := "16") (by decide) (by decide)⟩
  | increments key =>
    cases key <;> exact ⟨_, by simp only [typeText, grammar]; exact .pure _, plain (by decide)⟩
  | bigIncrements key =>
    cases key <;> exact ⟨_, by simp only [typeText, grammar]; exact .pure _, plain (by decide)⟩
  | floating _ _ | double _ _ =>
    exact ⟨_, by simp only [typeText, floatType, grammar]; exact .lift (.pure _), plain (by decide)⟩
  | datetime _ _ | timestamp _ _ =>
    exact ⟨_, by simp only [typeText, momentType, grammar]; exact .lift (.pure _), plain (by decide)⟩
  | binary _ => exact ⟨_, by simp only [typeText, binaryType, grammar]; exact .lift (.pure _), plain (by decide)⟩
  | _ => exact ⟨_, by simp only [typeText, grammar]; exact .pure _, plain (by decide)⟩

/-- A text as a default. -/
theorem defaultText_gives (c : Column Value) (text : String) :
    ∃ sql, (s.defaultText c (.str text)).Gives sql [] ∧ sql.Closed := by
  have written : s.defaultText c (.str text) = s.literalSql (.str text) := by
    have notRaw : (Value.str text).isRaw = false := rfl
    simp only [defaultText, notRaw, Bool.false_eq_true, if_false]
    cases c.type.isJson <;> rfl
  have strings : s.capabilities.escape.strings = .doubled := by
    rw [capabilities_of_sqlite sqlite]
    rfl
  rw [written, literalSql_str, strings]
  exact ⟨_, .pure _, literal_closed text⟩

/-- A column of a type of the library, without checks, whose default is a text. -/
theorem closes_words {c : Column Value} (words : c.type.HasWords) (unaltered : c.alteredType = none)
    (checks : c.checks = {}) (default : ∀ v ∈ c.defaultTo, ∃ text : String, v = .str text) :
    c.Closes s where
  type := by
    obtain ⟨sql, gives, closed⟩ := typeText_gives sqlite c.name words
    refine ⟨sql, ?_, closed⟩
    unfold columnType
    rw [unaltered]
    exact gives
  default := by
    intro v given
    obtain ⟨text, rfl⟩ := default v given
    exact defaultText_gives sqlite c text
  checks := by
    have none_ : s.columnChecks c = pure [] := by simp [columnChecks, checks]
    rw [none_]
    exact ⟨[], .pure [], .nil⟩

/-! ## Creating a table -/

/-- A definition that begins with the name of a column. -/
def DefinesColumn (name : String) (text : ColumnText) : Prop :=
  text.comments = [] ∧ ∃ rest : Sql, rest.Closed ∧
    text.definition = [.name Dialect.sqlite.capabilities.quoting name] ++ Sql.word " " ++ rest

theorem columnTexts_gives (unhooked : s.client.wrapIdentifier = none) (t : Table Value) {names : List String}
    {columns : List (Column Value)} (same : columns.map (·.name) = names.map .str)
    (plain : ∀ name ∈ names, PlainName name) (closes : ∀ c ∈ columns, c.Closes s) :
    ∃ texts, (columns.mapM (s.columnText "create" t)).Gives texts [] ∧ Forall₂ DefinesColumn names texts := by
  suffices ∃ texts, Forall₂ (fun c text => (s.columnText "create" t c).Gives text []) columns texts ∧
      Forall₂ DefinesColumn names texts by
    obtain ⟨texts, gives, defines⟩ := this
    exact ⟨texts, .mapM gives, defines⟩
  induction names generalizing columns with
  | nil =>
    obtain rfl := List.map_eq_nil_iff.mp same
    exact ⟨[], .nil, .nil⟩
  | cons name names ih =>
    obtain ⟨c, rest, rfl, named, same⟩ := List.map_eq_cons_iff.mp same
    obtain ⟨texts, gives, defines⟩ := ih same (fun n hn => plain n (.tail _ hn)) fun c hc => closes c (.tail _ hc)
    obtain ⟨after, first, closed⟩ :=
      columnText_gives sqlite unhooked t named (plain name (.head _)) (closes c (.head _))
    exact ⟨_ :: texts, .cons first gives, .cons ⟨rfl, after, closed, rfl⟩ defines⟩

end Scope

/-- A new table with columns of some names, which has nothing but them. The names are plain, those of the columns
have no quotes of the dialect in them, and that of the table no opening parenthesis. -/
structure Table.Holds (t : Table Value) (names : List String) : Prop where
  method : t.method = .create
  schema : t.schema = none
  checks : t.checks = []
  statements : t.statements = []
  columns : t.columns.map (·.name) = names.map .str
  filled : names ≠ []
  named : ∀ name ∈ names, PlainName name ∧ '\x60' ∉ name.toList
  table : PlainName t.name ∧ '(' ∉ t.name.toList

/-- The statement that creates a table with given definitions. -/
def createSql (name : String) (texts : List ColumnText) : Sql :=
  Sql.word "create table " ++ [.name Dialect.sqlite.capabilities.quoting name] ++ Sql.word " " ++
    (Sql.commas (texts.map (·.definition))).parens

namespace Scope

variable {s : Scope} (sqlite : s.client.dialect = .sqlite) {t : Table Value} {names : List String}

include sqlite

theorem tableComment_gives (t : Table Value) : (s.tableComment t).Gives () [] := by
  unfold tableComment
  split
  · exact .pure ()
  · rw [grammar_of_sqlite sqlite]
    exact .lift (.report _)

theorem createHead_gives (unhooked : s.client.wrapIdentifier = none) (h : t.Holds names) : (s.createHead t).Gives
    (Sql.word "create table " ++ [.name Dialect.sqlite.capabilities.quoting t.name]) [] := by
  have wrapped := (quotes_of_sqlite sqlite unhooked).wrap_gives h.table.1
  rw [capabilities_of_sqlite sqlite] at wrapped
  unfold createHead tableName qualified
  rw [h.method, h.schema]
  exact wrapped.map

/-- What stands in the definition of a table besides its columns. -/
theorem surroundings (h : t.Holds names) : s.inlineKeys t = pure [] ∧ s.tableOptions t = pure [] := by
  have grammar := grammar_of_sqlite sqlite
  constructor
  · simp [inlineKeys, grammar, h.statements]
  · unfold tableOptions
    rw [grammar]

/-- The statement that creates a table has the definitions of its columns. -/
theorem createTable_gives (unhooked : s.client.wrapIdentifier = none) (h : t.Holds names)
    (closes : ∀ c ∈ t.columns, c.Closes s) : ∃ texts : List ColumnText, Forall₂ DefinesColumn names texts ∧
      (s.createTable t).Gives () [s.statementOf "create" (createSql t.name texts) []] := by
  obtain ⟨texts, written, defines⟩ :=
    columnTexts_gives sqlite unhooked t h.columns (fun name hn => (h.named name hn).1) closes
  obtain ⟨keys, options⟩ := surroundings sqlite h
  have method : tableMethod t = "create" := by simp [tableMethod, Table.isAltered, h.method]
  have new : ¬ t.method = .createLike := by simp [h.method]
  have filled : (createSql t.name texts).isBlank = false := by simp [createSql, Sql.isBlank, Sql.word, Piece.text]
  have silent : ∀ text ∈ texts, (s.pushAll t text.comments).Gives () [] := by
    intro text within
    rw [((List.forall₂_and_left (p := fun text : ColumnText => text.comments = []) _ _).mp defines.flip).1 text within]
    exact .pure ()
  refine ⟨texts, defines, ?_⟩
  unfold createTable
  rw [if_neg new, method, h.checks, keys, options]
  refine written.bind_silent (Ddl.Gives.bind_silent (.pure []) (Ddl.Gives.bind_silent (.lift (.pure [])) ?_))
  refine (Ddl.Gives.lift (createHead_gives sqlite unhooked h)).bind_silent ?_
  refine Ddl.Gives.bind_silent (.lift (.pure [])) ?_
  simp only [List.flatten_nil, List.map_nil, List.append_nil]
  have created : (s.pushOn t (createSql t.name texts)).Gives ()
      [s.statementOf "create" (createSql t.name texts) []] := by
    rw [pushOn, method]
    exact .push none filled
  exact created.bind ((Ddl.Gives.forM silent).bind_silent (tableComment_gives sqlite t))

/-! ## Building a table again -/

/-- A change of a table that forbids nulls in a column. -/
def forbidding (client : Client Value) (table column : String) : Table Value :=
  { client, method := .alter, name := table, statements := [.dropNullable (.str column)] }

/-- How nulls are forbidden in a column of a table. -/
def forbiddingPlan (table column : String) : Rebuild :=
  ⟨table, Dialect.sqlite.capabilities.quoting, .column (.text column) .forbidNull⟩

omit sqlite in
/-- For building a table again the catalog is asked. -/
theorem rebuild_gives (t : Table Value) (change : DefinitionChange) : ∃ question : Compiled Value,
    question.output = some (.rebuild ⟨t.name, s.capabilities.quoting, change⟩) ∧
      (s.rebuild t change).Gives () [question] := by
  rw [rebuild, literalSql_str]
  exact ⟨_, rfl, Ddl.Gives.bind_silent (.lift (.pure _)) (.push _ rfl)⟩

/-- Nulls are forbidden by building the table again, for which the catalog is asked. -/
theorem forbidding_gives (client : Client Value) (table column : String) : ∃ question : Compiled Value,
    question.output = some (.rebuild (forbiddingPlan table column)) ∧
      (s.tableStatements (forbidding client table column)).Gives () [question] := by
  have sqlite' : ({ s with context := none } : Scope).client.dialect = .sqlite := sqlite
  generalize asked : ({ s with context := none } : Scope) = s' at sqlite'
  have only : s.tableStatements (forbidding client table column) = (do
      s'.alterTable (forbidding client table column)
      [TableStatement.dropNullable (.str column)].forM (s'.tableStatement (forbidding client table column))) := by
    rw [← asked]
    rfl
  have unaltered : s'.alterTable (forbidding client table column) = pure () := rfl
  have rebuilt : s'.tableStatement (forbidding client table column) (.dropNullable (.str column)) =
      s'.rebuild (forbidding client table column) (.column (.text column) .forbidNull) := by
    rw [tableStatement, changeNullable, grammar_of_sqlite sqlite']
    rfl
  have single (step : TableStatement Value → Ddl Unit) (statement : TableStatement Value) :
      [statement].forM step = (do step statement; pure ()) := rfl
  obtain ⟨question, output, gives⟩ := rebuild_gives (s := s') (forbidding client table column)
    (.column (.text column) .forbidNull)
  rw [capabilities_of_sqlite sqlite'] at output
  rw [only, unaltered, pure_bind, single, rebuilt]
  exact ⟨question, output, gives.then_silent (.pure ())⟩

end Scope

/-- The text of fragments with commas between them. -/
theorem text_commas (sqls : List Sql) :
    (Sql.commas sqls).text.toList = Definition.listed (sqls.map fun sql => sql.text.toList) := by
  induction sqls with
  | nil => rfl
  | cons sql sqls ih =>
    cases sqls with
    | nil => simp [Sql.commas, Sql.joined, Definition.listed]
    | cons next sqls =>
      have whole : Sql.commas (sql :: next :: sqls) = sql ++ Sql.word ", " ++ Sql.commas (next :: sqls) := rfl
      rw [whole, Sql.text_append, Sql.text_append, Sql.text_word, String.toList_append, String.toList_append, ih]
      simp [Definition.listed, List.intercalate]

/-- The text of the statement that creates a table. -/
theorem text_createSql (name : String) (texts : List ColumnText) : (createSql name texts).text.toList =
    ("create table " ++ Dialect.sqlite.capabilities.quoting.quote name ++ " ").toList ++
      '(' :: (Definition.listed (texts.map fun text => text.definition.text.toList) ++ [')']) := by
  simp only [createSql, Sql.parens, Sql.text_append, Sql.text_word, Sql.text_name, String.toList_append, text_commas,
    List.map_map]
  rfl

/-- A quoted name closes its quotes. -/
theorem Item.closed_nameText {name : String} (plain : '\x60' ∉ name.toList) :
    Definition.Closed false (nameText name) := by
  by_cases star : name = "*"
  · rw [star, nameText_star]
    exact .of_plain (by decide)
  · rw [nameText_quoted star plain]
    exact .quoted rfl plain .nil

/-- A definition that begins with the name of a column defines it, and it is closed. -/
theorem Scope.DefinesColumn.item {name : String} {text : ColumnText} (h : Scope.DefinesColumn name text)
    (plain : '\x60' ∉ name.toList) :
    Item.Defines name text.definition.text.toList ∧ Definition.Closed false text.definition.text.toList := by
  obtain ⟨-, rest, closed, begins⟩ := h
  have whole : text.definition.text.toList = Item.nameText name ++ (' ' :: rest.text.toList) := by
    simp only [begins, Sql.text_append, Sql.text_word, Sql.text_name, String.toList_append, List.append_assoc]
    rfl
  rw [whole]
  refine ⟨⟨plain, _, rfl, ?_⟩, (Item.closed_nameText plain).append (.blank closed)⟩
  rintro _ ⟨⟩
  rfl

/-- Before the columns of a table there is no parenthesis. -/
theorem parens_not_mem_head {name : String} (plain : '(' ∉ name.toList) :
    '(' ∉ ("create table " ++ Dialect.sqlite.capabilities.quoting.quote name ++ " ").toList := by
  intro within
  simp only [String.toList_append, List.mem_append] at within
  rcases within with (word | name) | blank
  · revert word
    decide
  · rcases Quoting.mem_quote name with h | h | h
    · exact plain h
    · revert h
      decide
    · revert h
      decide
  · revert blank
    decide

/-- The texts of definitions that begin with the names of columns define these. -/
theorem Scope.definitions_define {names : List String} {texts : List ColumnText}
    (h : Forall₂ Scope.DefinesColumn names texts) (plain : ∀ name ∈ names, '\x60' ∉ name.toList) :
    Forall₂ Item.Defines names (texts.map fun text => text.definition.text.toList) ∧
      ∀ text ∈ texts, Definition.Closed false text.definition.text.toList := by
  induction h with
  | nil => exact ⟨.nil, nofun⟩
  | cons first _ ih =>
    obtain ⟨defines, closed⟩ := ih fun name hn => plain name (.tail _ hn)
    obtain ⟨item, own⟩ := first.item (plain _ (.head _))
    exact ⟨.cons item defines, List.forall_mem_cons.mpr ⟨own, closed⟩⟩

/-- What the statement that creates a table says. -/
theorem Scope.tableStatements_created {s : Scope} (sqlite : s.client.dialect = .sqlite)
    (unhooked : s.client.wrapIdentifier = none) {t : Table Value} {names : List String} (h : t.Holds names)
    (closes : ∀ c ∈ t.columns, c.Closes { s with context := t.context }) :
    ∃ (create : Compiled Value) (items : List Item), (s.tableStatements t).Gives () [create] ∧
      create.sql.toList = ("create table " ++ Dialect.sqlite.capabilities.quoting.quote t.name ++ " ").toList ++
        '(' :: (Definition.listed items ++ [')']) ∧
      Forall₂ Item.Defines names items ∧ ∀ item ∈ items, Definition.Closed false item := by
  have sqlite' : ({ s with context := t.context } : Scope).client.dialect = .sqlite := sqlite
  obtain ⟨texts, definitions, gives⟩ := createTable_gives sqlite' unhooked h closes
  obtain ⟨defines, closed⟩ := definitions_define definitions fun name hn => (h.named name hn).2
  refine ⟨({ s with context := t.context } : Scope).statementOf "create" (createSql t.name texts) [],
    texts.map fun text : ColumnText => text.definition.text.toList, ?_, text_createSql t.name texts, defines,
    List.forall_mem_map.mpr closed⟩
  have new : ¬ t.isAltered = true := by simp [Table.isAltered, h.method]
  unfold tableStatements
  simp only [if_neg new, h.statements, List.filter_nil]
  exact gives.then_silent (.pure ())

namespace Schema

/-- The creation of a table. -/
def creation (client : Client Value) (table : String) (callback : Value) : Schema Value :=
  { client, operations := [.table .create (.str table) none callback] }

/-- Nulls forbidden in a column. -/
def forbidden (client : Client Value) (table column : String) : Schema Value :=
  { client, operations :=
      [.table .alter (.str table) none (.callback [[⟨"drop_nullable", [.scalar (.str column)], []⟩]])] }

variable {env : Environment} {client : Client Value}

/-- The statements about a table are those of its change. -/
theorem compile_table {method : TableMethod} {name : String} {callback : Value} {change : Schema Value}
    (single : change.operations = [.table method (.str name) none callback]) {t : Table Value}
    {statements : List (Compiled Value)}
    (built : ((change.scope env).builtTable change.schema method (.str name) none callback).Gives t [])
    (gives : ((change.scope env).tableStatements t).Gives () statements) {p : Progress} (fresh : p.bound = []) :
    ∃ p', change.compile env p = .ok statements p' := by
  have operation : ((change.scope env).operation change.schema (.table method (.str name) none callback)).Gives ()
      statements :=
    (Ddl.Gives.lift built).bind_silent (.ownStatements gives)
  have whole : (change.operations.forM ((change.scope env).operation change.schema)).Gives () statements := by
    rw [single]
    exact operation.then_silent (.pure ())
  obtain ⟨p', run, -⟩ := whole [] p fresh
  refine ⟨p', ?_⟩
  have changed : (change.scope env).schemaChange change p = .ok statements p' := Compile.bind_ok.mpr ⟨_, p', run, rfl⟩
  change EStateM.tryCatch ((change.scope env).schemaChange change) env.fail p = _
  simp only [EStateM.tryCatch, changed]

/-- A table that was created is built again with the definitions of its columns: only the definition of the column
in which nulls are forbidden is changed, and all columns are copied in order, under their names. -/
theorem rebuilds_created (sqlite : client.dialect = .sqlite) (unhooked : client.wrapIdentifier = none)
    {t : Table Value} {names : List String} (h : t.Holds names) {callback : Value}
    (built : (((creation client t.name callback).scope env).builtTable none .create (.str t.name) none callback).Gives
      t [])
    (closes : ∀ c ∈ t.columns, c.Closes { (creation client t.name callback).scope env with context := t.context }) :
    ∃ (create : Compiled Value) (items : List Item), Forall₂ Item.Defines names items ∧
      create.sql.toList = ("create table " ++ Dialect.sqlite.capabilities.quoting.quote t.name ++ " ").toList ++
        '(' :: (Definition.listed items ++ [')']) ∧
      (∀ p, p.bound = [] → ∃ p', (creation client t.name callback).compile env p = .ok [create] p') ∧
      ∀ column ∈ names, ∃ (question : Compiled Value) (output : Output), question.output = some output ∧
        (∀ p, p.bound = [] → ∃ p', (forbidden client t.name column).compile env p = .ok [question] p') ∧
        ∀ indexes, output.interpret (catalogRows create.sql indexes) = .ok (.statements
          ((Rebuild.texts t.name names (changedItems names (items.map Text.stripChars) column .forbidNull) [] ++
            indexes).map fun sql => Rebuild.statement (.str sql))) := by
  obtain ⟨create, items, created, text, defines, closed⟩ :=
    Scope.tableStatements_created (s := (creation client t.name callback).scope env) sqlite unhooked h closes
  refine ⟨create, items, defines, text, fun p fresh => compile_table rfl built created fresh, fun column within => ?_⟩
  obtain ⟨question, output, asked⟩ :=
    Scope.forbidding_gives (s := (forbidden client t.name column).scope env) sqlite client t.name column
  have altered : ((forbidden client t.name column).scope env).builtTable none .alter (.str t.name) none
      (.callback [[⟨"drop_nullable", [.scalar (.str column)], []⟩]]) =
        pure (Scope.forbidding client t.name column) := rfl
  refine ⟨question, _, output, fun p fresh => compile_table rfl (by exact altered ▸ .pure _) asked fresh, fun indexes => ?_⟩
  have planned := Rebuild.plan_column (parens_not_mem_head h.table.2) closed defines text within t.name
    (indexes.map Value.str)
  rw [Output.interpret, Scope.forbiddingPlan, Rebuild.statements_stored (stores_catalogRows create.sql indexes), planned]
  simp only [Except.map, List.map_append, List.map_map]
  rfl

/-- Columns with a comma, a parenthesis and a word of SQL in their names, and a default with a quote in it. -/
theorem rebuilds_created_odd :
    let client : Client Value := { dialect := .sqlite }
    let env : Environment := { client }
    let callback : Value := .callback [[⟨"string", [.scalar (.str "x,y(z")], []⟩, ⟨"default_to", [.scalar (.str "it's (")], []⟩],
      [⟨"integer", [.scalar (.str "unique")], []⟩]]
    let t : Table Value :=
      { client, method := .create, name := "order items", columns :=
          [{ name := .str "x,y(z", type := .varchar (.int 255), defaultTo := some (.str "it's (") },
            { name := .str "unique", type := .integer .null }] }
    let names := ["x,y(z", "unique"]
    client.dialect = .sqlite ∧ client.wrapIdentifier = none ∧ t.Holds names ∧
      (((creation client t.name callback).scope env).builtTable none .create (.str t.name) none callback).Gives t [] ∧
      (∀ c ∈ t.columns, c.Closes { (creation client t.name callback).scope env with context := t.context }) ∧
      ∃ (create : Compiled Value) (items : List Item), Forall₂ Item.Defines names items ∧
        create.sql.toList = ("create table " ++ Dialect.sqlite.capabilities.quoting.quote t.name ++ " ").toList ++
          '(' :: (Definition.listed items ++ [')']) ∧
        (∀ p, p.bound = [] → ∃ p', (creation client t.name callback).compile env p = .ok [create] p') ∧
        ∀ column ∈ names, ∃ (question : Compiled Value) (output : Output), question.output = some output ∧
          (∀ p, p.bound = [] → ∃ p', (forbidden client t.name column).compile env p = .ok [question] p') ∧
          ∀ indexes, output.interpret (catalogRows create.sql indexes) = .ok (.statements
            ((Rebuild.texts t.name names (changedItems names (items.map Text.stripChars) column .forbidNull) [] ++
              indexes).map fun sql => Rebuild.statement (.str sql))) := by
  intro client env callback t names
  have holds : t.Holds names := {
    method := rfl
    schema := rfl
    checks := rfl
    statements := rfl
    columns := rfl
    filled := by decide
    named := by decide
    table := by decide }
  have built : (((creation client t.name callback).scope env).builtTable none .create (.str t.name) none callback).Gives
      t [] := by
    have table : ((creation client t.name callback).scope env).builtTable none .create (.str t.name) none callback =
        pure t := rfl
    rw [table]
    exact .pure t
  have closes : ∀ c ∈ t.columns, c.Closes { (creation client t.name callback).scope env with context := t.context } := by
    have each : ∀ c ∈ t.columns, c.type.HasWords ∧ c.alteredType = none ∧ c.checks = {} ∧
        ∀ v ∈ c.defaultTo, ∃ text : String, v = .str text := by
      refine List.forall_mem_cons.mpr ⟨⟨nofun, rfl, rfl, ?_⟩, List.forall_mem_singleton.mpr ⟨trivial, rfl, rfl, nofun⟩⟩
      rintro _ ⟨⟩
      exact ⟨_, rfl⟩
    intro c within
    obtain ⟨words, unaltered, checks, default⟩ := each c within
    exact Scope.closes_words rfl words unaltered checks default
  exact ⟨rfl, rfl, holds, built, closes, rebuilds_created rfl rfl holds built closes⟩

/-- A quote in the name of a column is doubled in the definition, and the name is read up to it: the column is not
found, or another one of that name is, which is copied twice. A parenthesis in the name of a table is taken for the
one before its columns. -/
theorem rebuilds_created_quoted :
    let client : Client Value := { dialect := .sqlite }
    let env : Environment := { client }
    let columns (names : List String) : Value :=
      .callback (names.map fun name => [⟨"string", [.scalar (.str name)], []⟩])
    let single (change : Schema Value) : Option (Compiled Value) :=
      (change.compile env).outcome.1.toOption.bind fun cs => cs.head?
    let rebuilt (table : String) (names : List String) (column : String) : Option (String × String × List String) := do
      let created ← single (creation client table (columns names))
      let output ← (← single (forbidden client table column)).output
      match output.interpret (catalogRows created.sql []) with
      | .ok (.statements list) => some (created.sql, "", list.map (·.sql))
      | .ok (.truth _) => none
      | .error e => some (created.sql, e.message, [])
    rebuilt "t" ["a\x60b"] "a\x60b" =
        some ("create table \x60t\x60 (\x60a\x60\x60b\x60 varchar(255))", "Column 'a\x60b' not found for rebuild", []) ∧
      rebuilt "t" ["a", "a\x60b"] "a" =
        some ("create table \x60t\x60 (\x60a\x60 varchar(255), \x60a\x60\x60b\x60 varchar(255))", "",
          ["create table \x60_quarry_tmp_t\x60 (\x60a\x60 varchar(255) not null, \x60a\x60\x60b\x60 varchar(255) not null)",
            "insert into \x60_quarry_tmp_t\x60 (\x60a\x60, \x60a\x60) select \x60a\x60, \x60a\x60 from \x60t\x60",
            "drop table \x60t\x60", "alter table \x60_quarry_tmp_t\x60 rename to \x60t\x60"]) ∧
      rebuilt "t(x" ["a"] "a" =
        some ("create table \x60t(x\x60 (\x60a\x60 varchar(255))",
          "Unbalanced table definition: create table \x60t(x\x60 (\x60a\x60 varchar(255))", []) := by
  decide +kernel

end Schema

end SqlBuilder
