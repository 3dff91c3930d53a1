import SqlBuilder.Proofs.Successes

/-!
# Compilations with a known result

Some compilations have the same result wherever they start. The result of several steps is then read off
their results, and nothing has to be said about failures.

* `Compile.Gives`: a compilation has a result and binds some values.
* `PlainName`, `DottedName`: names without an alias, of one segment and of several.
* `Scope.wrapString_gives`: a plain name is rendered as one delimited identifier.
* `Scope.parameter_scalar`, `Scope.operator_str`: a plain value is bound, and an operator is permitted or refused.
* `Query.compile_gives`: a compiled query, by the rendering of its statement.
-/

namespace SqlBuilder

/-! ## Results -/

namespace Compile

variable {α β : Type}

/-- Wherever it starts, a compilation has a result and binds some values, and it marks no column as
undefined. -/
def Gives (c : Compile α) (a : α) (values : List Value) : Prop :=
  ∀ p, ∃ p', c p = .ok a p' ∧ p'.bound = p.bound ++ values ∧ p'.undefinedColumns = p.undefinedColumns

namespace Gives

variable {c : Compile α} {f : α → Compile β} {a : α} {b : β} {values more : List Value}

protected theorem pure (a : α) : (pure a : Compile α).Gives a [] :=
  fun p => ⟨p, rfl, (List.append_nil _).symm, rfl⟩

protected theorem bind (h : c.Gives a values) (h' : (f a).Gives b more) : (c >>= f).Gives b (values ++ more) := by
  intro p
  obtain ⟨p₁, first, bound, marked⟩ := h p
  obtain ⟨p₂, second, bound', marked'⟩ := h' p₁
  refine ⟨p₂, bind_ok.mpr ⟨a, p₁, first, second⟩, ?_, marked'.trans marked⟩
  rw [bound', bound, List.append_assoc]

/-- A step that binds nothing before others. -/
theorem bind_silent (h : c.Gives a []) (h' : (f a).Gives b values) : (c >>= f).Gives b values :=
  h.bind h'

/-- A step that binds nothing after others. -/
theorem then_silent (h : c.Gives a values) (h' : (f a).Gives b []) : (c >>= f).Gives b values := by
  have whole := h.bind h'
  rwa [List.append_nil] at whole

/-- A result that something is made of. -/
theorem map {f : α → β} (h : c.Gives a values) : (do return f (← c) : Compile β).Gives (f a) values :=
  h.then_silent (.pure (f a))

theorem bindAll (values : List Value) : (SqlBuilder.bindAll values).Gives () values :=
  fun _ => ⟨_, rfl, rfl, rfl⟩

theorem report (event : LogEvent) : (SqlBuilder.report event).Gives () [] :=
  fun _ => ⟨_, rfl, (List.append_nil _).symm, rfl⟩

theorem mapM {f : α → Compile β} {g : α → β} {v : α → List Value} {as : List α}
    (each : ∀ a ∈ as, (f a).Gives (g a) (v a)) : (as.mapM f).Gives (as.map g) (as.flatMap v) := by
  induction as with
  | nil => exact .pure []
  | cons a as ih =>
    rw [List.mapM_cons]
    exact (each a (.head _)).bind (ih fun b hb => each b (.tail _ hb)).map

/-- Steps that bind nothing. -/
theorem mapM_silent {f : α → Compile β} {g : α → β} {as : List α} (each : ∀ a ∈ as, (f a).Gives (g a) []) :
    (as.mapM f).Gives (as.map g) [] := by
  have whole := mapM (v := fun _ => []) each
  have none_ : as.flatMap (fun _ => ([] : List Value)) = [] := by simp
  rwa [none_] at whole

/-- Steps whose results have a property each. -/
theorem exists_mapM {f : α → Compile β} {P : α → β → Prop} {as : List α}
    (each : ∀ a ∈ as, ∃ b values, (f a).Gives b values ∧ P a b) :
    ∃ bs values, (as.mapM f).Gives bs values ∧ List.Forall₂ P as bs := by
  induction as with
  | nil => exact ⟨[], [], .pure [], .nil⟩
  | cons a as ih =>
    obtain ⟨b, values, first, fits⟩ := each a (.head _)
    obtain ⟨bs, more, others, fit⟩ := ih fun b hb => each b (.tail _ hb)
    rw [List.mapM_cons]
    exact ⟨b :: bs, _, first.bind others.map, .cons fits fit⟩

theorem settled (env : Environment) (h : c.Gives a values) : (env.settled c).Gives a values := by
  intro p
  obtain ⟨p', run, rest⟩ := h p
  refine ⟨p', ?_, rest⟩
  change EStateM.tryCatch c env.fail p = _
  simp only [EStateM.tryCatch, run]

theorem outcome (h : c.Gives a values) : c.outcome.1 = .ok a := by
  obtain ⟨p', run, -⟩ := h {}
  rw [Compile.outcome, run]

end Gives

end Compile

/-! ## Texts -/

namespace Sql

@[simp] theorem text_append (a b : Sql) : (a ++ b).text = a.text ++ b.text := by
  simp [text, String.join_append]

theorem text_word (w : String) : (word w).text = w := by
  simp [text, word, Piece.text]

theorem text_name (quoting : Quoting) (name : String) : text [.name quoting name] = quoting.quote name := by
  simp [text, Piece.text]

theorem bindings_segments (quoting : Quoting) (segments : List String) :
    (joined "." (segments.map fun segment => [.name quoting segment])).bindings = [] := by
  have named (segment : String) : bindings [.name quoting segment] = [] := rfl
  simp [List.flatMap_map, named]

end Sql

/-! ## Names -/

namespace Text

theorem splitOn_of_notMem {separator : Char} {cs : List Char} (h : separator ∉ cs) :
    splitOn separator cs = [cs] := by
  induction cs with
  | nil => rfl
  | cons c cs ih =>
    obtain ⟨first, rest⟩ := not_or.mp (mt List.mem_cons.mpr h)
    rw [splitOn, if_neg (Ne.symm first), ih rest]

/-- The pieces of a text have no separator in them. -/
theorem notMem_of_mem_splitOn {separator : Char} {cs piece : List Char} (h : piece ∈ splitOn separator cs) :
    separator ∉ piece := by
  induction cs generalizing piece with
  | nil =>
    obtain rfl : piece = [] := by simpa [splitOn] using h
    exact List.not_mem_nil
  | cons c cs ih =>
    unfold splitOn at h
    split at h
    · rcases List.mem_cons.mp h with rfl | h
      · exact List.not_mem_nil
      · exact ih h
    next other =>
      cases pieces : splitOn separator cs with
      | nil =>
        rw [pieces] at h
        obtain rfl : piece = [c] := by simpa using h
        simpa using Ne.symm other
      | cons first rest =>
        rw [pieces] at h ih
        rcases List.mem_cons.mp h with rfl | h
        · exact mt List.mem_cons.mp (not_or.mpr ⟨Ne.symm other, ih (.head _)⟩)
        · exact ih (.tail _ h)

/-- The keyword of an alias occurs in a text, in any letter case. -/
def hasAlias (cs : List Char) : Bool :=
  hasInfix Scope.aliasMark (lowerChars cs)

theorem findInfix_of_hasAlias {cs : List Char} (h : hasAlias cs = false) :
    findInfix Scope.aliasMark (lowerChars cs) = none := by
  simpa [hasAlias, hasInfix] using h

end Text

/-- A name of one segment, without an alias and without blanks around it. -/
structure PlainName (name : String) : Prop where
  undotted : '.' ∉ name.toList
  unaliased : Text.hasAlias name.toList = false
  trimmed : Text.stripChars name.toList = name.toList

instance (name : String) : Decidable (PlainName name) :=
  decidable_of_iff ('.' ∉ name.toList ∧ Text.hasAlias name.toList = false ∧
    Text.stripChars name.toList = name.toList) ⟨fun ⟨a, b, c⟩ => ⟨a, b, c⟩, fun ⟨a, b, c⟩ => ⟨a, b, c⟩⟩

/-- A name of segments with dots between them, without an alias. -/
structure DottedName (name : String) : Prop where
  unaliased : Text.hasAlias name.toList = false
  first : ∀ cs ∈ Text.splitOn '.' name.toList, Text.hasAlias (Text.stripChars cs) = false

theorem PlainName.dotted {name : String} (h : PlainName name) : DottedName name where
  unaliased := h.unaliased
  first := by
    rw [Text.splitOn_of_notMem h.undotted]
    simpa [h.trimmed] using h.unaliased

namespace Scope

variable {s : Scope}

/-- Names are written by the quotes of the dialect and nothing else. -/
structure Quotes (s : Scope) : Prop where
  unhooked : s.client.wrapIdentifier = none
  textual : s.capabilities.quoting.areTexts = true

/-- The built-in dialects write names by their quotes. -/
theorem quotes_of_builtin (builtin : s.client.dialect ∈ Dialect.builtin)
    (unhooked : s.client.wrapIdentifier = none) : s.Quotes where
  unhooked
  textual := by
    have textual : ∀ d ∈ Dialect.builtin, d.capabilities.quoting.areTexts = true := by decide
    exact textual _ builtin

namespace Quotes

variable (h : s.Quotes)

include h

theorem segment_gives (cs : List Char) :
    (s.segment cs).Gives [.name s.capabilities.quoting (String.ofList (Text.stripChars cs))] [] := by
  unfold segment identifier delimited
  simp only [h.unhooked, Quoting.canQuote, h.textual, Bool.true_or, if_true]
  exact .pure _

/-- Segments with dots between them. -/
theorem segments_gives (parts : List (List Char)) : (parts.mapM s.segment).Gives
    (parts.map fun cs => [.name s.capabilities.quoting (String.ofList (Text.stripChars cs))]) [] :=
  .mapM_silent fun cs _ => h.segment_gives cs

/-- A plain name is one delimited identifier. -/
theorem wrapString_gives {name : String} (plain : PlainName name) :
    (s.wrapString name).Gives [.name s.capabilities.quoting name] [] := by
  unfold wrapString wrapFrom
  simp only [Text.findInfix_of_hasAlias plain.unaliased, Text.splitOn_of_notMem plain.undotted]
  have segment := h.segments_gives [name.toList]
  rw [List.map_singleton, plain.trimmed, String.ofList_toList] at segment
  exact segment.map

/-- A dotted name is a delimited identifier for each segment. -/
theorem wrapString_dotted {name : String} (dotted : DottedName name) : ∃ segments : List String,
    (s.wrapString name).Gives (Sql.joined "." (segments.map fun segment => [.name s.capabilities.quoting segment]))
      [] := by
  unfold wrapString wrapFrom
  simp only [Text.findInfix_of_hasAlias dotted.unaliased]
  split
  next first second rest split =>
    have within : first ∈ Text.splitOn '.' name.toList := by simp [split]
    have undotted : '.' ∉ Text.stripChars first :=
      fun dot => Text.notMem_of_mem_splitOn within (Text.mem_of_mem_stripChars dot)
    have length : ∃ n, name.toList.length = n + 1 := by
      cases chars : name.toList with
      | nil => simp [chars, Text.splitOn] at split
      | cons c cs => exact ⟨_, rfl⟩
    obtain ⟨n, length⟩ := length
    refine ⟨String.ofList (Text.stripChars (Text.stripChars first)) ::
      (second :: rest).map fun cs => String.ofList (Text.stripChars cs), ?_⟩
    have head : (s.wrapFrom name.toList.length (Text.stripChars first)).Gives
        [.name s.capabilities.quoting (String.ofList (Text.stripChars (Text.stripChars first)))] [] := by
      rw [length, wrapFrom]
      simp only [Text.findInfix_of_hasAlias (dotted.first first within), Text.splitOn_of_notMem undotted]
      exact (h.segments_gives [Text.stripChars first]).map
    have others := h.segments_gives (second :: rest)
    rw [List.map_cons, List.map_map]
    exact head.bind_silent others.map
  next =>
    refine ⟨(Text.splitOn '.' name.toList).map fun cs => String.ofList (Text.stripChars cs), ?_⟩
    rw [List.map_map]
    exact (h.segments_gives _).map

/-- A plain name as an operand. -/
theorem wrapOperand_gives {name : String} (plain : PlainName name) :
    (s.wrapOperand (.str name)).Gives (.sql [.name s.capabilities.quoting name]) [] := by
  have text : s.wrapOperand (.str name) = do return .sql (← s.wrapString name) := by simp [wrapOperand, Scalar.text]
  rw [text]
  exact (h.wrapString_gives plain).map

theorem wrap_gives {name : String} (plain : PlainName name) :
    (s.wrap (.str name)).Gives [.name s.capabilities.quoting name] [] :=
  (h.wrapOperand_gives plain).bind_silent (.pure _)

/-- Plain names in a list. -/
theorem columnizeAll_gives {names : List String} (plain : ∀ name ∈ names, PlainName name) :
    (s.columnizeAll (names.map .str)).Gives
      (Sql.commas (names.map fun name => [.name s.capabilities.quoting name])) [] := by
  unfold columnizeAll
  have operands : ((names.map Value.str).mapM s.wrapOperand).Gives
      (names.map fun name => .sql [.name s.capabilities.quoting name]) [] := by
    rw [List.mapM_map]
    exact .mapM_silent fun name hn => h.wrapOperand_gives (plain name hn)
  refine operands.bind_silent ?_
  rw [List.mapM_map]
  exact (Compile.Gives.mapM_silent fun name _ => .pure _).map

/-- Dotted names in a list. -/
theorem columnizeAll_dotted {columns : List Value} (dotted : ∀ v ∈ columns, ∃ name, v = .str name ∧ DottedName name) :
    ∃ sql values, (s.columnizeAll columns).Gives sql values ∧ sql.bindings = [] := by
  have operand : ∀ v ∈ columns, ∃ (o : Operand) (values : List Value), (s.wrapOperand v).Gives o values ∧
      ∃ sql, o = .sql sql ∧ sql.bindings = [] := by
    intro v hv
    obtain ⟨name, rfl, dotted⟩ := dotted v hv
    obtain ⟨segments, named⟩ := h.wrapString_dotted dotted
    have text : s.wrapOperand (.str name) = do return .sql (← s.wrapString name) := by simp [wrapOperand, Scalar.text]
    rw [text]
    exact ⟨_, _, named.map, _, rfl, Sql.bindings_segments _ _⟩
  obtain ⟨operands, values, rendered, silent⟩ := Compile.Gives.exists_mapM operand
  have each {β γ : Type} {bs : List β} {cs : List γ} {P : γ → Prop} (h : List.Forall₂ (fun _ c => P c) bs cs) :
      ∀ c ∈ cs, P c :=
    ((List.forall₂_and_left (R := fun _ _ => True) cs bs).mp (h.flip.imp fun _ _ own => ⟨own, trivial⟩)).1
  have part : ∀ o ∈ operands, ∃ (sql : Sql) (values : List Value), o.textual.Gives sql values ∧ sql.bindings = [] := by
    intro o ho
    obtain ⟨sql, rfl, none_⟩ := each silent o ho
    exact ⟨sql, [], .pure sql, none_⟩
  obtain ⟨parts, more, textual, silent⟩ := Compile.Gives.exists_mapM part
  refine ⟨Sql.commas parts, _, rendered.bind textual.map, ?_⟩
  rw [Sql.bindings_commas, List.flatMap_eq_nil_iff]
  exact each silent

end Quotes

/-! ## Plain values -/

theorem bind_gives (v : Value) : (bind v).Gives [.param v] [v] :=
  (Compile.Gives.bindAll [v]).bind (.pure _)

/-- A plain value is bound. -/
theorem argument_scalar (t : Scalar) : (s.argument (.scalar t)).Gives (.sql [.param (.scalar t)]) [.scalar t] :=
  (bind_gives (.scalar t)).map

theorem parameter_scalar (t : Scalar) : (s.parameter (.scalar t)).Gives [.param (.scalar t)] [.scalar t] :=
  (argument_scalar t).then_silent (.pure _)

/-- An operator that is a text is permitted or refused. -/
theorem operator_str (token : String) : s.operator (.str token) =
    if s.capabilities.operators.contains (Text.lower token) then
      pure (Sql.word (escapedOperator (Text.lower token)))
    else throw (.invalid (.operator token)) := by
  have word : s.wordText (.str token) = pure (Text.lower token) := by
    unfold wordText
    split
    · rfl
    next empty =>
      obtain rfl : token = "" := by simpa [Value.isTruthy, Scalar.isTruthy] using empty
      rfl
  have operand : s.operatorOperand (.str token) = (do
      let text ← s.wordText (.str token)
      if s.capabilities.operators.contains text then return .sql (Sql.word (escapedOperator text))
      else throw (.invalid (.operator (← s.display (.str token))))) := rfl
  rw [operator, operand, word, pure_bind]
  split <;> rfl

end Scope

/-! ## Queries -/

/-- The compiled form of a query whose statement is rendered as a fragment. -/
def Query.compiledAs (q : Query Value) (sql : Sql) : Compiled Value where
  sql := (Scope.commented q.statement.comments sql).text
  bindings := sql.bindings
  method := q.statement.method.name
  options := q.options
  timeout := q.timeout.map fun n => .int n
  cancelOnTimeout := q.cancelOnTimeout
  asName := q.statement.asName
  returning := q.statement.returning
  dialect := some q.client.dialectName

/-- A compiled query is what its statement is rendered as, if no undefined value is bound. -/
theorem Query.compile_gives {env : Environment} {q : Query Value} {sql : Sql} {values : List Value}
    (body : ((q.scope env).body q.statement.method q.statement).Gives sql values)
    (defined : ∀ v ∈ sql.bindings, v.containsUndefined = false) :
    (q.compile env).Gives (q.compiledAs sql) values := by
  refine .settled env ?_
  have checked : (ownColumns ((q.scope env).checked q.statement.method q.statement)).Gives
      (Scope.commented q.statement.comments sql) values := by
    intro p
    obtain ⟨p', run, bound, marked⟩ := body { p with undefinedColumns := [] }
    refine ⟨{ p' with undefinedColumns := p.undefinedColumns }, ?_, bound, rfl⟩
    have ok : (q.scope env).checked q.statement.method q.statement { p with undefinedColumns := [] } =
        .ok (Scope.commented q.statement.comments sql) p' := by
      refine Compile.bind_ok.mpr ⟨sql, p', run, Compile.bind_ok.mpr ⟨p', p', rfl, ?_⟩⟩
      have none_ : sql.bindings.any Value.containsUndefined = false := by simpa using defined
      simp only [marked, Likeness.Setting.bindings_commented, none_]
      rfl
    rw [ownColumns, ok]
  have rendered : (env.nested.query q.client none none q).Gives
      { sql := Scope.commented q.statement.comments sql, method := q.statement.method,
        asName := q.statement.asName } values := checked.map
  have compiled : (env.nested.compiledQuery q).Gives _ values := rendered.map
  rw [Likeness.Setting.bindings_commented] at compiled
  exact compiled

end SqlBuilder
