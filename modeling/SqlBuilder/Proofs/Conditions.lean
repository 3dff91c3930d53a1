import SqlBuilder.Proofs.Operands

/-!
# Conditions in tandem

Tests and conditions that stand for each other are rendered alike, one by one and joined by their
connectives.

* `Setting.test`: one test.
* `Setting.conditions`: the conditions of a clause.
* `Setting.joinConditions`: the conditions of a join, which may stand after a table.
-/

namespace SqlBuilder

/-- A bound of a range, if there is one. -/
def Scope.boundAt (s : Scope) (bounds : List Value) (i : Nat) : Compile Sql :=
  match bounds[i]? with
  | some v => s.parameter v
  | none => throw (.fault .outOfRange)

namespace Likeness

open List (Forall₂)

namespace Setting

variable {D : Likeness} {L : Level} (X : D.Setting L)

/-- A column is marked on both sides or on neither. -/
theorem trackUndefined {column column' v v' : Value} (h : Tracked column column' v v') :
    Tandem D.error (X.left.trackUndefined column v) (X.right.trackUndefined column' v') (Silently Eq) := by
  unfold Scope.trackUndefined
  refine .ite (by rw [h.undefined]) (fun undefined => ?_) fun _ => .pure ⟨rfl, rfl, rfl⟩
  obtain rfl := h.column undefined
  refine (X.display column).bind_silent ?_
  rintro text _ ⟨rfl, -⟩
  exact .markUndefined _

theorem blank (X : D.Setting L) : D.Joint " " :=
  X.law.joint (by simp [vocabulary]) rfl rfl

theorem negatable (X : D.Setting L) (negated : Bool) {a a' : Sql} (h : D.Frag a a') :
    D.Frag (Scope.negatable negated a) (Scope.negatable negated a') :=
  (Frag.when_head negated (X.law.opening (by simp [vocabulary]) rfl)).append_frag h

@[simp] theorem bindings_negatable (negated : Bool) (a : Sql) :
    Sql.bindings (Scope.negatable negated a) = a.bindings := by
  simp [Scope.negatable]

theorem group (X : D.Setting L) (negated : Bool) {a a' : Sql} (h : D.Frag a a') :
    D.Frag (Scope.group negated a) (Scope.group negated a') := by
  unfold Scope.group
  rw [← h.isBlank]
  split
  · exact h
  · exact X.negatable negated (X.law.parens h)

@[simp] theorem bindings_group (negated : Bool) (a : Sql) :
    Sql.bindings (Scope.group negated a) = a.bindings := by
  unfold Scope.group
  split <;> simp

/-- A fragment that is changed alike on both sides, and holds what it held. -/
theorem mapped {c c' : Compile Sql} {f f' : Sql → Sql} (h : D.RendersSql c c')
    (alike : ∀ {a a' : Sql}, D.Frag a a' → D.Frag (f a) (f' a'))
    (holds : ∀ a, (f a).bindings = a.bindings) (holds' : ∀ a, (f' a).bindings = a.bindings) :
    D.RendersSql (do return f (← c)) (do return f' (← c')) :=
  h.bind_yields fun a a' ha => .pure ⟨alike ha, by simp [holds], by simp [holds']⟩

/-! ## Comparisons -/

theorem compare {column column' operator operator' v v' : Value} (left : D.Column L column column')
    (word : D.Word L operator operator') (tracked : Tracked column column' v v')
    (right : D.Argument L v v') :
    D.RendersSql (X.left.compare column operator v) (X.right.compare column' operator' v') := by
  unfold Scope.compare
  refine (X.wrap left).bind_yields fun a a' ha => ?_
  refine (X.trackUndefined tracked).bind_silent fun _ _ _ => ?_
  refine (X.operator word).bind_yields fun b b' hb => ?_
  refine (X.parameter right).bind_yields fun c c' hc => .pure ?_
  exact ⟨.joined X.blank (.cons ha (.cons hb (.cons hc .nil))), by simp, by simp⟩

theorem compareColumns {column column' operator operator' other other' : Value}
    (left : D.Column L column column') (word : D.Word L operator operator')
    (right : D.Column L other other') :
    D.RendersSql (X.left.compareColumns column operator other)
      (X.right.compareColumns column' operator' other') := by
  unfold Scope.compareColumns
  refine (X.wrap left).bind_yields fun a a' ha => ?_
  refine (X.operator word).bind_yields fun b b' hb => ?_
  refine (X.wrap right).bind_yields fun c c' hc => .pure ?_
  exact ⟨.joined X.blank (.cons ha (.cons hb (.cons hc .nil))), by simp, by simp⟩

/-- Operands that each name some columns are sequences of columns, or columns. -/
theorem Columns.cases {v v' : Value} (h : D.Columns L v v') :
    (∃ cs cs', v.sequence? = some cs ∧ v'.sequence? = some cs' ∧ Forall₂ (D.Column L) cs cs') ∨
      (v.sequence? = none ∧ v'.sequence? = none ∧ D.Column L v v') := by
  have list (v : Value) : v.columnList = v.sequence?.getD [v] := by
    cases v <;> rfl
  obtain ⟨sequence, columns⟩ := h
  rw [list, list] at columns
  cases hv : v.sequence? <;> cases hv' : v'.sequence? <;> simp_all

/-- What a membership test has on its left, before what it has on its right. -/
theorem tested {column column' : Value} (left : D.Columns L column column') (negated : Bool)
    {f f' : Compile Unit} (hf : Tandem D.error f f' (Silently Eq)) {c c' : Compile Sql}
    (right : D.RendersSql c c') :
    D.RendersSql
      (do
        let target ← match column.sequence? with
          | some columns => do pure (← X.left.columnizeAll columns).parens
          | none => X.left.wrap column
        f
        return target ++ Sql.word (if negated then " not in " else " in ") ++ (← c))
      (do
        let target ← match column'.sequence? with
          | some columns => do pure (← X.right.columnizeAll columns).parens
          | none => X.right.wrap column'
        f'
        return target ++ Sql.word (if negated then " not in " else " in ") ++ (← c')) := by
  have whole {a a' : Sql} (ha : D.Frag a a') : Tandem D.error
      (do
        f
        return a ++ Sql.word (if negated then " not in " else " in ") ++ (← c))
      (do
        f'
        return a' ++ Sql.word (if negated then " not in " else " in ") ++ (← c'))
      (Extends D.Frag Sql.bindings a.bindings a'.bindings) := by
    refine hf.bind_silent fun _ _ _ => right.bind_yields fun b b' hb => .pure ?_
    refine ⟨ha.between ?_ hb, by simp, by simp⟩
    cases negated <;> exact X.law.joint (by simp [vocabulary]) rfl rfl
  rcases Columns.cases left with ⟨cs, cs', sequence, sequence', h⟩ | ⟨sequence, sequence', h⟩
  · rw [sequence, sequence']
    simpa only [bind_assoc, pure_bind] using
      (tailSql (X.parenthesized (X.columnizeAll h))).bind_extends fun _ _ ha => whole ha
  · rw [sequence, sequence']
    exact (X.wrap h).bind_extends fun _ _ ha => whole ha

theorem membership (negated : Bool) {column column' v v' : Value} (left : D.Columns L column column')
    (tracked : Tracked column column' v v') (right : D.Members L v v') :
    D.RendersSql (X.left.membership negated column v) (X.right.membership negated column' v') := by
  have nothing : D.RendersSql (pure (Sql.word (if negated then "1 = 1" else "1 = 0")))
      (pure (Sql.word (if negated then "1 = 1" else "1 = 0"))) := by
    refine .pure ⟨.word (X.law.words _ ?_), rfl, rfl⟩
    cases negated <;> simp [vocabulary]
  have some_ := X.tested left negated (X.trackUndefined tracked) (X.values right)
  unfold Scope.membership
  cases right with
  | empty h h' =>
    rw [h, h']
    exact nothing
  | values sequence sequence' _ _ _ =>
    rw [sequence, sequence']
    exact some_
  | rows sequence sequence' _ _ _ =>
    rw [sequence, sequence']
    exact some_
  | operand single single' _ _ =>
    rw [single, single']
    exact some_

theorem range (negated : Bool) {column column' : Value} {bounds bounds' : List Value}
    (left : D.Column L column column') (tracked : Tracked column column' (.list bounds) (.list bounds'))
    (right : Forall₂ (D.Argument L) bounds bounds') :
    D.RendersSql (X.left.range negated column bounds) (X.right.range negated column' bounds') := by
  have bound (i : Nat) : D.RendersSql (X.left.boundAt bounds i) (X.right.boundAt bounds' i) := by
    have each : Option.Rel (D.Argument L) bounds[i]? bounds'[i]? := by
      clear tracked
      induction right generalizing i with
      | nil => exact .none
      | cons first _ ih =>
        cases i with
        | zero => exact .some first
        | succ i => exact ih i
    unfold Scope.boundAt
    revert each
    generalize bounds[i]? = o, bounds'[i]? = o'
    rintro (h | _)
    · exact X.parameter h
    · exact X.throw_self _
  unfold Scope.range
  refine (X.wrap left).bind_yields fun a a' ha => ?_
  refine (X.trackUndefined tracked).bind_silent fun _ _ _ => ?_
  refine (bound 0).bind_yields fun b b' hb => (bound 1).bind_yields fun c c' hc => .pure ?_
  have between : D.Joint (if negated then " not between " else " between ") := by
    cases negated <;> exact X.law.joint (by simp [vocabulary]) rfl rfl
  have and_ : D.Joint " and " := X.law.joint (by simp [vocabulary]) rfl rfl
  exact ⟨(ha.between between hb).between and_ hc, by simp, by simp⟩

/-! ## JSON paths -/

theorem jsonPath {path path' : Value} (h : D.Path L path path') :
    D.RendersSql (X.left.jsonPath path) (X.right.jsonPath path') := by
  obtain ⟨rfl, argument⟩ := h
  unfold Scope.jsonPath
  refine .ite Iff.rfl (fun _ => ?_) fun _ => X.parameter argument
  split
  case h_1 path =>
    refine (Tandem.mapM_self fun key _ => X.bind (X.law.value_refl (.str key))).bind_yields
      fun as bs hs => .pure ⟨X.law.commas hs, by simp, by simp⟩
  case h_2 => exact X.throw_self _
  case h_3 => exact X.throw_self _

theorem jsonExtract {column column' path path' : Value} (left : D.Columns L column column')
    (place : D.Path L path path') :
    D.RendersSql (X.left.jsonExtract column path) (X.right.jsonExtract column' path') := by
  unfold Scope.jsonExtract
  refine (X.columnize left).bind_yields fun a a' ha => (X.jsonPath place).bind_yields fun b b' hb =>
    .pure ⟨?_, by simp, by simp⟩
  exact ((ha.after_word X.law.extract).between X.comma hb).before_word
    (X.law.closing (by simp [vocabulary]) rfl)

/-- An extracted value in the type of the value that it is compared with. -/
theorem jsonOperand (X : D.Setting L) (v : Value) {a a' : Sql} (h : D.Frag a a') :
    D.Frag (Scope.jsonOperand D.capabilities.jsonPath v a)
      (Scope.jsonOperand D.capabilities.jsonPath v a') := by
  unfold Scope.jsonOperand
  split
  next _ _ operator text =>
    have asText := h.before_word (X.law.asText operator text)
    have cast {w : String} (known : w ∈ vocabulary) :=
      (X.law.parens_head asText).append_frag (.word (X.law.words w known))
    split
    · exact cast (w := "::int") (by simp [vocabulary])
    · exact cast (w := "::float") (by simp [vocabulary])
    · exact asText
  next _ _ function _ unquote =>
    split
    · exact (Frag.word (X.law.unquote function unquote)).append_tail (X.law.parens_tail h)
    · exact h
  next => exact h

@[simp] theorem bindings_jsonOperand (style : JsonPathStyle) (v : Value) (a : Sql) :
    Sql.bindings (Scope.jsonOperand style v a) = a.bindings := by
  unfold Scope.jsonOperand
  split
  · split <;> simp
  · split <;> simp
  · rfl

theorem jsonCompare {column column' path path' operator operator' v v' : Value}
    (left : D.Columns L column column') (place : D.Path L path path') (word : D.Word L operator operator')
    (tracked : Tracked column column' v v')
    (cast : ∀ sql, Scope.jsonOperand D.capabilities.jsonPath v sql =
      Scope.jsonOperand D.capabilities.jsonPath v' sql)
    (right : D.Argument L v v') :
    D.RendersSql (X.left.jsonCompare column path operator v)
      (X.right.jsonCompare column' path' operator' v') := by
  unfold Scope.jsonCompare
  refine (X.trackUndefined tracked).bind_silent fun _ _ _ => ?_
  refine (X.jsonExtract left place).bind_yields fun a a' ha => ?_
  refine (X.operator word).bind_yields fun b b' hb => ?_
  refine (X.parameter right).bind_yields fun c c' hc => .pure ?_
  have extracted := X.jsonOperand v ha
  exact ⟨.joined X.blank (.cons (cast a' ▸ extracted) (.cons hb (.cons hc .nil))), by simp, by simp⟩

/-! ## Conditions -/

theorem pairTests {entries entries' : List (Value × Value)} (h : Forall₂ (D.PairLike L) entries entries') :
    D.RendersSql (X.left.pairTests entries) (X.right.pairTests entries') := by
  unfold Scope.pairTests
  have and_ : D.Joint " and " := X.law.joint (by simp [vocabulary]) rfl rfl
  refine (fragments h ?_).bind_yields fun as bs hs => .pure ⟨.joined and_ hs, by simp, by simp⟩
  rintro ⟨column, v⟩ ⟨column', v'⟩ h
  cases h with
  | null h =>
    refine (X.wrap h).bind_yields fun a a' ha => .pure ⟨?_, by simp, by simp⟩
    exact ha.before_word (X.law.closing (by simp [vocabulary]) rfl)
  | value present present' h tracked argument =>
    simp only
    exact X.compare h (.word ⟨rfl, rfl⟩) tracked argument

theorem pairColumns {entries entries' : List (Value × Value)}
    (h : Forall₂ (fun e e' => D.Column L e.1 e'.1 ∧ D.Column L e.2 e'.2) entries entries') :
    D.RendersSql (X.left.pairColumns entries) (X.right.pairColumns entries') := by
  unfold Scope.pairColumns
  have and_ : D.Joint " and " := X.law.joint (by simp [vocabulary]) rfl rfl
  refine (fragments h ?_).bind_yields fun as bs hs => .pure ⟨.joined and_ hs, by simp, by simp⟩
  rintro ⟨column, other⟩ ⟨column', other'⟩ ⟨left, right⟩
  exact X.compareColumns left (.word ⟨rfl, rfl⟩) right

theorem callbackConditions (clause : ConditionClause) {chains chains' : List Chain}
    (h : D.ConditionCallback L clause chains chains') :
    D.RendersSql (X.left.callbackConditions clause (.callback chains))
      (X.right.callbackConditions clause (.callback chains')) := by
  unfold Scope.callbackConditions Scope.callbackQuery
  rw [X.left_evaluator, X.right_evaluator]
  refine (Tandem.ofLogged h).bind_silent ?_
  rintro q q' ⟨hq, context⟩
  refine X.sound.conditions hq ?_ clause
  rcases X.same with none | same
  · exact .inl none
  · rcases context with none | context
    · exact .inl none
    · exact .inr (by rw [left_context, right_context, same, context])

theorem callbackJoin {chains chains' : List Chain} (h : D.JoinCallback L chains chains') :
    D.RendersSql (X.left.callbackJoin (.callback chains)) (X.right.callbackJoin (.callback chains')) := by
  unfold Scope.callbackJoin
  rw [X.left_evaluator, X.right_evaluator]
  exact (Tandem.ofLogged h).bind_silent fun j j' hj => X.sound.conditions hj X.same _

/-- Tests that stand for each other are rendered alike. -/
theorem test (clause : ConditionClause) (negated : Bool) {t t' : Test Value} (h : D.TestLike L t t') :
    D.RendersSql (X.left.test clause negated t) (X.right.test clause negated t') := by
  have negated_ {c c' : Compile Sql} (h : D.RendersSql c c') :=
    mapped h (X.negatable negated) (bindings_negatable negated) (bindings_negatable negated)
  have grouped {c c' : Compile Sql} (h : D.RendersSql c c') :=
    mapped h (X.group negated) (bindings_group negated) (bindings_group negated)
  cases h with
  | compare left word tracked right => exact negated_ (X.compare left word tracked right)
  | compareColumns left word right => exact negated_ (X.compareColumns left word right)
  | isIn left tracked right => exact X.membership negated left tracked right
  | isNull left =>
    refine (X.wrap left).bind_yields fun a a' ha => .pure ⟨ha.before_word ?_, by simp, by simp⟩
    cases negated <;> exact X.law.closing (by simp [vocabulary]) rfl
  | between left tracked right => exact X.range negated left tracked right
  | exists_ h =>
    refine (X.subquery h).bind_yields fun a a' ha => .pure ⟨X.negatable negated ?_, by simp, by simp⟩
    exact (X.law.parens ha).after_word (X.law.opening (by simp [vocabulary]) rfl)
  | group h => exact grouped (X.callbackConditions clause (h clause))
  | @noGroup v v' h h' =>
    have fails (s : Scope) {v : Value} (h : v.isCallback = false) :
        s.callbackConditions clause v = throw wrongType := by
      cases v with
      | callback => cases h
      | _ => rfl
    have thrown : D.RendersSql (X.left.callbackConditions clause v)
        (X.right.callbackConditions clause v') := by
      rw [fails _ h, fails _ h']
      exact X.throw_self _
    exact grouped thrown
  | pairs h => exact grouped (X.pairTests h)
  | raw h =>
    unfold Scope.test
    refine (X.unwrapOrNothing h).bind_yields fun o o' ho => (X.spell ho).bind ?_
    rintro a a' vs vs' ⟨ha, holds, holds'⟩
    exact .pure ⟨X.negatable negated (X.law.parens ha), by simp [← holds], by simp [← holds']⟩
  | @like column column' v v' ignoreCase left tracked right =>
    unfold Scope.test
    refine (X.wrap left).bind_yields fun a a' ha => ?_
    refine (X.trackUndefined tracked).bind_silent fun _ _ _ => ?_
    refine (X.parameter right).bind_yields fun b b' hb => .pure ?_
    have operator : D.Frag (Sql.word (if ignoreCase then D.capabilities.ilikeOperator else "like"))
        (Sql.word (if ignoreCase then D.capabilities.ilikeOperator else "like")) := by
      cases ignoreCase
      · exact .word (X.law.words _ (by simp [vocabulary]))
      · exact .word X.law.ilike
    refine ⟨X.negatable negated (.joined X.blank (.cons ha (.cons operator (.cons hb .nil)))), ?_, ?_⟩
    · simp
    · simp
  | jsonPath left place word tracked cast right =>
    exact negated_ (X.jsonCompare left place word tracked cast right)
  | joinGroup h => exact grouped (X.callbackJoin h)
  | @noJoinGroup v v' h h' =>
    have fails (s : Scope) {v : Value} (h : v.isCallback = false) :
        s.callbackJoin v = throw wrongType := by
      cases v with
      | callback => cases h
      | _ => rfl
    have thrown : D.RendersSql (X.left.callbackJoin v) (X.right.callbackJoin v') := by
      rw [fails _ h, fails _ h']
      exact X.throw_self _
    exact grouped thrown
  | joinPairs h => exact grouped (X.pairColumns h)
  | sharing _ => exact X.throw_self _

theorem condition (clause : ConditionClause) {c c' : Condition Value} (h : D.ConditionLike L c c') :
    D.RendersOperand (X.left.condition clause c) (X.right.condition clause c') := by
  obtain ⟨-, -, -, negated, test⟩ := h
  unfold Scope.condition
  rw [← negated]
  have tested := asOperand (X.test clause c.negated test)
  revert test tested
  generalize c.test = t, c'.test = t', c.negated = negated
  intro test tested
  cases test with
  | raw h =>
    cases negated with
    | false => exact X.unwrapOrNothing h
    | true => exact tested
  | _ => cases negated <;> exact tested

/-- What joins a condition to the ones before it holds no values. -/
theorem conjunction {c c' : Condition Value} (h : D.ConditionLike L c c') :
    Tandem D.error (X.left.conjunction c) (X.right.conjunction c')
      (Silently fun a b => D.Frag a b ∧ a.bindings = [] ∧ b.bindings = []) := by
  unfold Scope.conjunction
  rw [← h.word, ← h.connective]
  have fits := h.wordText
  revert fits
  cases c.word with
  | none =>
    intro _
    refine .pure ⟨⟨.word (X.law.words _ ?_), rfl, rfl⟩, rfl, rfl⟩
    cases c.connective <;> simp [vocabulary, Connective.word]
  | some w =>
    intro fits
    refine (X.display w).bind_silent ?_
    rintro text _ ⟨rfl, own⟩
    refine .pure ⟨⟨.piece ?_ rfl, rfl, rfl⟩, rfl, rfl⟩
    rcases fits w rfl with liberal | ⟨plain, proper⟩
    · exact X.law.anyPiece liberal _
    · exact own plain ▸ proper

theorem OperandLike.isBlank {o o' : Operand} (h : D.OperandLike o o') : o.isBlank = o'.isBlank := by
  match o, o', h with
  | .sql _, .sql _, h => exact Frag.isBlank h
  | .object _, .object _, ⟨rfl, _⟩ => rfl

theorem partsBefore_blank {a : Sql} (h : a.isBlank = true) : a.PartsBefore := by
  simp [Sql.PartsBefore, (Sql.isBlank_iff a).mp h]

theorem partsAfter_blank {a : Sql} (h : a.isBlank = true) : a.PartsAfter := by
  simp [Sql.PartsAfter, (Sql.isBlank_iff a).mp h]

theorem partsBefore_using {text : String} (h : Text.startsWith text " using" = true) :
    partsBefore text = true := by
  unfold Text.startsWith at h
  unfold partsBefore
  rw [show " using".toList = ' ' :: "using".toList from rfl] at h
  cases chars : text.toList with
  | nil => simp [chars, Text.dropStart?] at h
  | cons c cs =>
    rw [chars, Text.dropStart?] at h
    split at h
    next same => simp [← same, parts]
    next => cases h

/-- A condition after others. -/
theorem conjoin {done done' : Sql} (hd : D.Frag done done') {c c' : Condition Value}
    (hc : D.ConditionLike L c c') {o o' : Operand} (ho : D.OperandLike o o') :
    Tandem D.error (X.left.conjoin done c o) (X.right.conjoin done' c' o')
      (Extends D.Frag Sql.bindings (done.bindings ++ o.bindings) (done'.bindings ++ o'.bindings)) := by
  unfold Scope.conjoin
  refine .ite (by rw [OperandLike.isBlank ho]) (fun blank => ?_) fun _ =>
    .ite (by rw [hd.isBlank]) (fun blank => ?_) fun _ => ?_
  · match o, o', ho with
    | .sql a, .sql b, ho =>
      refine .pure ⟨hd.append ho fun _ => .inr (partsBefore_blank blank), by simp, by simp⟩
    | .object v, .object _, ⟨rfl, _⟩ =>
      have nothing : (Operand.object v).orNothing = .sql [] := by
        simp only [Operand.isBlank, Bool.not_eq_true'] at blank
        simp [Operand.orNothing, blank]
      rw [nothing]
      exact .pure ⟨hd.append .nil fun _ => .inr Sql.partsBefore_nil, by simp, by simp⟩
  · refine (X.textual ho).bind_silent ?_
    rintro a b ⟨hab, ha, hb⟩
    exact .pure ⟨hd.append hab fun _ => .inl (partsAfter_blank blank), by simp [ha], by simp [hb]⟩
  · refine (X.conjunction hc).bind_silent ?_
    rintro w w' ⟨hw, none, none'⟩
    refine (X.spell ho).bind ?_
    rintro a b vs vs' ⟨hab, holds, holds'⟩
    refine .pure ⟨(hd.between X.blank hw).between X.blank hab, ?_, ?_⟩
    · simp [none, ← holds]
    · simp [none', ← holds']

/-- Conditions that stand for each other are rendered alike. -/
theorem conditions (clause : ConditionClause) {cs cs' : List (Condition Value)}
    (h : D.ConditionsLike L cs cs') :
    D.RendersSql (X.left.conditions clause cs) (X.right.conditions clause cs') := by
  unfold Scope.conditions
  have step {done done' : Sql} {c c' : Condition Value} (hd : D.Frag done done') (hc : D.ConditionLike L c c') :
      Tandem D.error (X.left.condition clause c >>= X.left.conjoin done c)
        (X.right.condition clause c' >>= X.right.conjoin done' c')
        (Extends D.Frag Sql.bindings done.bindings done'.bindings) := by
    refine (X.condition clause hc).bind ?_
    rintro o o' _ _ ⟨ho, rfl, rfl⟩
    refine (X.conjoin hd hc ho).mono ?_
    rintro a b vs vs' ⟨ha, holds, holds'⟩
    exact ⟨ha, by simpa using holds, by simpa using holds'⟩
  exact Tandem.foldlM h (fun _ _ _ _ hd hc => step hd hc) .nil

theorem conditionClause (clause : ConditionClause) {keyword : String}
    (h : D.Opening (keyword ++ " ")) {cs cs' : List (Condition Value)} (hc : D.ConditionsLike L cs cs') :
    D.RendersSql (X.left.conditionClause clause keyword cs) (X.right.conditionClause clause keyword cs') :=
  mapped (X.conditions clause hc) (fun ha => ha.after h) (Sql.bindings_after _) (Sql.bindings_after _)

/-- Conditions after a keyword, where they may follow anything. -/
theorem conditionTail (clause : ConditionClause) {keyword : String} (h : D.Joint (keyword ++ " "))
    {cs cs' : List (Condition Value)} (hc : D.ConditionsLike L cs cs') :
    D.RendersTail (X.left.conditionClause clause keyword cs) (X.right.conditionClause clause keyword cs') :=
  (X.conditions clause hc).bind_yields fun a a' ha => .pure ⟨ha.after_tail h, by simp, by simp⟩

/-- What stands between a joined table and the next clause. -/
theorem joinConditions {cs cs' : List (Condition Value)} (h : D.ConditionsLike L cs cs') :
    D.RendersTail (X.left.joinConditions cs) (X.right.joinConditions cs') := by
  have plain : D.RendersTail
      (do
        let sql ← X.left.conditions .where_ cs
        return if Text.startsWith sql.text " using" then sql else sql.after " on ")
      (do
        let sql ← X.right.conditions .where_ cs'
        return if Text.startsWith sql.text " using" then sql else sql.after " on ") := by
    refine (X.conditions .where_ h).bind_yields fun a a' ha => .pure ?_
    rw [← ha.text]
    split
    next starts => exact ⟨⟨ha, fun _ => Sql.partsBefore_of_text (partsBefore_using starts)⟩, by simp, by simp⟩
    next =>
      exact ⟨ha.after_tail (X.law.joint (by simp [vocabulary]) rfl rfl), by simp, by simp⟩
  unfold Scope.joinConditions
  cases h with
  | nil => exact plain
  | @cons c c' rest rest' first others =>
    obtain ⟨connective, word, wordText, negated, test⟩ := first
    obtain ⟨_, _, _, t⟩ := c
    obtain ⟨_, _, _, t'⟩ := c'
    cases test with
    | sharing h =>
      refine (X.columnizeAll h).bind_yields fun a a' ha => .pure ⟨?_, by simp, by simp⟩
      exact (X.law.parens ha).tail_after (X.law.joint (by simp [vocabulary]) rfl rfl)
    | _ => exact plain

end Setting

end Likeness

end SqlBuilder
