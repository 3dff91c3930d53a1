import SqlBuilder.Proofs.Names

/-!
# Operands in tandem

Operands that stand for each other are rendered alike, in the place of an identifier and in the place of
a value, and so are the words that the caller chooses. A nested query is rendered by itself and its values
are bound when it is complete; a callback is rendered in place. Both bind what they hold.

* `Setting.callback_query`: a callback in place and the query that it makes are rendered alike.
* `Setting.wrapOperand`, `Setting.columnizeAll`: operands in the place of identifiers.
* `Setting.argument`, `Setting.stored`, `Setting.values`: operands in the place of values.
* `Setting.operator`, `Setting.direction`: words.
-/

namespace SqlBuilder.Scope

/-- Any operand but a callback, a mapping or a scalar in the place of an identifier. -/
theorem wrapOperand_eq (s : Scope) {v : Value} (callback : v.isCallback = false)
    (map : v.entries? = none) (scalar : v.scalar? = none) :
    s.wrapOperand v = do
      match ← s.unwrapPresent v with
      | some operand => return operand
      | none => return .sql (← s.wrapString (← s.display v)) := by
  cases v with
  | callback => cases callback
  | map => cases map
  | scalar => cases scalar
  | _ => unfold Scope.wrapOperand; rfl

/-- What an operand in the place of a value renders to, by what is held in it. -/
def argumentOf (v : Value) : Option Operand → Compile Operand
  | some (.object .null) => return .sql (Sql.word "?")
  | some operand => return operand
  | none => return .sql (← bind v)

/-- Any operand but a callback in the place of a value. -/
theorem argument_eq (s : Scope) {v : Value} (callback : v.isCallback = false) :
    s.argument v = s.unwrap v true >>= argumentOf v := by
  cases v with
  | callback => cases callback
  | _ => rfl

/-- Any entry of a mapping from aliases but a callback, a mapping or a query. -/
theorem wrapEntries_eq (s : Scope) {asName target : Value}
    (callback : target.isCallback = false) (map : target.entries? = none)
    (query : s.env.query? target = none) (atStart : Bool) (entries : List (Value × Value)) :
    s.wrapEntries atStart ((asName, target) :: entries) = do
      let sql ← do
        let sql ← s.wrapOperand target >>= s.spell
        pure (s.aliased sql (← s.aliasName asName))
      return (if atStart then [] else Sql.word ", ") ++ sql ++ (← s.wrapEntries false entries) := by
  cases target with
  | callback => cases callback
  | map => cases map
  | _ => simp only [Scope.wrapEntries, query, bind_assoc]

/-- A query as an entry of a mapping from aliases. -/
theorem wrapEntries_query (s : Scope) {asName target : Value} {q : Query Value}
    (callback : target.isCallback = false) (map : target.entries? = none)
    (query : s.env.query? target = some q) (atStart : Bool) (entries : List (Value × Value)) :
    s.wrapEntries atStart ((asName, target) :: entries) = do
      let sql ← do s.outputQuery (← s.nestedQuery q) true (some asName)
      return (if atStart then [] else Sql.word ", ") ++ sql ++ (← s.wrapEntries false entries) := by
  cases target with
  | callback => cases callback
  | map => cases map
  | _ => simp only [Scope.wrapEntries, query]

end SqlBuilder.Scope

namespace SqlBuilder.Likeness

open List (Forall₂)

namespace Setting

variable {D : Likeness} {L : Level} (X : D.Setting L)

/-! ## Nested queries -/

theorem bind (X : D.Setting L) {v v' : Value} (h : D.value v v') :
    D.RendersSql (Scope.bind v) (Scope.bind v') := by
  unfold Scope.bind
  refine (Tandem.bindAll _ _).bind ?_
  rintro _ _ _ _ ⟨rfl, rfl⟩
  exact .pure ⟨.param (X.law.param v) h, rfl, rfl⟩

theorem nestedQuery {q q' : Query Value} (h : L.query q q') :
    Tandem D.error (X.left.nestedQuery q) (X.right.nestedQuery q')
      (Yields D.RenderedLike fun r => r.sql.bindings) := by
  unfold Scope.nestedQuery
  refine (X.sound.query h (.inr rfl)).own.bind_silent ?_
  rintro r r' ⟨_, _, hr, -⟩
  refine (Tandem.bindAll _ _).bind ?_
  rintro _ _ _ _ ⟨rfl, rfl⟩
  exact .pure ⟨hr, by simp, by simp⟩

theorem nestedRaw {r r' : Raw Value} (h : L.raw r r') :
    Tandem D.error (X.left.nestedRaw r) (X.right.nestedRaw r')
      (Yields (D.RawResult r r') Operand.bindings) := by
  unfold Scope.nestedRaw
  refine (X.sound.raw h X.same).own.bind_silent ?_
  rintro o o' ⟨_, _, ho, -⟩
  match o, o', ho with
  | .sql a, .sql b, ho =>
    refine (Tandem.bindAll _ _).bind ?_
    rintro _ _ _ _ ⟨rfl, rfl⟩
    exact .pure ⟨ho, by simp, by simp⟩
  | .object v, .object w, ho => exact .pure ⟨ho, rfl, rfl⟩

theorem outputQuery {r r' : Rendered} (h : D.RenderedLike r r') (isParameter : Bool)
    {asName : Option Value} (fits : ∀ v ∈ asName, D.Alias v) :
    Tandem D.error (X.left.outputQuery r isParameter asName) (X.right.outputQuery r' isParameter asName)
      (Extends D.Frag Sql.bindings r.sql.bindings r'.sql.bindings) := by
  obtain ⟨sql, method, rendered, renderedFits⟩ := h
  unfold Scope.outputQuery
  rw [← method, ← rendered, ← sql.isBlank]
  extract_lets chosen
  have chosenFits : ∀ v ∈ chosen, D.Alias v := by
    intro v hv
    unfold chosen at hv
    split at hv
    next w hw => exact fits v (Option.mem_filter_iff.mp (hw ▸ hv)).1
    next => exact renderedFits v (Option.mem_filter_iff.mp hv).1
  clear_value chosen
  refine .ite Iff.rfl (fun _ => ?_) fun _ => .pure ⟨sql, by simp, by simp⟩
  cases chosen with
  | none => exact .pure ⟨X.law.parens sql, by simp, by simp⟩
  | some v =>
    refine (X.nameText (chosenFits v rfl)).bind_silent ?_
    rintro name _ ⟨rfl, spelled⟩
    exact (rendersName (X.wrapString spelled)).bind_yields fun a a' ha =>
      .pure ⟨X.aliased (X.law.parens sql) ha, by simp, by simp⟩

theorem compileCallback {chains chains' : List Chain} (h : D.Callback L chains chains') :
    Tandem D.error (X.left.compileCallback chains) (X.right.compileCallback chains')
      (Yields D.RenderedLike fun r => r.sql.bindings) := by
  unfold Scope.compileCallback Scope.callbackQuery
  rw [X.left_evaluator, X.right_evaluator]
  exact (Tandem.ofLogged h).bind_silent fun q q' hq => X.sound.query hq X.same

/-- A callback that is rendered in place is rendered like the query that it makes, which stands by itself:
what binds its values one by one binds those that the other binds in the end. -/
theorem callback_query (allowed : D.exchanges) {chains : List Chain} {q' : Query Value}
    (h : D.Makes L chains q') :
    Tandem D.error (X.left.compileCallback chains) (X.right.nestedQuery q')
      (Yields D.RenderedLike fun r => r.sql.bindings) := by
  unfold Scope.compileCallback Scope.callbackQuery Scope.nestedQuery
  rw [X.left_evaluator]
  refine Tandem.ofLogged_left fun events => ?_
  obtain ⟨q, run, hq⟩ := h events
  refine ⟨q, run, ?_⟩
  rw [← bind_pure (X.left.nested.query _ _ _ q)]
  refine (X.sound.query hq (.inl (X.law.unhooked allowed))).own_right.bind ?_
  rintro r r' vs _ ⟨rfl, _, hr, rfl, -⟩
  exact .bindAll_right (.pure ⟨hr, by simp, by simp⟩)

/-! ## Queries and raw expressions -/

/-- The values that an operand binds, if there is one. -/
def held (o : Option Operand) : List Value :=
  o.elim [] Operand.bindings

@[simp] theorem held_some (o : Operand) : held (some o) = o.bindings := rfl

@[simp] theorem held_none : held none = [] := rfl

/-- What two queries or raw expressions render to where they stand is alike. Only one raw expression
renders to an object, or to none. -/
inductive UnwrapLike (D : Likeness) (v v' : Value) : Option Operand → Option Operand → Prop
  | sql {a b : Sql} (h : D.Frag a b) : UnwrapLike D v v' (some (.sql a)) (some (.sql b))
  | object {w : Value} (liberal : D.liberal) (same : v = v') :
      UnwrapLike D v v' (some (.object w)) (some (.object w))
  | absent (liberal : D.liberal) (same : v = v') : UnwrapLike D v v' none none

theorem unwrap {v v' : Value} (h : D.Builder L v v') (isParameter : Bool) :
    Tandem D.error (X.left.unwrap v isParameter) (X.right.unwrap v' isParameter)
      (Yields (UnwrapLike D v v') held) := by
  have query {q q' : Query Value} (h : L.query q q') : Tandem D.error
      (do return some (Operand.sql (← X.left.outputQuery (← X.left.nestedQuery q) isParameter)))
      (do return some (Operand.sql (← X.right.outputQuery (← X.right.nestedQuery q') isParameter)))
      (Yields (UnwrapLike D v v') held) := by
    refine (X.nestedQuery h).bind_yields fun r r' hr => ?_
    refine (X.outputQuery hr isParameter (by simp)).bind ?_
    rintro a a' vs vs' ⟨ha, holds, holds'⟩
    exact .pure ⟨.sql ha, by simp [holds], by simp [holds']⟩
  have raw {r r' : Raw Value} (h : L.raw r r') (same : r = r' → v = v') : Tandem D.error
      (do return some (← X.left.nestedRaw r)) (do return some (← X.right.nestedRaw r'))
      (Yields (UnwrapLike D v v') held) := by
    refine (X.nestedRaw h).bind_yields fun o o' ho => ?_
    match o, o', ho with
    | .sql a, .sql b, ho => exact .pure ⟨.sql ho, by simp, by simp⟩
    | .object w, .object _, ⟨rfl, hr, liberal⟩ => exact .pure ⟨.object liberal (same hr), by simp, by simp⟩
  unfold Scope.unwrap
  cases h with
  | query h => exact query h
  | raw h => exact raw h (congrArg Value.raw)
  | sharedQuery found h =>
    simp only [left_env, right_env, found]
    exact query h
  | sharedRaw missing found h =>
    simp only [left_env, right_env, missing, found]
    exact raw h fun _ => rfl

theorem unwrap_inert (s : Scope) {v : Value} (env : s.env = D.env) (h : D.Inert v) (isParameter : Bool) :
    s.unwrap v isParameter = pure none := by
  unfold Scope.unwrap
  rw [env, h.1, h.2]

theorem unwrapPresent_inert (s : Scope) {v : Value} (env : s.env = D.env) (h : D.Inert v) :
    s.unwrapPresent v = pure none := by
  simp [Scope.unwrapPresent, unwrap_inert s env h]

theorem unwrapPresent {v v' : Value} (h : D.Builder L v v') :
    Tandem D.error (X.left.unwrapPresent v) (X.right.unwrapPresent v') (Yields (UnwrapLike D v v') held) := by
  unfold Scope.unwrapPresent
  refine (X.unwrap h false).bind_yields fun o o' ho => ?_
  cases ho with
  | sql h => exact .pure ⟨.sql h, by simp, by simp⟩
  | @object w liberal same =>
    split
    · exact .pure ⟨.absent liberal same, rfl, rfl⟩
    · exact .pure ⟨.object liberal same, rfl, rfl⟩
  | absent liberal same => exact .pure ⟨.absent liberal same, rfl, rfl⟩

theorem unwrapOrNothing {v v' : Value} (h : D.Expression L v v') :
    D.RendersOperand (X.left.unwrapOrNothing v) (X.right.unwrapOrNothing v') := by
  unfold Scope.unwrapOrNothing
  cases h with
  | builder h =>
    refine (X.unwrap h false).bind_yields fun o o' ho => ?_
    cases ho with
    | sql h => exact .pure ⟨h, by simp [Operand.orNothing], by simp [Operand.orNothing]⟩
    | @object w liberal _ =>
      simp only [Option.getD_some, Operand.orNothing]
      split
      · exact .pure ⟨⟨rfl, liberal⟩, by simp, by simp⟩
      · exact .pure ⟨.nil, by simp, by simp⟩
    | absent _ _ => exact .pure ⟨.nil, by simp [Operand.orNothing], by simp [Operand.orNothing]⟩
  | nothing inert inert' =>
    rw [unwrap_inert _ rfl inert, unwrap_inert _ rfl inert']
    exact .pure ⟨.nil, by simp [Operand.orNothing], by simp [Operand.orNothing]⟩

/-- What a rendered query gives for the statement that it is nested in. -/
theorem output {c c' : Compile Rendered} (h : Tandem D.error c c' (Yields D.RenderedLike fun r => r.sql.bindings))
    (isParameter : Bool) {asName : Option Value} (fits : ∀ v ∈ asName, D.Alias v) :
    D.RendersSql (do X.left.outputQuery (← c) isParameter asName)
      (do X.right.outputQuery (← c') isParameter asName) :=
  h.bind_extends fun _ _ hr => X.outputQuery hr isParameter fits

theorem asOperand {c c' : Compile Sql} (h : D.RendersSql c c') :
    D.RendersOperand (do return .sql (← c)) (do return .sql (← c')) :=
  h.bind_yields fun _ _ h => .pure ⟨h, by simp, by simp⟩

/-- What a rendered query renders to as an operand. -/
theorem outputOperand {c c' : Compile Rendered}
    (h : Tandem D.error c c' (Yields D.RenderedLike fun r => r.sql.bindings)) (isParameter : Bool) :
    D.RendersOperand (do return .sql (← X.left.outputQuery (← c) isParameter))
      (do return .sql (← X.right.outputQuery (← c') isParameter)) := by
  refine h.bind_yields fun r r' hr => (X.outputQuery hr isParameter (by simp)).bind ?_
  rintro a b vs vs' ⟨ha, holds, holds'⟩
  exact .pure ⟨ha, by simp [holds], by simp [holds']⟩

theorem rawOrCallback {v v' : Value} (h : D.Subquery L v v') :
    D.RendersOperand (X.left.rawOrCallback v) (X.right.rawOrCallback v') := by
  cases h with
  | callback h => exact X.outputOperand (X.compileCallback h) false
  | @makes chains q allowed h =>
    have query : X.right.rawOrCallback (.query q) =
        (do return .sql (← X.right.outputQuery (← X.right.nestedQuery q) false)) := by
      simp [Scope.rawOrCallback, Scope.unwrapOrNothing, Scope.unwrap, Environment.query?,
        Operand.orNothing]
    rw [query]
    exact X.outputOperand (X.callback_query allowed h) false
  | expression callback callback' h =>
    have other (s : Scope) {v : Value} (callback : v.isCallback = false) :
        s.rawOrCallback v = s.unwrapOrNothing v := by
      cases v <;> first | rfl | simp [Value.isCallback] at callback
    rw [other _ callback, other _ callback']
    exact X.unwrapOrNothing h

theorem subquery {v v' : Value} (h : D.Subquery L v v') :
    D.RendersSql (X.left.subquery v) (X.right.subquery v') :=
  X.spelled (X.rawOrCallback h)

/-! ## Identifiers -/

theorem comma (X : D.Setting L) : D.Joint ", " :=
  X.law.joint (by simp [vocabulary]) rfl rfl

theorem Builder.shape {v v' : Value} (h : D.Builder L v v') :
    (v.isCallback = false ∧ v.entries? = none ∧ v.scalar? = none) ∧
      v'.isCallback = false ∧ v'.entries? = none ∧ v'.scalar? = none := by
  cases h <;> exact ⟨⟨rfl, rfl, rfl⟩, rfl, rfl, rfl⟩

theorem wrapBuilder {v v' : Value} (h : D.Builder L v v') :
    D.RendersOperand (X.left.wrapOperand v) (X.right.wrapOperand v') := by
  obtain ⟨⟨callback, map, scalar⟩, callback', map', scalar'⟩ := Builder.shape h
  rw [Scope.wrapOperand_eq _ callback map scalar, Scope.wrapOperand_eq _ callback' map' scalar']
  refine (X.unwrapPresent h).bind_yields fun o o' ho => ?_
  cases ho with
  | sql h => exact .pure ⟨h, by simp, by simp⟩
  | object liberal _ => exact .pure ⟨⟨rfl, liberal⟩, by simp, by simp⟩
  | absent liberal same =>
    subst same
    refine (X.display_shown (.inl (X.law.anyChar liberal))).bind_silent ?_
    rintro name _ ⟨rfl, spelled⟩
    exact asOperand (rendersName (X.wrapString spelled))

theorem wrapOther {v : Value} (inert : D.Inert v) (callback : v.isCallback = false)
    (map : v.entries? = none) (scalar : v.scalar? = none) (h : D.Shown v) :
    D.RendersOperand (X.left.wrapOperand v) (X.right.wrapOperand v) := by
  rw [Scope.wrapOperand_eq _ callback map scalar, Scope.wrapOperand_eq _ callback map scalar,
    unwrapPresent_inert _ rfl inert, unwrapPresent_inert _ rfl inert]
  simp only [pure_bind]
  refine (X.display_shown h).bind_silent ?_
  rintro name _ ⟨rfl, spelled⟩
  exact asOperand (rendersName (X.wrapString spelled))

theorem wrapScalar {s : Scalar} (number : Value.isNumber (.scalar s) = false) (h : D.Spelled s.text) :
    D.RendersOperand (X.left.wrapOperand (.scalar s)) (X.right.wrapOperand (.scalar s)) := by
  have name (scope : Scope) : scope.wrapOperand (.scalar s) = do
      return .sql (← scope.wrapString s.text) := by
    cases s <;> first | rfl | simp [Value.isNumber] at number
  rw [name, name]
  exact asOperand (rendersName (X.wrapString h))

/-- An entry of a mapping from aliases before the others. -/
theorem entry {entries entries' : List (Value × Value)} {c c' : Compile Sql} (h : D.RendersSql c c')
    (rest : D.RendersTail (X.left.wrapEntries false entries) (X.right.wrapEntries false entries'))
    (atStart : Bool) :
    Tandem D.error
      (do
        let sql ← c
        return (if atStart then [] else Sql.word ", ") ++ sql ++ (← X.left.wrapEntries false entries))
      (do
        let sql ← c'
        return (if atStart then [] else Sql.word ", ") ++ sql ++ (← X.right.wrapEntries false entries'))
      (Yields (fun a b => D.Frag a b ∧ (atStart = false → D.Tail a b)) Sql.bindings) := by
  refine h.bind_yields fun a a' ha => rest.bind_yields fun b b' hb => .pure ?_
  cases atStart with
  | true => exact ⟨⟨ha.append_tail hb, nofun⟩, by simp, by simp⟩
  | false =>
    have tail := (ha.tail_after X.comma).append hb
    exact ⟨⟨tail.toFrag, fun _ => tail⟩, by simp, by simp⟩

/-- An operand under an alias. -/
theorem named {asName : Value} (fits : D.Alias asName) {c c' : Compile Sql} (h : D.RendersSql c c') :
    D.RendersSql
      (do
        let sql ← c
        return X.left.aliased sql (← X.left.aliasName asName))
      (do
        let sql ← c'
        return X.right.aliased sql (← X.right.aliasName asName)) :=
  h.bind_yields fun _ _ ha => (X.aliasName fits).bind_yields fun _ _ hb =>
    .pure ⟨X.aliased ha hb, by simp, by simp⟩

/-- Entries that are queries or raw expressions. -/
theorem builderEntry {asName v v' : Value} (fits : D.Alias asName) (h : D.Builder L v v')
    {entries entries' : List (Value × Value)}
    (rest : D.RendersTail (X.left.wrapEntries false entries) (X.right.wrapEntries false entries'))
    (atStart : Bool) :
    Tandem D.error (X.left.wrapEntries atStart ((asName, v) :: entries))
      (X.right.wrapEntries atStart ((asName, v') :: entries'))
      (Yields (fun a b => D.Frag a b ∧ (atStart = false → D.Tail a b)) Sql.bindings) := by
  have alias_ : ∀ w ∈ some asName, D.Alias w := fun w hw => Option.mem_some.mp hw ▸ fits
  have wrapped := X.named fits (X.spelled (X.wrapBuilder h))
  cases h with
  | query h =>
    rw [Scope.wrapEntries_query _ rfl rfl rfl, Scope.wrapEntries_query _ rfl rfl rfl]
    simpa only [bind_assoc, pure_bind] using X.entry (X.output (X.nestedQuery h) true alias_) rest atStart
  | raw h =>
    rw [Scope.wrapEntries_eq _ rfl rfl rfl, Scope.wrapEntries_eq _ rfl rfl rfl]
    simpa only [bind_assoc, pure_bind] using X.entry wrapped rest atStart
  | sharedQuery found h =>
    rw [Scope.wrapEntries_query _ rfl rfl found, Scope.wrapEntries_query _ rfl rfl found]
    simpa only [bind_assoc, pure_bind] using X.entry (X.output (X.nestedQuery h) true alias_) rest atStart
  | sharedRaw missing found h =>
    rw [Scope.wrapEntries_eq _ rfl rfl missing, Scope.wrapEntries_eq _ rfl rfl missing]
    simpa only [bind_assoc, pure_bind] using X.entry wrapped rest atStart

/-- Entries that are neither queries nor raw expressions nor made of others. -/
theorem plainEntry {asName v : Value} (fits : D.Alias asName) (callback : v.isCallback = false)
    (map : v.entries? = none) (query : D.env.query? v = none)
    (h : D.RendersOperand (X.left.wrapOperand v) (X.right.wrapOperand v))
    {entries entries' : List (Value × Value)}
    (rest : D.RendersTail (X.left.wrapEntries false entries) (X.right.wrapEntries false entries'))
    (atStart : Bool) :
    Tandem D.error (X.left.wrapEntries atStart ((asName, v) :: entries))
      (X.right.wrapEntries atStart ((asName, v) :: entries'))
      (Yields (fun a b => D.Frag a b ∧ (atStart = false → D.Tail a b)) Sql.bindings) := by
  rw [Scope.wrapEntries_eq _ callback map query, Scope.wrapEntries_eq _ callback map query]
  simpa only [bind_assoc, pure_bind] using X.entry (X.named fits (X.spelled h)) rest atStart

theorem rendersTail {c c' : Compile Sql}
    (h : Tandem D.error c c' (Yields (fun a b => D.Frag a b ∧ (false = false → D.Tail a b)) Sql.bindings)) :
    D.RendersTail c c' :=
  h.mono fun _ _ _ _ h => ⟨h.1.2 rfl, h.2⟩

theorem rendersFrag {atStart : Bool} {c c' : Compile Sql}
    (h : Tandem D.error c c' (Yields (fun a b => D.Frag a b ∧ (atStart = false → D.Tail a b)) Sql.bindings)) :
    D.RendersSql c c' :=
  h.mono fun _ _ _ _ h => ⟨h.1.1, h.2⟩

mutual

/-- Operands in the place of an identifier are rendered alike. -/
theorem wrapOperand {v v' : Value} : D.Column L v v' →
    D.RendersOperand (X.left.wrapOperand v) (X.right.wrapOperand v')
  | .integer n => .pure ⟨.piece (X.law.integer n) rfl, rfl, rfl⟩
  | .float h => .pure ⟨.piece h rfl, rfl, rfl⟩
  | .name number h => X.wrapScalar number h
  | .callback h => X.outputOperand (X.compileCallback h) true
  | .map h => by
    unfold Scope.wrapOperand
    refine (wrapEntries h true).bind_yields fun a a' ha => .pure ⟨ha.1, by simp, by simp⟩
  | .builder h => X.wrapBuilder h
  | .other inert callback map scalar h => X.wrapOther inert callback map scalar h

/-- Entries of a mapping from aliases are rendered alike; those that do not come first begin with a
comma. -/
theorem wrapEntries {entries entries' : List (Value × Value)} : D.Entries L entries entries' →
    ∀ atStart, Tandem D.error (X.left.wrapEntries atStart entries) (X.right.wrapEntries atStart entries')
      (Yields (fun a b => D.Frag a b ∧ (atStart = false → D.Tail a b)) Sql.bindings)
  | .nil, atStart => .pure ⟨⟨.nil, fun _ => .nil⟩, rfl, rfl⟩
  | .cons fits (.integer n) rest, atStart =>
    X.plainEntry fits rfl rfl rfl (wrapOperand (.integer n)) (rendersTail (wrapEntries rest false)) atStart
  | .cons fits (.float h) rest, atStart =>
    X.plainEntry fits rfl rfl rfl (wrapOperand (.float h)) (rendersTail (wrapEntries rest false)) atStart
  | .cons fits (.name number h) rest, atStart =>
    X.plainEntry fits rfl rfl rfl (X.wrapScalar number h) (rendersTail (wrapEntries rest false)) atStart
  | .cons fits (.callback h) rest, atStart => by
    unfold Scope.wrapEntries
    simpa only [bind_assoc, pure_bind] using X.entry (X.output (X.compileCallback h) true fun w hw => Option.mem_some.mp hw ▸ fits)
      (rendersTail (wrapEntries rest false)) atStart
  | .cons fits (.map h) rest, atStart => by
    unfold Scope.wrapEntries
    simpa only [bind_assoc, pure_bind] using X.entry (X.named fits (rendersFrag (wrapEntries h true)))
      (rendersTail (wrapEntries rest false)) atStart
  | .cons fits (.builder h) rest, atStart =>
    X.builderEntry fits h (rendersTail (wrapEntries rest false)) atStart
  | .cons fits (.other inert callback map scalar h) rest, atStart =>
    X.plainEntry fits callback map inert.1 (X.wrapOther inert callback map scalar h)
      (rendersTail (wrapEntries rest false)) atStart

end

theorem wrap {v v' : Value} (h : D.Column L v v') : D.RendersSql (X.left.wrap v) (X.right.wrap v') :=
  X.spelled (X.wrapOperand h)

/-- Operands that have to be texts, with commas between them. -/
theorem listed (X : D.Setting L) {c c' : Compile (List Operand)}
    (h : Tandem D.error c c' (Yields (Forall₂ D.OperandLike) (List.flatMap Operand.bindings))) :
    D.RendersSql (do return Sql.commas (← (← c).mapM Operand.textual))
      (do return Sql.commas (← (← c').mapM Operand.textual)) := by
  refine h.bind_yields fun os os' hos => (X.textuals hos).bind_silent ?_
  rintro as bs ⟨hs, has, hbs⟩
  exact .pure ⟨X.law.commas hs, by simp [has], by simp [hbs]⟩

theorem columnizeAll {vs vs' : List Value} (h : Forall₂ (D.Column L) vs vs') :
    D.RendersSql (X.left.columnizeAll vs) (X.right.columnizeAll vs') :=
  X.listed (.mapM h fun _ _ h => X.wrapOperand h)

theorem columnize {v v' : Value} (h : D.Columns L v v') :
    D.RendersSql (X.left.columnize v) (X.right.columnize v') :=
  X.columnizeAll h.columns

/-! ## Values -/

theorem argument {v v' : Value} (h : D.Argument L v v') :
    D.RendersOperand (X.left.argument v) (X.right.argument v') := by
  cases h with
  | callback h => exact X.outputOperand (X.compileCallback h) true
  | builder h =>
    obtain ⟨⟨callback, -⟩, callback', -⟩ := Builder.shape h
    rw [Scope.argument_eq _ callback, Scope.argument_eq _ callback']
    refine (X.unwrap h true).bind_yields fun o o' ho => ?_
    cases ho with
    | sql h => exact .pure ⟨h, by simp, by simp⟩
    | object liberal _ =>
      unfold Scope.argumentOf
      split
      next => exact .pure ⟨.word (X.law.anyPiece liberal _), by simp, by simp⟩
      next operand _ same =>
        cases same
        exact .pure ⟨⟨rfl, liberal⟩, by simp, by simp⟩
      next absent => cases absent
    | absent liberal same =>
      subst same
      exact asOperand (X.bind (X.law.value_refl _))
  | @makes chains q allowed h =>
    have query : X.right.argument (.query q) =
        (do return .sql (← X.right.outputQuery (← X.right.nestedQuery q) true)) := by
      simp [Scope.argument, Scope.unwrap, Environment.query?]
    rw [query]
    exact X.outputOperand (X.callback_query allowed h) true
  | bound inert inert' callback callback' h =>
    rw [Scope.argument_eq _ callback, Scope.argument_eq _ callback', unwrap_inert _ rfl inert,
      unwrap_inert _ rfl inert']
    exact asOperand (X.bind h)

theorem parameter {v v' : Value} (h : D.Argument L v v') :
    D.RendersSql (X.left.parameter v) (X.right.parameter v') :=
  X.spelled (X.argument h)

/-- What JSON has no form for is the same text on both sides. -/
theorem foreign (v : Value) :
    Tandem D.error (do return Text.jsonQuoted (← X.nested.printers.display v))
      (do return Text.jsonQuoted (← X.nested.printers.display v)) (Silently Eq) :=
  (X.sound.display v).bind_silent fun _ _ h => .pure ⟨h ▸ rfl, rfl, rfl⟩

mutual

/-- A value is the same JSON document on both sides. -/
theorem json : ∀ v : Value,
    Tandem D.error (v.json X.nested.printers.display) (v.json X.nested.printers.display) (Silently Eq)
  | .scalar s => by
    unfold Value.json
    cases Value.scalarJson? s with
    | some text => exact .pure ⟨rfl, rfl, rfl⟩
    | none => exact X.foreign _
  | .list items => by
    unfold Value.json
    exact (jsonAll items).bind_silent fun _ _ h => .pure ⟨h ▸ rfl, rfl, rfl⟩
  | .tuple items => by
    unfold Value.json
    exact (jsonAll items).bind_silent fun _ _ h => .pure ⟨h ▸ rfl, rfl, rfl⟩
  | .map entries => by
    unfold Value.json
    exact (jsonEntries entries).bind_silent fun _ _ h => .pure ⟨h ▸ rfl, rfl, rfl⟩
  | .set _ | .callback _ | .query _ | .raw _ | .shared _ | .schema _ | .compiled _ | .conflict _ _
  | .other _ _ => by
    unfold Value.json
    exact X.foreign _

theorem jsonAll : ∀ vs : List Value,
    Tandem D.error (Value.jsonAll X.nested.printers.display vs)
      (Value.jsonAll X.nested.printers.display vs) (Silently Eq)
  | [] => .pure ⟨rfl, rfl, rfl⟩
  | v :: vs => by
    unfold Value.jsonAll
    refine (json v).bind_silent ?_
    rintro a _ rfl
    exact (jsonAll vs).bind_silent fun _ _ h => .pure ⟨h ▸ rfl, rfl, rfl⟩

theorem jsonEntries : ∀ entries : List (Value × Value),
    Tandem D.error (Value.jsonEntries X.nested.printers.display entries)
      (Value.jsonEntries X.nested.printers.display entries) (Silently Eq)
  | [] => .pure ⟨rfl, rfl, rfl⟩
  | (k, v) :: entries => by
    unfold Value.jsonEntries
    cases Value.keyJson? k with
    | none => exact X.throw_self _
    | some key =>
      refine (json v).bind_silent ?_
      rintro a _ rfl
      exact (jsonEntries entries).bind_silent fun _ _ h => .pure ⟨h ▸ rfl, rfl, rfl⟩

end

/-- A container is neither a query nor a raw expression nor a callback. -/
theorem container_plain {v : Value} (h : isContainer v = true) :
    D.Inert v ∧ v.isCallback = false := by
  cases v <;> first | exact ⟨⟨rfl, rfl⟩, rfl⟩ | cases h

/-- A value is stored as itself or, if it is a container, as the same JSON document on both sides. -/
theorem storable {v v' : Value} (h : D.Stored L v v') :
    Tandem D.error (X.left.storable v) (X.right.storable v') (Silently (D.Argument L)) := by
  cases h with
  | container h =>
    have bound {w : Value} (inert : D.Inert w) (callback : w.isCallback = false) : D.Argument L w w :=
      .bound inert inert callback callback (X.law.value_refl w)
    obtain ⟨inert, callback⟩ := container_plain h
    have stored (s : Scope) : s.storable v =
        if v.containsUndefined then pure v else do return .str (← v.json s.nested.printers.display) := by
      cases v <;> first | rfl | cases h
    rw [stored, stored]
    refine .ite Iff.rfl (fun _ => .pure ⟨bound inert callback, rfl, rfl⟩) fun _ => ?_
    refine (X.json v).bind_silent ?_
    rintro text _ rfl
    exact .pure ⟨bound ⟨rfl, rfl⟩ rfl, rfl, rfl⟩
  | operand plain plain' h =>
    have itself (s : Scope) {v : Value} (plain : isContainer v = false) : s.storable v = pure v := by
      cases v <;> first | rfl | cases plain
    rw [itself _ plain, itself _ plain']
    exact .pure ⟨h, rfl, rfl⟩

theorem stored {v v' : Value} (h : D.Stored L v v') :
    D.RendersOperand (X.left.stored v) (X.right.stored v') :=
  (X.storable h).bind_silent fun _ _ h => X.argument h

theorem parameterizeAll {vs vs' : List Value} (h : Forall₂ (D.Stored L) vs vs') :
    D.RendersSql (X.left.parameterizeAll vs) (X.right.parameterizeAll vs') :=
  X.listed (.mapM h fun _ _ h => X.stored h)

/-- A fragment in parentheses. -/
theorem parenthesized (X : D.Setting L) {c c' : Compile Sql} (h : D.RendersSql c c') :
    D.RendersTail (do return (← c).parens) (do return (← c').parens) :=
  h.bind_yields fun _ _ h => .pure ⟨X.law.parens_tail h, by simp, by simp⟩

theorem row {v v' : Value} (h : D.RowItems L v v') : D.RendersTail (X.left.row v) (X.right.row v') := by
  unfold Scope.row
  cases h with
  | items ok ok' h =>
    rw [ok, ok']
    simp only [liftCompile, pure_bind]
    exact X.parenthesized (X.parameterizeAll h)
  | none error error' h =>
    rw [error, error']
    exact .throw h

theorem tailSql {c c' : Compile Sql} (h : D.RendersTail c c') : D.RendersSql c c' :=
  h.mono fun _ _ _ _ h => ⟨h.1.toFrag, h.2⟩

/-- What a membership test looks into. -/
theorem values {v v' : Value} (h : D.Members L v v') :
    D.RendersSql (X.left.values v) (X.right.values v') := by
  unfold Scope.values
  cases h with
  | empty h h' =>
    rw [h, h']
    exact .pure ⟨X.law.parens .nil, rfl, rfl⟩
  | values sequence sequence' flat flat' h =>
    rw [sequence, sequence']
    simp only [flat, flat', Option.isSome_none, Bool.false_eq_true, if_false]
    exact tailSql (X.parenthesized (X.parameterizeAll h))
  | rows sequence sequence' nested nested' h =>
    rw [sequence, sequence']
    simp only [nested, nested', if_true]
    refine (Tandem.mapM h fun _ _ h => tailSql (X.row h)).bind_yields fun as bs hs => .pure ?_
    exact ⟨X.law.parens (X.law.commas hs), by simp, by simp⟩
  | operand single single' raw h =>
    rw [single, single']
    simp only [← raw]
    exact .ite Iff.rfl (fun _ => tailSql (X.parenthesized (X.parameter h))) fun _ => X.parameter h

/-! ## Words -/

/-- The text of a word is the same on both sides. -/
theorem wordText (v : Value) :
    Tandem D.error (X.left.wordText v) (X.right.wordText v) (Silently Eq) := by
  unfold Scope.wordText
  refine .ite Iff.rfl (fun _ => ?_) fun _ => .pure ⟨rfl, rfl, rfl⟩
  exact (X.display v).bind_silent fun _ _ h => .pure ⟨h.1 ▸ rfl, rfl, rfl⟩

/-- A word of the caller's, or an expression in its place. -/
theorem word {v v' : Value} (h : D.Word L v v') {f f' : Compile Operand}
    (word : v = v' → D.RendersOperand f f') :
    D.RendersOperand
      (do
        match ← X.left.unwrapPresent v with
        | some operand => return operand
        | none => f)
      (do
        match ← X.right.unwrapPresent v' with
        | some operand => return operand
        | none => f') := by
  cases h with
  | builder h =>
    refine (X.unwrapPresent h).bind_yields fun o o' ho => ?_
    cases ho with
    | sql h => exact .pure ⟨h, by simp, by simp⟩
    | object liberal _ => exact .pure ⟨⟨rfl, liberal⟩, by simp, by simp⟩
    | absent _ same => exact word same
  | word inert =>
    rw [unwrapPresent_inert _ rfl inert, unwrapPresent_inert _ rfl inert]
    exact word rfl

theorem operator {v v' : Value} (h : D.Word L v v') :
    D.RendersSql (X.left.operator v) (X.right.operator v') := by
  refine X.spelled (X.word h ?_)
  rintro rfl
  refine (X.wordText v).bind_silent ?_
  rintro token _ rfl
  refine .ite Iff.rfl (fun known => .pure ?_) fun _ => ?_
  · exact ⟨.word (X.law.operators token (List.contains_iff_mem.mp known)), rfl, rfl⟩
  · refine (X.display v).bind_silent ?_
    rintro text _ ⟨rfl, -⟩
    exact X.throw_self _

theorem direction {v v' : Value} (h : D.Word L v v') :
    D.RendersSql (X.left.direction v) (X.right.direction v') := by
  refine X.spelled (X.word h ?_)
  rintro rfl
  refine (X.wordText v).bind_silent ?_
  rintro token _ rfl
  refine .pure ⟨.word (X.law.words _ ?_), rfl, rfl⟩
  split <;> simp [vocabulary]

end Setting

end SqlBuilder.Likeness
