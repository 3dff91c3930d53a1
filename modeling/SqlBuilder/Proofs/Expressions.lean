import SqlBuilder.Proofs.Operands
import SqlBuilder.Render.RawText

/-!
# Raw expressions in tandem

Raw expressions that stand for each other are rendered alike: templates with something in their slots, and
references. Objects in the place of a text are one on both sides, and so is what they render to.

* `Setting.positional`, `Setting.namedTemplate`: the two kinds of templates.
* `Setting.reference`: references.
* `Setting.rawObject`, `Setting.rawText`: objects and texts between what stands around them.
* `Setting.rawExpression`: raw expressions.
-/

namespace SqlBuilder

namespace Value

theorem anyUndefined_eq {vs vs' : List Value}
    (h : List.Forall₂ (fun v v' => v.containsUndefined = v'.containsUndefined) vs vs') :
    anyUndefined vs = anyUndefined vs' := by
  induction h with
  | nil => rfl
  | cons first _ ih => rw [anyUndefined, anyUndefined, first, ih]

theorem undefinedPositions_eq {vs vs' : List Value}
    (h : List.Forall₂ (fun v v' => v.containsUndefined = v'.containsUndefined) vs vs') (start : Nat) :
    undefinedPositions start vs = undefinedPositions start vs' := by
  induction h generalizing start with
  | nil => rfl
  | cons first _ ih => rw [undefinedPositions, undefinedPositions, first, ih]

theorem entryUndefined_eq {entries entries' : List (Value × Value)}
    (h : List.Forall₂ (fun e e' => e.1 = e'.1 ∧ e.2.containsUndefined = e'.2.containsUndefined)
      entries entries') :
    entryUndefined entries = entryUndefined entries' ∧
      (map entries).undefinedKeys = (map entries').undefinedKeys := by
  induction h with
  | nil => exact ⟨rfl, rfl⟩
  | @cons e e' _ _ first _ ih =>
    obtain ⟨k, v⟩ := e
    obtain ⟨_, v'⟩ := e'
    obtain ⟨rfl, same⟩ := first
    obtain ⟨any, keys⟩ := ih
    refine ⟨by rw [entryUndefined, entryUndefined, same, any], ?_⟩
    simp only [undefinedKeys] at keys ⊢
    simp only [List.filterMap_cons, show v.containsUndefined = v'.containsUndefined from same, keys]

end Value

namespace Scope

/-- A slot of a template, filled with a value if there is a defined one. -/
def filledSlot (slot : String) (fill : Value → Compile Sql) : Option Value → Compile Sql
  | none => return Sql.raw slot
  | some .undefined => do
    bindAll [.undefined]
    return Sql.raw slot ++ [.stray .undefined]
  | some v => fill v

/-- An operand after what stands before it, if anything does. -/
def begun (before : Option Value) (operand : Operand) : Compile Operand :=
  match before with
  | some before => follow (ofValue before) operand
  | none => pure operand

/-- An operand before what stands after it, if anything does. -/
def ended (after : Option Value) (operand : Operand) : Compile Operand :=
  match after with
  | some after => follow operand (ofValue after)
  | none => pure operand

theorem surrounded_eq (s : Scope) (r : Raw Value) : s.surrounded r = (do
    let operand ← s.filledTemplate r
    let operand ← begun (r.before.filter Value.isTruthy) operand
    ended (r.after.filter Value.isTruthy) operand) := by
  unfold surrounded
  cases r.before.filter Value.isTruthy <;> rfl

end Scope

namespace Likeness

open List (Forall₂)

variable {D : Likeness} {L : Level}

/-- Fragments that may run into each other, one after the other. -/
theorem Frag.flatten (free : ¬ D.spaced) {as as' : List Sql} (hs : Forall₂ D.Frag as as') :
    D.Frag as.flatten as'.flatten := by
  induction hs with
  | nil => exact .nil
  | cons first _ ih => exact first.append ih fun spaced => absurd spaced free

/-- The bindings of two raw expressions that stand for each other are undefined in the same places. -/
theorem BindingsLike.undefined {sql : String} {b b' : RawBindings Value} (h : D.BindingsLike L sql b b') :
    b.toValue.containsUndefined = b'.toValue.containsUndefined ∧
      b.toValue.undefinedKeys = b'.toValue.undefinedKeys := by
  cases h with
  | none _ => exact ⟨rfl, rfl⟩
  | positional _ _ undefined _ =>
    exact ⟨Value.anyUndefined_eq undefined, Value.undefinedPositions_eq undefined 0⟩
  | named _ undefined _ => exact Value.entryUndefined_eq undefined

namespace Setting

variable (X : D.Setting L)

theorem fillPositional {parts : List Template.Part} {vs vs' : List Value} (h : D.SlotsLike L parts vs vs') :
    Tandem D.error (X.left.fillPositional vs parts) (X.right.fillPositional vs' parts)
      (Yields (fun a b => Forall₂ D.OperandLike a.1 b.1 ∧ a.2 = b.2) fun a => a.1.flatMap Operand.bindings) := by
  induction h with
  | nil =>
    unfold Scope.fillPositional
    exact .pure ⟨⟨.nil, rfl⟩, rfl, rfl⟩
  | text h _ ih =>
    unfold Scope.fillPositional
    exact ih.bind_yields fun a b ⟨hs, hn⟩ =>
      .pure ⟨⟨.cons (Frag.piece h rfl) hs, hn⟩, by simp, by simp⟩
  | value h _ ih =>
    unfold Scope.fillPositional
    refine (X.argument h).bind_yields fun o o' ho => ih.bind_yields fun a b ⟨hs, hn⟩ => ?_
    exact .pure ⟨⟨.cons ho hs, by simp [hn]⟩, by simp, by simp⟩
  | identifier h _ ih =>
    unfold Scope.fillPositional
    refine (X.columnize h).bind_yields fun o o' ho => ih.bind_yields fun a b ⟨hs, hn⟩ => ?_
    exact .pure ⟨⟨.cons ho hs, by simp [hn]⟩, by simp, by simp⟩
  | openValue h _ ih | openIdentifier h _ ih =>
    unfold Scope.fillPositional
    exact ih.bind_yields fun a b ⟨hs, hn⟩ =>
      .pure ⟨⟨.cons (Frag.piece h rfl) hs, by simp [hn]⟩, by simp, by simp⟩

theorem positional (free : ¬ D.spaced) {template : String} {vs vs' : List Value}
    (count : vs.length = vs'.length) (h : D.SlotsLike L (Template.positional template.toList) vs vs') :
    D.RendersSql (X.left.positional template vs) (X.right.positional template vs') := by
  unfold Scope.positional
  rw [← count]
  refine (X.fillPositional h).bind_yields ?_
  rintro ⟨os, n⟩ ⟨os', n'⟩ ⟨hos, same⟩
  obtain rfl : n = n' := same
  refine (X.textuals hos).bind_silent ?_
  rintro as bs ⟨hs, has, hbs⟩
  refine .ite Iff.rfl (fun _ => X.throw_bind _) fun _ => .pure ⟨.flatten free hs, ?_, ?_⟩
  · simp [has]
  · simp [hbs]

theorem fillNamed {entries entries' : List (Value × Value)} {part : Template.NamedPart} (free : ¬ D.spaced)
    (h : D.NamedPartLike L entries entries' part) :
    D.RendersSql (X.left.fillNamed entries part) (X.right.fillNamed entries' part) := by
  have kept {cs : List Char} (h : D.piece (.raw (String.ofList cs))) :
      D.RendersSql (pure (Sql.raw (String.ofList cs))) (pure (Sql.raw (String.ofList cs))) :=
    .pure ⟨.piece h rfl, rfl, rfl⟩
  have undefined {cs : List Char} (h : D.piece (.raw (String.ofList cs))) : D.RendersSql
      (do
        bindAll [.undefined]
        return Sql.raw (String.ofList cs) ++ [.stray .undefined])
      (do
        bindAll [.undefined]
        return Sql.raw (String.ofList cs) ++ [.stray .undefined]) := by
    refine (Tandem.bindAll _ _).bind ?_
    rintro _ _ _ _ ⟨rfl, rfl⟩
    refine .pure ⟨(Frag.piece h rfl).append ?_ fun spaced => absurd spaced free, rfl, rfl⟩
    refine ⟨.cons (.stray (X.law.value_refl _)) .nil, ?_, fun spaced => absurd spaced free⟩
    simpa using X.law.undefined
  have slot {cs : List Char} {R : Value → Value → Prop} {f f' : Value → Compile Sql}
      (each : ∀ v v', R v v' → D.RendersSql (f v) (f' v')) : ∀ v v', D.NamedLike cs R v v' →
        D.RendersSql (Scope.filledSlot (String.ofList cs) f v) (Scope.filledSlot (String.ofList cs) f' v') := by
    rintro v v' (h | h | ⟨present, present', h⟩)
    · exact kept h
    · exact undefined h
    · unfold Scope.filledSlot
      split
      next absent => cases absent
      next absent => exact absurd (Option.some.inj absent) present
      next same =>
        cases same
        exact each _ _ h
  have argument {v v' : Value} (h : D.Argument L v v') : D.RendersSql
      (do (← X.left.argument v).textual) (do (← X.right.argument v').textual) := by
    refine (X.argument h).bind_yields fun o o' ho => (X.textual ho).mono ?_
    rintro a b _ _ ⟨⟨hab, ha, hb⟩, rfl, rfl⟩
    exact ⟨hab, by simp [ha], by simp [hb]⟩
  unfold Scope.fillNamed
  cases part with
  | text cs => exact kept h
  | value key => exact slot (fun _ _ h => argument h) _ _ h
  | identifier key => exact slot (fun _ _ h => X.columnize h) _ _ h

theorem namedTemplate (free : ¬ D.spaced) {template : String} {entries entries' : List (Value × Value)}
    (h : ∀ part ∈ Template.named template.toList, D.NamedPartLike L entries entries' part) :
    D.RendersSql (X.left.named template entries) (X.right.named template entries') := by
  unfold Scope.named
  refine (Tandem.mapM_self fun part hp => X.fillNamed free (h part hp)).bind_yields fun as bs hs => ?_
  exact .pure ⟨.flatten free hs, by simp, by simp⟩

/-! ## References -/

theorem referenceTarget {name : Value} {schema asName : Option Value} (columns : D.Columns L name name)
    (shown : D.Shown name) (schemaShown : D.SchemaShown schema) (aliasShown : D.SchemaShown asName) :
    Tandem D.error (X.left.referenceTarget name schema asName) (X.right.referenceTarget name schema asName)
      (Silently fun a b => a = b ∧ D.Columns L a a) := by
  have text {text : String} (h : D.Spelled text) : D.Columns L (.str text) (.str text) :=
    ⟨rfl, .cons (.name rfl h) .nil⟩
  have qualified (schema : Option Value) (h : D.SchemaShown schema) : Tandem D.error
      (do X.left.inSchema schema (← X.left.display name))
      (do X.right.inSchema schema (← X.right.display name)) (Silently fun a b => a = b ∧ D.Spelled a) :=
    (X.display_shown shown).bind_silent fun a b ⟨same, spelled⟩ => same ▸ X.inSchema h spelled
  have kept : D.SchemaShown (schema.filter Value.isTruthy) := fun v hv =>
    schemaShown v (Option.mem_filter_iff.mp hv).1
  unfold Scope.referenceTarget
  generalize schema.filter Value.isTruthy = schema at kept
  cases chosen : asName.filter Value.isTruthy with
  | none =>
    have whole := (qualified schema kept).bind_silent (R := Silently fun a b => a = b ∧ D.Columns L a a)
      fun a b ⟨same, spelled⟩ => .pure ⟨⟨congrArg Value.str same, text spelled⟩, rfl, rfl⟩
    cases schema with
    | none => exact .pure ⟨⟨rfl, columns⟩, rfl, rfl⟩
    | some schema => simpa only [bind_assoc] using whole
  | some asName' =>
    obtain ⟨given, truthy⟩ := Option.filter_eq_some_iff.mp chosen
    have mark : D.Spelled " as " := fun c hc => X.law.markChars c (by simp at hc ⊢; tauto)
    have whole := (qualified schema kept).bind_silent (R := Silently fun a b => a = b ∧ D.Columns L a a)
      fun a b ⟨same, spelled⟩ => (X.display_shown (aliasShown asName' given truthy)).bind_silent
        fun c d ⟨same', spelled'⟩ => .pure
          ⟨⟨by rw [same, same'], text (spelled_append (spelled_append spelled mark) spelled')⟩, rfl, rfl⟩
    cases schema <;> simpa only [bind_assoc] using whole

theorem referenceText {target : Value} (h : D.Columns L target target) :
    D.RendersSql (X.left.referenceText target) (X.right.referenceText target) := by
  unfold Scope.referenceText
  refine (X.columnize h).bind_yields fun a a' ha => ?_
  rw [← ha.text]
  exact .ite Iff.rfl (fun _ => X.throw_bind _) fun _ => .pure ⟨ha, by simp, by simp⟩

/-! ## Raw expressions -/

/-- Two compilations render what two raw expressions render to alike, and bind what that holds. -/
abbrev RendersRaw (D : Likeness) (r r' : Raw Value) (c c' : Compile Operand) : Prop :=
  Tandem D.error c c' (Yields (D.RawResult r r') Operand.bindings)

theorem filledTemplate {r r' : Raw Value} {sql : String} (same : r.sql = .str sql) (same' : r'.sql = .str sql)
    (h : D.BindingsLike L sql r.bindings r'.bindings) :
    Tandem D.error (X.left.filledTemplate r) (X.right.filledTemplate r')
      (Yields (fun o o' => ∃ a a', o = .sql a ∧ o' = .sql a' ∧ D.Frag a a') Operand.bindings) := by
  have operand {c c' : Compile Sql} (h : D.RendersSql c c') : Tandem D.error
      (do return Operand.sql (← c)) (do return Operand.sql (← c'))
      (Yields (fun o o' => ∃ a a', o = .sql a ∧ o' = .sql a' ∧ D.Frag a a') Operand.bindings) :=
    h.bind_yields fun a a' ha => .pure ⟨⟨a, a', rfl, rfl, ha⟩, by simp, by simp⟩
  unfold Scope.filledTemplate
  rw [same, same']
  revert h
  generalize r.bindings = b, r'.bindings = b'
  rintro (h | @⟨values, values', free, given, undefined, h⟩ | ⟨free, -, h⟩)
  · exact .pure ⟨⟨_, _, rfl, rfl, .piece h rfl⟩, rfl, rfl⟩
  · have count := undefined.length_eq
    have whole := operand (X.positional free count h)
    cases values with
    | nil => exact absurd rfl given
    | cons v vs =>
      cases values' with
      | nil => cases count
      | cons v' vs' => exact whole
  · exact operand (X.namedTemplate free h)

/-- What stands before or after a text. -/
theorem follow_text (X : D.Setting L) {v : Value} {b : Option Value} (fits : D.Around b)
    (given : b.filter Value.isTruthy = some v) {a a' : Sql} (ha : D.Frag a a') :
    Tandem D.error (Scope.follow (Scope.ofValue v) (.sql a)) (Scope.follow (Scope.ofValue v) (.sql a'))
        (Silently fun o o' => ∃ c c', o = .sql c ∧ o' = .sql c' ∧ D.Frag c c' ∧ c.bindings = a.bindings ∧
          c'.bindings = a'.bindings) ∧
      Tandem D.error (Scope.follow (.sql a) (Scope.ofValue v)) (Scope.follow (.sql a') (Scope.ofValue v))
        (Silently fun o o' => ∃ c c', o = .sql c ∧ o' = .sql c' ∧ D.Frag c c' ∧ c.bindings = a.bindings ∧
          c'.bindings = a'.bindings) := by
  by_cases ht : ∃ text, v = .str text
  · obtain ⟨text, rfl⟩ := ht
    obtain ⟨free, proper⟩ := fits text given
    have apart {P : Prop} (spaced : D.spaced) : P := absurd spaced free
    have word : D.Frag (Sql.raw text) (Sql.raw text) := .piece proper rfl
    constructor
    · exact .pure ⟨⟨_, _, rfl, rfl, word.append ha apart, by simp, by simp⟩, rfl, rfl⟩
    · exact .pure ⟨⟨_, _, rfl, rfl, ha.append word apart, by simp, by simp⟩, rfl, rfl⟩
  · have object : Scope.ofValue v = .object v := by
      unfold Scope.ofValue
      split
      next text => exact absurd ⟨text, rfl⟩ ht
      next => rfl
    rw [object]
    exact ⟨X.throw_self _, X.throw_self _⟩

/-- What stands before or after an object. -/
theorem follow_object (X : D.Setting L) (v b : Value) :
    Tandem D.error (Scope.follow (Scope.ofValue b) (.object v)) (Scope.follow (Scope.ofValue b) (.object v))
        (Silently fun o o' => ∃ w, o = .object w ∧ o' = .object w) ∧
      Tandem D.error (Scope.follow (.object v) (Scope.ofValue b)) (Scope.follow (.object v) (Scope.ofValue b))
        (Silently fun o o' => ∃ w, o = .object w ∧ o' = .object w) := by
  cases Scope.ofValue b with
  | sql a => exact ⟨X.throw_self _, X.throw_self _⟩
  | object w =>
    unfold Scope.follow
    constructor
    all_goals
      simp only
      split
      next joined _ => exact .pure ⟨⟨joined, rfl, rfl⟩, rfl, rfl⟩
      next => exact X.throw_self _

/-- An object in the place of a text is the same on both sides, and so is what it renders to. -/
theorem rawObject {r : Raw Value} (allowed : D.liberal) (object : r.sql.str? = none) :
    RendersRaw D r r (X.left.surrounded r) (X.right.surrounded r) := by
  have itself (s : Scope) (bare : r.bindings = .positional []) : s.filledTemplate r = pure (.object r.sql) := by
    unfold Scope.filledTemplate
    split <;> simp_all [Value.str?]
  have other (s : Scope) (bound : r.bindings ≠ .positional []) : s.filledTemplate r = throw wrongType := by
    unfold Scope.filledTemplate
    split <;> simp_all [Value.str?]
  have ends (w : Value) : RendersRaw D r r (Scope.ended (r.after.filter Value.isTruthy) (.object w))
      (Scope.ended (r.after.filter Value.isTruthy) (.object w)) := by
    cases r.after.filter Value.isTruthy with
    | none => exact .pure ⟨⟨rfl, rfl, allowed⟩, rfl, rfl⟩
    | some after =>
      refine (X.follow_object w after).2.mono ?_
      rintro _ _ _ _ ⟨⟨u, rfl, rfl⟩, rfl, rfl⟩
      exact ⟨⟨rfl, rfl, allowed⟩, rfl, rfl⟩
  rw [Scope.surrounded_eq, Scope.surrounded_eq]
  by_cases bare : r.bindings = .positional []
  · rw [itself _ bare, itself _ bare, pure_bind]
    cases r.before.filter Value.isTruthy with
    | none => exact ends _
    | some before =>
      refine (X.follow_object r.sql before).1.bind_silent ?_
      rintro _ _ ⟨w, rfl, rfl⟩
      exact ends w
  · rw [other _ bare, other _ bare]
    exact X.throw_bind _

/-- A text with something in its slots, between what stands before and after it. -/
theorem rawText {r r' : Raw Value} {sql : String} (same : r.sql = .str sql) (same' : r'.sql = .str sql)
    (before : r.before = r'.before) (beforeFits : D.Around r.before) (after : r.after = r'.after)
    (afterFits : D.Around r.after) (bindings : D.BindingsLike L sql r.bindings r'.bindings) :
    RendersRaw D r r' (X.left.surrounded r) (X.right.surrounded r') := by
  have ends {a a' : Sql} (ha : D.Frag a a') : Tandem D.error
      (Scope.ended (r.after.filter Value.isTruthy) (.sql a)) (Scope.ended (r.after.filter Value.isTruthy) (.sql a'))
      (Extends (D.RawResult r r') Operand.bindings a.bindings a'.bindings) := by
    cases given : r.after.filter Value.isTruthy with
    | none => exact .pure ⟨ha, by simp, by simp⟩
    | some after =>
      refine (X.follow_text afterFits given ha).2.mono ?_
      rintro _ _ _ _ ⟨⟨b, b', rfl, rfl, hb, holds, holds'⟩, rfl, rfl⟩
      exact ⟨hb, by simp [holds], by simp [holds']⟩
  rw [Scope.surrounded_eq, Scope.surrounded_eq, ← before, ← after]
  refine (X.filledTemplate same same' bindings).bind_extends ?_
  rintro _ _ ⟨a, a', rfl, rfl, ha⟩
  cases given : r.before.filter Value.isTruthy with
  | none => exact ends ha
  | some before =>
    refine (X.follow_text beforeFits given ha).1.bind_silent ?_
    rintro _ _ ⟨b, b', rfl, rfl, hb, holds, holds'⟩
    have whole := ends hb
    rw [holds, holds'] at whole
    exact whole

/-- What a raw expression renders to, as the text that an error shows. -/
theorem spellRaw {r r' : Raw Value} {o o' : Operand} (h : D.RawResult r r' o o') :
    Tandem D.error (X.left.spell o) (X.right.spell o')
      (Extends D.Frag Sql.bindings o.bindings o'.bindings) :=
  X.spell (match o, o', h with
    | .sql _, .sql _, h => h
    | .object _, .object _, ⟨same, _, liberal⟩ => ⟨same, liberal⟩)

/-- Raw expressions that stand for each other are rendered alike. -/
theorem rawExpression {r r' : Raw Value} (h : D.RawLike L r r') :
    RendersRaw D r r' (X.left.rawExpression r) (X.right.rawExpression r') := by
  have finish (text : r.reference = none) (text' : r'.reference = none)
      (undefined : r.bindings.toValue.containsUndefined = r'.bindings.toValue.containsUndefined)
      (keys : r.bindings.toValue.undefinedKeys = r'.bindings.toValue.undefinedKeys)
      (surrounded : RendersRaw D r r' (X.left.surrounded r) (X.right.surrounded r')) :
      RendersRaw D r r' (X.left.rawExpression r) (X.right.rawExpression r') := by
    unfold Scope.rawExpression
    rw [text, text']
    refine surrounded.bind_extends fun o o' ho => ?_
    refine .ite (by rw [undefined]) (fun _ => ?_) fun _ => .pure ⟨ho, by simp, by simp⟩
    rw [← keys]
    refine (X.spellRaw ho).bind ?_
    rintro a a' _ _ ⟨ha, -, -⟩
    rw [← ha.text]
    exact X.throw_bind _
  cases h with
  | object allowed text object => exact finish text text rfl rfl (X.rawObject allowed object)
  | reference h h' schema asName columns shown schemaShown aliasShown =>
    unfold Scope.rawExpression
    rw [h, h', ← schema, ← asName]
    refine (X.referenceTarget columns shown schemaShown aliasShown).bind_silent ?_
    rintro target _ ⟨rfl, columns⟩
    exact (X.referenceText columns).bind_yields fun a a' ha => .pure ⟨ha, by simp, by simp⟩
  | text text text' same same' before beforeFits after afterFits bindings =>
    exact finish text text' bindings.undefined.1 bindings.undefined.2
      (X.rawText same same' before beforeFits after afterFits bindings)

end Setting

end Likeness

end SqlBuilder
