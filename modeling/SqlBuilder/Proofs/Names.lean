import SqlBuilder.Proofs.Counterpart

/-!
# Names in tandem

The setting in which two renderings go side by side, and the rendering of names in it: segments, aliases,
and dotted names. A name that is rendered from a text has no character that the text does not have.

* `Likeness.Sound`: what is nested one level down ends alike where it stands for each other.
* `Likeness.Setting`: two scopes that differ in their contexts at most.
* `Setting.wrapString`, `Setting.aliasName`: names and aliases are rendered alike.
-/

namespace SqlBuilder

open List (Forall₂)

/-- The values that an operand binds. -/
def Operand.bindings : Operand → List Value
  | .sql part => part.bindings
  | .object _ => []

@[simp] theorem Operand.bindings_sql (part : Sql) : (Operand.sql part).bindings = part.bindings := rfl

@[simp] theorem Operand.bindings_object (v : Value) : (Operand.object v).bindings = [] := rfl

namespace Text

theorem mem_of_mem_stripChars {c : Char} {cs : List Char} (h : c ∈ stripChars cs) : c ∈ cs := by
  unfold stripChars trimmed trimmedRight at h
  have back := (List.dropWhile_sublist _).subset (List.mem_reverse.mp h)
  exact (List.dropWhile_sublist _).subset (List.mem_reverse.mp back)

theorem mem_of_mem_splitOn {separator c : Char} {cs segment : List Char}
    (hs : segment ∈ splitOn separator cs) (hc : c ∈ segment) : c ∈ cs := by
  induction cs generalizing segment with
  | nil => simp_all [splitOn]
  | cons d rest ih =>
    unfold splitOn at hs
    split at hs
    · rcases List.mem_cons.mp hs with rfl | hs
      · simp at hc
      · exact .tail _ (ih hs hc)
    · cases h : splitOn separator rest with
      | nil =>
        rw [h] at hs
        simp_all
      | cons piece pieces =>
        rw [h] at hs
        rcases List.mem_cons.mp hs with rfl | hs
        · rcases List.mem_cons.mp hc with rfl | hc
          · exact .head _
          · exact .tail _ (ih (h ▸ .head _) hc)
        · exact .tail _ (ih (h ▸ .tail _ hs) hc)

end Text

namespace Likeness

variable (D : Likeness) (L : Level)

/-- Two operands are alike: fragments are, and objects are one. -/
def OperandLike : Operand → Operand → Prop
  | .sql a, .sql b => D.Frag a b
  | .object v, .object w => v = w ∧ D.liberal
  | _, _ => False

/-- What two raw expressions render to is alike; only one raw expression renders to an object. -/
def RawResult (r r' : Raw Value) : Operand → Operand → Prop
  | .sql a, .sql b => D.Frag a b
  | .object v, .object w => v = w ∧ r = r' ∧ D.liberal
  | _, _ => False

/-- Two rendered queries are alike. -/
structure RenderedLike (r r' : Rendered) : Prop where
  sql : D.Frag r.sql r'.sql
  method : r.method = r'.method
  asName : r.asName = r'.asName
  fits : ∀ v ∈ r.asName, D.Alias v

variable {D} in
/-- Alike fragments, one for each of some parts that stand for each other. -/
theorem fragments {α β : Type} {P : α → β → Prop} {xs : List α} {ys : List β}
    {f : α → Compile Sql} {f' : β → Compile Sql} (hxs : Forall₂ P xs ys)
    (h : ∀ x y, P x y → D.RendersSql (f x) (f' y)) :
    Tandem D.error (xs.mapM f) (ys.mapM f') (Yields (Forall₂ D.Frag) (List.flatMap Sql.bindings)) :=
  .mapM hxs h

/-- Two fragments are alike and hold no values. -/
structure NameLike (a b : Sql) : Prop extends D.Frag a b where
  silent : a.bindings = []
  silent' : b.bindings = []

/-- Two compilations render alike fragments that hold no values, and bind nothing. -/
abbrev RendersName (c c' : Compile Sql) : Prop :=
  Tandem D.error c c' (Yields D.NameLike Sql.bindings)

variable {D} in
theorem rendersName {c c' : Compile Sql} (h : D.RendersName c c') : D.RendersSql c c' :=
  h.mono fun _ _ _ _ h => ⟨h.1.toFrag, h.2⟩

/-- Two compilations render alike operands, and bind what those hold. -/
abbrev RendersOperand (c c' : Compile Operand) : Prop :=
  Tandem D.error c c' (Yields D.OperandLike Operand.bindings)

/-- What stands for each other one level down is rendered alike there, and the text of a value is the same
on both sides. -/
structure Sound (nested : Nested) : Prop where
  outputs : nested.outputs = L.outputs
  query : ∀ {q q' : Query Value} {context context' : Option Value}, L.query q q' →
    D.SameContext context context' →
    Tandem D.error (nested.query D.client context none q) (nested.query D.client context' none q')
      (Yields D.RenderedLike fun r => r.sql.bindings)
  raw : ∀ {r r' : Raw Value} {context context' : Option Value}, L.raw r r' →
    D.SameContext context context' →
    Tandem D.error (nested.raw D.client context r) (nested.raw D.client context' r')
      (Yields (D.RawResult r r') Operand.bindings)
  conditions : ∀ {cs cs' : List (Condition Value)} {context context' : Option Value},
    L.conditions cs cs' → D.SameContext context context' → ∀ clause,
    D.RendersSql (nested.conditions D.client context clause cs)
      (nested.conditions D.client context' clause cs')
  display : ∀ v, Tandem D.error (nested.printers.display v) (nested.printers.display v) (Silently Eq)

/-- Two scopes side by side, which differ in their contexts at most. -/
structure Setting where
  nested : Nested
  context : Option Value
  context' : Option Value
  law : D.Fair
  sound : D.Sound L nested
  same : D.SameContext context context'

variable {D L}

theorem spelled_append {a b : String} (ha : D.Spelled a) (hb : D.Spelled b) : D.Spelled (a ++ b) := by
  intro c hc
  rw [String.toList_append] at hc
  exact (List.mem_append.mp hc).elim (ha c) (hb c)

namespace Setting

variable (X : D.Setting L)

/-- The scope of the first rendering. -/
def left : Scope :=
  { env := D.env, client := D.client, context := X.context, nested := X.nested }

/-- The scope of the second rendering. -/
def right : Scope :=
  { env := D.env, client := D.client, context := X.context', nested := X.nested }

@[simp] theorem left_capabilities : X.left.capabilities = D.capabilities := rfl
@[simp] theorem right_capabilities : X.right.capabilities = D.capabilities := rfl
@[simp] theorem left_client : X.left.client = D.client := rfl
@[simp] theorem right_client : X.right.client = D.client := rfl
@[simp] theorem left_env : X.left.env = D.env := rfl
@[simp] theorem right_env : X.right.env = D.env := rfl
@[simp] theorem left_nested : X.left.nested = X.nested := rfl
@[simp] theorem right_nested : X.right.nested = X.nested := rfl
@[simp] theorem left_context : X.left.context = X.context := rfl
@[simp] theorem right_context : X.right.context = X.context' := rfl

theorem left_evaluator : X.left.evaluator = L.evaluator D := by
  simp [Scope.evaluator, Level.evaluator, X.sound.outputs]

theorem right_evaluator : X.right.evaluator = L.evaluator D := by
  simp [Scope.evaluator, Level.evaluator, X.sound.outputs]

/-! ## Texts of values -/

theorem throw_self (X : D.Setting L) {α β : Type} {Q : α → β → List Value → List Value → Prop} (e : Error) :
    Tandem D.error (throw e) (throw e) Q :=
  .throw (X.law.error_refl e)

theorem throw_bind (X : D.Setting L) {α β γ : Type} {f : γ → Compile α} {f' : γ → Compile β}
    {Q : α → β → List Value → List Value → Prop} (e : Error) :
    Tandem D.error (throw e >>= f) (throw e >>= f') Q :=
  (X.throw_self (Q := fun _ _ _ _ => False) e).bind fun _ _ _ _ h => h.elim

theorem unsupported {α β : Type} {Q : α → β → List Value → List Value → Prop}
    (feature detail : String) :
    Tandem D.error (X.left.unsupported feature detail) (X.right.unsupported feature detail) Q :=
  X.throw_self _

theorem unsupported_bind {α β γ : Type} {f : γ → Compile α} {f' : γ → Compile β}
    {Q : α → β → List Value → List Value → Prop} (feature detail : String) :
    Tandem D.error (X.left.unsupported feature detail >>= f) (X.right.unsupported feature detail >>= f') Q :=
  X.throw_bind _

/-- The text of a value is the same on both sides; that of a plain value is its own. -/
theorem display (v : Value) :
    Tandem D.error (X.left.display v) (X.right.display v)
      (Silently fun a b => a = b ∧ (v.isBuilder = false → a = v.text)) := by
  unfold Scope.display
  refine .ite Iff.rfl (fun builder => ?_) fun plain => .pure ⟨⟨rfl, fun _ => rfl⟩, rfl, rfl⟩
  refine (X.sound.display v).mono ?_
  rintro a b _ _ ⟨h, rfl, rfl⟩
  exact ⟨⟨h, fun plain => absurd builder (by simp [plain])⟩, rfl, rfl⟩

/-- The text of a value that may stand in a name. -/
theorem display_shown {v : Value} (shown : D.Shown v) :
    Tandem D.error (X.left.display v) (X.right.display v)
      (Silently fun a b => a = b ∧ D.Spelled a) := by
  refine (X.display v).mono ?_
  rintro a b _ _ ⟨⟨h, text⟩, rfl, rfl⟩
  refine ⟨⟨h, ?_⟩, rfl, rfl⟩
  rcases shown with any | ⟨plain, spelled⟩
  · exact fun c _ => any c
  · exact text plain ▸ spelled

theorem spell {o o' : Operand} (h : D.OperandLike o o') :
    Tandem D.error (X.left.spell o) (X.right.spell o')
      (Extends D.Frag Sql.bindings o.bindings o'.bindings) := by
  match o, o', h with
  | .sql a, .sql b, h => exact .pure ⟨h, by simp, by simp⟩
  | .object v, .object _, ⟨rfl, liberal⟩ =>
    refine (X.display v).bind_silent ?_
    rintro a _ ⟨rfl, -⟩
    exact .pure ⟨.piece (X.law.anyPiece liberal _) rfl, by simp, by simp⟩

/-- An operand as a part of a text. -/
theorem spelled {c c' : Compile Operand} (h : D.RendersOperand c c') :
    D.RendersSql (c >>= X.left.spell) (c' >>= X.right.spell) :=
  h.bind_extends fun _ _ h => X.spell h

/-- An operand that has to be a text. -/
theorem textual (X : D.Setting L) {o o' : Operand} (h : D.OperandLike o o') :
    Tandem D.error o.textual o'.textual
      (Silently fun a b => D.Frag a b ∧ a.bindings = o.bindings ∧ b.bindings = o'.bindings) := by
  match o, o', h with
  | .sql a, .sql b, h => exact .pure ⟨⟨h, rfl, rfl⟩, rfl, rfl⟩
  | .object v, .object _, _ => exact X.throw_self _

/-- Operands that have to be texts. -/
theorem textuals (X : D.Setting L) {os os' : List Operand} (h : Forall₂ D.OperandLike os os') :
    Tandem D.error (os.mapM Operand.textual) (os'.mapM Operand.textual)
      (Silently fun as bs => Forall₂ D.Frag as bs ∧
        as.flatMap Sql.bindings = os.flatMap Operand.bindings ∧
          bs.flatMap Sql.bindings = os'.flatMap Operand.bindings) := by
  induction h with
  | nil => exact .pure ⟨⟨.nil, rfl, rfl⟩, rfl, rfl⟩
  | cons first _ ih =>
    rw [List.mapM_cons, List.mapM_cons]
    refine (X.textual first).bind_silent ?_
    rintro a b ⟨hab, ha, hb⟩
    refine ih.bind_silent ?_
    rintro as bs ⟨hs, has, hbs⟩
    exact .pure ⟨⟨.cons hab hs, by simp [ha, has], by simp [hb, hbs]⟩, rfl, rfl⟩

/-! ## Segments -/

theorem delimited {segment : String} (h : D.Spelled segment) :
    D.RendersName (X.left.delimited segment) (X.right.delimited segment) := by
  unfold Scope.delimited
  refine .ite Iff.rfl (fun _ => .pure ?_) fun _ => X.throw_self _
  exact ⟨⟨.piece (X.law.name h) rfl, rfl, rfl⟩, rfl, rfl⟩

theorem identifier {segment : String} (h : D.Spelled segment) :
    D.RendersName (X.left.identifier segment) (X.right.identifier segment) := by
  unfold Scope.identifier
  simp only [left_client, right_client, left_context, right_context]
  cases hook : D.client.wrapIdentifier with
  | none => exact X.delimited h
  | some hook' =>
    have liberal : D.liberal := X.law.hook.resolve_right (by simp [hook])
    have spelled (segment : String) : D.Spelled segment := fun c _ => X.law.anyChar liberal c
    have bare : D.RendersName (pure (Sql.raw segment)) (pure (Sql.raw segment)) :=
      .pure ⟨⟨.piece (X.law.anyPiece liberal _) rfl, rfl, rfl⟩, rfl, rfl⟩
    have same : X.context = X.context' := X.same.resolve_left (by simp [hook])
    cases hook' with
    | upper => exact X.delimited (spelled _)
    | prefixed => exact .ite Iff.rfl (fun _ => bare) fun _ => X.delimited (spelled _)
    | bare => exact bare
    | context =>
      simp only [← same]
      cases X.context with
      | none => exact X.delimited h
      | some context =>
        refine (X.display context).bind_silent ?_
        rintro a _ ⟨rfl, -⟩
        exact X.delimited (spelled _)
    | broken => exact X.throw_self _

theorem segment {cs : List Char} (h : ∀ c ∈ cs, D.char c) :
    D.RendersName (X.left.segment cs) (X.right.segment cs) := by
  refine X.identifier fun c hc => h c ?_
  rw [String.toList_ofList] at hc
  exact Text.mem_of_mem_stripChars hc

/-! ## Aliases and dotted names -/

theorem segmentOf {v : Value} (h : D.Alias v) :
    D.RendersOperand (X.left.segmentOf v) (X.right.segmentOf v) := by
  have operand {cs : List Char} (h : ∀ c ∈ cs, D.char c) : D.RendersOperand
      (do return .sql (← X.left.segment cs)) (do return .sql (← X.right.segment cs)) :=
    (X.segment h).bind_yields fun a b hab => .pure ⟨hab.toFrag, by simp, by simp⟩
  have empty := @operand [] (by simp)
  have other (v : Value) : D.RendersOperand
      (do if v.isTruthy then throw (v.missing "strip") else return .sql (← X.left.segment []))
      (do if v.isTruthy then throw (v.missing "strip") else return .sql (← X.right.segment [])) :=
    .ite Iff.rfl (fun _ => X.throw_self _) fun _ => empty
  unfold Scope.segmentOf
  split
  case h_1 name => exact operand (h name rfl)
  case h_2 bs =>
    refine .ite Iff.rfl (fun _ => empty) fun _ => .ite Iff.rfl (fun bare => .pure ?_) fun _ => X.throw_self _
    have liberal : D.liberal := X.law.hook.resolve_right (by simp [show D.client.wrapIdentifier = _ from bare])
    exact ⟨⟨rfl, liberal⟩, rfl, rfl⟩
  case h_3 => exact other v

theorem aliasName {v : Value} (h : D.Alias v) :
    D.RendersSql (X.left.aliasName v) (X.right.aliasName v) :=
  X.spelled (X.segmentOf h)

theorem aliased {a a' b b' : Sql} (ha : D.Frag a a') (hb : D.Frag b b') :
    D.Frag (X.left.aliased a b) (X.right.aliased a' b') :=
  ha.between X.law.aliasKeyword hb

@[simp] theorem bindings_aliased (s : Scope) (a b : Sql) :
    Sql.bindings (s.aliased a b) = a.bindings ++ b.bindings := by
  simp [Scope.aliased]

theorem dot (X : D.Setting L) : D.Joint "." :=
  X.law.joint (by simp [vocabulary]) rfl rfl

/-- Names with dots between them. -/
theorem dotted (X : D.Setting L) {as bs : List Sql} (hs : Forall₂ D.NameLike as bs) :
    D.NameLike (Sql.joined "." as) (Sql.joined "." bs) := by
  have silent : as.flatMap Sql.bindings = [] ∧ bs.flatMap Sql.bindings = [] := by
    induction hs with
    | nil => exact ⟨rfl, rfl⟩
    | cons first _ ih => simp [first.silent, first.silent', ih]
  exact ⟨.joined X.dot (hs.imp fun _ _ h => h.toFrag), by simp [silent.1], by simp [silent.2]⟩

theorem segments {segments : List (List Char)} (h : ∀ cs ∈ segments, ∀ c ∈ cs, D.char c) :
    Tandem D.error (segments.mapM X.left.segment) (segments.mapM X.right.segment)
      (Yields (Forall₂ D.NameLike) (List.flatMap Sql.bindings)) :=
  .mapM_self fun cs hcs => X.segment (h cs hcs)

theorem wrapFrom (fuel : Nat) {cs : List Char} (h : ∀ c ∈ cs, D.char c) :
    D.RendersName (X.left.wrapFrom fuel cs) (X.right.wrapFrom fuel cs) := by
  induction fuel generalizing cs with
  | zero => exact X.throw_self _
  | succ fuel ih =>
    unfold Scope.wrapFrom
    cases Text.findInfix Scope.aliasMark (Text.lowerChars cs) with
    | some i =>
      refine (ih fun c hc => h c (List.mem_of_mem_take hc)).bind_yields fun a a' ha => ?_
      refine (X.segment fun c hc => h c (List.mem_of_mem_drop hc)).bind_yields fun b b' hb => .pure ?_
      refine ⟨⟨X.aliased ha.toFrag hb.toFrag, ?_, ?_⟩, by simp⟩
      · rw [bindings_aliased, ha.silent, hb.silent, List.nil_append]
      · rw [bindings_aliased, ha.silent', hb.silent', List.nil_append]
    | none =>
      have each : ∀ segment ∈ Text.splitOn '.' cs, ∀ c ∈ segment, D.char c :=
        fun segment hs c hc => h c (Text.mem_of_mem_splitOn hs hc)
      simp only
      split
      next first second rest split =>
        rw [split] at each
        refine (ih fun c hc => each first (.head _) c (Text.mem_of_mem_stripChars hc)).bind_yields
          fun a a' ha => ?_
        refine (X.segments fun cs hcs => each cs (.tail _ hcs)).bind_yields fun bs bs' hbs => .pure ?_
        exact ⟨X.dotted (.cons ha hbs), by simp⟩
      next =>
        refine (X.segments each).bind_yields fun bs bs' hbs => .pure ?_
        exact ⟨X.dotted hbs, by simp⟩

theorem wrapString {name : String} (h : D.Spelled name) :
    D.RendersName (X.left.wrapString name) (X.right.wrapString name) :=
  X.wrapFrom _ h

/-- A name as an alias, which has to be a text. -/
theorem nameText (X : D.Setting L) {v : Value} (h : D.Alias v) :
    Tandem D.error (Scope.nameText v) (Scope.nameText v)
      (Silently fun a b => a = b ∧ D.Spelled a) := by
  unfold Scope.nameText
  split
  case h_1 name => exact .pure ⟨⟨rfl, h name rfl⟩, rfl, rfl⟩
  case h_2 => exact X.throw_self _
  case h_3 => exact X.throw_self _

/-- A name in a schema. -/
theorem inSchema {schema : Option Value} {name : String} (hs : D.SchemaShown schema)
    (h : D.Spelled name) :
    Tandem D.error (X.left.inSchema schema name) (X.right.inSchema schema name)
      (Silently fun a b => a = b ∧ D.Spelled a) := by
  unfold Scope.inSchema
  cases schema with
  | none => exact .pure ⟨⟨rfl, h⟩, rfl, rfl⟩
  | some schema =>
    refine .ite Iff.rfl (fun given => ?_) fun _ => .pure ⟨⟨rfl, h⟩, rfl, rfl⟩
    refine (X.display_shown (hs schema rfl given)).bind_silent ?_
    rintro text _ ⟨rfl, spelled⟩
    refine .pure ⟨⟨rfl, spelled_append (spelled_append spelled ?_) h⟩, rfl, rfl⟩
    intro c hc
    exact X.law.markChars c (by simp_all)

end Setting

end Likeness

end SqlBuilder
