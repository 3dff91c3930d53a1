import Mathlib.Data.List.Forall2
import SqlBuilder.Render.Scope

/-!
# Compilations in tandem

Two compilations side by side, from progresses that agree in everything but the values bound so far. The
judgement says that they end alike: both with results, or both with errors. It keeps account of the values
that each binds on the way, so that the list which all clauses share can be compared with what a single
clause binds.

* `Progress.Agrees`: two progresses differ in the values bound so far at most.
* `Tandem`: two compilations end alike, with a relation of the results and of the values they bind.
* `Yields`: the relation in which the values bound are those that the result holds.
* `Extends`: the relation in which the result holds them after those of an earlier one.
* `Tandem.bind`, `Tandem.mapM`, `Tandem.foldlM`: compilations in sequence.
* `Tandem.own`, `Tandem.own_self`: compilations that keep the values they bind to themselves.
* `Compile.Returns`: every result of a compilation has a property.
-/

namespace SqlBuilder

/-- Two progresses differ in the values bound so far at most. -/
structure Progress.Agrees (p p' : Progress) : Prop where
  columns : p.undefinedColumns = p'.undefinedColumns
  events : p.events = p'.events

/-- The outcomes of two compilations, from two progresses, are alike. -/
inductive EndsAlike {α β : Type} (E : Error → Error → Prop)
    (Q : α → β → List Value → List Value → Prop) (p p' : Progress) :
    EStateM.Result Error Progress α → EStateM.Result Error Progress β → Prop
  | ok {a : α} {b : β} {q q' : Progress} {vs vs' : List Value} (agrees : q.Agrees q')
      (bound : q.bound = p.bound ++ vs) (bound' : q'.bound = p'.bound ++ vs') (result : Q a b vs vs') :
      EndsAlike E Q p p' (.ok a q) (.ok b q')
  | error {e e' : Error} {q q' : Progress} (agrees : q.Agrees q') (error : E e e') :
      EndsAlike E Q p p' (.error e q) (.error e' q')

/-- Two compilations end alike, from any two progresses that agree. -/
def Tandem {α β : Type} (E : Error → Error → Prop) (c : Compile α) (c' : Compile β)
    (Q : α → β → List Value → List Value → Prop) : Prop :=
  ∀ p p' : Progress, p.Agrees p' → EndsAlike E Q p p' (c p) (c' p')

/-- The outcomes of two steps are alike, and so is what they report. -/
inductive Logged.EndsAlike {α β : Type} (E : Error → Error → Prop) (R : α → β → Prop) :
    EStateM.Result Error (List LogEvent) α → EStateM.Result Error (List LogEvent) β → Prop
  | ok {a : α} {b : β} {events : List LogEvent} (result : R a b) :
      Logged.EndsAlike E R (.ok a events) (.ok b events)
  | error {e e' : Error} {events : List LogEvent} (error : E e e') :
      Logged.EndsAlike E R (.error e events) (.error e' events)

/-- A step that is the same on both sides ends alike. -/
theorem Logged.EndsAlike.refl {α : Type} {E : Error → Error → Prop} {R : α → α → Prop}
    (errors : ∀ e, E e e) (results : ∀ a, R a a) (r : EStateM.Result Error (List LogEvent) α) :
    Logged.EndsAlike E R r r := by
  cases r with
  | ok a events => exact .ok (results a)
  | error e events => exact .error (errors e)

/-- Results are related, and the values bound are those that they hold. -/
def Yields {α : Type} (R : α → α → Prop) (held : α → List Value) (a b : α) (vs vs' : List Value) :
    Prop :=
  R a b ∧ vs = held a ∧ vs' = held b

/-- Results are related, and they hold what was held before and the values bound after it. -/
def Extends {α : Type} (R : α → α → Prop) (held : α → List Value) (before before' : List Value)
    (a b : α) (vs vs' : List Value) : Prop :=
  R a b ∧ before ++ vs = held a ∧ before' ++ vs' = held b

/-- Results are related, and nothing is bound. -/
def Silently {α β : Type} (R : α → β → Prop) (a : α) (b : β) (vs vs' : List Value) : Prop :=
  R a b ∧ vs = [] ∧ vs' = []

namespace Tandem

variable {E : Error → Error → Prop} {α β α' β' : Type}

/-! ## Single steps -/

protected theorem pure {Q : α → β → List Value → List Value → Prop} {a : α} {b : β}
    (h : Q a b [] []) : Tandem E (pure a) (pure b) Q :=
  fun _ _ agrees => .ok agrees (by simp) (by simp) h

protected theorem throw {Q : α → β → List Value → List Value → Prop} {e e' : Error} (h : E e e') :
    Tandem E (throw e) (throw e') Q :=
  fun _ _ agrees => .error agrees h

theorem mono {c : Compile α} {c' : Compile β} {Q R : α → β → List Value → List Value → Prop}
    (h : Tandem E c c' Q) (imp : ∀ a b vs vs', Q a b vs vs' → R a b vs vs') : Tandem E c c' R := by
  intro p p' agrees
  have run := h p p' agrees
  generalize c p = r, c' p' = r' at run ⊢
  cases run with
  | ok agrees bound bound' result => exact .ok agrees bound bound' (imp _ _ _ _ result)
  | error agrees error => exact .error agrees error

protected theorem bind {c : Compile α} {c' : Compile β} {f : α → Compile α'} {f' : β → Compile β'}
    {Q : α → β → List Value → List Value → Prop} {R : α' → β' → List Value → List Value → Prop}
    (hc : Tandem E c c' Q)
    (hf : ∀ a b vs vs', Q a b vs vs' →
      Tandem E (f a) (f' b) fun x y ws ws' => R x y (vs ++ ws) (vs' ++ ws')) :
    Tandem E (c >>= f) (c' >>= f') R := by
  intro p p' agrees
  change EndsAlike E R p p' (EStateM.bind c f p) (EStateM.bind c' f' p')
  have first := hc p p' agrees
  simp only [EStateM.bind]
  generalize c p = r, c' p' = r' at first ⊢
  cases first with
  | @ok a b q q' _ _ agrees bound bound' result =>
    have second := hf _ _ _ _ result q q' agrees
    simp only
    generalize f a q = r, f' b q' = r' at second ⊢
    cases second with
    | ok agrees more more' result =>
      refine .ok agrees ?_ ?_ result
      · rw [more, bound, List.append_assoc]
      · rw [more', bound', List.append_assoc]
    | error agrees error => exact .error agrees error
  | error agrees error => exact .error agrees error

/-- A step that binds nothing before another one. -/
theorem bind_silent {c : Compile α} {c' : Compile β} {f : α → Compile α'} {f' : β → Compile β'}
    {Q : α → β → Prop} {R : α' → β' → List Value → List Value → Prop}
    (hc : Tandem E c c' (Silently Q)) (hf : ∀ a b, Q a b → Tandem E (f a) (f' b) R) :
    Tandem E (c >>= f) (c' >>= f') R := by
  refine hc.bind ?_
  rintro a b _ _ ⟨h, rfl, rfl⟩
  exact hf a b h

/-- A step that yields what it binds before one that extends it. -/
theorem bind_extends {c c' : Compile α} {f f' : α → Compile α'} {Q : α → α → Prop}
    {held : α → List Value} {R : α' → α' → Prop} {held' : α' → List Value}
    (hc : Tandem E c c' (Yields Q held))
    (hf : ∀ a b, Q a b → Tandem E (f a) (f' b) (Extends R held' (held a) (held b))) :
    Tandem E (c >>= f) (c' >>= f') (Yields R held') :=
  hc.bind fun a b _ _ ⟨h, hvs, hvs'⟩ => by
    subst hvs hvs'
    exact hf a b h

/-- A step that yields what it binds between an earlier result and one that extends both. -/
theorem extend {c c' : Compile α} {f f' : α → Compile α'} {Q : α → α → Prop}
    {held : α → List Value} {R : α' → α' → Prop} {held' : α' → List Value} {before before' : List Value}
    (hc : Tandem E c c' (Yields Q held))
    (hf : ∀ a b, Q a b →
      Tandem E (f a) (f' b) (Extends R held' (before ++ held a) (before' ++ held b))) :
    Tandem E (c >>= f) (c' >>= f') (Extends R held' before before') := by
  refine hc.bind ?_
  rintro a b _ _ ⟨h, rfl, rfl⟩
  refine (hf a b h).mono ?_
  rintro x y vs vs' ⟨hxy, holds, holds'⟩
  exact ⟨hxy, by rw [← holds, List.append_assoc], by rw [← holds', List.append_assoc]⟩

/-- A step that yields what it binds before another one. -/
theorem bind_yields {c c' : Compile α} {f : α → Compile α'} {f' : α → Compile β'}
    {Q : α → α → Prop} {held : α → List Value} {R : α' → β' → List Value → List Value → Prop}
    (hc : Tandem E c c' (Yields Q held))
    (hf : ∀ a b, Q a b →
      Tandem E (f a) (f' b) fun x y ws ws' => R x y (held a ++ ws) (held b ++ ws')) :
    Tandem E (c >>= f) (c' >>= f') R := by
  refine hc.bind ?_
  rintro a b _ _ ⟨h, rfl, rfl⟩
  exact hf a b h

protected theorem ite {c d : Compile α} {c' d' : Compile β}
    {Q : α → β → List Value → List Value → Prop} {P P' : Prop} [Decidable P] [Decidable P']
    (same : P ↔ P') (yes : P → Tandem E c c' Q) (no : ¬ P → Tandem E d d' Q) :
    Tandem E (if P then c else d) (if P' then c' else d') Q := by
  by_cases h : P
  · rw [if_pos h, if_pos (same.mp h)]
    exact yes h
  · rw [if_neg h, if_neg (mt same.mpr h)]
    exact no h

/-- One outcome without effects on both sides. -/
theorem liftCompile_self (refl : ∀ e, E e e) (x : Except Error α) :
    Tandem E (liftCompile x) (liftCompile x) (Silently fun a b => a = b ∧ x = .ok a) := by
  cases x with
  | ok a => exact .pure ⟨⟨rfl, rfl⟩, rfl, rfl⟩
  | error e => exact .throw (refl e)

/-- The columns and the events so far are the same on both sides. -/
protected theorem get : Tandem E get get (Silently Progress.Agrees) :=
  fun _ _ agrees => .ok agrees (List.append_nil _).symm (List.append_nil _).symm ⟨agrees, rfl, rfl⟩

protected theorem bindAll (vs vs' : List Value) :
    Tandem E (bindAll vs) (bindAll vs') fun _ _ ws ws' => ws = vs ∧ ws' = vs' :=
  fun _ _ agrees => .ok ⟨agrees.columns, agrees.events⟩ rfl rfl ⟨rfl, rfl⟩

/-- Values that only the second side binds. -/
theorem bindAll_right {vs' : List Value} {c : Compile α} {f' : Unit → Compile β}
    {Q : α → β → List Value → List Value → Prop}
    (h : Tandem E c (f' ()) fun a b ws ws' => Q a b ws (vs' ++ ws')) :
    Tandem E c (SqlBuilder.bindAll vs' >>= f') Q := by
  intro p p' agrees
  change EndsAlike E Q p p' (c p) (f' () { p' with bound := p'.bound ++ vs' })
  have run := h p { p' with bound := p'.bound ++ vs' } ⟨agrees.columns, agrees.events⟩
  generalize c p = r, f' () { p' with bound := p'.bound ++ vs' } = r' at run ⊢
  cases run with
  | ok agrees bound bound' result =>
    exact .ok agrees bound (by rw [bound', List.append_assoc]) result
  | error agrees error => exact .error agrees error

protected theorem markUndefined (column : Value) :
    Tandem E (markUndefined column) (markUndefined column) (Silently Eq) :=
  fun _ _ agrees =>
    .ok ⟨congrArg (· ++ [column]) agrees.columns, agrees.events⟩ (List.append_nil _).symm
      (List.append_nil _).symm ⟨rfl, rfl, rfl⟩

protected theorem report (event : LogEvent) :
    Tandem E (report event) (report event) (Silently Eq) :=
  fun _ _ agrees =>
    .ok ⟨agrees.columns, congrArg (· ++ [event]) agrees.events⟩ (List.append_nil _).symm
      (List.append_nil _).symm ⟨rfl, rfl, rfl⟩

/-- Steps that may report events, from the same events. -/
protected theorem ofLogged {step : Logged α} {step' : Logged β} {R : α → β → Prop}
    (h : ∀ events, Logged.EndsAlike E R (step events) (step' events)) :
    Tandem E (Compile.ofLogged step) (Compile.ofLogged step') (Silently R) := by
  intro p p' agrees
  have run := h p.events
  simp only [Compile.ofLogged, ← agrees.events]
  generalize step p.events = r, step' p.events = r' at run ⊢
  cases run with
  | ok result => exact .ok ⟨agrees.columns, rfl⟩ (by simp) (by simp) ⟨result, rfl, rfl⟩
  | error error => exact .error ⟨agrees.columns, rfl⟩ error

/-- A compilation after a step that reports nothing. -/
theorem ofLogged_left {step : Logged α} {f : α → Compile β} {c' : Compile α'}
    {Q : β → α' → List Value → List Value → Prop}
    (h : ∀ events, ∃ a, step events = .ok a events ∧ Tandem E (f a) c' Q) :
    Tandem E (Compile.ofLogged step >>= f) c' Q := by
  intro p p' agrees
  obtain ⟨a, run, tandem⟩ := h p.events
  have start : (Compile.ofLogged step >>= f) p = f a p := by
    change EStateM.bind (Compile.ofLogged step) f p = f a p
    simp [EStateM.bind, Compile.ofLogged, run]
  rw [start]
  exact tandem p p' agrees

/-- Compilations whose errors are replaced by others that are alike. -/
protected theorem tryCatch {c : Compile α} {c' : Compile β} {f : Error → Compile α} {f' : Error → Compile β}
    {Q : α → β → List Value → List Value → Prop} (h : Tandem E c c' Q)
    (failing : ∀ e e', E e e' → Tandem E (f e) (f' e') fun _ _ _ _ => False) :
    Tandem E (tryCatch c f) (tryCatch c' f') Q := by
  intro p p' agrees
  change EndsAlike E Q p p' (EStateM.tryCatch c f p) (EStateM.tryCatch c' f' p')
  have run := h p p' agrees
  simp only [EStateM.tryCatch]
  generalize c p = r, c' p' = r' at run ⊢
  cases run with
  | ok agrees bound bound' result => exact .ok agrees bound bound' result
  | @error e e' q q' agrees error =>
    have failed := failing e e' error q q' agrees
    simp only [EStateM.Backtrackable.restore, EStateM.dummyRestore]
    generalize f e q = r, f' e' q' = r' at failed ⊢
    cases failed with
    | ok _ _ _ result => exact result.elim
    | error agrees error => exact .error agrees error

/-! ## Bindings and columns of their own -/

theorem own {c : Compile α} {c' : Compile β} {Q : α → β → List Value → List Value → Prop}
    (h : Tandem E c c' Q) :
    Tandem E (ownBindings c) (ownBindings c') (Silently fun a b => ∃ vs vs', Q a b vs vs') := by
  intro p p' agrees
  have run := h { p with bound := [] } { p' with bound := [] } ⟨agrees.columns, agrees.events⟩
  simp only [ownBindings]
  generalize c { p with bound := [] } = r, c' { p' with bound := [] } = r' at run ⊢
  cases run with
  | ok agrees _ _ result =>
    exact .ok ⟨agrees.columns, agrees.events⟩ (by simp) (by simp) ⟨⟨_, _, result⟩, rfl, rfl⟩
  | error agrees error => exact .error ⟨agrees.columns, agrees.events⟩ error

/-- A compilation against one that keeps the values it binds to itself. -/
theorem own_right {c : Compile α} {c' : Compile β} {Q : α → β → List Value → List Value → Prop}
    (h : Tandem E c c' Q) :
    Tandem E c (ownBindings c') fun a b vs vs' => vs' = [] ∧ ∃ ws', Q a b vs ws' := by
  intro p p' agrees
  have run := h p { p' with bound := [] } ⟨agrees.columns, agrees.events⟩
  simp only [ownBindings]
  generalize c p = r, c' { p' with bound := [] } = r' at run ⊢
  cases run with
  | ok agrees bound _ result =>
    exact .ok ⟨agrees.columns, agrees.events⟩ bound (by simp) ⟨rfl, _, result⟩
  | error agrees error => exact .error ⟨agrees.columns, agrees.events⟩ error

/-- One compilation on both sides, whose bindings are its own. -/
theorem own_self (refl : ∀ e, E e e) (c : Compile α) :
    Tandem E (ownBindings c) (ownBindings c) (Silently Eq) := by
  intro p p' agrees
  have same : { p with bound := [] } = { p' with bound := [] } := by
    obtain ⟨columns, events⟩ := agrees
    simp [columns, events]
  simp only [ownBindings, same]
  rcases c { p' with bound := [] } with ⟨a, q⟩ | ⟨e, q⟩
  · exact .ok ⟨rfl, rfl⟩ (by simp) (by simp) ⟨rfl, rfl, rfl⟩
  · exact .error ⟨rfl, rfl⟩ (refl e)

protected theorem ownColumns {c : Compile α} {c' : Compile β}
    {Q : α → β → List Value → List Value → Prop} (h : Tandem E c c' Q) :
    Tandem E (ownColumns c) (ownColumns c') Q := by
  intro p p' agrees
  have run := h { p with undefinedColumns := [] } { p' with undefinedColumns := [] } ⟨rfl, agrees.events⟩
  simp only [SqlBuilder.ownColumns]
  generalize c { p with undefinedColumns := [] } = r, c' { p' with undefinedColumns := [] } = r'
    at run ⊢
  cases run with
  | ok ends bound bound' result => exact .ok ⟨agrees.columns, ends.events⟩ bound bound' result
  | error ends error => exact .error ⟨agrees.columns, ends.events⟩ error

/-! ## Sequences -/

theorem mapM {P : α → β → Prop} {R : α' → α' → Prop} {held : α' → List Value}
    {f : α → Compile α'} {f' : β → Compile α'} {xs : List α} {ys : List β}
    (hxs : List.Forall₂ P xs ys) (h : ∀ x y, P x y → Tandem E (f x) (f' y) (Yields R held)) :
    Tandem E (xs.mapM f) (ys.mapM f') (Yields (List.Forall₂ R) (List.flatMap held)) := by
  induction hxs with
  | nil => exact .pure ⟨.nil, rfl, rfl⟩
  | cons hx _ ih =>
    rw [List.mapM_cons, List.mapM_cons]
    refine (h _ _ hx).bind_yields fun a b hab => ih.bind_yields fun as bs hs => .pure ⟨.cons hab hs, ?_⟩
    simp

theorem mapM_self {R : β → β → Prop} {held : β → List Value} {f f' : α → Compile β} {xs : List α}
    (h : ∀ x ∈ xs, Tandem E (f x) (f' x) (Yields R held)) :
    Tandem E (xs.mapM f) (xs.mapM f') (Yields (List.Forall₂ R) (List.flatMap held)) := by
  refine mapM (P := fun x y => x = y ∧ x ∈ xs) (List.forall₂_same.mpr fun x hx => ⟨rfl, hx⟩) ?_
  rintro x _ ⟨rfl, hx⟩
  exact h x hx

theorem forM {P : α → β → Prop} {f : α → Compile Unit} {f' : β → Compile Unit} {xs : List α}
    {ys : List β} (hxs : List.Forall₂ P xs ys)
    (h : ∀ x y, P x y → Tandem E (f x) (f' y) (Silently Eq)) :
    Tandem E (xs.forM f) (ys.forM f') (Silently Eq) := by
  induction hxs with
  | nil => exact .pure ⟨rfl, rfl, rfl⟩
  | cons hx _ ih =>
    exact (h _ _ hx).bind_silent fun _ _ _ => ih

/-- A fold whose steps yield what they bind after what the result held before. -/
theorem foldlM {P : α → β → Prop} {R : α' → α' → Prop} {held : α' → List Value}
    {f : α' → α → Compile α'} {f' : α' → β → Compile α'} {xs : List α} {ys : List β}
    (hxs : List.Forall₂ P xs ys)
    (h : ∀ a b x y, R a b → P x y →
      Tandem E (f a x) (f' b y) (Extends R held (held a) (held b)))
    {a b : α'} (hab : R a b) :
    Tandem E (xs.foldlM f a) (ys.foldlM f' b) (Extends R held (held a) (held b)) := by
  induction hxs generalizing a b with
  | nil => exact .pure ⟨hab, by simp⟩
  | cons hx _ ih =>
    rw [List.foldlM_cons, List.foldlM_cons]
    refine (h _ _ _ _ hab hx).bind ?_
    rintro a₁ b₁ vs vs' ⟨h₁, holds, holds'⟩
    refine (ih h₁).mono ?_
    rintro a₂ b₂ ws ws' ⟨h₂, more, more'⟩
    refine ⟨h₂, ?_, ?_⟩
    · rw [← List.append_assoc, holds, more]
    · rw [← List.append_assoc, holds', more']

end Tandem

/-! ## Results -/

/-- Every result of a compilation has a property. -/
def Compile.Returns {α : Type} (c : Compile α) (P : α → Prop) : Prop :=
  ∀ p a p', c p = .ok a p' → P a

namespace Compile.Returns

variable {α β : Type} {P : α → Prop}

protected theorem pure {a : α} (h : P a) : Returns (pure a) P := by
  rintro p _ _ ⟨⟩
  exact h

protected theorem throw (e : Error) : Returns (throw e) P := by
  rintro p _ _ ⟨⟩

protected theorem bind {c : Compile β} {f : β → Compile α} (h : ∀ b, Returns (f b) P) :
    Returns (c >>= f) P := by
  intro p a p' run
  change EStateM.bind c f p = _ at run
  unfold EStateM.bind at run
  split at run
  · exact h _ _ _ _ run
  · cases run

/-- A property of what a step returns, from one of what comes before it. -/
theorem bind_of {Q : β → Prop} {c : Compile β} {f : β → Compile α} (hc : Returns c Q)
    (h : ∀ b, Q b → Returns (f b) P) : Returns (c >>= f) P := by
  intro p a p' run
  change EStateM.bind c f p = _ at run
  unfold EStateM.bind at run
  split at run
  next b _ first => exact h _ (hc _ _ _ first) _ _ _ run
  · cases run

theorem ownColumns {c : Compile α} (h : Returns c P) : Returns (ownColumns c) P := by
  intro p a p' run
  unfold SqlBuilder.ownColumns at run
  split at run
  next first =>
    cases run
    exact h _ _ _ first
  · cases run

end Compile.Returns

/-- A compilation renders fragments that bind nothing. -/
def Compile.Silent (c : Compile Sql) : Prop :=
  c.Returns fun sql => sql.bindings = []

/-- A property of the results on the left, beside what the results on both sides have in common. -/
theorem Tandem.returns {α : Type} {E : Error → Error → Prop} {c c' : Compile α} {R : α → α → Prop}
    {held : α → List Value} {P : α → Prop} (h : Tandem E c c' (Yields R held)) (results : c.Returns P) :
    Tandem E c c' (Yields (fun a b => R a b ∧ P a) held) := by
  intro p p' agrees
  have run := h p p' agrees
  generalize left : c p = r, c' p' = r' at run
  cases run with
  | ok agrees bound bound' result => exact .ok agrees bound bound' ⟨⟨result.1, results _ _ _ left⟩, result.2⟩
  | error agrees error => exact .error agrees error

end SqlBuilder
