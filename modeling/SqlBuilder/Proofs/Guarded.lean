import SqlBuilder.Render.Statement

/-!
# Guards against undefined values

A compilation beside the same one without guards against undefined values. Where the one without them has a
result, the other either passes, with that result, or refuses; and it refuses only if an undefined value has
been bound. A column that is marked on the way is a debt: an undefined value has to be bound before the
statement is complete, since the mark alone makes the guard refuse.

* `Quiet`: a compilation binds nothing and marks no column.
* `Guarded`: the judgement, with what is owed by the steps before.
* `Guarded.bind`, `Guarded.mapM`, `Guarded.own`: compilations in sequence.
* `Guarded.marks`: a step that marks a column before one that pays for it.
-/

namespace SqlBuilder

theorem Value.anyUndefined_eq_any (vs : List Value) : Value.anyUndefined vs = vs.any Value.containsUndefined := by
  induction vs with
  | nil => rfl
  | cons v vs ih => rw [Value.anyUndefined, List.any_cons, ih]

theorem Value.entryUndefined_eq_any (entries : List (Value × Value)) :
    Value.entryUndefined entries = entries.any fun e => e.2.containsUndefined := by
  induction entries with
  | nil => rfl
  | cons e entries ih => rw [Value.entryUndefined, List.any_cons, ih]

/-- One of some values is, or holds inside its containers, an undefined one. -/
def Undefined (vs : List Value) : Prop :=
  vs.any Value.containsUndefined = true

theorem Undefined.append {vs ws : List Value} : Undefined (vs ++ ws) ↔ Undefined vs ∨ Undefined ws := by
  simp [Undefined]

theorem Undefined.single {v : Value} : Undefined [v] ↔ v.containsUndefined = true := by
  simp [Undefined]

theorem Undefined.not_nil : ¬ Undefined [] :=
  nofun

/-- An error says that there are undefined values. -/
def Error.isUndefined : Error → Bool
  | .undefinedInRaw _ _ | .undefinedInQuery _ _ _ => true
  | _ => false

/-! ## Quiet steps -/

/-- Where a compilation has a result, it has bound nothing and marked no column. -/
def Quiet {α : Type} (c : Compile α) : Prop :=
  ∀ p a q, c p = .ok a q → q.bound = p.bound ∧ q.undefinedColumns = p.undefinedColumns

namespace Quiet

variable {α β : Type}

protected theorem pure (a : α) : Quiet (pure a) := by
  rintro p _ _ ⟨⟩
  exact ⟨rfl, rfl⟩

protected theorem throw (e : Error) : Quiet (throw e : Compile α) := by
  rintro p _ _ ⟨⟩

protected theorem bind {c : Compile α} {f : α → Compile β} (hc : Quiet c) (hf : ∀ a, Quiet (f a)) :
    Quiet (c >>= f) := by
  intro p b r run
  change EStateM.bind c f p = _ at run
  unfold EStateM.bind at run
  split at run
  next a q first =>
    obtain ⟨bound, columns⟩ := hc _ _ _ first
    obtain ⟨bound', columns'⟩ := hf _ _ _ _ run
    exact ⟨bound'.trans bound, columns'.trans columns⟩
  · cases run

protected theorem mapM {f : α → Compile β} {as : List α} (h : ∀ a ∈ as, Quiet (f a)) : Quiet (as.mapM f) := by
  induction as with
  | nil => exact .pure []
  | cons a as ih =>
    rw [List.mapM_cons]
    exact (h a (.head _)).bind fun _ => (ih fun b hb => h b (.tail _ hb)).bind fun _ => .pure _

protected theorem liftCompile (x : Except Error α) : Quiet (liftCompile x) := by
  cases x with
  | ok a => exact .pure a
  | error e => exact .throw e

protected theorem ofLogged (step : Logged α) : Quiet (Compile.ofLogged step) := by
  intro p a q run
  unfold Compile.ofLogged at run
  split at run <;> cases run
  exact ⟨rfl, rfl⟩

protected theorem report (event : LogEvent) : Quiet (report event) := by
  rintro p _ _ ⟨⟩
  exact ⟨rfl, rfl⟩

/-- A compilation that keeps what it binds and marks to itself. -/
theorem own (c : Compile α) : Quiet (ownColumns (ownBindings c)) := by
  intro p a q run
  simp only [ownColumns, ownBindings] at run
  split at run
  next first =>
    cases run
    split at first <;> cases first
    exact ⟨rfl, rfl⟩
  · cases run

end Quiet

/-! ## The judgement -/

/-- The outcome of a compilation with guards, from a progress, where without them it has a result after
binding some values. -/
inductive Guards {α : Type} (owed : Prop) (p : Progress) (a : α) (q : Progress) (vs : List Value) :
    EStateM.Result Error Progress α → Prop
  | passes (paid : owed ∨ q.undefinedColumns ≠ p.undefinedColumns → Undefined vs) : Guards owed p a q vs (.ok a q)
  | refuses {e : Error} {q' : Progress} (undefined : Undefined vs) (kind : e.isUndefined = true) :
    Guards owed p a q vs (.error e q')

/-- What is owed is paid, whether or not the guards pass. -/
theorem Guards.undefined {α : Type} {owed : Prop} {p q : Progress} {a : α} {vs : List Value}
    {r : EStateM.Result Error Progress α} (h : Guards owed p a q vs r) (some_ : owed) : Undefined vs := by
  cases h with
  | passes paid => exact paid (.inl some_)
  | refuses undefined _ => exact undefined

/-- A compilation with guards beside one without them. If something is owed, an undefined value is bound. -/
def Guarded {α : Type} (owed : Prop) (c c' : Compile α) : Prop :=
  ∀ p a q, c' p = .ok a q → ∃ vs, q.bound = p.bound ++ vs ∧ Guards owed p a q vs (c p)

namespace Guarded

variable {α β : Type} {owed owed' : Prop} {c c' : Compile α} {f f' : α → Compile β}

theorem mono (h : Guarded owed c c') (less : owed' → owed) : Guarded owed' c c' := by
  intro p a q run
  obtain ⟨vs, bound, outcome⟩ := h p a q run
  refine ⟨vs, bound, ?_⟩
  generalize c p = r at outcome ⊢
  cases outcome with
  | passes paid => exact .passes fun some_ => paid (some_.imp_left less)
  | refuses undefined kind => exact .refuses undefined kind

/-- Where nothing is owed, whatever might be is paid. -/
theorem of_not (none_ : ¬ owed) (h : Guarded False c c') : Guarded owed c c' :=
  h.mono none_

/-- Without guards there is no result. -/
theorem throw_right (e : Error) : Guarded owed c (throw e) :=
  nofun

theorem same (h : Quiet c) : Guarded False c c := by
  intro p a q run
  obtain ⟨bound, columns⟩ := h p a q run
  refine ⟨[], by simp [bound], ?_⟩
  rw [run]
  exact .passes fun some_ => some_.elim False.elim (absurd columns)

protected theorem pure (a : α) : Guarded False (pure a) (pure a) :=
  .same (.pure a)

protected theorem bindAll (vs : List Value) : Guarded (Undefined vs) (bindAll vs) (bindAll vs) := by
  rintro p _ _ ⟨⟩
  exact ⟨vs, rfl, .passes fun some_ => some_.elim id fun changed => absurd rfl changed⟩

/-- A refusal, where undefined values are bound. -/
protected theorem refusal {e : Error} {vs : List Value} (undefined : Undefined vs) (kind : e.isUndefined = true)
    (f : β → Compile α) (a : α) : Guarded owed (throw e >>= f) (do SqlBuilder.bindAll vs; return a) := by
  rintro p _ _ ⟨⟩
  exact ⟨vs, rfl, .refuses undefined kind⟩

/-- Two steps owe together what each of them does. -/
theorem bind_both (hc : Guarded owed c c') (hf : ∀ a, Guarded owed' (f a) (f' a)) :
    Guarded (owed ∨ owed') (c >>= f) (c' >>= f') := by
  intro p b r run
  change EStateM.bind c' f' p = _ at run
  unfold EStateM.bind at run
  split at run
  next a q first =>
    obtain ⟨vs, bound, outcome⟩ := hc _ _ _ first
    obtain ⟨ws, bound', outcome'⟩ := hf _ _ _ _ run
    refine ⟨vs ++ ws, by rw [bound', bound, List.append_assoc], ?_⟩
    change Guards _ p b r _ (EStateM.bind c f p)
    unfold EStateM.bind
    generalize c p = s at outcome ⊢
    cases outcome with
    | refuses undefined kind => exact .refuses (Undefined.append.mpr (.inl undefined)) kind
    | passes paid =>
      simp only
      generalize f a q = s at outcome' ⊢
      cases outcome' with
      | refuses undefined kind => exact .refuses (Undefined.append.mpr (.inr undefined)) kind
      | passes paid' =>
        refine .passes ?_
        rw [Undefined.append]
        rintro ((first | second) | changed)
        · exact .inl (paid (.inl first))
        · exact .inr (paid' (.inl second))
        · by_cases kept : q.undefinedColumns = p.undefinedColumns
          · exact .inr (paid' (.inr (kept ▸ changed)))
          · exact .inl (paid (.inr kept))
  · cases run

protected theorem bind (hc : Guarded False c c') (hf : ∀ a, Guarded owed (f a) (f' a)) :
    Guarded owed (c >>= f) (c' >>= f') :=
  (hc.bind_both hf).mono .inr

/-- A step that pays for what is owed before any other. -/
theorem bind_first (hc : Guarded owed c c') (hf : ∀ a, Guarded False (f a) (f' a)) :
    Guarded owed (c >>= f) (c' >>= f') :=
  (hc.bind_both hf).mono .inl

/-- A step that marks columns only if something is owed, before one that pays for it. -/
theorem marks {step : Compile Unit} {c c' : Unit → Compile α}
    (h : ∀ p q, step p = .ok () q → q.bound = p.bound ∧ (q.undefinedColumns ≠ p.undefinedColumns → owed))
    (rest : Guarded owed (c ()) (c' ())) : Guarded False (step >>= c) (step >>= c') := by
  intro p a r run
  change EStateM.bind step c' p = _ at run
  change ∃ vs, _ ∧ Guards _ p a r vs (EStateM.bind step c p)
  unfold EStateM.bind at run ⊢
  split at run
  next q first =>
    obtain ⟨bound, marked⟩ := h _ _ first
    obtain ⟨vs, bound', outcome⟩ := rest _ _ _ run
    refine ⟨vs, by rw [bound', bound], ?_⟩
    generalize c () q = s at outcome ⊢
    cases outcome with
    | refuses undefined kind => exact .refuses undefined kind
    | passes paid =>
      refine .passes fun some_ => some_.elim False.elim fun changed => ?_
      by_cases kept : q.undefinedColumns = p.undefinedColumns
      · exact paid (.inr (kept ▸ changed))
      · exact paid (.inl (marked kept))
  · cases run

/-- What each of some steps owes is owed by one of them. -/
protected theorem mapM {owed : α → Prop} {f f' : α → Compile β} {as : List α}
    (h : ∀ a ∈ as, Guarded (owed a) (f a) (f' a)) : Guarded (∃ a ∈ as, owed a) (as.mapM f) (as.mapM f') := by
  induction as with
  | nil => exact .of_not (by simp) (.pure [])
  | cons a as ih =>
    rw [List.mapM_cons, List.mapM_cons]
    have rest := ih fun b hb => h b (.tail _ hb)
    refine ((h a (.head _)).bind_both fun _ => rest.bind_first fun _ => .pure _).mono ?_
    simp

/-- Steps that owe nothing. -/
theorem mapM_free {f f' : α → Compile β} {as : List α} (h : ∀ a ∈ as, Guarded False (f a) (f' a)) :
    Guarded False (as.mapM f) (as.mapM f') :=
  (Guarded.mapM h).mono False.elim

protected theorem foldlM {f f' : β → α → Compile β} {as : List α}
    (h : ∀ b, ∀ a ∈ as, Guarded False (f b a) (f' b a)) (b : β) : Guarded False (as.foldlM f b) (as.foldlM f' b) := by
  induction as generalizing b with
  | nil => exact .pure b
  | cons a as ih =>
    rw [List.foldlM_cons, List.foldlM_cons]
    exact (h b a (.head _)).bind fun b => ih (fun b c hc => h b c (.tail _ hc)) b

protected theorem ite {P : Prop} [Decidable P] {d d' : Compile α} (yes : P → Guarded owed c c')
    (no : ¬ P → Guarded owed d d') : Guarded owed (if P then c else d) (if P then c' else d') := by
  split
  · exact yes ‹_›
  · exact no ‹_›

/-- A compilation that keeps its values to itself, before a step that binds those of its result. -/
theorem own {held : α → List Value} (h : Guarded False c c')
    (yields : ∀ p a q, c' p = .ok a q → q.bound = p.bound ++ held a)
    (rest : ∀ a, Guarded (Undefined (held a)) (f a) (f' a)) :
    Guarded False (ownBindings c >>= f) (ownBindings c' >>= f') := by
  intro p b r run
  change EStateM.bind (ownBindings c') f' p = _ at run
  change ∃ vs, _ ∧ Guards _ p b r vs (EStateM.bind (ownBindings c) f p)
  simp only [EStateM.bind, ownBindings] at run ⊢
  generalize inner : c' { p with bound := [] } = s at run
  cases s with
  | error e q => cases run
  | ok a q =>
    simp only at run
    obtain ⟨vs, bound, outcome⟩ := h _ _ _ inner
    have holds : vs = held a := by simpa using bound.symm.trans (yields _ _ _ inner)
    obtain ⟨ws, bound', outcome'⟩ := rest _ _ _ _ run
    refine ⟨ws, bound', ?_⟩
    have settles : Undefined vs → Undefined ws := fun some_ => outcome'.undefined (holds ▸ some_)
    generalize c { p with bound := [] } = s at outcome ⊢
    cases outcome with
    | refuses undefined kind => exact .refuses (settles undefined) kind
    | passes paid =>
      simp only
      generalize f a { q with bound := p.bound } = t at outcome' ⊢
      cases outcome' with
      | refuses undefined kind => exact .refuses undefined kind
      | passes paid' =>
        refine .passes fun some_ => some_.elim False.elim fun changed => ?_
        by_cases kept : q.undefinedColumns = p.undefinedColumns
        · exact paid' (.inr fun same => changed (same.trans kept))
        · exact settles (paid (.inr kept))

end Guarded

end SqlBuilder
