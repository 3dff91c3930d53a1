import SqlBuilder.Proofs.Levels

/-!
# Compilations that succeed

A compilation that succeeds has taken all of its steps with success. So a compiled query is read back as
the rendering of its statement, and that as the renderings of its clauses.

* `Compile.bind_ok`, `Compile.mapM_ok` and their like: the steps of a compilation that succeeds.
* `Query.scope`: the scope in which the statement of a query is rendered.
* `Query.compile_body`: what a compiled query says about the rendering of its statement.
* `Compile.Renders`: a compilation that can have a result.
* `Scope.Shows`: an operand is rendered as a part of a fragment.
* `Scope.conditionClause_ok`: a clause of conditions shows each of them.
-/

namespace SqlBuilder

open List (Forall₂)

namespace Compile

variable {α β : Type} {p p' : Progress}

theorem bind_ok {c : Compile α} {f : α → Compile β} {b : β} :
    (c >>= f) p = .ok b p' ↔ ∃ a q, c p = .ok a q ∧ f a q = .ok b p' := by
  change EStateM.bind c f p = _ ↔ _
  unfold EStateM.bind
  cases c p with
  | ok a q => simp
  | error e q => simp

theorem pure_ok {a b : α} : (pure a : Compile α) p = .ok b p' ↔ a = b ∧ p = p' := by
  change EStateM.Result.ok a p = _ ↔ _
  simp

theorem throw_ok {e : Error} {b : α} : ¬ (throw e : Compile α) p = .ok b p' :=
  nofun

theorem ownColumns_ok {c : Compile α} {a : α} (run : SqlBuilder.ownColumns c p = .ok a p') :
    ∃ q q', c q = .ok a q' := by
  unfold SqlBuilder.ownColumns at run
  split at run
  next first =>
    cases run
    exact ⟨_, _, first⟩
  · cases run

/-- A compilation that can have a result. -/
def Renders (c : Compile α) (a : α) : Prop :=
  ∃ p p', c p = .ok a p'

theorem mapM_ok {f : α → Compile β} {as : List α} {bs : List β} (run : as.mapM f p = .ok bs p') :
    Forall₂ (fun a b => (f a).Renders b) as bs := by
  induction as generalizing p p' bs with
  | nil =>
    obtain ⟨rfl, -⟩ := pure_ok.mp run
    exact .nil
  | cons a as ih =>
    rw [List.mapM_cons] at run
    obtain ⟨b, q, first, run⟩ := bind_ok.mp run
    obtain ⟨rest, q', others, run⟩ := bind_ok.mp run
    obtain ⟨rfl, -⟩ := pure_ok.mp run
    exact .cons ⟨_, _, first⟩ (ih others)

/-- A compilation whose outcome is a result. -/
theorem outcome_ok {c : Compile α} {a : α} : c.outcome.1 = .ok a ↔ ∃ p, c {} = .ok a p := by
  unfold outcome
  cases c {} with
  | ok b p => simp
  | error e p => simp

end Compile

namespace Compile.Renders

variable {α β : Type}

theorem of_bind {c : Compile α} {f : α → Compile β} {b : β} (h : (c >>= f).Renders b) :
    ∃ a, c.Renders a ∧ (f a).Renders b := by
  obtain ⟨p, p', run⟩ := h
  obtain ⟨a, q, first, rest⟩ := bind_ok.mp run
  exact ⟨a, ⟨_, _, first⟩, _, _, rest⟩

theorem of_pure {a b : α} (h : (pure a : Compile α).Renders b) : b = a := by
  obtain ⟨p, p', run⟩ := h
  exact (pure_ok.mp run).1.symm

theorem not_throw {e : Error} {a : α} : ¬ (throw e : Compile α).Renders a := by
  rintro ⟨p, p', run⟩
  exact throw_ok run

theorem of_liftCompile {outcome : Except Error α} {a : α} (h : (liftCompile outcome).Renders a) :
    outcome = .ok a := by
  cases outcome with
  | ok b => rw [h.of_pure]
  | error e => exact absurd h not_throw

theorem of_mapM {f : α → Compile β} {as : List α} {bs : List β} (h : (as.mapM f).Renders bs) :
    Forall₂ (fun a b => (f a).Renders b) as bs := by
  obtain ⟨p, p', run⟩ := h
  exact mapM_ok run

/-- The results of steps that put something around what they render. -/
theorem of_mapM_around {γ : Type} {f : α → Compile β} {around : β → γ} {as : List α} {cs : List γ}
    (h : (as.mapM fun a => do return around (← f a)).Renders cs) :
    ∃ bs, Forall₂ (fun a b => (f a).Renders b) as bs ∧ cs = bs.map around := by
  have each := h.of_mapM
  clear h
  induction each with
  | nil => exact ⟨[], .nil, rfl⟩
  | cons first _ ih =>
    obtain ⟨b, rendered, result⟩ := first.of_bind
    obtain rfl := result.of_pure
    obtain ⟨bs, others, rfl⟩ := ih
    exact ⟨b :: bs, .cons rendered others, rfl⟩

end Compile.Renders

namespace Scope

variable {s : Scope}

/-- An operand is rendered as a part of a fragment; an object that does not count as present is no part of
it. -/
def Shows (s : Scope) (c : Compile Operand) (sql : Sql) : Prop :=
  ∃ operand part, c.Renders operand ∧ (s.spell operand.orNothing).Renders part ∧ part <:+: sql

theorem Shows.mono {c : Compile Operand} {part sql : Sql} (h : s.Shows c part) (inside : part <:+: sql) :
    s.Shows c sql := by
  obtain ⟨operand, own, rendered, spelled, shown⟩ := h
  exact ⟨operand, own, rendered, spelled, shown.trans inside⟩

theorem orNothing_of_present {o : Operand} (h : ¬ o.isBlank) : o.orNothing = o := by
  cases o with
  | sql part => rfl
  | object v =>
    have present : v.isTruthy = true := by simpa [Operand.isBlank] using h
    simp [Operand.orNothing, present]

/-- A condition stands after those before it. -/
theorem conjoin_ok {done sql : Sql} {c : Condition Value} {operand : Operand}
    (h : (s.conjoin done c operand).Renders sql) :
    done <+: sql ∧ ∃ part, (s.spell operand.orNothing).Renders part ∧ part <:+: sql := by
  unfold conjoin at h
  split at h
  · obtain ⟨part, spelled, result⟩ := h.of_bind
    obtain rfl := result.of_pure
    exact ⟨List.prefix_append .., part, spelled, List.suffix_append .. |>.isInfix⟩
  next present =>
    rw [orNothing_of_present present]
    split at h
    · obtain ⟨part, textual, result⟩ := h.of_bind
      obtain rfl := result.of_pure
      refine ⟨List.prefix_append .., part, ?_, List.suffix_append .. |>.isInfix⟩
      cases operand with
      | sql own => exact textual
      | object v => exact absurd textual Compile.Renders.not_throw
    · obtain ⟨word, -, rest⟩ := h.of_bind
      obtain ⟨part, spelled, result⟩ := rest.of_bind
      obtain rfl := result.of_pure
      refine ⟨?_, part, spelled, List.suffix_append .. |>.isInfix⟩
      simp only [List.append_assoc]
      exact List.prefix_append ..

/-- Conditions after others show each of them. -/
theorem conditions_ok {clause : ConditionClause} {cs : List (Condition Value)} {done sql : Sql}
    (h : (cs.foldlM (fun done c => do s.conjoin done c (← s.condition clause c)) done : Compile Sql).Renders sql) :
    done <+: sql ∧ ∀ c ∈ cs, s.Shows (s.condition clause c) sql := by
  induction cs generalizing done with
  | nil =>
    obtain rfl := h.of_pure
    exact ⟨List.prefix_rfl, by simp⟩
  | cons c cs ih =>
    rw [List.foldlM_cons] at h
    obtain ⟨next, step, rest⟩ := h.of_bind
    obtain ⟨operand, rendered, joined⟩ := step.of_bind
    obtain ⟨before, part, spelled, shown⟩ := conjoin_ok joined
    obtain ⟨kept, others⟩ := ih rest
    refine ⟨before.trans kept, List.forall_mem_cons.mpr ⟨?_, others⟩⟩
    exact ⟨operand, part, rendered, spelled, shown.trans kept.isInfix⟩

/-- A clause of conditions shows each of them. -/
theorem conditionClause_ok {clause : ConditionClause} {keyword : String} {cs : List (Condition Value)} {sql : Sql}
    (h : (s.conditionClause clause keyword cs).Renders sql) : ∀ c ∈ cs, s.Shows (s.condition clause c) sql := by
  obtain ⟨conditions, rendered, result⟩ := h.of_bind
  obtain rfl := result.of_pure
  intro c hc
  refine ((conditions_ok rendered).2 c hc).mono ?_
  unfold Sql.after
  split
  · exact List.infix_rfl
  · exact (List.suffix_append ..).isInfix

end Scope

/-- The scope in which the statement of a query is rendered. -/
def Query.scope (env : Environment) (q : Query Value) : Scope where
  env
  client := q.client
  context := q.context
  nested := .ofDepth env (nestingLimit - 1)

/-- A compiled query is a text. -/
theorem Query.compile_object {env : Environment} {q : Query Value} {p p' : Progress} {c : Compiled Value}
    (run : q.compile env p = .ok c p') : c.object = none := by
  obtain ⟨r, p₁, -, made⟩ := Compile.bind_ok.mp (Environment.settled_ok run)
  obtain ⟨rfl, -⟩ := Compile.pure_ok.mp made
  rfl

/-- A compiled query is the rendering of its statement, after its comments. -/
theorem Query.compile_body {env : Environment} {q : Query Value} {p p' : Progress} {c : Compiled Value}
    (run : q.compile env p = .ok c p') :
    ∃ body, ((q.scope env).body q.statement.method q.statement).Renders body ∧
      c.sql = (Scope.commented q.statement.comments body).text ∧ c.bindings = body.bindings := by
  obtain ⟨r, rendered, sql, bindings⟩ := Query.compile_ok run
  have statement : (q.scope env).statement q.statement.method q.statement p = .ok r p' := rendered
  obtain ⟨checked, q₁, own, result⟩ := Compile.bind_ok.mp statement
  obtain ⟨rfl, -⟩ := Compile.pure_ok.mp result
  obtain ⟨p₁, p₂, check⟩ := Compile.ownColumns_ok own
  obtain ⟨body, p₃, rendered, check⟩ := Compile.bind_ok.mp check
  obtain ⟨progress, p₄, -, check⟩ := Compile.bind_ok.mp check
  refine ⟨body, ⟨_, _, rendered⟩, ?_⟩
  simp only at check
  split at check
  · obtain ⟨_, _, -, check⟩ := Compile.bind_ok.mp check
    obtain ⟨_, _, thrown, -⟩ := Compile.bind_ok.mp check
    exact absurd thrown Compile.throw_ok
  · obtain ⟨rfl, -⟩ := Compile.pure_ok.mp check
    exact ⟨sql, by rw [bindings, Likeness.Setting.bindings_commented]⟩

end SqlBuilder
