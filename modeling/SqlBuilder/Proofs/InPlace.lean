import SqlBuilder.Proofs.Places

/-!
# Callbacks in the place of queries

A callback in the place of a sub-query is run on a fresh query when the statement is rendered, and its
values are bound one by one among those of the statement; a query there is rendered by itself, and its
values are bound when it is complete. The two ways come to the same statement, wherever the sub-query
stands and however deep.

* `Likeness.exchanging`: a callback may stand for the query that it makes.
* `Query.compile_in_place`: the callback and the query give one statement, or one error.
-/

namespace SqlBuilder

open List (Forall₂)

namespace Likeness

/-- Two statements that are the same but for callbacks on one side in the place of the queries that they
make on the other. -/
def exchanging (env : Environment) (client : Client Value) : Likeness where
  env
  client
  value := Eq
  error := Eq
  piece _ := True
  char _ := True
  spaced := False
  writes := True
  freezes := True
  liberal := True
  exchanges := True

variable {env : Environment} {client : Client Value}

theorem exchanging_liberal (unhooked : client.wrapIdentifier = none) : (exchanging env client).Liberal where
  toSpeaks :=
    speaks_of_words _ (fun _ _ => trivial) False.elim False.elim fun _ _ _ _ _ => .inl trivial
  value_refl _ := rfl
  value_undefined h := congrArg _ h
  error_refl _ := rfl
  error_bounds h := h ▸ Iff.rfl
  words _ _ := trivial
  name _ := trivial
  integer _ := trivial
  param _ := trivial
  undefined := trivial
  stray _ _ := trivial
  mark _ := trivial
  markChars _ _ := trivial
  hook := .inl trivial
  unhooked _ := unhooked
  anyPiece _ _ := trivial
  anyChar _ _ := trivial
  unspaced _ := id
  liberal := trivial
  allowed := trivial
  freezes := trivial

/-- A callback of one chain makes the query that the chain puts together, at every level. -/
theorem exchanging_makes {D : Likeness} (law : D.Liberal) {chain : Chain} {made : Query Value}
    (built : D.env.built D.client chain = .ok { origin := made }) (n : Nat) :
    D.Makes (D.level n) [chain] made := by
  intro events
  refine ⟨made, ?_, (law.level_refl n).query made⟩
  have run := Environment.built_runQuery built (D.level n).outputs events
  change EStateM.bind (EStateM.bind ((Level.evaluator D (D.level n)).runQuery (Query.ofClient D.client) chain) _)
    _ events = _
  unfold EStateM.bind Level.evaluator
  rw [run]
  rfl

/-- Wherever a sub-query may stand, a callback and the query that it makes stand for each other. -/
theorem exchanging_interchangeable {D : Likeness} (law : D.Liberal) (allowed : D.exchanges) {chain : Chain}
    {made : Query Value} (built : D.env.built D.client chain = .ok { origin := made }) (n : Nat) :
    D.Interchangeable (D.level n) (.callback [chain]) (.query made) where
  argument := .makes allowed (exchanging_makes law built n)
  subquery := .makes allowed (exchanging_makes law built n)
  source := rfl
  source' := rfl
  raw := rfl
  present := nofun
  present' := nofun
  sequence := rfl
  sequence' := rfl
  single := rfl
  single' := rfl
  container := rfl
  container' := rfl
  undefined := rfl
  undefined' := rfl
  cast _ := rfl

end Likeness

/-- A query with a callback in the place of a sub-query compiles to the text and the values to which it
does with the query that the chain of the callback puts together on a fresh query, or both fail with one
error; and they report the same events. -/
theorem Query.compile_in_place {env : Environment} {place : Place} {chain : Chain} {made : Query Value}
    (unhooked : place.client.wrapIdentifier = none)
    (built : env.built place.client chain = .ok { origin := made }) :
    let inPlace := ((place.fill (.callback [chain])).compile env).outcome
    let apart := ((place.fill (.query made)).compile env).outcome
    inPlace.1.map (fun c => (c.sql, c.bindings)) = apart.1.map (fun c => (c.sql, c.bindings)) ∧
      inPlace.2 = apart.2 := by
  have law : (Likeness.exchanging env place.client).Liberal := Likeness.exchanging_liberal unhooked
  have like := law.place_like place (Likeness.exchanging_interchangeable law trivial built) nestingLimit
  have tandem := Likeness.Like.compile law.toLawful (place.fill_client _) (place.fill_client _) like {} {} ⟨rfl, rfl⟩
  intro inPlace apart
  simp only [inPlace, apart, Compile.outcome]
  change EndsAlike _ _ _ _ ((place.fill (.callback [chain])).compile env {})
    ((place.fill (.query made)).compile env {}) at tandem
  generalize (place.fill (.callback [chain])).compile env {} = r, (place.fill (.query made)).compile env {} = r'
    at tandem ⊢
  cases tandem with
  | ok agrees _ _ result =>
    obtain ⟨⟨a, a', frag, sql, sql', bindings, bindings'⟩, -, -⟩ := result
    have values : a.bindings = a'.bindings := List.forall₂_eq_eq_eq ▸ frag.bindings
    refine ⟨?_, agrees.events⟩
    simp only [Except.map]
    rw [sql, sql', bindings, bindings', frag.text, values]
  | error agrees error => exact ⟨by rw [show _ = _ from error], agrees.events⟩

/-- A membership test after a comparison, with a sub-query that binds a value of its own. -/
theorem Query.compile_in_place_membership :
    let client : Client Value := { dialect := .postgres }
    let env : Environment := { client }
    let chain : Chain := [
      { name := "select", arguments := [.scalar (.str "user_id")] },
      { name := "from_", arguments := [.scalar (.str "orders")] },
      { name := "where", arguments := [.scalar (.str "total"), .scalar (.str ">"), .scalar (.int 5)] }]
    let made := (((Query.ofClient client).select [.str "user_id"]).from_ (.str "orders")).addCondition
      .where_ .and false (.compare (.str "total") (.str ">") (.int 5))
    let place := Place.condition ((Query.ofClient client).from_ (.str "users")) .where_
      { before := [{ test := .compare (.str "active") (.str "=") (.bool true) }] }
      { test := .isNull (.str "id") } (.isIn (.str "id"))
    let inPlace := ((place.fill (.callback [chain])).compile env).outcome
    let apart := ((place.fill (.query made)).compile env).outcome
    place.client.wrapIdentifier = none ∧ env.built place.client chain = .ok { origin := made } ∧
      inPlace.1.map (fun c => (c.sql, c.bindings)) = apart.1.map (fun c => (c.sql, c.bindings)) ∧
        inPlace.2 = apart.2 := by
  intro client env chain made place
  have built : env.built place.client chain = .ok { origin := made } := rfl
  exact ⟨rfl, built, Query.compile_in_place rfl built⟩

end SqlBuilder
