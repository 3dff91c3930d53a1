import SqlBuilder.Proofs.Mutations

/-!
# Calls on stored queries

A call on a query in a memory makes what it makes of the query that is read there, and leaves it where the query
was. Queries that were there before keep what they read as, but for the one that the chain of calls was made on:
the chain may move on to other queries, and these are new.

* `StoredCursor.Mirrors`: a call on a query in the memory is one on the query that is read.
* `StoredCursor.call_mirrors`: so it is if no two queries share what is changed in place.
* `StoredCursor.Stays`: what a chain of calls leaves as it was.
* `StoredCursor.call_leaves`, `Session.callQuery_stays`: every call keeps to that, and so does a chain of calls.
-/

namespace SqlBuilder

open Mutation (Cover Completes)

/-! ## What a call makes of a query -/

/-- The call for a copy of a query. -/
theorem Query.call_clone (a : Arguments) : Query.call "clone" a = QueryCall.copy a := by
  simp [Query.call, Query.calls]

theorem Query.call_clone_ok {a : Arguments} {q q' : Query Value} {r : QueryStep}
    (run : Query.call "clone" a q = .ok r q') : r = .copy := by
  rw [Query.call_clone] at run
  obtain ⟨_, _, -, ⟨⟩⟩ := Build.bind_ok.mp run
  rfl

theorem Value.call_clone (v w : Value) (a : Arguments) : v.call "clone" a ≠ .ok w := by
  unfold Value.call
  split
  · simp_all
  · simp_all
  · exact nofun
  · exact nofun

namespace QueryCursor

variable {callbacks : Callbacks} {outputs : Outputs} {name : String} {a : Arguments} {q : Query Value}
  {stage : QueryStage} {events : List LogEvent} {m : Making QueryCursor}

@[simp] theorem origin_moveTo (v : Value) (c : QueryCursor) : (c.moveTo v).origin = c.origin := by
  unfold moveTo
  split <;> rfl

/-- What to do about conflicts is assigned to the query, and the chain stays where it is. -/
theorem conflictCall_ok {columns : List Value}
    (run : conflictCall columns name a { object := { origin := q, stage }, events } = .ok () m) :
    Cover ((QueryStage.conflict columns).mutations name a) q m.object.origin ∧ m.object.copy = none := by
  unfold conflictCall at run
  split at run
  · obtain ⟨_, m₁, given, ⟨⟩⟩ := Build.bind_ok.mp run
    obtain ⟨-, rfl⟩ := Mutation.outcome_ok given
    exact ⟨rfl, rfl⟩
  · obtain ⟨b, m₁, given, ⟨⟩⟩ := Build.bind_ok.mp run
    obtain ⟨-, rfl⟩ := Mutation.outcome_ok given
    exact ⟨rfl, rfl⟩
  · cases run

/-- A call changes what its method writes, and the copy that it moves on to is one of what it made. -/
theorem call_ok_covered
    (run : QueryCursor.call callbacks outputs none name a { object := { origin := q, stage }, events } = .ok () m) :
    Cover (stage.mutations name a) q m.object.origin ∧
      (name = "clone" → ∀ q' ∈ m.object.copy, q' = m.object.origin) := by
  have unmoved {c : QueryCursor} (stays : c.copy = none) : name = "clone" → ∀ q' ∈ c.copy, q' = c.origin := by
    simp [stays]
  unfold QueryCursor.call at run
  rw [get_then] at run
  cases stage with
  | value v =>
    obtain ⟨w, m₁, called, ⟨⟩⟩ := Build.bind_ok.mp run
    obtain ⟨given, rfl⟩ := Mutation.outcome_ok called
    refine ⟨?_, fun cloned => absurd (cloned ▸ given) (Value.call_clone v w a)⟩
    change Cover [] q (moveTo w _).origin
    rw [origin_moveTo]
    rfl
  | conflict columns =>
    obtain ⟨covers, stays⟩ := conflictCall_ok run
    exact ⟨covers, unmoved stays⟩
  | builder =>
    obtain ⟨r, m₁, called, rest⟩ := Build.bind_ok.mp run
    obtain ⟨q', done, rfl⟩ := onCurrent_ok.mp called
    obtain ⟨covers, completes⟩ := (Mutation.call_covered (q := q)).1 r done
    have of_clone (cloned : name = "clone") : r = .copy := Query.call_clone_ok (cloned ▸ done)
    cases r with
    | stay =>
      cases rest
      exact ⟨covers, unmoved rfl⟩
    | copy =>
      cases rest
      refine ⟨covers, fun _ q' moved => ?_⟩
      cases moved
      rfl
    | conflict columns =>
      cases rest
      exact ⟨covers, unmoved rfl⟩
    | value v =>
      cases rest
      refine ⟨?_, fun cloned => nomatch of_clone cloned⟩
      change Cover _ q (moveTo v _).origin
      rwa [origin_moveTo]
    | join chains j =>
      obtain ⟨j', m₂, made, ⟨⟩⟩ := Build.bind_ok.mp rest
      obtain ⟨events', -, rfl⟩ := ofLogged_ok.mp made
      exact ⟨completes j', unmoved rfl⟩
    | window chains w =>
      obtain ⟨w', m₂, made, ⟨⟩⟩ := Build.bind_ok.mp rest
      obtain ⟨events', -, rfl⟩ := ofLogged_ok.mp made
      exact ⟨completes w', unmoved rfl⟩
    | output form =>
      obtain ⟨m₂, m₃, ⟨⟩, rest⟩ := Build.bind_ok.mp rest
      obtain ⟨v, m₄, made, ⟨⟩⟩ := Build.bind_ok.mp rest
      obtain ⟨events', -, rfl⟩ := ofLogged_ok.mp made
      refine ⟨?_, fun cloned => nomatch of_clone cloned⟩
      change Cover _ q (moveTo v _).origin
      rwa [origin_moveTo]
    | unknown => cases rest

/-- A call that fails changes in place only what its method writes, and moves nowhere. -/
theorem call_error_covered {e : Error}
    (run : QueryCursor.call callbacks outputs none name a { object := { origin := q, stage }, events } = .error e m) :
    Cover ((stage.mutations name a).filter Mutation.inPlace) q m.object.origin ∧ m.object.copy = none ∧
      m.object.stage = stage := by
  unfold QueryCursor.call at run
  rw [get_then] at run
  cases stage with
  | value v =>
    obtain rfl | ⟨_, _, ⟨⟩⟩ := QueryCall.error_of_outcome run
    exact ⟨rfl, rfl, rfl⟩
  | conflict columns =>
    cases conflictCall_error run
    exact ⟨rfl, rfl, rfl⟩
  | builder =>
    obtain failed | ⟨r, m₁, called, failed⟩ := Build.bind_error.mp run
    · obtain ⟨q', refused, left⟩ := onCurrent_error.mp failed
      subst left
      exact ⟨Mutation.call_covered.2 e refused, rfl, rfl⟩
    · have kept : Cover ((Mutation.ofMethod name a).filter Mutation.inPlace) q q := Mutation.cover_inPlace _
      obtain rfl | rfl := onCurrent_pending called
      · cases failed
      have unchanged (same : m.object = { origin := q }) :
          Cover ((Mutation.ofMethod name a).filter Mutation.inPlace) q m.object.origin ∧
            m.object.copy = none ∧ m.object.stage = .builder := by
        rw [same]
        exact ⟨kept, rfl, rfl⟩
      -- the call itself left the query as it was, and what is still to be done fails
      cases r with
      | stay | copy | conflict columns | value v => cases failed
      | join chains j => exact unchanged (ofLogged_object failed)
      | window chains w => exact unchanged (ofLogged_object failed)
      | output form => exact unchanged (ofLogged_object failed)
      | unknown =>
        cases failed
        exact unchanged rfl

end QueryCursor

/-! ## Calls on queries in a memory -/

namespace StoredCursor

variable {callbacks : Callbacks} {outputs : Outputs} {name : String} {a : Arguments} {c : StoredCursor}
  {made : QueryCursor} {es : List Mutation}

/-- The place of a chain on a query alone. -/
def settled (made : QueryCursor) : QueryCursor :=
  { origin := made.current, stage := made.stage }

theorem write_none (stays : made.copy = none) : c.write name es made =
    { memory := c.memory.writeAll c.query made.origin es, query := c.query, stage := made.stage } := by
  unfold write
  rw [stays]

variable (name c es) in
theorem write_some {q : Query Value} (moves : made.copy = some q) : ∃ moved,
    c.write name es made = { memory := moved.2, query := moved.1, stage := made.stage } ∧
      moved = if name = "clone" then (c.memory.writeAll c.query made.origin es).clone c.query
        else (c.memory.writeAll c.query made.origin es).ofQuery q := by
  unfold write
  rw [moves]
  exact ⟨_, rfl, rfl⟩

/-- What a call made of a query, as it is written back: the query reads as what the call made of it, and so does the
query that the call moved on to. -/
theorem write_reads (owned : c.memory.Owned) (given : c.memory.Has c.query)
    (covers : Cover es (c.memory.query c.query) made.origin)
    (copied : name = "clone" → ∀ q ∈ made.copy, q = made.origin) :
    (c.write name es made).read = settled made ∧ (c.write name es made).memory.query c.query = made.origin := by
  have works : Memory.Works c.query c.memory (c.memory.writeAll c.query made.origin es) :=
    (Memory.Works.refl (owned.holds given)).writeAll _ _
  have reads : (c.memory.writeAll c.query made.origin es).query c.query = made.origin :=
    (Memory.query_writeAll es).trans covers
  unfold settled QueryCursor.current
  cases moves : made.copy with
  | none => exact ⟨by rw [write_none moves, read, reads, Option.getD_none], by rw [write_none moves, reads]⟩
  | some q =>
    obtain ⟨moved, write, is⟩ := write_some name c es moves
    rw [write, read, Option.getD_some]
    by_cases cloned : name = "clone"
    · rw [if_pos cloned] at is
      obtain ⟨creates, same⟩ := Memory.clone_creates works.holds
      rw [← is] at creates same
      rw [copied cloned q moves]
      exact ⟨by rw [same, reads], (creates.query works.holds).1.trans reads⟩
    · rw [if_neg cloned] at is
      obtain ⟨creates, same⟩ := Memory.ofQuery_creates (c.memory.writeAll c.query made.origin es) q
      rw [← is] at creates same
      exact ⟨by rw [same], (creates.query works.holds).1.trans reads⟩

/-- What a call leaves of a stored query, and what a call leaves of a query alone: the stored query reads as what the
other call made of its query, and both calls moved on to the same. -/
structure Reads (c : StoredCursor) (m : Making StoredCursor) (made : Making QueryCursor) : Prop where
  events : m.events = made.events
  place : m.object.read = settled made.object
  origin : m.object.memory.query c.query = made.object.origin

/-- A call on a stored query comes out as it does on a query alone, and leaves the same. -/
def Mirrors (callbacks : Callbacks) (outputs : Outputs) (name : String) (a : Arguments) (c : StoredCursor)
    (q : QueryCursor) : Prop :=
  ∀ events, match call callbacks outputs name a { object := c, events },
      QueryCursor.call callbacks outputs none name a { object := q, events } with
    | .ok _ m, .ok _ made => Reads c m made
    | .error e m, .error e' made => e = e' ∧ Reads c m made
    | _, _ => False

/-- A call on a stored query is the call on what the query reads as. -/
theorem call_mirrors (owned : c.memory.Owned) (given : c.memory.Has c.query) :
    Mirrors callbacks outputs name a c c.read := by
  intro events
  unfold call
  dsimp only
  cases run : QueryCursor.call callbacks outputs none name a { object := c.read, events } with
  | ok _ made =>
    obtain ⟨covers, copied⟩ := QueryCursor.call_ok_covered run
    obtain ⟨place, origin⟩ := write_reads owned given covers copied
    exact ⟨rfl, place, origin⟩
  | error e made =>
    obtain ⟨covers, stays, -⟩ := QueryCursor.call_error_covered run
    obtain ⟨place, origin⟩ := write_reads owned given covers fun _ q moved => nomatch stays ▸ moved
    exact ⟨rfl, rfl, place, origin⟩

end StoredCursor

/-! ## Chains -/

/-- What a step leaves of an object with a property has the property, whether the step fails or not. -/
def Make.Leaves {σ α : Type} (I : σ → Prop) (step : Make σ α) : Prop :=
  ∀ m, I m.object → (∀ a m', step m = .ok a m' → I m'.object) ∧ ∀ e m', step m = .error e m' → I m'.object

namespace Make.Leaves

variable {σ α β : Type} {I : σ → Prop}

protected theorem pure (a : α) : Leaves I (pure a) := by
  refine fun m holds => ⟨?_, nofun⟩
  rintro _ _ ⟨⟩
  exact holds

protected theorem throw (e : Error) : Leaves I (throw e : Make σ α) := by
  refine fun m holds => ⟨nofun, ?_⟩
  rintro _ _ ⟨⟩
  exact holds

protected theorem bind {step : Make σ β} {f : β → Make σ α} (h : Leaves I step) (h' : ∀ b, Leaves I (f b)) :
    Leaves I (step >>= f) := by
  refine fun m holds => ⟨fun a m' run => ?_, fun e m' run => ?_⟩
  · obtain ⟨b, m₁, first, rest⟩ := Build.bind_ok.mp run
    exact (h' b m₁ ((h m holds).1 b m₁ first)).1 a m' rest
  · obtain failed | ⟨b, m₁, first, failed⟩ := Build.bind_error.mp run
    · exact (h m holds).2 e m' failed
    · exact (h' b m₁ ((h m holds).1 b m₁ first)).2 e m' failed

/-- A step that looks at the object first. -/
theorem of_get {f : Making σ → Make σ α} (h : ∀ m, Leaves I (f m)) : Leaves I (get >>= f) :=
  fun m holds => h m m holds

theorem ofLogged (step : Logged α) : Leaves I (Make.ofLogged step) := by
  refine fun m holds => ⟨fun a m' run => ?_, fun e m' run => ?_⟩ <;>
  · unfold Make.ofLogged at run
    split at run <;> cases run
    exact holds

end Make.Leaves

/-- The place where a chain of calls on a query stands is on that query or on a newer one, and the queries that were
there before are as they were, but for that one. -/
structure StoredCursor.Stays (m : Memory) (b : Ref .query) (c : StoredCursor) : Prop where
  owned : c.memory.Owned
  given : c.memory.Has c.query
  grows : m.next .query ≤ c.memory.next .query
  own : c.query = b ∨ m.next .query ≤ c.query.index
  kept : ∀ b', m.Has b' → b' ≠ b → c.memory.query b' = m.query b'

namespace StoredCursor

variable {m : Memory} {b : Ref .query} {c : StoredCursor}

theorem stays_start (owned : m.Owned) (given : m.Has b) (stage : QueryStage) :
    Stays m b { memory := m, query := b, stage } where
  owned := owned
  given := given
  grows := Nat.le_refl _
  own := .inl rfl
  kept _ _ _ := rfl

namespace Stays

/-- What a call writes back. -/
theorem write (h : Stays m b c) (name : String) (es : List Mutation) (made : QueryCursor) :
    Stays m b (c.write name es made) := by
  have works : Memory.Works c.query c.memory (c.memory.writeAll c.query made.origin es) :=
    (Memory.Works.refl (h.owned.holds h.given)).writeAll _ _
  obtain ⟨owned, others⟩ := h.owned.works h.given works
  have still {b' : Ref .query} (given : m.Has b') : c.memory.Has b' := Nat.lt_of_lt_of_le given h.grows
  have kept (b' : Ref .query) (given : m.Has b') (other : b' ≠ b) :
      (c.memory.writeAll c.query made.origin es).query b' = m.query b' := by
    have apart : b' ≠ c.query := by
      rintro rfl
      exact h.own.elim other fun newer => absurd given (Nat.not_lt.mpr newer)
    exact (others b' (still given) apart).trans (h.kept b' given other)
  have grows : m.next .query ≤ (c.memory.writeAll c.query made.origin es).next .query := works.queries ▸ h.grows
  cases moves : made.copy with
  | none =>
    rw [write_none moves]
    exact ⟨owned, works.holds (k := .query) _ rfl, grows, h.own, kept⟩
  | some q =>
    obtain ⟨moved, write, is⟩ := write_some name c es moves
    have creates : Memory.Creates (c.memory.writeAll c.query made.origin es) moved.1 moved.2 := by
      rw [is]
      split
      · exact (Memory.clone_creates works.holds).1
      · exact (Memory.ofQuery_creates _ q).1
    obtain ⟨owned', given', others'⟩ := owned.creates creates
    rw [write]
    refine ⟨owned', given', Nat.le_trans grows (creates.grows _), .inr (creates.index ▸ grows), ?_⟩
    intro b' given other
    exact (others' b' (Nat.lt_of_lt_of_le given grows)).2.trans (kept b' given other)

end Stays

theorem call_leaves (callbacks : Callbacks) (outputs : Outputs) (name : String) (a : Arguments) :
    Make.Leaves (Stays m b) (call callbacks outputs name a) := by
  refine fun making holds => ⟨fun x m' run => ?_, fun e m' run => ?_⟩ <;>
  · unfold call at run
    dsimp only at run
    split at run <;> cases run
    exact holds.write _ _ _

variable {arguments : Memory → Call Term → Logged Arguments} {call : String → Arguments → Make StoredCursor Unit}

theorem calls_leaves (h : ∀ name a, Make.Leaves (Stays m b) (call name a)) (chain : Chain) :
    Make.Leaves (Stays m b) (calls arguments call chain) := by
  induction chain with
  | nil => exact .pure ()
  | cons c chain ih => exact .of_get fun _ => .bind (.ofLogged _) fun a => .bind (h _ a) fun _ => ih

theorem extension_leaves (h : ∀ name a, Make.Leaves (Stays m b) (call name a)) (chain : Chain) (a : Arguments) :
    Make.Leaves (Stays m b) (extension arguments call chain a) := by
  cases chain with
  | nil =>
    unfold extension
    dsimp only
    split
    · exact .pure ()
    · exact .bind (.throw _) fun _ => .pure ()
  | cons c rest =>
    have calls (c : Call Term) : Make.Leaves (Stays m b) (do
        let own ← Make.ofLogged (arguments (← get).object.memory c)
        call c.name { own with positional := own.positional ++ a.positional }
        calls arguments call rest) :=
      .of_get fun _ => .bind (.ofLogged _) fun own => .bind (h _ _) fun _ => calls_leaves h rest
    unfold extension
    dsimp only
    split
    · exact calls c
    · exact .bind (.throw _) fun _ => calls c

end StoredCursor

namespace Session

variable {m : Memory} {b : Ref .query}

theorem call_leaves (s : Session) (n : Nat) (name : String) (a : Arguments) :
    Make.Leaves (StoredCursor.Stays m b) (s.call n name a) := by
  induction n generalizing name a with
  | zero => exact .throw _
  | succ n ih =>
    refine .of_get fun making => ?_
    dsimp only
    split
    · exact StoredCursor.extension_leaves ih _ a
    · exact StoredCursor.call_leaves _ _ name a

theorem chain_leaves (s : Session) (chain : Chain) : Make.Leaves (StoredCursor.Stays m b) (s.chain chain) :=
  StoredCursor.calls_leaves (s.call_leaves nestingLimit) chain

/-- Calls on a stored query, whether they succeed or not. -/
theorem callQuery_stays {s : Session} {b' : Ref .query} {stage : QueryStage}
    (h : StoredCursor.Stays m b { memory := s.memory, query := b', stage }) (chain : Chain) :
    StoredCursor.Stays m b (s.callQuery b' stage chain).2 := by
  have leaves := s.chain_leaves (m := m) (b := b) chain { object := { memory := s.memory, query := b', stage } } h
  unfold Session.callQuery
  split
  next run => exact leaves.1 _ _ run
  next run => exact leaves.2 _ _ run

end Session

end SqlBuilder
