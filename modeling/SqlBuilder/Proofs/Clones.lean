import SqlBuilder.Proofs.ConfinedLevels
import SqlBuilder.Proofs.Sessions

/-!
# Clones

A clone of a stored query has containers of its own for all that calls change in place, and shares the rest with
the query. So calls on the clone leave what the query compiles to as it was, and calls on the query leave what the
clone compiles to as it was, unless the query can reach itself. The same holds of what such calls end in: a choice
of what to do about conflicts may be kept and made later.

* `Use`: a chain of calls on a query, or on what an earlier chain ended in; `Session.useAll`: uses in sequence.
* `Session.Spares`: what the uses of a query leave as it was, and `Spares.useAll`: no use changes another query.
* `Session.clone_independent`: a query and its clone do not change each other.
-/

namespace SqlBuilder

/-! ## Changes outside of a region -/

namespace Region

variable {R : Region} {env env' : Environment}

/-- A region stays closed when a store changes outside of it. -/
theorem Closed.of_agrees (closed : R.Closed env) (agrees : R.Agrees env env') : R.Closed env' where
  object id state stored inside := closed.object id state (agrees.object id inside ▸ stored) inside
  name name v bound inside := closed.name name v (agrees.name name inside ▸ bound) inside
  method name calls found inside := closed.method name calls (agrees.method name inside ▸ found) inside

end Region

/-! ## Uses of a query -/

/-- A chain of calls on a query, or on what an earlier chain ended in. -/
structure Use where
  place : Nat := 0
  calls : Chain

namespace Session

/-- Makes the calls of a use. The first place is the query; where a chain ends, there is one more place. -/
def use (s : Session) (places : List (Ref .query × QueryStage)) (u : Use) :
    Session × List (Ref .query × QueryStage) :=
  match places[u.place]? with
  | none => (s, places)
  | some (b, stage) =>
    match s.callQuery b stage u.calls with
    | (.ok _, c) => ({ s with memory := c.memory }, places ++ [(c.query, c.stage)])
    | (.error _, c) => ({ s with memory := c.memory }, places)

/-- Makes the calls of all uses of a query, each after the other; what they did before one failed is kept. -/
def useAll (s : Session) (b : Ref .query) (uses : List Use) : Session :=
  (uses.foldl (fun (s, places) u => s.use places u) (s, [(b, .builder)])).1

/-- What the uses of a query spare: all but what is stored of that query, and what is newer. -/
structure Spares (s : Session) (b : Ref .query) (s' : Session) (places : List (Ref .query × QueryStage)) :
    Prop where
  same : s' = { s with memory := s'.memory }
  owned : s'.memory.Owned
  grows : s.memory.next .query ≤ s'.memory.next .query
  own : ∀ p ∈ places, s'.memory.Has p.1 ∧ (p.1 = b ∨ s.memory.next .query ≤ p.1.index)
  kept : ∀ b', s.memory.Has b' → b' ≠ b → s'.memory.query b' = s.memory.query b'

namespace Spares

variable {s s' : Session} {b : Ref .query} {places : List (Ref .query × QueryStage)}

theorem start (owned : s.memory.Owned) (given : s.memory.Has b) : s.Spares b s [(b, .builder)] where
  same := rfl
  owned := owned
  grows := Nat.le_refl _
  own p mem := by
    obtain rfl := List.mem_singleton.mp mem
    exact ⟨given, .inl rfl⟩
  kept _ _ _ := rfl

/-- A use changes no other query. -/
theorem use (h : s.Spares b s' places) (u : Use) : s.Spares b (s'.use places u).1 (s'.use places u).2 := by
  unfold Session.use
  split
  · exact h
  next b' stage found =>
    obtain ⟨given, own⟩ := h.own _ (List.mem_of_getElem? found)
    -- the chain is one on what came of the query, and one on the query of its place
    have stays : StoredCursor.Stays s.memory b (s'.callQuery b' stage u.calls).2 :=
      callQuery_stays ⟨h.owned, given, h.grows, own, h.kept⟩ u.calls
    have grows := (callQuery_stays (StoredCursor.stays_start h.owned given stage) u.calls).grows
    have places_own (p : Ref .query × QueryStage) (mem : p ∈ places) :
        (s'.callQuery b' stage u.calls).2.memory.Has p.1 ∧ (p.1 = b ∨ s.memory.next .query ≤ p.1.index) :=
      ⟨Nat.lt_of_lt_of_le (h.own p mem).1 grows, (h.own p mem).2⟩
    have same (memory : Memory) : { s' with memory } = { s with memory } := by rw [h.same]
    split
    next c run =>
      rw [run] at stays places_own
      refine ⟨same _, stays.owned, stays.grows, fun p mem => ?_, stays.kept⟩
      obtain old | new := List.mem_append.mp mem
      · exact places_own p old
      · obtain rfl := List.mem_singleton.mp new
        exact ⟨stays.given, stays.own⟩
    next c run =>
      rw [run] at stays places_own
      exact ⟨same _, stays.owned, stays.grows, places_own, stays.kept⟩

/-- No use changes another query. -/
theorem useAll (owned : s.memory.Owned) (given : s.memory.Has b) (uses : List Use) :
    ∃ places, s.Spares b (s.useAll b uses) places := by
  have each {s' : Session} {places : List (Ref .query × QueryStage)} (h : s.Spares b s' places) :
      ∃ places', s.Spares b (uses.foldl (fun (s, places) u => s.use places u) (s', places)).1 places' := by
    induction uses generalizing s' places with
    | nil => exact ⟨places, h⟩
    | cons u uses ih => exact ih (h.use u)
  exact each (.start owned given)

end Spares

/-! ## Independence -/

variable {s s' : Session} {id : Nat} {b : Ref .query} {R : Region} {places : List (Ref .query × QueryStage)}

/-- What terms see of a stored query. -/
theorem env_object (held : s.Stores id b) : s.env.objects[id]? = some (.query (s.memory.query b)) := by
  change (s.objects.map s.stateOf)[id]? = _
  rw [List.getElem?_map, held]
  rfl

/-- What a stored query compiles to. -/
theorem compiled_query (held : s.Stores id b) :
    s.compiled? (.shared ⟨id, .query⟩) = some ((s.memory.query b).compile s.env) := by
  have state : s.env.object? ⟨id, .query⟩ = some (.query (s.memory.query b)) := env_object held
  simp [compiled?, Environment.query?, state]

/-- A region is the same in sessions that differ in their memories only, if its objects are in the same states. -/
theorem agrees_of_memory (memory : Memory)
    (same : ∀ id b, R.object id → s.Stores id b → memory.query b = s.memory.query b) :
    R.Agrees s.env { s with memory }.env where
  registry := rfl
  client := rfl
  object id inside := by
    change (s.objects.map _)[id]? = (s.objects.map _)[id]?
    rw [List.getElem?_map, List.getElem?_map]
    cases held : s.objects[id]? with
    | none => rfl
    | some object =>
      cases object with
      | query b => exact congrArg (fun q => some (SharedState.query q)) (same id b inside held)
      | raw r => rfl
  name _ _ := rfl
  method _ _ := rfl

/-- The uses of a query leave a region without it as it was. -/
theorem Spares.agrees (h : s.Spares b s' places) (sound : s.Sound) (held : s.Stores id b) (outside : ¬ R.object id) :
    R.Agrees s.env s'.env := by
  rw [h.same]
  refine agrees_of_memory _ fun id' b' inside held' => h.kept b' (sound.given held') ?_
  rintro rfl
  exact outside (sound.apart held held' ▸ inside)

/-- The uses of a query outside of a closed region leave what a query in the region compiles to as it was. -/
theorem compiled_useAll {id' : Nat} {b' : Ref .query} (sound : s.Sound) (called : s.Stores id b)
    (held : s.Stores id' b') (apart : b' ≠ b) (closed : R.Closed s.env) (inside : R.query (s.memory.query b'))
    (outside : ¬ R.object id) (uses : List Use) :
    (s.useAll b uses).compiled? (.shared ⟨id', .query⟩) = s.compiled? (.shared ⟨id', .query⟩) := by
  obtain ⟨places, spares⟩ := Spares.useAll sound.owned (sound.given called) uses
  have held' : (s.useAll b uses).Stores id' b' := by
    unfold Stores
    rw [spares.same]
    exact held
  have query : (s.useAll b uses).memory.query b' = s.memory.query b' := spares.kept b' (sound.given held) apart
  rw [compiled_query held', compiled_query held, query,
    Query.compile_eq closed (spares.agrees sound called outside) inside]

/-- A clone is a new object, and leaves a region of the objects that are there as it was. -/
theorem agrees_clone (sound : s.Sound) (held : s.Stores id b) (stored : ∀ id, R.object id → id < s.objects.length) :
    R.Agrees s.env (s.clone b).env := by
  have made := (Memory.clone_creates (sound.owned.holds (sound.given held))).1
  have memory : R.Agrees s.env { s with memory := (s.memory.clone b).2 }.env :=
    agrees_of_memory _ fun id b' _ held' => ((sound.owned.creates made).2.2 b' (sound.given held')).2
  refine ⟨rfl, rfl, fun id inside => ?_, fun _ _ => rfl, fun _ _ => rfl⟩
  rw [← memory.object id inside]
  change ((s.objects ++ _).map _)[id]? = (s.objects.map _)[id]?
  rw [List.map_append, List.getElem?_append_left (by simpa using stored id inside)]
  rfl

/-- In every session, a clone of a stored query compiles to what the query compiles to, and a call makes of it what the
call makes of the query; and no sequence of uses of the one, choices about conflicts that are made later included,
changes what the other compiles to, whether its calls succeed or not. The query may refer to other stored objects in
any way, but it does not reach itself. -/
theorem clone_independent {registry : Registry} {client : Client Value} {steps : List Step}
    (reached : s = after registry client steps) (held : s.Stores id b)
    (acyclic : ¬ (s.env.reach (s.memory.query b)).object id)
    (stored : ∀ id', (s.env.reach (s.memory.query b)).object id' → id' < s.objects.length) :
    ∃ c, (s.clone b).Stores s.objects.length c ∧
      (s.clone b).compiled? (.shared ⟨id, .query⟩) = s.compiled? (.shared ⟨id, .query⟩) ∧
      (s.clone b).compiled? (.shared ⟨s.objects.length, .query⟩) = s.compiled? (.shared ⟨id, .query⟩) ∧
      (∀ callbacks outputs name a, StoredCursor.Mirrors callbacks outputs name a
        { memory := (s.clone b).memory, query := c } { origin := s.memory.query b }) ∧
      ∀ uses : List Use,
        ((s.clone b).useAll c uses).compiled? (.shared ⟨id, .query⟩) = s.compiled? (.shared ⟨id, .query⟩) ∧
        ((s.clone b).useAll b uses).compiled? (.shared ⟨s.objects.length, .query⟩) =
          s.compiled? (.shared ⟨id, .query⟩) := by
  have sound : s.Sound := reached ▸ sound_after registry client steps
  obtain ⟨closed, inside⟩ := Environment.reach_closed acyclic
  have given := sound.given held
  obtain ⟨made, reads⟩ := Memory.clone_creates (sound.owned.holds given)
  obtain ⟨apart, kept⟩ := (sound.owned.creates made).2.2 b given
  have sound' : (s.clone b).Sound := sound.clone held
  have heldB : (s.clone b).Stores id b :=
    (List.getElem?_append_left (List.getElem?_eq_some_iff.mp held).1).trans held
  have heldC : (s.clone b).Stores s.objects.length (s.memory.clone b).1 := by
    simp [Stores, clone, share]
  -- what the query reaches is the same after the clone is stored, and the clone is not in it
  have agrees := agrees_clone sound held stored
  have closed' := closed.of_agrees agrees
  have compile := Query.compile_eq closed agrees inside
  have compiledB : (s.clone b).compiled? (.shared ⟨id, .query⟩) = s.compiled? (.shared ⟨id, .query⟩) := by
    rw [compiled_query heldB, compiled_query held, ← compile]
    exact congrArg (fun q => some (Query.compile (s.clone b).env q)) kept
  have compiledC : (s.clone b).compiled? (.shared ⟨s.objects.length, .query⟩) = s.compiled? (.shared ⟨id, .query⟩) := by
    rw [compiled_query heldC, compiled_query held, ← compile]
    exact congrArg (fun q => some (Query.compile (s.clone b).env q)) reads
  refine ⟨_, heldC, compiledB, compiledC, fun callbacks outputs name a => ?_, fun uses => ⟨?_, ?_⟩⟩
  · rw [← reads]
    exact StoredCursor.call_mirrors sound'.owned (sound'.given heldC)
  · rw [compiled_useAll sound' heldC heldB apart closed' (kept.symm ▸ inside) (fun reached => (stored _ reached).false)
      uses, compiledB]
  · rw [compiled_useAll sound' heldB heldC apart.symm closed' (reads.symm ▸ inside) acyclic uses, compiledC]

/-- A query that compares with another stored one, and a clone of it. -/
theorem clone_independent_nested :
    let client : Client Value := { dialect := .postgres }
    let text (s : String) : Term := .scalar (.str s)
    let steps : List Step := [.new "a" (some (text "users")) [],
      .new "b" (some (text "orders")) [⟨"where_in", [text "user", .variable_ "a"], []⟩]]
    let s := after .builtin client steps
    ∃ b, s.Stores 1 b ∧
      ∃ c, (s.clone b).Stores 2 c ∧
        (s.clone b).compiled? (.shared ⟨1, .query⟩) = s.compiled? (.shared ⟨1, .query⟩) ∧
        (s.clone b).compiled? (.shared ⟨2, .query⟩) = s.compiled? (.shared ⟨1, .query⟩) ∧
        (∀ callbacks outputs name a, StoredCursor.Mirrors callbacks outputs name a
          { memory := (s.clone b).memory, query := c } { origin := s.memory.query b }) ∧
        ∀ uses : List Use,
          ((s.clone b).useAll c uses).compiled? (.shared ⟨1, .query⟩) = s.compiled? (.shared ⟨1, .query⟩) ∧
          ((s.clone b).useAll b uses).compiled? (.shared ⟨2, .query⟩) = s.compiled? (.shared ⟨1, .query⟩) := by
  intro client text steps s
  let inner := (Query.ofClient client).from_ (.str "users")
  let q := ((Query.ofClient client).from_ (.str "orders")).addIn .where_ .and false (.str "user") (.shared ⟨0, .query⟩)
  let s₁ := (start .builtin client).store "a" (.query inner)
  have reached : s = after .builtin client steps := rfl
  have first : (run (start .builtin client) (.new "a" (some (text "users")) [])).2 = s₁ := rfl
  have second : (run s₁ (.new "b" (some (text "orders")) [⟨"where_in", [text "user", .variable_ "a"], []⟩])).2 =
    s₁.store "b" (.query q) := rfl
  have stores : s = s₁.store "b" (.query q) := (congrArg (fun s => (run s _).2) first).trans second
  clear_value s
  subst stores
  have sound₁ : s₁.Sound := (sound_start .builtin client).store "a" (.query inner)
  obtain ⟨b₁, held₁, reads₁, -⟩ := (sound_start .builtin client).stores_query "a" inner
  obtain ⟨b, held, reads, before⟩ := sound₁.stores_query "b" q
  -- the query reaches the other one and nothing else
  let R : Region := ⟨fun id => id = 0, fun _ => False, fun _ => False⟩
  have inside : R.query inner := Region.query_from (Region.query_ofClient client) (Region.value_scalar _)
  have closed : R.Closed (s₁.store "b" (.query q)).env :=
    { object := by
        rintro id state stored rfl
        obtain ⟨still, same⟩ := before held₁
        have state' : (s₁.store "b" (.query q)).env.objects[0]? = some (.query inner) :=
          (env_object still).trans (congrArg (fun q => some (SharedState.query q)) (same.trans reads₁))
        cases stored.symm.trans state'
        exact inside
      name := fun _ _ _ none_ => none_.elim
      method := fun _ _ _ none_ => none_.elim }
  have within : R.query q :=
    Region.query_addIn (Region.query_from (Region.query_ofClient client) (Region.value_scalar _)) _ _ _
      (Region.value_scalar _) (Region.value_shared.mpr rfl)
  have independent := clone_independent reached held
  refine ⟨b, held, independent (fun reaches => ?_) fun id reaches => ?_⟩
  · rw [reads] at reaches
    exact absurd (reaches R closed within) (by decide)
  · rw [reads] at reaches
    obtain rfl : id = 0 := reaches R closed within
    decide

end Session

end SqlBuilder
