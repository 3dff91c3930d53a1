import SqlBuilder.Proofs.StoredCalls

/-!
# Sessions

No two stored queries of a session share a container that is changed in place: whatever a session does, each of
them owns its own.

* `Session.Sound`: the stored queries are apart from one another.
* `Session.Sound.run`: every step of a session keeps that.
* `Session.after`: the session that steps lead to, and `Session.sound_after`: it is sound.
-/

namespace SqlBuilder

/-- An outcome that is no failure was made in the end. -/
theorem Logged.outcome_ok {α : Type} {step : Logged α} {a : α} (made : step.outcome = .ok a) :
    ∃ events, step [] = .ok a events := by
  unfold Logged.outcome at made
  split at made <;> cases made
  exact ⟨_, by assumption⟩

namespace Session

/-- A stored object is the query at an address. -/
def Stores (s : Session) (id : Nat) (b : Ref .query) : Prop :=
  s.objects[id]? = some (.query b)

/-- The stored queries of a session are there, they are apart from one another, and none shares with another one
what is changed in place. -/
structure Sound (s : Session) : Prop where
  owned : s.memory.Owned
  given : ∀ {id b}, s.Stores id b → s.memory.Has b
  apart : ∀ {id id' b}, s.Stores id b → s.Stores id' b → id = id'
  handles : ∀ {name b columns}, (name, Named.handle b columns) ∈ s.names → s.memory.Has b

variable {s : Session}

theorem sound_start (registry : Registry) (client : Client Value) : (start registry client).Sound where
  owned := Memory.owned_empty client
  given := nofun
  apart := nofun
  handles := nofun

theorem stores_of_storedQuery {name : String} {b : Ref .query} (found : s.storedQuery name = .ok b) :
    ∃ id, s.Stores id b := by
  unfold storedQuery at found
  split at found
  · cases found
  next o _ =>
    split at found
    next held =>
      cases found
      exact ⟨o.id, held⟩
    · cases found
  · cases found

namespace Sound

variable (h : s.Sound)

include h

/-! ## Storing -/

theorem bindName {name : String} {v : Named} (given : ∀ b columns, v = Named.handle b columns → s.memory.Has b) :
    (s.bindName name v).Sound where
  owned := h.owned
  given := h.given
  apart := h.apart
  handles := by
    intro name' b columns mem
    obtain here | there := List.mem_cons.mp mem
    · exact given b columns (congrArg Prod.snd here).symm
    · exact h.handles (List.mem_filter.mp there).1

/-- A memory with a new query. -/
theorem creates {b : Ref .query} {memory : Memory} (made : Memory.Creates s.memory b memory) :
    { s with memory }.Sound where
  owned := (h.owned.creates made).1
  given held := made.has (h.given held)
  apart := h.apart
  handles mem := made.has (h.handles mem)

/-- One more stored object; if it is a query, it is one that is not stored yet. -/
theorem share {object : StoredObject} (given : ∀ b, object = .query b → s.memory.Has b ∧ ∀ id, ¬ s.Stores id b) :
    (s.share object).Sound := by
  have before {id : Nat} {b : Ref .query} (held : (s.objects ++ [object])[id]? = some (.query b)) :
      s.objects[id]? = some (.query b) ∨ (id = s.objects.length ∧ object = .query b) := by
    rw [List.getElem?_append] at held
    split at held
    · exact .inl held
    · obtain ⟨here, same⟩ := List.getElem?_eq_some_iff.mp held
      simp only [List.length_singleton] at here
      exact .inr ⟨by omega, by simpa using same⟩
  refine ⟨h.owned, fun held => ?_, fun {id id' b} held held' => ?_, h.handles⟩
  · obtain old | ⟨-, new⟩ := before held
    · exact h.given old
    · exact (given _ new).1
  · obtain old | ⟨here, new⟩ := before held <;> obtain old' | ⟨here', new'⟩ := before held'
    · exact h.apart old old'
    · exact absurd old ((given b new').2 id)
    · exact absurd old' ((given b new).2 id')
    · exact here.trans here'.symm

theorem store (name : String) (v : Value) : (s.store name v).Sound := by
  cases v with
  | query q =>
    have made := (s.memory.ofQuery_creates q).1
    have shared : ({ s with memory := (s.memory.ofQuery q).2 }.share (.query (s.memory.ofQuery q).1)).Sound := by
      refine (h.creates made).share fun b is => ?_
      cases is
      exact ⟨made.holds (k := .query) _ rfl, fun id held => absurd rfl ((h.owned.creates made).2.2 _ (h.given held)).1⟩
    exact shared.bindName fun _ _ is => nomatch is
  | raw r =>
    have shared : (s.share (.raw r)).Sound := h.share fun _ is => nomatch is
    exact shared.bindName fun _ _ is => nomatch is
  | conflict q columns =>
    have made := (s.memory.ofQuery_creates q).1
    refine (h.creates made).bindName fun b columns is => ?_
    cases is
    exact made.holds (k := .query) _ rfl
  | _ => exact h.bindName fun _ _ is => nomatch is

/-- A query that is stored is a new object, and the stored queries are as they were. -/
theorem stores_query (name : String) (q : Query Value) :
    ∃ b, (s.store name (.query q)).Stores s.objects.length b ∧ (s.store name (.query q)).memory.query b = q ∧
      ∀ {id b'}, s.Stores id b' → (s.store name (.query q)).Stores id b' ∧
        (s.store name (.query q)).memory.query b' = s.memory.query b' := by
  obtain ⟨made, reads⟩ := s.memory.ofQuery_creates q
  refine ⟨(s.memory.ofQuery q).1, ?_, reads, fun held => ⟨?_, ((h.owned.creates made).2.2 _ (h.given held)).2⟩⟩
  · simp [Stores, Session.store, shareAs, Session.share, Session.bindName]
  · exact (List.getElem?_append_left (List.getElem?_eq_some_iff.mp held).1).trans held

theorem clone {id : Nat} {b : Ref .query} (held : s.Stores id b) : (s.clone b).Sound := by
  have made := (Memory.clone_creates (h.owned.holds (h.given held))).1
  refine (h.creates made).share fun b is => ?_
  cases is
  exact ⟨made.holds (k := .query) _ rfl, fun id held => absurd rfl ((h.owned.creates made).2.2 _ (h.given held)).1⟩

/-! ## Calls -/

theorem calls {b : Ref .query} (given : s.memory.Has b) (stage : QueryStage) (calls : Chain) :
    { s with memory := (s.callQuery b stage calls).2.memory }.Sound := by
  have stays := callQuery_stays (StoredCursor.stays_start h.owned given stage) calls
  refine ⟨stays.owned, fun held => ?_, h.apart, fun mem => ?_⟩
  · exact Nat.lt_of_lt_of_le (h.given held) stays.grows
  · exact Nat.lt_of_lt_of_le (h.handles mem) stays.grows

/-- Another raw expression in the place of one. -/
theorem setRaw (id : Nat) (r : Raw Value) : { s with objects := s.objects.set id (.raw r) }.Sound := by
  have before {id' : Nat} {b : Ref .query} (held : (s.objects.set id (.raw r))[id']? = some (.query b)) :
      s.Stores id' b := by
    rw [List.getElem?_set] at held
    split at held
    · split at held <;> cases held
    · exact held
  exact ⟨h.owned, fun held => h.given (before held), fun held held' => h.apart (before held) (before held'), h.handles⟩

theorem callNamed (name : String) (chain : Chain) : (s.callNamed name chain).2.Sound := by
  unfold Session.callNamed
  dsimp only
  split
  · exact h
  next b columns named =>
    obtain ⟨before, after, names, -⟩ := List.lookup_eq_some_iff.mp named
    have mem : (name, Named.handle b columns) ∈ s.names := by simp [names]
    exact h.calls (h.handles mem) _ chain
  · split
    next held => exact h.calls (h.given held) _ chain
    · exact h.setRaw _ _
    · exact h
  · exact h.bindName fun _ _ is => nomatch is
  · exact h

theorem changed {next : Except Error Session} (sound : ∀ s', next = .ok s' → s'.Sound) : (s.changed next).2.Sound := by
  unfold Session.changed
  split
  · exact sound _ rfl
  · exact h

/-- Every step of a session leaves the stored queries apart. -/
theorem run (step : Step) : (s.run step).2.Sound := by
  cases step with
  | new name table calls =>
    refine h.changed fun s' made => ?_
    obtain ⟨events, run⟩ := Logged.outcome_ok made
    obtain ⟨q, _, -, rest⟩ := Build.bind_ok.mp run
    obtain ⟨cursor, _, -, ⟨⟩⟩ := Build.bind_ok.mp rest
    exact h.store name _
  | call name calls => exact h.callNamed name calls
  | clone name source =>
    refine h.changed fun s' made => ?_
    cases found : s.storedQuery source with
    | error e =>
      rw [found] at made
      cases made
    | ok b =>
      rw [found] at made
      cases made
      obtain ⟨id, held⟩ := stores_of_storedQuery found
      exact (h.clone held).bindName fun _ _ is => nomatch is
  | set name value =>
    refine h.changed fun s' made => ?_
    obtain ⟨events, run⟩ := Logged.outcome_ok made
    obtain ⟨v, _, -, ⟨⟩⟩ := Build.bind_ok.mp run
    exact h.store name v
  | extend method calls =>
    refine h.changed fun s' made => ?_
    unfold Session.extend at made
    split at made
    · cases made
    · split at made <;> cases made
      exact ⟨h.owned, h.given, h.apart, h.handles⟩
  | unregister method => exact ⟨h.owned, h.given, h.apart, h.handles⟩
  | context name =>
    unfold Session.run
    dsimp only
    split <;> exact h

end Sound

/-- The session that steps lead to. -/
def after (registry : Registry) (client : Client Value) (steps : List Step) : Session :=
  steps.foldl (fun s step => (s.run step).2) (start registry client)

/-- In every session the stored queries are apart. -/
theorem sound_after (registry : Registry) (client : Client Value) (steps : List Step) :
    (after registry client steps).Sound := by
  have from_ (s : Session) (h : s.Sound) : (steps.foldl (fun s step => (s.run step).2) s).Sound := by
    induction steps generalizing s with
    | nil => exact h
    | cons step steps ih => exact ih _ (h.run step)
  exact from_ _ (sound_start registry client)

end Session

end SqlBuilder
