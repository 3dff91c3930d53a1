import SqlBuilder.Memory.Mutations

/-!
# Queries in a memory

Calls change some containers in place, and others they replace. As long as no two queries share a container
of the first sort, a change of one query is none of another. Queries may share what is replaced only: a copy
of a query shares the columns that it sets with it.

* `Memory.ref?`: the containers of a query, one of each kind.
* `Memory.query_of_get`: what a query reads as is up to its own containers.
* `Memory.Owned`: no two queries share a container that is changed in place.
* `Memory.Works`: a change that the owner of a query makes, and `Owned.works`: it keeps the others as they are.
* `Memory.Creates`: a new query in a memory, and `Owned.creates`: it is apart from the queries that were there.
* `Memory.clone_creates`: a copy of a query is such a new one, and reads as the query does.
-/

namespace SqlBuilder

/-- The kinds of containers that are changed in place. The others are left as they are once they are made, and
a new one takes their place. -/
def Container.inPlace : Container → Bool
  | .query | .model | .clauses | .entries _ | .counters | .comments | .options => true
  | .lockTables | .returning | .conflict | .update => false

namespace Memory

variable {m m' m₀ : Memory} {k k' : Container} {b b' : Ref .query}

/-! ## Reading and writing -/

section Access

variable (r : Ref k) (x : k.Contents)

@[simp] theorem get_set_self : (m.set r x).get r = x := by
  simp [set, get]

theorem get_set_ne {r' : Ref k} (apart : r' ≠ r) : (m.set r x).get r' = m.get r' := by
  obtain ⟨i⟩ := r
  obtain ⟨j⟩ := r'
  have other : j ≠ i := fun same => apart (same ▸ rfl)
  simp [set, get, other]

@[simp] theorem get_set_of_ne (r' : Ref k') (other : k ≠ k') : (m.set r x).get r' = m.get r' := by
  simp [set, get, other]

@[simp] theorem get?_set_of_ne (r' : Option (Ref k')) (other : k ≠ k') : (m.set r x).get? r' = m.get? r' := by
  cases r' with
  | none => rfl
  | some r' => exact congrArg some (get_set_of_ne r x r' other)

@[simp] theorem next_set : (m.set r x).next = m.next := rfl

@[simp] theorem get?_some : m.get? (some r) = some (m.get r) := rfl

@[simp] theorem get?_none : m.get? (none : Option (Ref k)) = none := rfl

/-- The address is one that was given out. -/
def Has (m : Memory) {k : Container} (r : Ref k) : Prop :=
  r.index < m.next k

theorem alloc_fst : (m.alloc k x).1 = ⟨m.next k⟩ := rfl

@[simp] theorem get_alloc_self : (m.alloc k x).2.get (m.alloc k x).1 = x :=
  get_set_self (m := m) ⟨m.next k⟩ x

@[simp] theorem get_alloc_index : (m.alloc k x).2.get (⟨(m.alloc k x).1.index⟩ : Ref k) = x :=
  get_alloc_self x

@[simp] theorem get_alloc_of_ne (r' : Ref k') (other : k ≠ k') : (m.alloc k x).2.get r' = m.get r' :=
  get_set_of_ne (m := m) ⟨m.next k⟩ x r' other

/-- A new container leaves the ones that are there as they are. -/
theorem get_alloc {r' : Ref k'} (given : m.Has r') : (m.alloc k x).2.get r' = m.get r' := by
  by_cases kind : k = k'
  · subst kind
    exact get_set_ne (m := m) ⟨m.next k⟩ x fun same => absurd given (by simp [same, Has])
  · exact get_alloc_of_ne x r' kind

@[simp] theorem get?_alloc_of_ne (r' : Option (Ref k')) (other : k ≠ k') :
    (m.alloc k x).2.get? r' = m.get? r' :=
  get?_set_of_ne (m := m) ⟨m.next k⟩ x r' other

@[simp] theorem next_alloc_self : (m.alloc k x).2.next k = m.next k + 1 := by
  simp [alloc]

@[simp] theorem next_alloc_of_ne (other : k' ≠ k) : (m.alloc k x).2.next k' = m.next k' := by
  simp [alloc, other]

theorem next_alloc_le (k' : Container) : m.next k' ≤ (m.alloc k x).2.next k' := by
  by_cases kind : k' = k
  · subst kind
    simp
  · simp [kind]

theorem has_alloc_self : (m.alloc k x).2.Has (m.alloc k x).1 := by
  simp [Has, alloc_fst]

end Access

/-! ## The containers of a query -/

/-- The containers that a statement uses. -/
def modelRef? (m : Memory) (s : ModelObject) : (k : Container) → Option (Ref k)
  | .clauses => some s.clauses
  | .entries g => (m.get s.clauses g).map Ref.mk
  | .lockTables => some s.lockTables
  | .counters => some s.counters
  | .comments => some s.comments
  | .returning => s.returning
  | .conflict => s.conflict
  | .update => s.update
  | .query | .model | .options => none

/-- The container of each kind that a query uses, if it uses one. -/
def ref? (m : Memory) (b : Ref .query) : (k : Container) → Option (Ref k)
  | .query => some b
  | .model => some (m.get b).model
  | .options => some (m.get b).options
  | k => m.modelRef? (m.model b) k

theorem ref?_of_modelRef? {r : Ref k} (uses : m.modelRef? (m.model b) k = some r) : m.ref? b k = some r := by
  cases k <;> first | exact uses | simp [modelRef?] at uses

theorem entries_of_get {r : Ref .clauses} {g : Grouping} (lists : m'.get r = m.get r)
    (same : ∀ i, m.get r g = some i → m'.get (⟨i⟩ : Ref (.entries g)) = m.get ⟨i⟩) :
    m'.entries r g = m.entries r g := by
  unfold entries
  rw [lists]
  cases list : m.get r g with
  | none => rfl
  | some i => exact same i list

theorem get?_of_get {r : Option (Ref k)} (same : ∀ r₁, r = some r₁ → m'.get r₁ = m.get r₁) :
    m'.get? r = m.get? r := by
  cases r with
  | none => rfl
  | some r => exact congrArg some (same r rfl)

/-- What a query reads as, and the containers that it uses, are up to these containers. -/
theorem query_of_get (same : ∀ {k} (r : Ref k), m.ref? b k = some r → m'.get r = m.get r) :
    m'.query b = m.query b ∧ m'.ref? b = m.ref? b := by
  have object : m'.get b = m.get b := same (k := .query) b rfl
  have model : m'.model b = m.model b := by
    unfold model
    rw [object]
    exact same (k := .model) _ rfl
  have lists : m'.get (m.model b).clauses = m.get (m.model b).clauses := same (k := .clauses) _ rfl
  have entries (g : Grouping) : m'.entries (m.model b).clauses g = m.entries (m.model b).clauses g :=
    entries_of_get lists fun i list => same (k := .entries g) ⟨i⟩ (by simp [ref?, modelRef?, list])
  constructor
  · have update : m'.get? (m.model b).update = m.get? (m.model b).update := get?_of_get (same (k := .update))
    have returning : m'.get? (m.model b).returning = m.get? (m.model b).returning :=
      get?_of_get (same (k := .returning))
    have conflict : m'.get? (m.model b).conflict = m.get? (m.model b).conflict :=
      get?_of_get (same (k := .conflict))
    have statement : m'.statement (m.model b) = m.statement (m.model b) := by
      simp only [Memory.statement, entries, update, returning, conflict, same (k := .lockTables) _ rfl,
        same (k := .counters) _ rfl, same (k := .comments) _ rfl]
    simp only [query, object, model, statement, same (k := .options) _ rfl]
  · funext k
    cases k <;> simp only [ref?, modelRef?, object, model, lists]

/-! ## Ownership -/

/-- The containers of a query are ones that were given out. -/
def Holds (m : Memory) (b : Ref .query) : Prop :=
  ∀ {k} (r : Ref k), m.ref? b k = some r → m.Has r

/-- Every query has its containers, and no two of them share one that is changed in place. -/
structure Owned (m : Memory) : Prop where
  holds : ∀ {b}, m.Has b → m.Holds b
  apart : ∀ {b b'}, m.Has b → m.Has b' → ∀ {k} (r : Ref k), k.inPlace → m.ref? b k = some r →
    m.ref? b' k = some r → b = b'

theorem owned_empty (client : Client Value) : (empty client).Owned where
  holds given := absurd given (Nat.not_lt_zero _)
  apart given := absurd given (Nat.not_lt_zero _)

/-- A change that the owner of a query makes: it changes in place only what the query owned, and what the query
owns afterwards is new or was its own before. -/
structure Works (b : Ref .query) (m m' : Memory) : Prop where
  grows : ∀ k, m.next k ≤ m'.next k
  queries : m'.next .query = m.next .query
  kept : ∀ {k} (r : Ref k), m.Has r → (k.inPlace → m.ref? b k ≠ some r) → m'.get r = m.get r
  own : ∀ {k} (r : Ref k), m'.ref? b k = some r → k.inPlace → m.ref? b k = some r ∨ m.next k ≤ r.index
  holds : m'.Holds b

namespace Works

protected theorem refl (holds : m.Holds b) : Works b m m where
  grows _ := Nat.le_refl _
  queries := rfl
  kept _ _ _ := rfl
  own _ uses _ := .inl uses
  holds := holds

/-- More containers, which no query uses yet. -/
theorem alloc (h : Works b m₀ m) (x : k.Contents) (other : k ≠ .query) : Works b m₀ (m.alloc k x).2 := by
  have same : (m.alloc k x).2.ref? b = m.ref? b := (query_of_get fun r uses => get_alloc x (h.holds r uses)).2
  refine ⟨fun k' => Nat.le_trans (h.grows k') (next_alloc_le x k'), ?_, fun r given own => ?_, fun r uses => ?_,
    fun r uses => ?_⟩
  · rw [next_alloc_of_ne x other.symm, h.queries]
  · rw [get_alloc x (Nat.lt_of_lt_of_le given (h.grows _)), h.kept r given own]
  · rw [same] at uses
    exact h.own r uses
  · rw [same] at uses
    exact Nat.lt_of_lt_of_le (h.holds r uses) (next_alloc_le x _)

/-- A change of a container in place, after which the query uses containers that are there, and of the sort that is
changed in place only new ones and its own. -/
theorem set (h : Works b m₀ m) {r : Ref k} (uses : m.ref? b k = some r) (inPlace : k.inPlace) (x : k.Contents)
    (own : ∀ {k'} (r' : Ref k'), (m.set r x).ref? b k' = some r' →
      m.Has r' ∧ (k'.inPlace → m₀.ref? b k' = some r' ∨ m₀.next k' ≤ r'.index)) : Works b m₀ (m.set r x) where
  grows := h.grows
  queries := h.queries
  kept {k'} r' given other := by
    rw [← h.kept r' given other]
    by_cases kind : k = k'
    · subst kind
      refine get_set_ne r x fun same => ?_
      subst same
      exact (h.own r' uses inPlace).elim (other inPlace) fun new => absurd given (Nat.not_lt.mpr new)
    · exact get_set_of_ne r x r' kind
  own r' uses' := (own r' uses').2
  holds r' uses' := (own r' uses').1

/-- A change in place after which the query uses the same containers. -/
theorem set_same (h : Works b m₀ m) {r : Ref k} (uses : m.ref? b k = some r) (inPlace : k.inPlace) (x : k.Contents)
    (same : (m.set r x).ref? b = m.ref? b) : Works b m₀ (m.set r x) := by
  refine h.set uses inPlace x fun r' uses' => ?_
  rw [same] at uses'
  exact ⟨h.holds r' uses', h.own r' uses'⟩

end Works

/-- A change that the owner of a query makes leaves every other query as it is. -/
theorem Owned.works (h : m.Owned) (given : m.Has b) (works : Works b m m') :
    m'.Owned ∧ ∀ b', m.Has b' → b' ≠ b → m'.query b' = m.query b' := by
  have others {b' : Ref .query} (given' : m.Has b') (other : b' ≠ b) :
      m'.query b' = m.query b' ∧ m'.ref? b' = m.ref? b' :=
    query_of_get fun r uses => works.kept r (h.holds given' r uses) fun inPlace own =>
      other (h.apart given' given r inPlace uses own)
  have before {b' : Ref .query} (given' : m'.Has b') : m.Has b' := by
    unfold Has at given' ⊢
    rwa [works.queries] at given'
  refine ⟨⟨fun {b'} given' => ?_, fun {b₁ b₂} given₁ given₂ k r inPlace uses₁ uses₂ => ?_⟩,
    fun b' given' other => (others given' other).1⟩
  · by_cases same : b' = b
    · exact same ▸ works.holds
    · intro r uses
      rw [(others (before given') same).2] at uses
      exact Nat.lt_of_lt_of_le (h.holds (before given') r uses) (works.grows _)
  · -- a container that is new, or was the query's own, is none of another query
    have only {b' : Ref .query} (given' : m.Has b') (other : b' ≠ b) (uses : m'.ref? b k = some r) :
        m'.ref? b' k ≠ some r := by
      rw [(others given' other).2]
      intro uses'
      obtain own | new := works.own r uses inPlace
      · exact other (h.apart given' given r inPlace uses' own)
      · exact absurd (h.holds given' r uses') (Nat.not_lt.mpr new)
    by_cases same₁ : b₁ = b
    · subst same₁
      by_cases same₂ : b₂ = b₁
      · exact same₂.symm
      · exact absurd uses₂ (only (before given₂) same₂ uses₁)
    · by_cases same₂ : b₂ = b
      · subst same₂
        exact absurd uses₁ (only (before given₁) same₁ uses₂)
      · rw [(others (before given₁) same₁).2] at uses₁
        rw [(others (before given₂) same₂).2] at uses₂
        exact h.apart (before given₁) (before given₂) r inPlace uses₁ uses₂

theorem ref?_set_of_ne {r : Ref k} (x : k.Contents) (query : k ≠ .query) (model : k ≠ .model)
    (clauses : k ≠ .clauses) : (m.set r x).ref? b = m.ref? b := by
  funext k'
  cases k' <;> simp [ref?, modelRef?, Memory.model, query, model, clauses]

/-! ## What calls write -/

section Writes

variable {q : Query Value}

namespace Works

/-- A change of what is known of a query besides its statement. -/
theorem editQuery (h : Works b m₀ m) {f : QueryObject → QueryObject} (model : ∀ o, (f o).model = o.model)
    (options : ∀ o, (f o).options = o.options) : Works b m₀ (m.editQuery b f) := by
  refine h.set_same (k := .query) rfl rfl _ ?_
  funext k
  cases k <;> simp [ref?, modelRef?, Memory.model, model, options]

/-- A change of the statement of a query, after which it uses containers that are there. -/
theorem editModel (h : Works b m₀ m) {f : ModelObject → ModelObject}
    (own : ∀ {k} (r : Ref k), m.modelRef? (f (m.model b)) k = some r →
      m.Has r ∧ (k.inPlace → m₀.ref? b k = some r ∨ m₀.next k ≤ r.index)) : Works b m₀ (m.editModel b f) := by
  refine h.set (k := .model) rfl rfl _ fun {k} r uses => ?_
  cases k with
  | query | model | options => exact ⟨h.holds r (by simpa [ref?] using uses), h.own r (by simpa [ref?] using uses)⟩
  | _ => exact own r (by simpa [ref?, modelRef?, Memory.model] using uses)

/-- A change of the statement of a query that does not change which containers it uses. -/
theorem editField (h : Works b m₀ m) {f : ModelObject → ModelObject}
    (same : m.modelRef? (f (m.model b)) = m.modelRef? (m.model b)) : Works b m₀ (m.editModel b f) := by
  refine h.editModel fun {k} r uses => ?_
  have uses' := ref?_of_modelRef? (same ▸ uses)
  exact ⟨h.holds r uses', h.own r uses'⟩

/-- A new container takes the place of what a field of the statement was. -/
theorem renew (h : Works b m₀ m) (x : k.Contents) (other : k ≠ .query) {f : Ref k → ModelObject → ModelObject}
    (self : ∀ (m : Memory) r s, m.modelRef? (f r s) k = some r)
    (others : ∀ (m : Memory) r s {k'}, k' ≠ k → m.modelRef? (f r s) k' = m.modelRef? s k') :
    Works b m₀ ((m.alloc k x).2.editModel b (f (m.alloc k x).1)) := by
  have h' := h.alloc x other
  refine h'.editModel fun {k'} r uses => ?_
  by_cases kind : k' = k
  · subst kind
    rw [self] at uses
    cases uses
    exact ⟨has_alloc_self x, fun _ => .inr (h.grows k')⟩
  · rw [others _ _ _ kind] at uses
    have uses' := ref?_of_modelRef? uses
    exact ⟨h'.holds r uses', h'.own r uses'⟩

/-- Another list for a clause, or none. -/
theorem setList (h : Works b m₀ m) {g : Grouping} {list : Option Nat}
    (new : ∀ i ∈ list, m.Has (⟨i⟩ : Ref (.entries g)) ∧ m₀.next (.entries g) ≤ i) :
    Works b m₀ (m.setList b g list) := by
  refine h.set (k := .clauses) rfl rfl _ fun {k} r uses => ?_
  have kept (uses' : m.ref? b k = some r) : m.Has r ∧ (k.inPlace → m₀.ref? b k = some r ∨ m₀.next k ≤ r.index) :=
    ⟨h.holds r uses', h.own r uses'⟩
  cases k with
  | entries g' =>
    by_cases here : g' = g
    · subst here
      obtain ⟨i, rfl, rfl⟩ : ∃ i, list = some i ∧ ⟨i⟩ = r := by
        simpa [ref?, modelRef?, Memory.model] using uses
      exact ⟨(new i rfl).1, fun _ => .inr (new i rfl).2⟩
    · exact kept (by simpa [ref?, modelRef?, Memory.model, here] using uses)
  | _ => exact kept (by simpa [ref?, modelRef?, Memory.model] using uses)

/-- A new list for a clause. -/
theorem newList (h : Works b m₀ m) (g : Grouping) (entries : List g.Entry) : Works b m₀ (m.newList b g entries) := by
  refine (h.alloc (k := .entries g) entries (by simp)).setList fun i here => ?_
  cases here
  exact ⟨has_alloc_self _, h.grows _⟩

/-- What a call assigns is the owner's change. -/
theorem assign (h : Works b m₀ m) (q : Query Value) (f : Field) : Works b m₀ (m.assign b q f) := by
  cases f with
  | lockTables =>
    exact h.renew (k := .lockTables) _ (by simp) (f := fun r s => { s with lockTables := r }) (fun _ _ _ => rfl)
      fun _ _ _ {k'} other => by cases k' <;> first | rfl | simp at other
  | update =>
    exact h.renew (k := .update) _ (by simp) (f := fun r s => { s with update := some r }) (fun _ _ _ => rfl)
      fun _ _ _ {k'} other => by cases k' <;> first | rfl | simp at other
  | counters =>
    exact h.renew (k := .counters) _ (by simp) (f := fun r s => { s with counters := r }) (fun _ _ _ => rfl)
      fun _ _ _ {k'} other => by cases k' <;> first | rfl | simp at other
  | returning =>
    exact h.renew (k := .returning) _ (by simp) (f := fun r s => { s with returning := some r }) (fun _ _ _ => rfl)
      fun _ _ _ {k'} other => by cases k' <;> first | rfl | simp at other
  | conflict =>
    cases conflict : q.statement.conflict with
    | none =>
      simp only [Memory.assign, conflict]
      refine h.editModel fun {k} r uses => ?_
      have uses' : m.ref? b k = some r := by
        refine ref?_of_modelRef? ?_
        cases k <;> first | exact uses | simp [modelRef?] at uses
      exact ⟨h.holds r uses', h.own r uses'⟩
    | some c =>
      simp only [Memory.assign, conflict]
      exact h.renew (k := .conflict) _ (by simp) (f := fun r s => { s with conflict := some r }) (fun _ _ _ => rfl)
        fun _ _ _ {k'} other => by cases k' <;> first | rfl | simp at other
  | timeout | cancelOnTimeout | context =>
    simp only [Memory.assign]
    exact h.editQuery (fun _ => rfl) fun _ => rfl
  | _ =>
    simp only [Memory.assign]
    exact h.editField (funext fun k => by cases k <;> rfl)

/-- What a call writes is the owner's change. -/
theorem write (h : Works b m₀ m) (q : Query Value) (e : Mutation) : Works b m₀ (m.write b q e) := by
  cases e with
  | add g =>
    simp only [Memory.write]
    split
    · next i list =>
      exact h.set_same (k := .entries g) (by simp [ref?, modelRef?, list]) rfl _
        (ref?_set_of_ne _ (by simp) (by simp) (by simp))
    · exact h
    · exact h.newList g _
  | drop g => exact h.setList (by simp)
  | count => exact h.set_same (k := .counters) rfl rfl _ (ref?_set_of_ne _ (by simp) (by simp) (by simp))
  | comment => exact h.set_same (k := .comments) rfl rfl _ (ref?_set_of_ne _ (by simp) (by simp) (by simp))
  | option => exact h.set_same (k := .options) rfl rfl _ (ref?_set_of_ne _ (by simp) (by simp) (by simp))
  | assign f => exact h.assign q f

/-- So is all that a call writes. -/
theorem writeAll (h : Works b m₀ m) (q : Query Value) (es : List Mutation) : Works b m₀ (m.writeAll b q es) := by
  induction es generalizing m with
  | nil => exact h
  | cons e es ih => exact ih (h.write q e)

end Works

end Writes

/-! ## New queries and copies -/

/-- A memory with more containers. -/
structure Extends (m m' : Memory) : Prop where
  grows : ∀ k, m.next k ≤ m'.next k
  kept : ∀ {k} (r : Ref k), m.Has r → m'.get r = m.get r

namespace Extends

protected theorem refl : Extends m m := ⟨fun _ => Nat.le_refl _, fun _ _ => rfl⟩

protected theorem trans {m'' : Memory} (h : Extends m m') (h' : Extends m' m'') : Extends m m'' where
  grows k := Nat.le_trans (h.grows k) (h'.grows k)
  kept r given := (h'.kept r (Nat.lt_of_lt_of_le given (h.grows _))).trans (h.kept r given)

theorem alloc (h : Extends m₀ m) (x : k.Contents) : Extends m₀ (m.alloc k x).2 where
  grows k' := Nat.le_trans (h.grows k') (next_alloc_le x k')
  kept r given := (get_alloc x (Nat.lt_of_lt_of_le given (h.grows _))).trans (h.kept r given)

theorem has (h : Extends m m') {r : Ref k} (given : m.Has r) : m'.Has r :=
  Nat.lt_of_lt_of_le given (h.grows k)

/-- A query is what it was in the memory with more containers. -/
theorem query (h : Extends m m') (holds : m.Holds b) : m'.query b = m.query b ∧ m'.ref? b = m.ref? b :=
  query_of_get fun r uses => h.kept r (holds r uses)

end Extends

theorem get_alloc_later (x : k.Contents) (later : Extends (m.alloc k x).2 m') : m'.get (m.alloc k x).1 = x :=
  (later.kept _ (has_alloc_self x)).trans (get_alloc_self x)

/-- A new query in a memory with more containers. What it changes in place is new. -/
structure Creates (m : Memory) (b : Ref .query) (m' : Memory) : Prop extends Extends m m' where
  index : b.index = m.next .query
  queries : m'.next .query = m.next .query + 1
  holds : m'.Holds b
  new : ∀ {k} (r : Ref k), k.inPlace → m'.ref? b k = some r → m.next k ≤ r.index

/-- What the owner of a new query does to it leaves it one. -/
theorem Creates.works {m'' : Memory} (made : Creates m b m') (works : Works b m' m'') : Creates m b m'' where
  grows k := Nat.le_trans (made.grows k) (works.grows k)
  kept r given := by
    rw [works.kept r (made.has given) fun inPlace uses => absurd given (Nat.not_lt.mpr (made.new r inPlace uses)),
      made.kept r given]
  index := made.index
  queries := works.queries.trans made.queries
  holds := works.holds
  new r inPlace uses := by
    obtain old | new := works.own r uses inPlace
    · exact made.new r inPlace old
    · exact Nat.le_trans (made.grows _) new

/-- A new query shares nothing that is changed in place with the queries that were there, and they are as they
were. -/
theorem Owned.creates (h : m.Owned) (made : Creates m b m') :
    m'.Owned ∧ m'.Has b ∧ ∀ b', m.Has b' → b' ≠ b ∧ m'.query b' = m.query b' := by
  have old {b' : Ref .query} (given : m.Has b') : m'.query b' = m.query b' ∧ m'.ref? b' = m.ref? b' :=
    made.query (h.holds given)
  have before {b' : Ref .query} (given : m'.Has b') : b' = b ∨ m.Has b' := by
    have below : b'.index < m.next .query + 1 := made.queries ▸ given
    obtain lower | same := Nat.lt_succ_iff_lt_or_eq.mp below
    · exact .inr lower
    · exact .inl (Ref.ext (same.trans made.index.symm))
  -- what the new query owns is none of an older query
  have only {b' : Ref .query} (given : m.Has b') {k : Container} (r : Ref k) (inPlace : k.inPlace)
      (uses : m'.ref? b k = some r) : m'.ref? b' k ≠ some r := by
    rw [(old given).2]
    exact fun uses' => absurd (h.holds given r uses') (Nat.not_lt.mpr (made.new r inPlace uses))
  refine ⟨⟨fun {b'} given => ?_, fun {b₁ b₂} given₁ given₂ k r inPlace uses₁ uses₂ => ?_⟩, ?_, fun b' given => ?_⟩
  · obtain rfl | given := before given
    · exact made.holds
    · intro k r uses
      rw [(old given).2] at uses
      exact made.has (h.holds given r uses)
  · obtain rfl | old₁ := before given₁ <;> obtain rfl | old₂ := before given₂
    · rfl
    · exact absurd uses₂ (only old₂ r inPlace uses₁)
    · exact absurd uses₁ (only old₁ r inPlace uses₂)
    · rw [(old old₁).2] at uses₁
      rw [(old old₂).2] at uses₂
      exact h.apart old₁ old₂ r inPlace uses₁ uses₂
  · exact made.holds (k := .query) b rfl
  · refine ⟨fun same => ?_, (old given).1⟩
    rw [Has, same, made.index] at given
    exact absurd given (Nat.lt_irrefl _)

/-- A container that was copied to a new one. -/
structure Copied (m m' : Memory) (r r' : Ref k) : Prop where
  new : m.next k ≤ r'.index
  given : m'.Has r'
  same : m'.get r' = m.get r

theorem copied (h : Extends m₀ m) {r : Ref k} (given : m₀.Has r) (later : Extends (m.copy r).2 m') :
    Copied m₀ m' r (m.copy r).1 where
  new := h.grows k
  given := later.has (has_alloc_self _)
  same := by
    rw [← h.kept r given]
    exact get_alloc_later _ later

theorem copied? (h : Extends m₀ m) {r : Option (Ref k)} (given : ∀ r' ∈ r, m₀.Has r')
    (later : Extends (m.copy? r).2 m') : Option.Rel (Copied m₀ m') r (m.copy? r).1 := by
  cases r with
  | none => exact .none
  | some r => exact .some (copied h (given r rfl) later)

theorem Extends.copy? (h : Extends m₀ m) (r : Option (Ref k)) : Extends m₀ (m.copy? r).2 := by
  cases r with
  | none => exact h
  | some r => exact h.alloc _

theorem Extends.copyLists (h : Extends m₀ m) (lists : Grouping → Option Nat) (gs : List Grouping) :
    Extends m₀ (m.copyLists lists gs).2 := by
  induction gs with
  | nil => exact h
  | cons g gs ih =>
    unfold Memory.copyLists
    cases list : lists g with
    | none => exact ih
    | some i => exact ih.alloc _

/-- The copies of the lists of some clauses. -/
theorem copiedLists (h : Extends m₀ m) {lists : Grouping → Option Nat}
    (given : ∀ g, ∀ i ∈ lists g, m₀.Has (⟨i⟩ : Ref (.entries g))) {gs : List Grouping} {g : Grouping}
    (covers : g ∈ gs ∨ lists g = none) (later : Extends (m.copyLists lists gs).2 m') :
    Option.Rel (Copied m₀ m') ((lists g).map Ref.mk : Option (Ref (.entries g)))
      (((m.copyLists lists gs).1 g).map Ref.mk) := by
  induction gs generalizing m' with
  | nil =>
    obtain mem | none_ := covers
    · nomatch mem
    · rw [none_]
      exact .none
  | cons g' gs ih =>
    have covers' (other : g = g' → lists g = none) : g ∈ gs ∨ lists g = none := by
      obtain mem | none_ := covers
      · exact (List.mem_cons.mp mem).symm.imp_right other
      · exact .inr none_
    unfold Memory.copyLists at later ⊢
    cases list : lists g' with
    | none =>
      simp only [list] at later ⊢
      exact ih (covers' fun same => same ▸ list) later
    | some i =>
      simp only [list] at later ⊢
      by_cases same : g = g'
      · subst same
        simp only [list, if_true]
        exact .some (copied (h.copyLists lists gs) (given g i list) later)
      · simp only [same, if_false]
        exact ih (covers' fun same' => absurd same' same) ((Extends.refl.alloc _).trans later)

theorem get?_of_copied {r r' : Option (Ref k)} (same : Option.Rel (Copied m m') r r') : m'.get? r' = m.get? r := by
  cases same with
  | none => rfl
  | some copied => exact congrArg some copied.same

theorem next_copyLists (lists : Grouping → Option Nat) (gs : List Grouping) (other : ∀ g, k ≠ .entries g) :
    (m.copyLists lists gs).2.next k = m.next k := by
  induction gs with
  | nil => rfl
  | cons g gs ih =>
    unfold Memory.copyLists
    cases list : lists g with
    | none => exact ih
    | some i => exact (next_alloc_of_ne _ (other g)).trans ih

@[simp] theorem next_copy (r : Ref k') (other : k ≠ k') : (m.copy r).2.next k = m.next k :=
  next_alloc_of_ne _ other

@[simp] theorem next_copy? (r : Option (Ref k')) (other : k ≠ k') : (m.copy? r).2.next k = m.next k := by
  cases r with
  | none => rfl
  | some r => exact next_copy r other

/-- The lists of the clauses, each copied to a new one. -/
structure CopiedClauses (m m' : Memory) (r r' : Ref .clauses) : Prop where
  new : m.next .clauses ≤ r'.index
  given : m'.Has r'
  lists : ∀ g, Option.Rel (Copied m m') ((m.get r g).map Ref.mk : Option (Ref (.entries g)))
    ((m'.get r' g).map Ref.mk)

theorem copiedClauses {r : Ref .clauses} (lists : ∀ g, ∀ i ∈ m.get r g, m.Has (⟨i⟩ : Ref (.entries g)))
    (later : Extends (m.copyClauses r).2 m') : CopiedClauses m m' r (m.copyClauses r).1 := by
  have copies : Extends m (m.copyLists (m.get r) Grouping.all).2 := Extends.refl.copyLists _ _
  refine ⟨copies.grows _, later.has (has_alloc_self _), fun g => ?_⟩
  have stored : m'.get (m.copyClauses r).1 = (m.copyLists (m.get r) Grouping.all).1 := get_alloc_later _ later
  rw [stored]
  exact copiedLists .refl lists (.inl (by cases g <;> decide)) ((Extends.refl.alloc _).trans later)

theorem CopiedClauses.entries {r r' : Ref .clauses} (h : CopiedClauses m m' r r') (g : Grouping) :
    m'.entries r' g = m.entries r g := by
  have lists := h.lists g
  unfold Memory.entries
  cases list : m.get r g <;> cases list' : m'.get r' g <;> rw [list, list'] at lists
  · cases lists
  · cases lists
  · cases lists with
    | some copied => exact copied.same

/-- A statement that was copied. What is changed in place is new, and so are some other containers; the columns to
set are shared. -/
structure CopiedModel (m m' : Memory) (s s' : ModelObject) : Prop where
  clauses : CopiedClauses m m' s.clauses s'.clauses
  lockTables : Copied m m' s.lockTables s'.lockTables
  counters : Copied m m' s.counters s'.counters
  comments : Copied m m' s.comments s'.comments
  returning : Option.Rel (Copied m m') s.returning s'.returning
  conflict : Option.Rel (Copied m m') s.conflict s'.conflict
  fields : s' = { s with
    clauses := s'.clauses
    lockTables := s'.lockTables
    counters := s'.counters
    comments := s'.comments
    returning := s'.returning
    conflict := s'.conflict }

theorem copiedModel {r : Ref .model} (holds : ∀ {k} (r' : Ref k), m.modelRef? (m.get r) k = some r' → m.Has r')
    (later : Extends (m.copyModel r).2 m') : Extends m (m.copyModel r).2 ∧
      m.next .model ≤ (m.copyModel r).1.index ∧ CopiedModel m m' (m.get r) (m'.get (m.copyModel r).1) := by
  let s := m.get r
  let clauses := m.copyClauses s.clauses
  let lockTables := clauses.2.copy s.lockTables
  let counters := lockTables.2.copy s.counters
  let comments := counters.2.copy s.comments
  let returning := comments.2.copy? s.returning
  let conflict := returning.2.copy? s.conflict
  -- each memory on the way extends the ones before it
  have h₁ : Extends m clauses.2 := (Extends.refl.copyLists _ _).alloc _
  have h₂ : Extends m lockTables.2 := h₁.alloc _
  have h₃ : Extends m counters.2 := h₂.alloc _
  have h₄ : Extends m comments.2 := h₃.alloc _
  have h₅ : Extends m returning.2 := h₄.copy? _
  have h₆ : Extends m conflict.2 := h₅.copy? _
  have l₆ : Extends conflict.2 m' := (Extends.refl.alloc _).trans later
  have l₅ : Extends returning.2 m' := (Extends.refl.copy? _).trans l₆
  have l₄ : Extends comments.2 m' := (Extends.refl.copy? _).trans l₅
  have l₃ : Extends counters.2 m' := (Extends.refl.alloc _).trans l₄
  have l₂ : Extends lockTables.2 m' := (Extends.refl.alloc _).trans l₃
  have l₁ : Extends clauses.2 m' := (Extends.refl.alloc _).trans l₂
  refine ⟨h₆.alloc _, h₆.grows _, ?_⟩
  rw [show m'.get (m.copyModel r).1 = _ from get_alloc_later _ later]
  exact {
    clauses := copiedClauses (fun g i list => holds (k := .entries g) ⟨i⟩ (by simpa [modelRef?] using list)) l₁
    lockTables := copied h₁ (holds (k := .lockTables) _ rfl) l₂
    counters := copied h₂ (holds (k := .counters) _ rfl) l₃
    comments := copied h₃ (holds (k := .comments) _ rfl) l₄
    returning := copied? h₄ (holds (k := .returning)) l₅
    conflict := copied? h₅ (holds (k := .conflict)) l₆
    fields := rfl }

theorem next_copyModel (r : Ref .model) : (m.copyModel r).2.next .query = m.next .query := by
  simp [copyModel, copyClauses, next_copyLists]

theorem CopiedModel.statement {s s' : ModelObject} (h : CopiedModel m m' s s')
    (update : m'.get? s.update = m.get? s.update) : m'.statement s' = m.statement s := by
  rw [h.fields]
  simp only [Memory.statement, h.clauses.entries, h.lockTables.same, h.counters.same, h.comments.same, update,
    get?_of_copied h.returning, get?_of_copied h.conflict]

/-- What is changed in place in a copy of a statement is new, and all its containers are there. -/
theorem CopiedModel.new {s s' : ModelObject} (h : CopiedModel m m' s s') (update : ∀ r ∈ s.update, m'.Has r)
    {r : Ref k} (uses : m'.modelRef? s' k = some r) : m'.Has r ∧ (k.inPlace → m.next k ≤ r.index) := by
  have of_copied {r₀ r₁ : Option (Ref k)} (same : Option.Rel (Copied m m') r₀ r₁) (uses : r₁ = some r) :
      m'.Has r ∧ (k.inPlace → m.next k ≤ r.index) := by
    subst uses
    cases same with
    | some copied => exact ⟨copied.given, fun _ => copied.new⟩
  cases k with
  | query | model | options => nomatch uses
  | clauses =>
    cases uses
    exact ⟨h.clauses.given, fun _ => h.clauses.new⟩
  | entries g => exact of_copied (h.clauses.lists g) uses
  | lockTables => exact of_copied (.some h.lockTables) uses
  | counters => exact of_copied (.some h.counters) uses
  | comments => exact of_copied (.some h.comments) uses
  | returning => exact of_copied h.returning uses
  | conflict => exact of_copied h.conflict uses
  | update =>
    rw [h.fields] at uses
    exact ⟨update r uses, fun inPlace => nomatch inPlace⟩

/-- A copy of a query is a new query that reads as the query. -/
theorem clone_creates (holds : m.Holds b) :
    Creates m (m.clone b).1 (m.clone b).2 ∧ (m.clone b).2.query (m.clone b).1 = m.query b := by
  let model := m.copyModel (m.get b).model
  let options := model.2.copy (m.get b).options
  let m' := (m.clone b).2
  have later : Extends model.2 m' := (Extends.refl.alloc _).alloc _
  have holds' {k : Container} (r : Ref k) (uses : m.modelRef? (m.model b) k = some r) : m.Has r :=
    holds r (ref?_of_modelRef? uses)
  obtain ⟨h₁, newModel, copiedModel⟩ := copiedModel holds' later
  have h₂ : Extends m m' := (h₁.alloc _).alloc _
  have copiedOptions : Copied m m' (m.get b).options options.1 :=
    copied h₁ (holds (k := .options) _ rfl) (Extends.refl.alloc _)
  have object : m'.get (m.clone b).1 = { m.get b with model := model.1, options := options.1 } := get_alloc_self _
  have statement : m'.model (m.clone b).1 = m'.get model.1 := by rw [Memory.model, object]
  have update {r : Ref .update} (uses : (m.model b).update = some r) : m.Has r := holds (k := .update) r uses
  have queries : options.2.next .query = m.next .query := (next_copy _ (by simp)).trans (next_copyModel _)
  have new {k : Container} (r : Ref k) (uses : m'.ref? (m.clone b).1 k = some r) :
      m'.Has r ∧ (k.inPlace → m.next k ≤ r.index) := by
    have of_model (uses : m'.modelRef? (m'.get model.1) k = some r) : m'.Has r ∧ (k.inPlace → m.next k ≤ r.index) :=
      copiedModel.new (fun r uses => h₂.has (update uses)) uses
    cases k with
    | query =>
      cases uses
      exact ⟨has_alloc_self _, fun _ => Nat.le_of_eq queries.symm⟩
    | model =>
      simp only [ref?, object, Option.some.injEq] at uses
      exact uses ▸ ⟨later.has (has_alloc_self _), fun _ => newModel⟩
    | options =>
      simp only [ref?, object, Option.some.injEq] at uses
      exact uses ▸ ⟨copiedOptions.given, fun _ => copiedOptions.new⟩
    | _ => exact of_model (by simpa only [ref?, statement] using uses)
  refine ⟨{ toExtends := h₂, index := queries, queries := ?_, holds := fun r uses => (new r uses).1,
            new := fun r inPlace uses => (new r uses).2 inPlace }, ?_⟩
  · exact (next_alloc_self _).trans (congrArg (· + 1) queries)
  · have same : m'.statement (m'.get model.1) = m.statement (m.model b) :=
      copiedModel.statement (get?_of_get fun r uses => h₂.kept r (update uses))
    change m'.query (m.clone b).1 = m.query b
    simp only [query, statement, object, same, copiedOptions.same]

/-- A new query owns all its containers. -/
theorem newQuery_creates (m : Memory) (client : Client Value) : Creates m (m.newQuery client).1 (m.newQuery client).2 ∧
    (m.newQuery client).2.query (m.newQuery client).1 = Query.ofClient client := by
  have extends_ : Extends m (m.newQuery client).2 :=
    ((((((Extends.refl.alloc _).alloc _).alloc _).alloc _).alloc _).alloc _).alloc _
  have new {k : Container} (r : Ref k) (uses : (m.newQuery client).2.ref? (m.newQuery client).1 k = some r) :
      (m.newQuery client).2.Has r ∧ m.next k ≤ r.index := by
    cases k <;> simp [newQuery, ref?, modelRef?, model] at uses <;> subst uses <;>
      simp [newQuery, Has, alloc_fst]
  refine ⟨{ toExtends := extends_, index := ?_, queries := ?_, holds := fun r uses => (new r uses).1,
            new := fun r _ uses => (new r uses).2 }, ?_⟩
  · simp [newQuery, alloc_fst]
  · simp [newQuery]
  · simp [newQuery, query, model, statement, entries, Query.ofClient]

end Memory

end SqlBuilder
