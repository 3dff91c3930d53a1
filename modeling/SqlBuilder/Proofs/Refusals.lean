import SqlBuilder.Render.Compile

/-!
# Refused calls

What a call on a query that is refused leaves of the query. Almost every call looks at its arguments first
and changes the query last, so that the query stays as it was. Three kinds of calls take lists or mappings
entry by entry, and keep what they did before the entry that they refuse.

* `QueryCall.Tidy`: a call that leaves the query as it was unless it comes to its end.
* `Query.calls_tidy`: every call is one, but for those that go through a list.
* `Query.Left`: what a refused call may leave.
* `QueryCursor.call_refused`: what every refused call leaves of a query under construction.
* `Query.call_refused_partly`: a refused order list is compiled in part, and so is a refused mapping of steps.
-/

namespace SqlBuilder

/-! ## Tidy calls -/

/-- A step of a call that leaves the query as it was if it fails, or if something is still to be done. -/
structure QueryCall.Tidy (step : Build (Query Value) QueryStep) : Prop where
  failed : ∀ {q e q'}, step q = .error e q' → q' = q
  pending : ∀ {q r q'}, step q = .ok r q' → r = .stay ∨ q' = q

namespace QueryCall.Tidy

protected theorem pure (r : QueryStep) : Tidy (pure r) where
  failed := by rintro q e q' ⟨⟩
  pending := by
    rintro q _ _ ⟨⟩
    exact .inr rfl

protected theorem throw (e : Error) : Tidy (throw e) where
  failed := by
    rintro q _ _ ⟨⟩
    rfl
  pending := by rintro q r q' ⟨⟩

/-- A step after an outcome without effects. -/
theorem of_outcome {α : Type} (x : Except Error α) {f : α → Build (Query Value) QueryStep}
    (h : ∀ a, Tidy (f a)) : Tidy (liftExcept x >>= f) := by
  cases x with
  | ok a => exact h a
  | error e => exact .throw e

/-- A step that looks at the query first. -/
theorem of_get {f : Query Value → Build (Query Value) QueryStep} (h : ∀ q, Tidy (f q)) :
    Tidy (get >>= f) where
  failed := fun {q} => (h q).failed
  pending := fun {q} => (h q).pending

end QueryCall.Tidy

/-! ## Kinds of calls -/

namespace QueryCall

variable (a : Arguments)

theorem always_tidy (f : Query Value → Query Value) : Tidy (always f) where
  failed := by rintro q e q' ⟨⟩
  pending := by
    rintro q _ _ ⟨⟩
    exact .inl rfl

theorem attempt_eq (f : Query Value → Except Error (Query Value)) (q : Query Value) :
    attempt f q = match f q with
      | .ok q' => .ok .stay q'
      | .error e => .error e q := by
  change EStateM.bind (change f) (fun _ => pure QueryStep.stay) q = _
  have changed : SqlBuilder.change f q = (liftExcept (f q) >>= set : Build (Query Value) Unit) q := rfl
  rw [EStateM.bind, changed]
  cases f q <;> rfl

@[simp] theorem attempt_tidy (f : Query Value → Except Error (Query Value)) : Tidy (attempt f) where
  failed := by
    intro q e q' run
    rw [attempt_eq] at run
    split at run <;> cases run
    rfl
  pending := by
    intro q r q' run
    rw [attempt_eq] at run
    split at run <;> cases run
    exact .inl rfl

@[simp] theorem columns_tidy (f : Query Value → List Value → Query Value) : Tidy (columns a f) :=
  attempt_tidy _

@[simp] theorem single_tidy (parameter : String) (f : Query Value → Value → Query Value) :
    Tidy (single a parameter f) :=
  attempt_tidy _

@[simp] theorem join_tidy (kind : String) : Tidy (QueryCall.join kind a) := by
  refine .of_outcome _ fun b => .of_get fun q => ?_
  simp only
  split
  · exact always_tidy _
  · exact .pure _
  · exact always_tidy _

@[simp] theorem window_tidy (function : String) : Tidy (QueryCall.window function a) := by
  refine .of_outcome _ fun b => ?_
  simp only
  split
  · exact .pure _
  · split
    · exact always_tidy _
    · exact attempt_tidy _

@[simp] theorem conflict_tidy : Tidy (conflict a) :=
  .of_outcome _ fun _ => .pure _

@[simp] theorem context_tidy : Tidy (QueryCall.context a) := by
  refine .of_outcome _ fun b => ?_
  split
  · exact .of_get fun _ => .pure _
  · exact always_tidy _

@[simp] theorem copy_tidy : Tidy (copy a) :=
  .of_outcome _ fun _ => .pure _

@[simp] theorem output_tidy (form : OutputForm) : Tidy (output a form) :=
  .of_outcome _ fun _ => .pure _

@[simp] theorem extension_tidy : Tidy (extension a) := by
  refine .of_outcome _ fun b => ?_
  split
  · split
    · exact .throw _
    · exact .pure _
  · exact .throw _

@[simp] theorem removal_tidy : Tidy (removal a) := by
  refine .of_outcome _ fun v => ?_
  split
  · exact .throw _
  · exact .pure _

end QueryCall

open QueryCall in
/-- The calls that take lists or mappings entry by entry. -/
def Query.piecemeal : List (List String × (Arguments → Build (Query Value) QueryStep)) :=
  [(["order_by"], order), (["increment"], fun a => counter a .plus),
    (["decrement"], fun a => counter a .minus), (["options"], QueryCall.options)]

/-- Every other call is tidy. -/
theorem Query.calls_tidy :
    ∀ c ∈ Query.calls, c ∈ Query.piecemeal ∨ ∀ a, QueryCall.Tidy (c.2 a) := by
  simp only [Query.calls, Query.piecemeal, List.mem_cons, List.not_mem_nil, or_false, forall_eq_or_imp, forall_eq,
    true_or, or_true, and_true, implies_true,
    -- what the calls are made of
    QueryCall.commonTable, QueryCall.condition, QueryCall.columnComparison, QueryCall.membership, QueryCall.nullness,
    QueryCall.range, QueryCall.existence, QueryCall.rawCondition, QueryCall.pattern, QueryCall.jsonComparison,
    QueryCall.setOperation, QueryCall.aggregate, QueryCall.lock, QueryCall.wait, QueryCall.clear,
    -- and why they are tidy
    QueryCall.attempt_tidy, QueryCall.columns_tidy, QueryCall.single_tidy, QueryCall.join_tidy, QueryCall.window_tidy,
    QueryCall.conflict_tidy, QueryCall.context_tidy, QueryCall.copy_tidy, QueryCall.output_tidy,
    QueryCall.extension_tidy, QueryCall.removal_tidy]

/-! ## Calls that take lists entry by entry -/

/-- A sequence of two steps fails in the first one, or in the second one after the first. -/
theorem Build.bind_error {σ α β : Type} {step : Build σ α} {f : α → Build σ β} {s s' : σ} {e : Error} :
    (step >>= f) s = .error e s' ↔
      step s = .error e s' ∨ ∃ a s₁, step s = .ok a s₁ ∧ f a s₁ = .error e s' := by
  change EStateM.bind step f s = _ ↔ _
  unfold EStateM.bind
  cases step s with
  | ok a s₁ => exact ⟨fun run => .inr ⟨a, s₁, rfl, run⟩, by rintro (⟨⟨⟩⟩ | ⟨_, _, ⟨⟩, run⟩); exact run⟩
  | error e s₁ => exact ⟨fun run => by cases run; exact .inl rfl, by rintro (⟨⟨⟩⟩ | ⟨_, _, ⟨⟩, _⟩); rfl⟩

/-- A sequence of two steps succeeds in the second one, after the first. -/
theorem Build.bind_ok {σ α β : Type} {step : Build σ α} {f : α → Build σ β} {s s' : σ} {b : β} :
    (step >>= f) s = .ok b s' ↔ ∃ a s₁, step s = .ok a s₁ ∧ f a s₁ = .ok b s' := by
  change EStateM.bind step f s = _ ↔ _
  unfold EStateM.bind
  cases step s with
  | ok a s₁ => exact ⟨fun run => ⟨a, s₁, rfl, run⟩, by rintro ⟨_, _, ⟨⟩, run⟩; exact run⟩
  | error e s₁ => exact ⟨nofun, by rintro ⟨_, _, ⟨⟩, _⟩⟩

theorem Value.eq_map {v : Value} {entries : List (Value × Value)} (map : v.entries? = some entries) :
    v = .map entries := by
  cases v <;> cases map
  rfl

namespace Query

/-- The query with more entries in its order list. -/
def addOrders (q : Query Value) (entries : List (OrderEntry Value)) : Query Value :=
  q.edit fun s => { s with orders := s.orders ++ entries }

/-- The query with more of its columns moved by steps. -/
def addCounters (q : Query Value) (counters : List (Counter Value)) : Query Value :=
  q.edit fun s => { s with counters := counters.foldl setCounter s.counters }

theorem addOrders_nil (q : Query Value) : q.addOrders [] = q := by
  simp [addOrders, edit]

theorem addOrders_addOrders (q : Query Value) (entries more : List (OrderEntry Value)) :
    (q.addOrders entries).addOrders more = q.addOrders (entries ++ more) := by
  simp [addOrders, edit]

/-! ### Order lists -/

/-- A step adds to the order list of a query and changes nothing else, whether it fails or not. -/
structure OnlyOrders {α : Type} (step : Build (Query Value) α) : Prop where
  ok : ∀ {q a q'}, step q = .ok a q' → ∃ entries, q' = q.addOrders entries
  error : ∀ {q e q'}, step q = .error e q' → ∃ entries, q' = q.addOrders entries

namespace OnlyOrders

variable {α β : Type}

protected theorem pure (a : α) : OnlyOrders (pure a) where
  ok := by
    rintro q _ _ ⟨⟩
    exact ⟨[], q.addOrders_nil.symm⟩
  error := by rintro q _ _ ⟨⟩

protected theorem throw (e : Error) : OnlyOrders (α := α) (throw e) where
  ok := by rintro q _ _ ⟨⟩
  error := by
    rintro q _ _ ⟨⟩
    exact ⟨[], q.addOrders_nil.symm⟩

theorem outcome (x : Except Error α) : OnlyOrders (liftExcept x) := by
  cases x with
  | ok a => exact .pure a
  | error e => exact .throw e

theorem addOrder (column direction : Value) (nulls : Option NullsOrder) :
    OnlyOrders (modify fun q => q.addOrder column direction nulls) where
  ok := by
    rintro q _ _ ⟨⟩
    exact ⟨[.by_ column direction nulls], rfl⟩
  error := by rintro q _ _ ⟨⟩

protected theorem bind {step : Build (Query Value) α} {f : α → Build (Query Value) β}
    (h : OnlyOrders step) (hf : ∀ a, OnlyOrders (f a)) : OnlyOrders (step >>= f) where
  ok := by
    intro q b q' run
    change EStateM.bind step f q = _ at run
    unfold EStateM.bind at run
    split at run
    next first =>
      obtain ⟨entries, rfl⟩ := h.ok first
      obtain ⟨more, rfl⟩ := (hf _).ok run
      exact ⟨_, addOrders_addOrders _ _ _⟩
    · cases run
  error := by
    intro q e q' run
    obtain failed | ⟨a, q₁, first, failed⟩ := Build.bind_error.mp run
    · exact h.error failed
    · obtain ⟨entries, rfl⟩ := h.ok first
      obtain ⟨more, rfl⟩ := (hf a).error failed
      exact ⟨_, addOrders_addOrders _ _ _⟩

end OnlyOrders

theorem onlyOrders_checkNulls (nulls : Value) : OnlyOrders (checkNulls nulls) :=
  (OnlyOrders.outcome _).bind fun _ => .pure ()

mutual

theorem onlyOrders_orderBy (direction nulls : Value) (column : Value) :
    OnlyOrders (orderBy direction nulls column) := by
  unfold orderBy
  split
  · exact (onlyOrders_checkNulls nulls).bind fun _ => onlyOrders_orderByAll direction _
  · exact (onlyOrders_checkNulls nulls).bind fun _ => onlyOrders_orderByAll direction _
  · exact (OnlyOrders.outcome _).bind fun _ => .addOrder _ _ _

theorem onlyOrders_orderByAll (direction : Value) (items : List Value) :
    OnlyOrders (orderByAll direction items) := by
  unfold orderByAll
  split
  · exact .pure ()
  · exact (onlyOrders_orderByEntry _ _ _).bind fun _ => onlyOrders_orderByAll direction _
  · exact (onlyOrders_orderBy direction .null _).bind fun _ => onlyOrders_orderByAll direction _

theorem onlyOrders_orderByEntry (direction nulls : Value) (entries : List (Value × Value)) :
    OnlyOrders (orderByEntry direction nulls entries) := by
  unfold orderByEntry
  split
  · exact .throw _
  · split
    · exact onlyOrders_orderBy direction nulls _
    · exact onlyOrders_orderByEntry direction nulls _

end

/-- A sequence is ordered item by item. -/
theorem orderBy_sequence {direction nulls column : Value} {items : List Value}
    (list : column.sequence? = some items) : orderBy direction nulls column =
      (do checkNulls nulls; orderByAll direction items) := by
  cases column <;> cases list <;> rw [orderBy]

/-- Any other column is ordered by itself. -/
theorem orderBy_single {direction nulls column : Value} (single : column.sequence? = none) :
    orderBy direction nulls column = (do
      let choice ← liftExcept (nullsOrder nulls)
      modify fun q => q.addOrder column direction choice) := by
  unfold orderBy
  split
  · cases single
  · cases single
  · rfl

theorem checkNulls_ok {nulls : Value} {q q' : Query Value} (run : checkNulls nulls q = .ok () q') :
    q' = q := by
  unfold checkNulls at run
  cases outcome : nullsOrder nulls with
  | ok choice =>
    rw [outcome] at run
    cases run
    rfl
  | error e =>
    rw [outcome] at run
    cases run

/-- A list for which the order is refused has a first item that is refused, after the ones before it. -/
theorem orderByAll_error {direction : Value} {items : List Value} {q q' : Query Value} {e : Error}
    (run : orderByAll direction items q = .error e q') :
    ∃ before item after q₁, items = before ++ item :: after ∧
      orderByAll direction before q = .ok () q₁ ∧ orderByAll direction [item] q₁ = .error e q' := by
  induction items generalizing q with
  | nil =>
    rw [orderByAll] at run
    cases run
  | cons item items ih =>
    -- a list is ordered by its first item, and then by the others
    have cons (rest : List Value) : orderByAll direction (item :: rest) =
        (do orderByAll direction [item]; orderByAll direction rest) := by
      cases item <;> simp [orderByAll]
    rw [cons, Build.bind_error] at run
    obtain failed | ⟨⟨⟩, q₁, first, failed⟩ := run
    · exact ⟨[], item, items, q, rfl, by rw [orderByAll]; rfl, failed⟩
    · obtain ⟨before, refused, after, q₂, rfl, taken, last⟩ := ih failed
      refine ⟨item :: before, refused, after, q₂, rfl, ?_, last⟩
      rw [cons]
      change EStateM.bind _ _ q = _
      rw [EStateM.bind, first]
      exact taken

/-! ### Steps of counters -/

/-- A mapping moves each of its columns by a step of its own, and any other column is moved by itself. -/
theorem count_eq (sign : Sign) (column step : Value) :
    count sign column step = countAll sign (column.entries?.getD [(column, step)]) := by
  unfold count
  split
  · rfl
  next single => cases column <;> first | rfl | exact absurd rfl (single _)

/-- A list of steps that is refused has a first entry that is refused, and leaves what the entries before
it did. -/
theorem countAll_error {sign : Sign} {entries : List (Value × Value)} {q q' : Query Value} {e : Error}
    (run : countAll sign entries q = .error e q') :
    ∃ before entry after steps, entries = before ++ entry :: after ∧
      before.mapM (counterOf sign) = .ok steps ∧ counterOf sign entry = .error e ∧
        q' = q.addCounters steps := by
  induction entries generalizing q with
  | nil => cases run
  | cons entry entries ih =>
    rw [countAll] at run
    cases outcome : counterOf sign entry with
    | error e' =>
      rw [outcome] at run
      cases run
      exact ⟨[], entry, entries, [], rfl, rfl, outcome, rfl⟩
    | ok step =>
      rw [outcome] at run
      obtain ⟨before, refused, after, steps, rfl, taken, last, rfl⟩ := ih run
      refine ⟨entry :: before, refused, after, step :: steps, rfl, ?_, last, rfl⟩
      rw [List.mapM_cons, outcome]
      change (do let steps ← before.mapM (counterOf sign); pure (step :: steps)) = _
      rw [taken]
      rfl

end Query

/-- A list of options that is refused has a first item that is refused, and leaves the options before it. -/
theorem QueryCall.addEach_error {items : List Value} {q q' : Query Value} {e : Error}
    (run : addEach items q = .error e q') :
    ∃ before item after entries, items = before ++ item :: after ∧
      before.mapM Value.entry = .ok entries ∧ item.entry = .error e ∧ q' = q.addOptions entries := by
  induction items generalizing q with
  | nil => cases run
  | cons item items ih =>
    rw [addEach] at run
    cases outcome : item.entry with
    | error e' =>
      rw [outcome] at run
      cases run
      exact ⟨[], item, items, [], rfl, rfl, outcome, rfl⟩
    | ok entry =>
      rw [outcome] at run
      obtain ⟨before, refused, after, entries, rfl, taken, last, rfl⟩ := ih run
      refine ⟨item :: before, refused, after, entry :: entries, rfl, ?_, last, rfl⟩
      rw [List.mapM_cons, outcome]
      change (do let entries ← before.mapM Value.entry; pure (entry :: entries)) = _
      rw [taken]
      rfl

/-! ## Refused calls -/

/-- What a call that is refused may leave of a query. -/
inductive Query.Left (q : Query Value) : String → Arguments → Error → Query Value → Prop
  /-- the query as it was -/
  | same {name : String} {a : Arguments} {e : Error} : Left q name a e q
  /-- the query ordered by the items before the one that is refused, and by what this one added itself,
  if it is a list in turn -/
  | ordered {a : Arguments} {e : Error} {b : Bound} {before after : List Value} {item : Value}
      {q' : Query Value} {added : List (OrderEntry Value)}
      (bound : a.bind ["column", "direction", "nulls"] 1 = .ok b)
      (list : (b.get "column").sequence? = some (before ++ item :: after))
      (taken : Query.orderByAll (b.get "direction") before q = .ok () q')
      (refused : Query.orderByAll (b.get "direction") [item] q' = .error e (q'.addOrders added)) :
      Left q "order_by" a e (q'.addOrders added)
  /-- the query with the steps of the entries before the one that is refused; it is no update yet -/
  | counted {name : String} {sign : Sign} {a : Arguments} {e : Error} {b : Bound}
      {before after : List (Value × Value)} {entry : Value × Value} {steps : List (Counter Value)}
      (signed : (name, sign) ∈ [("increment", Sign.plus), ("decrement", Sign.minus)])
      (bound : a.bind ["column", "amount"] 1 = .ok b)
      (map : b.get "column" = .map (before ++ entry :: after))
      (taken : before.mapM (Query.counterOf sign) = .ok steps)
      (refused : Query.counterOf sign entry = .error e) : Left q name a e (q.addCounters steps)
  /-- the query with the options before the one that is refused, if they do not come as a mapping -/
  | optioned {a : Arguments} {e : Error} {v item : Value} {before after : List Value}
      {entries : List (Value × Value)}
      (bound : a.one "opts" = .ok v) (list : v.items = .ok (before ++ item :: after))
      (taken : before.mapM Value.entry = .ok entries) (refused : item.entry = .error e) :
      Left q "options" a e (q.addOptions entries)

namespace QueryCall

variable {a : Arguments} {q q' : Query Value} {e : Error}

/-- A sequence that ends in a result fails where it fails before. -/
theorem error_of_then_pure {σ α β : Type} {step : Build σ α} {b : β} {s s' : σ}
    (run : (step >>= fun _ => pure b) s = .error e s') : step s = .error e s' := by
  obtain failed | ⟨_, _, _, ⟨⟩⟩ := Build.bind_error.mp run
  exact failed

/-- An outcome without effects before a step that fails. -/
theorem error_of_outcome {σ α β : Type} {x : Except Error α} {f : α → Build σ β} {s s' : σ}
    (run : (liftExcept x >>= f) s = .error e s') :
    s' = s ∨ ∃ a, x = .ok a ∧ f a s = .error e s' := by
  cases x with
  | ok a => exact .inr ⟨a, rfl, run⟩
  | error e' =>
    cases run
    exact .inl rfl

theorem order_left (run : order a q = .error e q') : q.Left "order_by" a e q' := by
  obtain rfl | ⟨b, bound, run⟩ := error_of_outcome run
  · exact .same
  have failed := error_of_then_pure run
  cases list : (b.get "column").sequence? with
  | none =>
    rw [Query.orderBy_single list] at failed
    obtain rfl | ⟨_, _, ⟨⟩⟩ := error_of_outcome failed
    exact .same
  | some items =>
    rw [Query.orderBy_sequence list, Build.bind_error] at failed
    obtain unchecked | ⟨⟨⟩, q₁, checked, failed⟩ := failed
    · obtain rfl | ⟨_, _, ⟨⟩⟩ := error_of_outcome unchecked
      exact .same
    · obtain rfl := Query.checkNulls_ok checked
      obtain ⟨before, item, after, q₁, rfl, taken, refused⟩ := Query.orderByAll_error failed
      obtain ⟨added, rfl⟩ := (Query.onlyOrders_orderByAll _ _).error refused
      exact .ordered bound list taken refused

theorem counter_left {name : String} {sign : Sign}
    (signed : (name, sign) ∈ [("increment", Sign.plus), ("decrement", Sign.minus)])
    (run : counter a sign q = .error e q') : q.Left name a e q' := by
  obtain rfl | ⟨b, bound, run⟩ := error_of_outcome run
  · exact .same
  have failed := error_of_then_pure run
  rw [Query.count_eq] at failed
  obtain ⟨before, entry, after, steps, entries, taken, refused, rfl⟩ := Query.countAll_error failed
  cases map : (b.get "column").entries? with
  | none =>
    -- the only entry is the one that is refused
    rw [map] at entries
    obtain rfl : before = [] := by
      cases before with
      | nil => rfl
      | cons first before => simp at entries
    cases taken
    exact .same
  | some listed =>
    rw [map, Option.getD_some] at entries
    exact .counted signed bound (by rw [← entries]; exact Value.eq_map map) taken refused

theorem options_left (run : QueryCall.options a q = .error e q') : q.Left "options" a e q' := by
  obtain rfl | ⟨v, given, run⟩ := error_of_outcome run
  · exact .same
  cases map : v.entries? with
  | some entries =>
    rw [map] at run
    cases run
  | none =>
    rw [map] at run
    obtain rfl | ⟨items, list, run⟩ := error_of_outcome run
    · exact .same
    obtain ⟨before, item, after, entries, rfl, taken, refused, rfl⟩ :=
      addEach_error (error_of_then_pure run)
    exact .optioned given list taken refused

end QueryCall

theorem QueryCall.counter_stay {a : Arguments} {sign : Sign} {q q' : Query Value} {r : QueryStep}
    (run : counter a sign q = .ok r q') : r = .stay := by
  obtain ⟨b, _, -, run⟩ := Build.bind_ok.mp run
  obtain ⟨_, _, -, ⟨⟩⟩ := Build.bind_ok.mp run
  rfl

/-- A call that goes through a list ends with the query. -/
theorem Query.piecemeal_stay {c : List String × (Arguments → Build (Query Value) QueryStep)}
    (piecemeal : c ∈ Query.piecemeal) {a : Arguments} {q q' : Query Value} {r : QueryStep}
    (run : c.2 a q = .ok r q') : r = .stay := by
  simp only [Query.piecemeal, List.mem_cons, List.not_mem_nil, or_false] at piecemeal
  obtain rfl | rfl | rfl | rfl := piecemeal
  · obtain ⟨b, _, -, run⟩ := Build.bind_ok.mp run
    obtain ⟨_, _, -, ⟨⟩⟩ := Build.bind_ok.mp run
    rfl
  · exact QueryCall.counter_stay run
  · exact QueryCall.counter_stay run
  · obtain ⟨v, _, -, run⟩ := Build.bind_ok.mp run
    cases map : v.entries? with
    | some entries =>
      rw [map] at run
      cases run
      rfl
    | none =>
      rw [map] at run
      obtain ⟨items, _, -, run⟩ := Build.bind_ok.mp run
      obtain ⟨_, _, -, ⟨⟩⟩ := Build.bind_ok.mp run
      rfl

/-- A call on a query that is refused leaves the query as it was, unless it takes a list or a mapping entry
by entry and refuses a later one: then it leaves what it did before. -/
theorem Query.call_left {name : String} {a : Arguments} {q q' : Query Value} {e : Error}
    (run : Query.call name a q = .error e q') : q.Left name a e q' := by
  unfold Query.call at run
  cases found : Query.calls.find? fun call => call.1.contains name with
  | none =>
    rw [found] at run
    simp only at run
    split at run <;> cases run
    exact .same
  | some call =>
    rw [found] at run
    have named : name ∈ call.1 := by simpa using List.find?_some found
    obtain piecemeal | tidy := Query.calls_tidy _ (List.mem_of_find?_eq_some found)
    · simp only [Query.piecemeal, List.mem_cons, List.not_mem_nil, or_false] at piecemeal
      obtain rfl | rfl | rfl | rfl := piecemeal <;> obtain rfl := List.mem_singleton.mp named
      · exact QueryCall.order_left run
      · exact QueryCall.counter_left (by simp) run
      · exact QueryCall.counter_left (by simp) run
      · exact QueryCall.options_left run
    · obtain rfl := (tidy a).failed run
      exact .same

/-- A call on a query after which something is still to be done leaves the query as it was. -/
theorem Query.call_pending {name : String} {a : Arguments} {q q' : Query Value} {r : QueryStep}
    (run : Query.call name a q = .ok r q') : r = .stay ∨ q' = q := by
  unfold Query.call at run
  cases found : Query.calls.find? fun call => call.1.contains name with
  | none =>
    rw [found] at run
    simp only at run
    split at run <;> cases run
    exact .inr rfl
  | some call =>
    rw [found] at run
    obtain piecemeal | tidy := Query.calls_tidy _ (List.mem_of_find?_eq_some found)
    · exact .inl (Query.piecemeal_stay piecemeal run)
    · exact (tidy a).pending run

/-- A choice of order keeps a column that stands before a mapping without one. -/
theorem Query.order_by_unnamed (column : String) (q : Query Value) :
    Query.call "order_by" { positional := [.list [.str column, .map [(.str "order", .str "desc")]]] } q =
      .error (.fault .missingKey) (q.addOrder (.str column) .null none) := by
  change (do Query.orderBy .null .null (.list _); return QueryStep.stay) q = _
  refine Build.bind_error.mpr (.inl ?_)
  simp [Query.orderBy, Query.orderByAll, Query.orderByEntry]
  rfl

/-! ## Queries under construction -/

namespace QueryCursor

theorem replace_current (c : QueryCursor) : c.replace c.current = c := by
  obtain ⟨origin, copy, stage⟩ := c
  cases copy <;> rfl

/-- A step that fails on the current query leaves what that left of it. -/
theorem onCurrent_error {α : Type} {step : Build (Query Value) α} {m m' : Making QueryCursor} {e : Error} :
    Make.ofBuild (onCurrent step) m = .error e m' ↔
      ∃ q', step m.object.current = .error e q' ∧ m' = { m with object := m.object.replace q' } := by
  unfold Make.ofBuild onCurrent
  cases step m.object.current with
  | ok a q => simp
  | error e' q => exact ⟨by rintro ⟨⟩; exact ⟨q, rfl, rfl⟩, by rintro ⟨_, ⟨⟩, rfl⟩; rfl⟩

/-- A call on the current query that is done, or else changed nothing. -/
theorem onCurrent_pending {name : String} {a : Arguments} {m m' : Making QueryCursor} {r : QueryStep}
    (run : Make.ofBuild (onCurrent (Query.call name a)) m = .ok r m') : r = .stay ∨ m' = m := by
  unfold Make.ofBuild onCurrent at run
  cases outcome : Query.call name a m.object.current with
  | error e q => simp [outcome] at run
  | ok r' q =>
    simp only [outcome] at run
    cases run
    obtain rfl | rfl := Query.call_pending outcome
    · exact .inl rfl
    · exact .inr (by rw [replace_current])

/-- A choice of what to do about conflicts that is refused changes nothing. -/
theorem conflictCall_error {columns : List Value} {name : String} {a : Arguments}
    {m m' : Making QueryCursor} {e : Error} (run : conflictCall columns name a m = .error e m') :
    m' = m := by
  unfold conflictCall at run
  split at run
  · obtain rfl | ⟨_, _, ⟨⟩⟩ := QueryCall.error_of_outcome run
    rfl
  · obtain rfl | ⟨_, _, ⟨⟩⟩ := QueryCall.error_of_outcome run
    rfl
  · cases run
    rfl

/-- A step that reads what is under construction. -/
theorem get_then {α : Type} (f : Making QueryCursor → Make QueryCursor α) (m : Making QueryCursor) :
    (get >>= f : Make QueryCursor α) m = f m m :=
  rfl

/-- A step that leaves the query under construction as it is. -/
theorem ofLogged_object {α : Type} {step : Logged α} {f : α → QueryCursor → QueryCursor}
    {m m' : Making QueryCursor} {e : Error}
    (run : (Make.ofLogged step >>= fun a => Make.edit (f a)) m = .error e m') :
    m'.object = m.object := by
  obtain failed | ⟨_, _, _, ⟨⟩⟩ := Build.bind_error.mp run
  unfold Make.ofLogged at failed
  split at failed <;> cases failed
  rfl

/-- A call that is refused leaves a query under construction as it was, but for what the call on the query
itself may leave, and for what a method of the caller's did. -/
theorem call_refused {callbacks : Callbacks} {outputs : Outputs}
    {extension : Option (Arguments → Make QueryCursor Unit)} {name : String} {a : Arguments}
    {m m' : Making QueryCursor} {e : Error}
    (run : QueryCursor.call callbacks outputs extension name a m = .error e m') :
    (∃ q', m.object.current.Left name a e q' ∧ m'.object = m.object.replace q') ∨
      ∃ own, extension = some own ∧ own a m = .error e m' := by
  have unchanged (same : m'.object = m.object) :
      ∃ q', m.object.current.Left name a e q' ∧ m'.object = m.object.replace q' :=
    ⟨_, .same, by rw [same, replace_current]⟩
  unfold QueryCursor.call at run
  rw [get_then] at run
  cases stage : m.object.stage with
  | value v =>
    simp only [stage] at run
    obtain rfl | ⟨_, _, ⟨⟩⟩ := QueryCall.error_of_outcome run
    exact .inl (unchanged rfl)
  | conflict columns =>
    simp only [stage] at run
    exact .inl (unchanged (congrArg Making.object (conflictCall_error run)))
  | builder =>
    simp only [stage] at run
    obtain failed | ⟨r, m₁, called, failed⟩ := Build.bind_error.mp run
    · obtain ⟨q', refused, left⟩ := onCurrent_error.mp failed
      exact .inl ⟨q', Query.call_left refused, by rw [left]⟩
    · obtain rfl | rfl := onCurrent_pending called
      · cases failed
      -- the call itself left the query as it was, and what is still to be done fails
      cases r with
      | stay | copy | conflict columns | value v => cases failed
      | join chains j => exact .inl (unchanged (ofLogged_object failed))
      | window chains w => exact .inl (unchanged (ofLogged_object failed))
      | output form => exact .inl (unchanged (ofLogged_object failed))
      | unknown =>
        cases extended : extension with
        | none =>
          rw [extended] at failed
          cases failed
          exact .inl (unchanged rfl)
        | some own =>
          rw [extended] at failed
          exact .inr ⟨own, rfl, failed⟩

/-- A choice of order for which the second item names no column. -/
theorem call_refused_item :
    let q := (Query.ofClient { dialect := .postgres }).from_ (.str "t")
    let callbacks : Callbacks := { join := fun _ j => pure j, window := fun _ w => pure w }
    let outputs : Outputs := { statement := fun _ v => pure v, schema := fun _ s => pure (.schema s) }
    let a : Arguments := { positional := [.list [.str "a", .map [(.str "order", .str "desc")]]] }
    let m : Making QueryCursor := { object := { origin := q } }
    let m' : Making QueryCursor := { object := { origin := q.addOrder (.str "a") .null none } }
    let e : Error := .fault .missingKey
    let extension : Option (Arguments → Make QueryCursor Unit) := none
    QueryCursor.call callbacks outputs extension "order_by" a m = .error e m' ∧
      ((∃ q', m.object.current.Left "order_by" a e q' ∧ m'.object = m.object.replace q') ∨
        ∃ own, extension = some own ∧ own a m = .error e m') := by
  intro q callbacks outputs a m m' e extension
  have refused : Query.call "order_by" a q = .error e (q.addOrder (.str "a") .null none) :=
    Query.order_by_unnamed "a" q
  have run : QueryCursor.call callbacks outputs extension "order_by" a m = .error e m' := by
    change (Make.ofBuild (onCurrent (Query.call "order_by" a)) >>= _) m = _
    exact Build.bind_error.mpr (.inl (onCurrent_error.mpr ⟨_, refused, rfl⟩))
  exact ⟨run, call_refused run⟩

end QueryCursor

/-- A choice of order that is refused at its second item is compiled up to there, and so is a mapping of
steps, once the query is an update. -/
theorem Query.call_refused_partly :
    let client : Client Value := { dialect := .postgres }
    let env : Environment := { client }
    let q := (Query.ofClient client).from_ (.str "t")
    let sql (q : Query Value) := (q.compile env).outcome.1.toOption.map Compiled.sql
    let order : Arguments := { positional := [.list [.str "a", .map [(.str "order", .str "desc")]]] }
    let steps : Arguments := { positional := [.map [(.str "a", .int 1), (.str "b", .str "x")]] }
    let update (q : Query Value) := q.setColumns [(.str "c", .int 2)] .null
    (∃ q', Query.call "order_by" order q = .error (.fault .missingKey) q' ∧
        sql q = some "select * from \"t\"" ∧ sql q' = some "select * from \"t\" order by \"a\" asc") ∧
      ∃ q', Query.call "increment" steps q = .error (.invalid (.counterStep "b")) q' ∧
        sql (update q) = some "update \"t\" set \"c\" = ?" ∧
        sql (update q') = some "update \"t\" set \"c\" = ?, \"a\" = \"a\" + ?" := by
  intro client env q sql order steps update
  exact ⟨⟨q.addOrder (.str "a") .null none, Query.order_by_unnamed "a" q, by decide +kernel,
    by decide +kernel⟩, ⟨q.addCounters [⟨"a", .plus, .int 1⟩], rfl, by decide +kernel, by decide +kernel⟩⟩

end SqlBuilder
