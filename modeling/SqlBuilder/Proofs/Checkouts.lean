import Mathlib.Algebra.Group.Int.Defs
import SqlBuilder.Proofs.Transactions

/-!
# Checkouts

Every connection that a pool hands out is given back once, after its last use, on every path through the
runner. A path that ends between the handing out and the use is the exception: a validation that fails, or
a wait that was over before it started.

* `Trace.Keeps`: the calls give back what they take, and use nothing else but what is held.
* `Run.Keeps`: the steps of a run whose calls do, and how they are put together.
* `Runner.checkouts_kept`: runs, transactions and batches.
-/

namespace SqlBuilder

variable {σ κ α β : Type}

/-! ## Calls on connections -/

namespace Action

/-- A call that executes something on a connection. -/
inductive Works (c : κ) : Action κ → Prop
  | execute {native : Native} : Works c (.execute c native)
  | control {k : Control} : Works c (.control c k)
  | cancel : Works c (.cancel c)

/-- A call that needs a connection. -/
def Uses (c : κ) (a : Action κ) : Prop :=
  a = .validate c ∨ a.Works c

@[simp] theorem not_uses_acquire {c : κ} {o : Option κ} : ¬ Uses c (.acquire o) := by
  rintro (⟨⟨⟩⟩ | ⟨⟨⟩⟩)

@[simp] theorem not_uses_release {c c' : κ} : ¬ Uses c (.release c') := by
  rintro (⟨⟨⟩⟩ | ⟨⟨⟩⟩)

@[simp] theorem uses_validate {c c' : κ} : Uses c (.validate c') ↔ c' = c := by
  refine ⟨?_, fun h => .inl (by rw [h])⟩
  rintro (⟨⟨⟩⟩ | ⟨⟨⟩⟩)
  rfl

variable [DecidableEq κ]

/-- A call that hands a connection out. -/
def takes (c : κ) : Action κ → Bool
  | .acquire (some c') => c' = c
  | _ => false

/-- A call that gives a connection back. -/
def gives (c : κ) : Action κ → Bool
  | .release c' => c' = c
  | _ => false

/-- A call that finds out whether a connection can be used. -/
def checks (c : κ) : Action κ → Bool
  | .validate c' => c' = c
  | _ => false

end Action

namespace Trace

/-- All calls execute something on a connection. -/
def Works (c : κ) (t : Trace κ) : Prop :=
  ∀ entry ∈ t, entry.action.Works c

/-- Each call fits the calls before it. -/
def Each (fits : Trace κ → TraceEntry κ → Prop) (t : Trace κ) : Prop :=
  ∀ before entry after, t = before ++ entry :: after → fits before entry

section Each

variable {fits : Trace κ → TraceEntry κ → Prop} {entry : TraceEntry κ} {t t' : Trace κ}

theorem each_nil : Trace.Each fits [] :=
  fun _ _ _ h => nomatch (List.append_eq_nil_iff.mp h.symm).2

theorem each_cons :
    Trace.Each fits (entry :: t) ↔ fits [] entry ∧ Trace.Each (fun before => fits (entry :: before)) t := by
  refine ⟨fun h => ⟨h [] entry t rfl, fun before e after split => ?_⟩, ?_⟩
  · exact h (entry :: before) e after (by rw [split]; rfl)
  rintro ⟨first, rest⟩ before e after split
  cases before with
  | nil =>
    cases split
    exact first
  | cons b before =>
    cases split
    exact rest before e after rfl

theorem each_append :
    Trace.Each fits (t ++ t') ↔ Trace.Each fits t ∧ Trace.Each (fun before => fits (t ++ before)) t' := by
  induction t generalizing fits with
  | nil => exact ⟨fun h => ⟨each_nil, h⟩, And.right⟩
  | cons entry t ih =>
    rw [List.cons_append, each_cons, each_cons, ih, and_assoc]
    rfl

end Each

variable [DecidableEq κ]

/-- How often a connection is handed out. -/
def acquisitions (c : κ) (t : Trace κ) : Nat :=
  t.countP fun entry => entry.action.takes c

/-- How often a connection is given back. -/
def releases (c : κ) (t : Trace κ) : Nat :=
  t.countP fun entry => entry.action.gives c

/-- How often it was not found out whether a connection can be used. -/
def doubts (c : κ) (t : Trace κ) : Nat :=
  t.countP fun entry => entry.action.checks c && !entry.succeeded

section Counts

variable (c : κ) (entry : TraceEntry κ) (t t' : Trace κ)

@[simp] theorem acquisitions_nil : Trace.acquisitions c [] = 0 := rfl

@[simp] theorem releases_nil : Trace.releases c [] = 0 := rfl

@[simp] theorem doubts_nil : Trace.doubts c [] = 0 := rfl

@[simp] theorem acquisitions_cons :
    Trace.acquisitions c (entry :: t) = t.acquisitions c + if entry.action.takes c then 1 else 0 :=
  List.countP_cons

@[simp] theorem releases_cons :
    Trace.releases c (entry :: t) = t.releases c + if entry.action.gives c then 1 else 0 :=
  List.countP_cons

@[simp] theorem doubts_cons :
    Trace.doubts c (entry :: t) =
      t.doubts c + if entry.action.checks c && !entry.succeeded then 1 else 0 :=
  List.countP_cons

@[simp] theorem acquisitions_append : Trace.acquisitions c (t ++ t') = t.acquisitions c + t'.acquisitions c :=
  List.countP_append

@[simp] theorem releases_append : Trace.releases c (t ++ t') = t.releases c + t'.releases c :=
  List.countP_append

@[simp] theorem doubts_append : Trace.doubts c (t ++ t') = t.doubts c + t'.doubts c :=
  List.countP_append

end Counts

/-- The calls give back each connection as often as they take it, unless it is not found out whether it can
be used. A connection is only used while it is held, and only given back if the calls took it. -/
structure Keeps (held : List κ) (t : Trace κ) : Prop where
  once : ∀ c, t.acquisitions c = t.releases c + t.doubts c
  used : ∀ c, t.Each fun before entry => entry.action.Uses c →
    Trace.releases c before < held.count c + Trace.acquisitions c before
  given : ∀ c, t.Each fun before entry => entry.action = .release c →
    Trace.releases c before < Trace.acquisitions c before

namespace Keeps

variable {held : List κ} {t t' : Trace κ} {c : κ}

theorem nil : Trace.Keeps held [] :=
  ⟨fun _ => rfl, fun _ => each_nil, fun _ => each_nil⟩

theorem append (h : Trace.Keeps held t) (h' : Trace.Keeps held t') : Trace.Keeps held (t ++ t') where
  once c := by
    have := h.once c
    have := h'.once c
    simp only [acquisitions_append, releases_append, doubts_append]
    omega
  used c := by
    refine each_append.mpr ⟨h.used c, fun before entry after split uses => ?_⟩
    have := h'.used c before entry after split uses
    have := h.once c
    simp only [acquisitions_append, releases_append]
    omega
  given c := by
    refine each_append.mpr ⟨h.given c, fun before entry after split gives => ?_⟩
    have := h'.given c before entry after split gives
    have := h.once c
    simp only [acquisitions_append, releases_append]
    omega

/-- What is executed on a connection that is held keeps it. -/
theorem of_works (h : t.Works c) : Trace.Keeps (c :: held) t := by
  induction t with
  | nil => exact .nil
  | cons entry t ih =>
    have first : Trace.Keeps (c :: held) [entry] := by
      obtain ⟨action, ok⟩ := entry
      have works : action.Works c := h _ (List.mem_cons_self ..)
      refine ⟨fun c' => ?_, fun c' => ?_, fun c' => ?_⟩
      · cases works <;> rfl
      · refine each_cons.mpr ⟨fun uses => ?_, each_nil⟩
        have same : c' = c := by
          cases works <;> rcases uses with ⟨⟨⟩⟩ | ⟨⟨⟩⟩ <;> rfl
        simp [same]
      · refine each_cons.mpr ⟨?_, each_nil⟩
        rintro rfl
        cases works
    exact first.append (ih fun e he => h e (List.mem_cons_of_mem _ he))

/-- A connection that is taken, validated, held and given back is kept. -/
theorem checkout (h : t.Keeps (c :: held)) {ok : Bool} :
    Trace.Keeps held ([⟨.acquire (some c), true⟩, ⟨.validate c, true⟩] ++ t ++ [⟨.release c, ok⟩]) := by
  refine ⟨fun c' => ?_, fun c' => ?_, fun c' => ?_⟩
  · have := h.once c'
    simp [Action.takes, Action.gives, Action.checks]
    omega
  · simp only [List.cons_append, List.nil_append, each_cons, each_append]
    refine ⟨by simp, ?_, fun before entry after split uses => ?_, by simp, each_nil⟩
    · intro uses
      simp [Action.takes, Action.gives, Action.uses_validate.mp uses]
    · have := h.used c' before entry after split uses
      simp [Action.takes, Action.gives, List.count_cons] at this ⊢
      omega
  · simp only [List.cons_append, List.nil_append, each_cons, each_append]
    refine ⟨nofun, nofun, fun before entry after split gives => ?_, fun gives => ?_, each_nil⟩
    · have := h.given c' before entry after split gives
      simp [Action.takes, Action.gives]
      omega
    · have := h.once c'
      cases gives
      simp [Action.takes, Action.gives]
      omega

theorem missed {ok : Bool} : Trace.Keeps held [⟨.acquire none, ok⟩] :=
  ⟨fun _ => rfl, fun _ => each_cons.mpr ⟨by simp, each_nil⟩, fun _ => each_cons.mpr ⟨nofun, each_nil⟩⟩

/-- A connection of which it is not found out whether it can be used is not given back. -/
theorem doubted : Trace.Keeps held [⟨.acquire (some c), true⟩, ⟨.validate c, false⟩] := by
  refine ⟨fun c' => ?_, fun c' => ?_, fun c' => ?_⟩
  · simp [Action.takes, Action.gives, Action.checks]
  · refine each_cons.mpr ⟨by simp, each_cons.mpr ⟨fun uses => ?_, each_nil⟩⟩
    simp [Action.takes, Action.gives, Action.uses_validate.mp uses]
  · exact each_cons.mpr ⟨nofun, each_cons.mpr ⟨nofun, each_nil⟩⟩

end Keeps

end Trace

/-! ## Steps of a run -/

namespace Run

variable [DecidableEq κ]

/-- A step of a run whose calls keep what is held. -/
def Keeps (held : List κ) (m : Run σ κ α) : Prop :=
  m.Adds fun _ t => t.Keeps held

namespace Keeps

variable {held : List κ} {m : Run σ κ α} {f : α → Run σ κ β}

protected theorem pure {a : α} : (pure a : Run σ κ α).Keeps held :=
  Adds.pure .nil

protected theorem throw {e : Error} : (throw e : Run σ κ α).Keeps held :=
  Adds.throw .nil

protected theorem bind (h : m.Keeps held) (next : ∀ a, (f a).Keeps held) : (m >>= f).Keeps held :=
  Adds.bind h (fun _ _ => id) fun a _ kept => (next a).mono fun _ _ => kept.append

theorem of_silent (h : m.Silent) : m.Keeps held := by
  refine h.mono fun _ t none_ => ?_
  rw [none_]
  exact .nil

theorem of_works {c : κ} (h : m.Adds fun _ t => t.Works c) : m.Keeps (c :: held) :=
  h.mono fun _ _ => Trace.Keeps.of_works

theorem onFailure {step : Run σ κ Unit} (h : m.Keeps held) (h' : step.Keeps held) :
    (Run.onFailure m step).Keeps held :=
  fun s => (h s).onFailure (fun _ _ _ => id) fun _ _ _ kept => (h' _).mono fun _ => kept.append

protected theorem mapM {g : α → Run σ κ β} (h : ∀ a, (g a).Keeps held) (as : List α) :
    (as.mapM g).Keeps held := by
  induction as with
  | nil => exact .pure
  | cons a as ih =>
    rw [List.mapM_cons]
    exact (h a).bind fun _ => ih.bind fun _ => .pure

end Keeps

end Run

/-! ## Checkouts -/

namespace Runner

variable (r : Runner σ κ) (c : κ)

/-- The calls of a statement execute something on its connection. -/
theorem Sent.works {q : Compiled Value} {ok : Bool} {t : Trace κ} (h : r.Sent c q ok t) : t.Works c := by
  have cancelled {late : Trace κ} (cancels : Cancels c q late) : Trace.Works c late := by
    obtain rfl | ⟨-, ok, rfl⟩ := cancels
    · exact fun _ => nofun
    · exact List.forall_mem_singleton.mpr .cancel
  cases h with
  | answered _ => exact List.forall_mem_singleton.mpr .execute
  | failed _ cancels => exact List.forall_mem_cons.mpr ⟨.execute, cancelled cancels⟩
  | unsent _ cancels => exact cancelled cancels

/-- The calls of a step that drives a transaction execute something on its connection. -/
theorem Attempted.works {k : Control} {ok : Bool} {t : Trace κ} (h : r.Attempted c k ok t) : t.Works c := by
  unfold Attempted controlAction at h
  split at h
  next action found =>
    rw [h]
    refine List.forall_mem_singleton.mpr ?_
    split at found
    · cases found
      exact .control
    · obtain ⟨sql, -, rfl⟩ := Option.map_eq_some_iff.mp found
      exact .execute
  · rw [h.2]
    exact fun _ => nofun

/-- The usual minute is a time in which a wait can end with a connection. -/
theorem waits_minute (usual : r.env.client.acquireTimeout = none) : r.Waits := by
  have minute : (60000 : Int) < Patience.secondsBound := by decide +kernel
  refine .inr ?_
  simp only [acquireTimeout, usual, Option.getD_none, Patience.ofTime]
  rw [if_neg (by simp only [Bool.or_eq_true, decide_eq_true_eq]; omega), if_neg (by decide)]

variable [DecidableEq κ] {held : List κ}

theorem query_keeps (q : Compiled Value) : (r.query c q).Keeps (c :: held) :=
  .of_works ((r.query_adds c q).mono fun _ _ => Sent.works r c)

theorem control_keeps (k : Control) : (r.control c k).Keeps (c :: held) :=
  .of_works ((r.control_adds c k).mono fun _ _ => Attempted.works r c)

theorem atomic_keeps {body : Run σ κ α} (h : body.Keeps (c :: held)) : (r.atomic c body).Keeps (c :: held) := by
  have rolledBack (event : LogEvent) :
      (do Run.report event; r.control c .rollback : Run σ κ Unit).Keeps (c :: held) :=
    Run.Adds.report (r.control_keeps c .rollback)
  exact (r.control_keeps c .begin_).bind fun _ => (h.onFailure (rolledBack _)).bind fun a =>
    (r.control_keeps c .commit).bind fun _ => .pure

theorem execute_keeps (context : Option Value) (inTransaction : Bool) (q : Compiled Value) :
    (r.execute c context inTransaction q).Keeps (c :: held) := by
  intro s
  have kept {ok : Bool} {t : Trace κ} (sent : r.Sent c q ok t) : t.Keeps (c :: held) := .of_works sent.works
  refine r.execute_adds c context inTransaction q s (P := fun _ t => t.Keeps (c :: held)) ?_ ?_ ?_
  · exact fun t _ sent => kept sent
  · exact fun response s' t ok _ sent _ => kept sent
  intro response s' t list _ sent _
  have all : (list.mapM (r.query c)).Keeps (c :: held) := .mapM (r.query_keeps c) list
  have follows : (if inTransaction then list.mapM (r.query c) else r.atomic c (list.mapM (r.query c))).Keeps
      (c :: held) := .ite (fun _ => all) fun _ => r.atomic_keeps c all
  exact (follows s').mono fun t' rest ok _ => (kept sent).append rest

theorem executeAll_keeps (context : Option Value) (inTransaction : Bool) (statements : Statements)
    (misplaced : Option Error) :
    (r.executeAll c context inTransaction statements misplaced).Keeps (c :: held) := by
  refine (Run.Keeps.mapM (r.execute_keeps c context inTransaction) statements.toList).bind fun responses => ?_
  split
  · exact .throw
  · exact .pure
  · exact .pure

theorem bodyStep_keeps (step : BodyStep) : (r.bodyStep c step).Keeps (c :: held) := by
  cases step with
  | fail e => exact .throw
  | run what context =>
    exact (Run.Keeps.of_silent (Run.silent_compile _)).bind fun (statements, misplaced) =>
      r.executeAll_keeps c _ true statements misplaced

/-- A try to take a connection that fails keeps what is held, if a wait can end with a connection. -/
theorem Refused.keeps (waits : r.Waits) {t : Trace κ} (h : r.Refused t) : t.Keeps held := by
  cases h with
  | unmet unmet =>
    cases unmet with
    | unasked => exact .nil
    | missed => exact .missed
    | late ended => exact absurd waits ended
  | unknown => exact .doubted
  | unusable => exact Trace.Keeps.nil.checkout

/-- What happens on a connection that is taken for it and given back keeps what is held before, if a wait
can end with a connection. -/
theorem checkout_keeps (waits : r.Waits) {body : κ → Run σ κ α} (h : ∀ c, (body c).Keeps (c :: held)) :
    (do
      let c ← r.acquire
      Run.ensuring (body c) (r.release c)).Keeps held := by
  refine r.acquire_adds.bind (fun e t refused => refused.keeps r waits) ?_
  rintro c t rfl s
  refine (h c s).ensuring fun made kept => ?_
  refine (Run.require_adds _ _ _).mono fun last released => ?_
  rw [released, ← List.append_assoc]
  exact kept.checkout

theorem run_keeps (waits : r.Waits) (what : Value) (context : Option Value) : (r.run what context).Keeps held :=
  (Run.Keeps.of_silent (Run.silent_compile _)).bind fun (statements, misplaced) =>
    r.checkout_keeps waits fun c => r.executeAll_keeps c _ false statements misplaced

theorem transaction_keeps (waits : r.Waits) {body : κ → Run σ κ α} (h : ∀ c, (body c).Keeps (c :: held)) :
    (r.transaction body).Keeps held :=
  r.checkout_keeps waits fun c => r.atomic_keeps c (h c)

theorem body_keeps (steps : List BodyStep) : (r.body steps c).Keeps (c :: held) := by
  rw [body_eq]
  exact .mapM (r.bodyStep_keeps c) steps

theorem runBatch_keeps (waits : r.Waits) (b : Batch) : (r.runBatch b).Keeps held := by
  refine (Run.Keeps.of_silent (Run.silent_compile _)).bind fun statements => ?_
  refine .ite (fun _ => Run.Keeps.pure) fun _ => Run.Adds.report ?_
  exact (r.transaction_keeps waits fun c => r.body_keeps c _).bind fun _ => .pure

/-- Runs, lists of runs, transactions and batches give back every connection as often as they take it,
after its last use, whatever the collaborators answer, if a wait can end with a connection. The connections
that are left out are those whose validation fails. The body of a transaction may take connections of its
own, and use those that are held around it. -/
theorem checkouts_kept (waits : r.Waits) (held : List κ) :
    (∀ what context, (r.run what context).Keeps held) ∧ (∀ list, (r.runAll list).Keeps held) ∧
      (∀ steps, (r.transaction (r.body steps)).Keeps held) ∧ (∀ b, (r.runBatch b).Keeps held) ∧
        ∀ (α : Type) (body : κ → Run σ κ α), (∀ c, (body c).Keeps (c :: held)) →
          (r.transaction body).Keeps held :=
  ⟨r.run_keeps waits, .mapM fun what => r.run_keeps waits what none,
    fun _ => r.transaction_keeps waits fun c => r.body_keeps c _, r.runBatch_keeps waits,
    fun _ _ => r.transaction_keeps waits⟩

/-- A body that fails after its first step, and a body that takes a connection of its own. -/
theorem checkouts_kept_nested :
    let client : Client Value := { dialect := .postgres }
    let r : Runner Nat Nat :=
      { env := { client }, pool := ScriptedPool.pool {}, driver := ScriptedDriver.driver {} }
    let what : Value := .raw { client, sql := .str "select 1" }
    let steps : List BodyStep := [.run what none, .fail wrongType]
    r.Waits ∧ (r.run what).Keeps [] ∧ (r.runAll [what, what]).Keeps [] ∧
      (r.transaction (r.body steps)).Keeps [] ∧ (r.transaction fun _ => r.run what).Keeps [] := by
  intro client r what steps
  have waits : r.Waits := r.waits_minute rfl
  obtain ⟨run, runAll, stepwise, -, transaction⟩ := r.checkouts_kept waits []
  have inner (c : Nat) : (r.run what).Keeps [c] := (r.checkouts_kept waits [c]).1 what none
  exact ⟨waits, run what none, runAll _, stepwise steps, transaction Response _ inner⟩

/-- A connection whose validation fails is not given back, and neither is one that comes although the time
to wait for it is none. -/
theorem checkouts_leaked :
    let client : Client Value := { dialect := .postgres }
    let pool : Pool Nat Nat := ScriptedPool.pool {}
    let driver : Driver Nat Nat := ScriptedDriver.driver {}
    let doubting : Runner Nat Nat :=
      { env := { client }, driver, pool := { pool with validate := fun _ => throw (.broken "") } }
    let impatient : Runner Nat Nat :=
      { env := { client := { client with acquireTimeout := some (.int (10 ^ 400)) } }, driver, pool }
    let what : Value := .raw { client, sql := .str "select 1" }
    let doubted := ((doubting.run what).after { world := 0 }).trace
    let late := ((impatient.run what).after { world := 0 }).trace
    Trace.acquisitions 1 doubted = 1 ∧ Trace.releases 1 doubted = 0 ∧
      Trace.acquisitions 1 late = 1 ∧ Trace.releases 1 late = 0 := by
  decide +kernel

end Runner

end SqlBuilder
