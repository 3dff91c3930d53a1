import Mathlib.Data.List.Infix
import SqlBuilder.Proofs.Inserts
import SqlBuilder.Proofs.NameRecursion
import SqlBuilder.Proofs.Places

/-!
# Fragments with more parentheses

Two renderings that differ in one operand, which stands in parentheses in the first one only. Their texts are
the same but for these parentheses, wherever the operand stands and as often as it is written, and they bind the
same values.

* `Sql.Enclosed`: two fragments are the same but for a number of parts, in parentheses in the first one.
* `Sql.Firm`: what the parts have to be like, so that the texts around them do not depend on the parentheses.
* `Counted`: two lists of such fragments.
* `Abreast`: two compilations, from one progress, have related results in one progress, or both fail.
* `Abreast.bind`, `Abreast.mapM`: compilations in sequence.
-/

namespace SqlBuilder

/-! ## Fragments -/

/-- What the text of a statement begins with, or a part in parentheses. -/
def openings : List String := ["(", "select ", "with ", "/* "]

/-- A text begins like a statement, or with a parenthesis. -/
def Opens (cs : List Char) : Prop :=
  ∃ w ∈ openings, w.toList <+: cs

theorem Opens.append {cs : List Char} (h : Opens cs) (more : List Char) : Opens (cs ++ more) := by
  obtain ⟨w, known, begins⟩ := h
  exact ⟨w, known, begins.trans (List.prefix_append ..)⟩

theorem Opens.ne_nil {cs : List Char} (h : Opens cs) : cs ≠ [] := by
  obtain ⟨w, known, begins⟩ := h
  rintro rfl
  rw [List.prefix_nil] at begins
  have filled : ∀ w ∈ openings, w.toList ≠ [] := by decide
  exact filled w known begins

/-- Whether a text begins with a pattern does not depend on a part of it that begins with no end of the
pattern. -/
theorem prefix_append_congr {pattern xs ys : List Char} (left : ∀ suffix, suffix <:+ pattern → suffix ≠ [] → ¬ suffix <+: xs)
    (right : ∀ suffix, suffix <:+ pattern → suffix ≠ [] → ¬ suffix <+: ys) (before : List Char) :
    pattern <+: before ++ xs ↔ pattern <+: before ++ ys := by
  induction before generalizing pattern with
  | nil =>
    by_cases empty : pattern = []
    · simp [empty]
    · exact iff_of_false (left _ List.suffix_rfl empty) (right _ List.suffix_rfl empty)
  | cons c before ih =>
    cases pattern with
    | nil => simp
    | cons p pattern =>
      rw [List.cons_append, List.cons_append, List.cons_prefix_cons, List.cons_prefix_cons]
      exact and_congr_right' (ih (fun suffix h => left suffix (h.trans (List.suffix_cons ..)))
        fun suffix h => right suffix (h.trans (List.suffix_cons ..)))

/-- The keyword of shared columns does not reach into a text that begins like a statement. -/
theorem Opens.not_using {cs : List Char} (h : Opens cs) {suffix : List Char} (last : suffix <:+ " using".toList)
    (filled : suffix ≠ []) : ¬ suffix <+: cs := by
  have apart : ∀ w ∈ openings, ∀ suffix ∈ " using".toList.tails, suffix ≠ [] →
      ¬ suffix <+: w.toList ∧ ¬ w.toList <+: suffix := by decide
  obtain ⟨w, known, begins⟩ := h
  obtain ⟨left, right⟩ := apart w known suffix ((List.mem_tails ..).mpr last) filled
  intro both
  exact (List.prefix_or_prefix_of_prefix both begins).elim left right

namespace Sql

variable {Part : Sql → Prop} {a b c d : Sql} {as bs : List Sql} {m n : Nat}

/-- Two fragments are the same but for a number of parts of a kind, which stand in parentheses in the first
one. -/
inductive Enclosed (Part : Sql → Prop) : Nat → Sql → Sql → Prop
  | same (sql : Sql) : Enclosed Part 0 sql sql
  | here {n : Nat} (before : Sql) {part a b : Sql} (known : Part part) (rest : Enclosed Part n a b) :
      Enclosed Part (n + 1) (before ++ part.parens ++ a) (before ++ part ++ b)

/-- The parts begin like statements, also where they are written without their values. -/
structure Firm (Part : Sql → Prop) : Prop where
  opens : ∀ part, Part part → Opens part.text.toList
  frozen : ∀ part, Part part → Part part.frozen

theorem frozen_append (a b : Sql) : (a ++ b).frozen = a.frozen ++ b.frozen :=
  List.filterMap_append

theorem frozen_parens (sql : Sql) : sql.parens.frozen = sql.frozen.parens := by
  rw [parens, frozen_append, frozen_append]
  rfl

theorem isBlank_append (a b : Sql) : (a ++ b).isBlank = (a.isBlank && b.isBlank) := by
  rw [isBlank, List.all_append]
  rfl

theorem text_of_isBlank (h : a.isBlank = true) : a.text = "" := by
  rw [← join_texts, (isBlank_iff a).mp h]
  rfl

theorem isBlank_of_opens (h : Opens a.text.toList) : a.isBlank = false := by
  rw [Bool.eq_false_iff]
  intro blank
  exact h.ne_nil (by rw [text_of_isBlank blank]; rfl)

theorem isBlank_parens (sql : Sql) : sql.parens.isBlank = false := by
  rw [parens, isBlank_append, isBlank_append]
  rfl

namespace Enclosed

/-- A part in parentheses beside the part. -/
theorem part (known : Part a) : Enclosed Part 1 a.parens a := by
  simpa using here [] known (same [])

theorem after (before : Sql) (h : Enclosed Part n a b) : Enclosed Part n (before ++ a) (before ++ b) := by
  cases h with
  | same sql => exact same _
  | here before' known rest => simpa only [List.append_assoc] using here (before ++ before') known rest

theorem append (h : Enclosed Part m a b) (h' : Enclosed Part n c d) : Enclosed Part (m + n) (a ++ c) (b ++ d) := by
  induction h with
  | same sql =>
    rw [Nat.zero_add]
    exact h'.after sql
  | @here m before part _ _ known rest ih =>
    rw [Nat.add_right_comm]
    simpa only [List.append_assoc] using here before known ih

theorem before (h : Enclosed Part n a b) (after : Sql) : Enclosed Part n (a ++ after) (b ++ after) :=
  h.append (same after)

theorem parens (h : Enclosed Part n a b) : Enclosed Part n a.parens b.parens :=
  (h.after _).before _

/-- The parentheses are no values. -/
theorem bindings (h : Enclosed Part n a b) : a.bindings = b.bindings := by
  induction h with
  | same => rfl
  | here before known rest ih => simp [ih]

/-- The first text is longer by the parentheses. -/
theorem length (h : Enclosed Part n a b) : a.text.length = b.text.length + 2 * n := by
  induction h with
  | same => rfl
  | here before known rest ih =>
    have marks : ("(" : String).length = 1 ∧ (")" : String).length = 1 := ⟨rfl, rfl⟩
    simp only [Sql.parens, text_append, text_word, String.length_append, ih, marks]
    omega

variable (firm : Firm Part)

include firm

theorem isBlank (h : Enclosed Part n a b) : a.isBlank = b.isBlank := by
  induction h with
  | same => rfl
  | here before known rest ih =>
    simp [isBlank_append, isBlank_parens, isBlank_of_opens (firm.opens _ known)]

theorem frozen (h : Enclosed Part n a b) : Enclosed Part n a.frozen b.frozen := by
  induction h with
  | same => exact same _
  | here before known rest ih =>
    rw [frozen_append, frozen_append, frozen_append, frozen_append, frozen_parens]
    exact here _ (firm.frozen _ known) ih

/-- The texts begin alike, as far as the keyword of shared columns goes. -/
theorem startsWith_using (h : Enclosed Part n a b) :
    Text.startsWith a.text " using" = Text.startsWith b.text " using" := by
  cases h with
  | same => rfl
  | @here _ before part a b known rest =>
    -- The keyword is in the shared beginning or nowhere: what follows opens with a parenthesis or like a statement.
    have left : Opens (part.parens ++ a).text.toList := by
      rw [text_append, Sql.parens, text_append, text_append, text_word, String.toList_append, String.toList_append,
        String.toList_append, List.append_assoc, List.append_assoc]
      exact ⟨"(", by decide, List.prefix_append ..⟩
    have right : Opens (part ++ b).text.toList := by
      rw [text_append, String.toList_append]
      exact (firm.opens _ known).append _
    rw [Bool.eq_iff_iff, Text.startsWith, Text.startsWith, Text.dropStart?_isSome, Text.dropStart?_isSome,
      List.append_assoc, List.append_assoc, text_append, text_append before, String.toList_append, String.toList_append]
    exact prefix_append_congr (fun _ => left.not_using) (fun _ => right.not_using) _

theorem after_keyword (h : Enclosed Part n a b) (keyword : String) :
    Enclosed Part n (Sql.after keyword a) (Sql.after keyword b) := by
  unfold Sql.after
  rw [h.isBlank firm]
  split
  · exact h
  · exact h.after _

end Enclosed

end Sql

/-! ## Lists -/

/-- The items of two lists are related, each with a number of its own; the sum of these goes with the lists. -/
inductive Counted {α β : Type} (R : Nat → α → β → Prop) : Nat → List α → List β → Prop
  | nil : Counted R 0 [] []
  | cons {m n : Nat} {a : α} {b : β} {as : List α} {bs : List β} (first : R m a b) (rest : Counted R n as bs) :
      Counted R (m + n) (a :: as) (b :: bs)

namespace Counted

variable {α β : Type} {m n : Nat}

theorem refl {R : Nat → α → α → Prop} (same : ∀ a, R 0 a a) (as : List α) : Counted R 0 as as := by
  induction as with
  | nil => exact .nil
  | cons a as ih => exact .cons (same a) ih

theorem append {R : Nat → α → β → Prop} {as cs : List α} {bs ds : List β} (h : Counted R m as bs)
    (h' : Counted R n cs ds) : Counted R (m + n) (as ++ cs) (bs ++ ds) := by
  induction h with
  | nil =>
    rw [Nat.zero_add]
    exact h'
  | cons first _ ih =>
    rw [Nat.add_assoc]
    exact .cons first ih

/-- Two lists that differ in one place. -/
theorem fill {R : Nat → α → α → Prop} (same : ∀ a, R 0 a a) (gap : Gap α) {a b : α} (h : R n a b) :
    Counted R n (gap.fill a) (gap.fill b) := by
  have whole := (refl same gap.before).append (.cons h (refl same gap.after))
  rwa [Nat.zero_add, Nat.add_zero] at whole

theorem flatten {R : Nat → α → β → Prop} {as : List (List α)} {bs : List (List β)} (h : Counted (Counted R) n as bs) :
    Counted R n as.flatten bs.flatten := by
  induction h with
  | nil => exact .nil
  | cons first _ ih => exact first.append ih

variable {Part : Sql → Prop} {as bs : List Sql}

theorem joined (separator : String) (h : Counted (Sql.Enclosed Part) n as bs) :
    Sql.Enclosed Part n (Sql.joined separator as) (Sql.joined separator bs) := by
  induction h with
  | nil => exact .same _
  | cons first rest ih =>
    cases rest with
    | nil => exact first
    | cons next others => exact (first.before _).append ih

theorem separated (firm : Sql.Firm Part) (separator : String) (h : Counted (Sql.Enclosed Part) n as bs) :
    Sql.Enclosed Part n (Sql.separated separator as) (Sql.separated separator bs) := by
  unfold Sql.separated
  suffices all : ∀ {k : Nat} {done done' : Sql}, Sql.Enclosed Part k done done' → Sql.Enclosed Part (k + n)
      (as.foldl (fun done sql => if done.isBlank || sql.isBlank then done ++ sql
        else done ++ Sql.word separator ++ sql) done)
      (bs.foldl (fun done sql => if done.isBlank || sql.isBlank then done ++ sql
        else done ++ Sql.word separator ++ sql) done') by
    simpa using all (.same [])
  induction h with
  | nil => exact id
  | cons first _ ih =>
    intro k done done' begun
    rw [List.foldl_cons, List.foldl_cons, ← Nat.add_assoc, begun.isBlank firm, first.isBlank firm]
    refine ih ?_
    split
    · exact begun.append first
    · exact (begun.before _).append first

end Counted

/-! ## Compilations -/

/-- Two outcomes are related results in one progress, or both are failures. -/
inductive EndsAbreast {α β : Type} (R : α → β → Prop) :
    EStateM.Result Error Progress α → EStateM.Result Error Progress β → Prop
  | ok {a : α} {b : β} {p : Progress} (h : R a b) : EndsAbreast R (.ok a p) (.ok b p)
  | error {e e' : Error} {p p' : Progress} : EndsAbreast R (.error e p) (.error e' p')

/-- Two compilations, from one progress, have related results in one progress, or both fail. -/
def Abreast {α β : Type} (R : α → β → Prop) (c : Compile α) (c' : Compile β) : Prop :=
  ∀ p, EndsAbreast R (c p) (c' p)

namespace Abreast

variable {α β α' β' : Type} {R : α → β → Prop} {c : Compile α} {c' : Compile β}

protected theorem pure {a : α} {b : β} (h : R a b) : Abreast R (pure a) (pure b) :=
  fun _ => .ok h

protected theorem throw (e e' : Error) : Abreast R (throw e) (throw e') :=
  fun _ => .error

theorem refl {R : α → α → Prop} (same : ∀ a, R a a) (c : Compile α) : Abreast R c c := by
  intro p
  cases c p with
  | ok a q => exact .ok (same a)
  | error e q => exact .error

theorem mono {S : α → β → Prop} (h : Abreast R c c') (imp : ∀ a b, R a b → S a b) : Abreast S c c' := by
  intro p
  have ends := h p
  generalize c p = r, c' p = r' at ends ⊢
  cases ends with
  | ok related => exact .ok (imp _ _ related)
  | error => exact .error

/-- What is related are results. -/
theorem renders (h : Abreast R c c') : Abreast (fun a b => R a b ∧ c'.Renders b) c c' := by
  intro p
  have ends := h p
  generalize left : c p = r, right : c' p = r' at ends
  cases ends with
  | ok related => exact .ok ⟨related, p, _, right⟩
  | error => exact .error

protected theorem bind {S : α' → β' → Prop} {f : α → Compile α'} {f' : β → Compile β'} (h : Abreast R c c')
    (next : ∀ a b, R a b → Abreast S (f a) (f' b)) : Abreast S (c >>= f) (c' >>= f') := by
  intro p
  change EndsAbreast S (EStateM.bind c f p) (EStateM.bind c' f' p)
  unfold EStateM.bind
  have ends := h p
  generalize c p = r, c' p = r' at ends ⊢
  cases ends with
  | ok related => exact next _ _ related _
  | error => exact .error

/-- One step before others. -/
theorem after {S : α' → β' → Prop} {f : α → Compile α'} {f' : α → Compile β'}
    (next : ∀ a, Abreast S (f a) (f' a)) : Abreast S (c >>= f) (c >>= f') :=
  (refl (fun _ => rfl) c).bind fun a _ same => same ▸ next a

theorem mapM {R : Nat → α' → β' → Prop} {f : α → Compile α'} {g : β → Compile β'} {n : Nat} {as : List α} {bs : List β}
    (h : Counted (fun k a b => Abreast (R k) (f a) (g b)) n as bs) : Abreast (Counted R n) (as.mapM f) (bs.mapM g) := by
  induction h with
  | nil => exact .pure .nil
  | cons first _ ih =>
    rw [List.mapM_cons, List.mapM_cons]
    exact first.bind fun _ _ head => ih.bind fun _ _ tail => .pure (.cons head tail)

theorem ownColumns (h : Abreast R c c') : Abreast R (ownColumns c) (ownColumns c') := by
  intro p
  have ends := h { p with undefinedColumns := [] }
  simp only [SqlBuilder.ownColumns]
  generalize c { p with undefinedColumns := [] } = r, c' { p with undefinedColumns := [] } = r' at ends ⊢
  cases ends with
  | ok related => exact .ok related
  | error => exact .error

theorem ownBindings (h : Abreast R c c') : Abreast R (ownBindings c) (ownBindings c') := by
  intro p
  have ends := h { p with bound := [] }
  simp only [SqlBuilder.ownBindings]
  generalize c { p with bound := [] } = r, c' { p with bound := [] } = r' at ends ⊢
  cases ends with
  | ok related => exact .ok related
  | error => exact .error

end Abreast

end SqlBuilder
