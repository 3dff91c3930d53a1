import SqlBuilder.Schema.Statements
import SqlBuilder.Proofs.Placeholders
import SqlBuilder.Proofs.Successes

/-!
# Texts without question marks

What a data definition is put together from: names, texts as they are shown, literals, and queries with
literals in place of their placeholders. None of them has a question mark where the texts that it is made
from have none.

* `Text.Unmarked`, `Sql.Unmarked`: a text without question marks.
* `Compile.Quiet`: a compilation that binds nothing, with a property of its results.
* `Scope.wrapString_quiet`: names from texts.
* `Piece.Slotted`, `Literal.inline_returns`: a query with literals in place of its placeholders.
* `Scope.writtenOut_quiet`, `Scope.writtenConditions_quiet`: the places where queries are written out.
-/

namespace SqlBuilder

/-! ## Texts -/

namespace Text

/-- A text has no question marks. -/
def Unmarked (s : String) : Prop :=
  '?' ∉ s.toList

instance : DecidablePred Unmarked := fun s => inferInstanceAs (Decidable ('?' ∉ s.toList))

@[simp] theorem unmarked_append {a b : String} : Unmarked (a ++ b) ↔ Unmarked a ∧ Unmarked b := by
  simp [Unmarked]

theorem unmarked_ofList {cs : List Char} (h : '?' ∉ cs) : Unmarked (String.ofList cs) := by
  rwa [Unmarked, String.toList_ofList]

theorem unmarked_joinWith {separator : String} (hs : Unmarked separator) {parts : List String}
    (h : ∀ part ∈ parts, Unmarked part) : Unmarked (joinWith separator parts) := by
  unfold Unmarked joinWith
  rw [String.toList_intercalate]
  induction parts with
  | nil => simp
  | cons part parts ih =>
    have first : '?' ∉ part.toList := h part (.head _)
    have rest := ih fun part hp => h part (.tail _ hp)
    cases parts with
    | nil => simpa using first
    | cons next parts =>
      rw [List.map_cons, List.map_cons, List.intercalate_cons_cons]
      simp only [List.mem_append, not_or]
      exact ⟨⟨first, hs⟩, rest⟩

theorem unmarked_int (n : Int) : Unmarked (toString n) :=
  fun within => (mem_toString_int within).elim (by decide) (by decide)

theorem Unmarked.replace {s pattern replacement : String} (hs : Unmarked s) (hr : Unmarked replacement) :
    Unmarked (replace s pattern replacement) :=
  fun within => (mem_of_mem_replace within).elim hr hs

/-! ### Letter case -/

/-- A code point above that of the question mark is another character. -/
theorem ofNat_ne_question {n : Nat} (h : 63 < n) : Char.ofNat n ≠ '?' := by
  intro same
  by_cases valid : n.isValidChar
  · rw [Char.ofNat, dif_pos valid] at same
    have code : n = 63 := congrArg Char.toNat same
    omega
  · rw [Char.ofNat, dif_neg valid] at same
    cases congrArg Char.toNat same

/-- A run maps no code point outside ASCII to the one of the question mark. -/
theorem lt_applyRuns {runs : List (Nat × Nat × Nat × Int)}
    (h : ∀ run ∈ runs, (63 : Int) < run.1 + run.2.2.2) {n : Nat} (outside : 128 ≤ n) : 63 < applyRuns runs n := by
  unfold applyRuns
  split
  next first last step shift found =>
    have bound := h _ (List.mem_of_find?_eq_some found)
    have within := List.find?_some found
    simp only [Bool.and_eq_true, decide_eq_true_eq] at within bound
    omega
  · omega

theorem question_of_toLower {c : Char} (ascii : c.toNat < 128) (h : c.toLower = '?') : c = '?' := by
  have each : ∀ n < 128, (Char.ofNat n).toLower = '?' → n = 63 := by decide
  have code := each c.toNat ascii (by rwa [Char.ofNat_toNat])
  rw [← Char.ofNat_toNat c, code]

theorem question_of_toUpper {c : Char} (ascii : c.toNat < 128) (h : c.toUpper = '?') : c = '?' := by
  have each : ∀ n < 128, (Char.ofNat n).toUpper = '?' → n = 63 := by decide
  have code := each c.toNat ascii (by rwa [Char.ofNat_toNat])
  rw [← Char.ofNat_toNat c, code]

/-- No mapping of a character outside ASCII has a question mark. -/
theorem unmarked_mapped {runs : List (Nat × Nat × Nat × Int)} {expansions : List (Nat × List Nat)}
    (hr : ∀ run ∈ runs, (63 : Int) < run.1 + run.2.2.2) (he : ∀ e ∈ expansions, '?' ∉ e.2.map Char.ofNat)
    {n : Nat} (outside : 128 ≤ n) :
    '?' ∉ match expansions.lookup n with
      | some codes => codes.map Char.ofNat
      | none => [Char.ofNat (applyRuns runs n)] := by
  split
  next codes found =>
    obtain ⟨before, after, table, -⟩ := List.lookup_eq_some_iff.mp found
    exact he (n, codes) (by simp [table])
  next => exact fun h => ofNat_ne_question (lt_applyRuns hr outside) (List.mem_singleton.mp h).symm

/-- The lower-case form of a text has a question mark only where the text has one. -/
theorem question_of_lowerFrom {before cs : List Char} (h : '?' ∈ lowerFrom before cs) : '?' ∈ cs := by
  induction cs generalizing before with
  | nil => cases h
  | cons c cs ih =>
    unfold lowerFrom at h
    rcases List.mem_append.mp h with here | later
    · have same : c = '?' := by
        split at here
        next ascii => exact question_of_toLower ascii (List.mem_singleton.mp here).symm
        next outside =>
          split at here
          · have sigma := List.mem_singleton.mp here
            split at sigma
            · exact absurd sigma (by decide)
            · exact absurd sigma (by decide)
          · exact absurd here (unmarked_mapped (by decide +kernel) (by decide +kernel) (by omega))
      rw [same]
      exact .head _
    · exact .tail _ (ih later)

theorem Unmarked.lower {s : String} (h : Unmarked s) : Unmarked (lower s) :=
  unmarked_ofList fun within => h (question_of_lowerFrom within)

theorem question_of_upperChar {c : Char} (h : '?' ∈ upperChar c) : c = '?' := by
  unfold upperChar at h
  split at h
  next ascii => exact question_of_toUpper ascii (List.mem_singleton.mp h).symm
  next outside => exact absurd h (unmarked_mapped (by decide +kernel) (by decide +kernel) (by omega))

theorem Unmarked.upper {s : String} (h : Unmarked s) : Unmarked (upper s) := by
  refine unmarked_ofList fun within => ?_
  obtain ⟨c, hc, image⟩ := List.mem_flatMap.mp within
  rw [question_of_upperChar image] at hc
  exact h hc

end Text

namespace Sql

/-- The text of a fragment has no question marks. -/
def Unmarked (sql : Sql) : Prop :=
  Text.Unmarked sql.text

instance : DecidablePred Unmarked := fun sql => inferInstanceAs (Decidable (Text.Unmarked sql.text))

@[simp] theorem unmarked_nil : Unmarked [] := nofun

@[simp] theorem unmarked_append {a b : Sql} : Unmarked (a ++ b) ↔ Unmarked a ∧ Unmarked b := by
  simp [Unmarked, text]

@[simp] theorem unmarked_cons {piece : Piece} {sql : Sql} :
    Unmarked (piece :: sql) ↔ Text.Unmarked piece.text ∧ Unmarked sql := by
  simp [Unmarked, text]

@[simp] theorem unmarked_word {w : String} : Unmarked (word w) ↔ Text.Unmarked w := by
  simp [word, Piece.text]

@[simp] theorem unmarked_raw {text : String} : Unmarked (raw text) ↔ Text.Unmarked text := by
  simp [raw, Piece.text]

@[simp] theorem unmarked_literal {text : String} : Unmarked (literal text) ↔ Text.Unmarked text := by
  simp [literal, Piece.text]

@[simp] theorem unmarked_parens {sql : Sql} : Unmarked sql.parens ↔ Unmarked sql := by
  have brackets : Text.Unmarked "(" ∧ Text.Unmarked ")" := by decide
  simp [parens, brackets]

@[simp] theorem unmarked_flatten {sqls : List Sql} : Unmarked sqls.flatten ↔ ∀ sql ∈ sqls, Unmarked sql := by
  induction sqls with
  | nil => simp
  | cons sql sqls ih => simp [ih]

theorem unmarked_number (n : Int) : Unmarked (number (toString n)) := by
  simpa [number, Piece.text] using Text.unmarked_int n

theorem unmarked_when {condition : Bool} {sql : Sql} (h : Unmarked sql) : Unmarked (when condition sql) := by
  unfold when
  split
  · exact h
  · exact unmarked_nil

theorem unmarked_joined {separator : String} (hs : Text.Unmarked separator) {sqls : List Sql}
    (h : ∀ sql ∈ sqls, Unmarked sql) : Unmarked (joined separator sqls) := by
  fun_induction joined separator sqls with
  | case1 => exact unmarked_nil
  | case2 sql => exact h sql (.head _)
  | case3 sql rest _ ih =>
    have first := h sql (.head _)
    have later := ih fun sql hs => h sql (.tail _ hs)
    simp [first, later, hs]

theorem unmarked_commas {sqls : List Sql} (h : ∀ sql ∈ sqls, Unmarked sql) : Unmarked (commas sqls) :=
  unmarked_joined (by decide) h

end Sql

/-! ## Compilations that bind nothing -/

/-- A compilation that succeeds binds nothing, and its result has a property. -/
def Compile.Quiet {α : Type} (c : Compile α) (P : α → Prop) : Prop :=
  ∀ p a p', c p = .ok a p' → p'.bound = p.bound ∧ P a

namespace Compile.Quiet

variable {α β : Type} {P : α → Prop}

protected theorem pure {a : α} (h : P a) : Quiet (pure a) P := by
  rintro p _ _ ⟨⟩
  exact ⟨rfl, h⟩

protected theorem throw (e : Error) : Quiet (throw e) P := by
  rintro p _ _ ⟨⟩

theorem bind {Q : β → Prop} {c : Compile β} {f : β → Compile α} (hc : Quiet c Q)
    (h : ∀ b, Q b → Quiet (f b) P) : Quiet (c >>= f) P := by
  intro p a p' run
  obtain ⟨b, q, first, rest⟩ := Compile.bind_ok.mp run
  obtain ⟨kept, result⟩ := hc _ _ _ first
  obtain ⟨kept', result'⟩ := h b result _ _ _ rest
  exact ⟨kept'.trans kept, result'⟩

protected theorem report (event : LogEvent) : Quiet (report event) fun _ => True := by
  rintro p _ _ ⟨⟩
  exact ⟨rfl, trivial⟩

theorem mapM {f : β → Compile α} {bs : List β} (h : ∀ b ∈ bs, Quiet (f b) P) :
    Quiet (bs.mapM f) fun as => ∀ a ∈ as, P a := by
  induction bs with
  | nil => exact .pure nofun
  | cons b bs ih =>
    rw [List.mapM_cons]
    refine (h b (.head _)).bind fun a ha => ?_
    refine (ih fun b hb => h b (.tail _ hb)).bind fun as has => .pure ?_
    exact List.forall_mem_cons.mpr ⟨ha, has⟩

theorem liftCompile {outcome : Except Error α} (h : ∀ a, outcome = .ok a → P a) :
    Quiet (liftCompile outcome) P := by
  cases outcome with
  | ok a => exact .pure (h a rfl)
  | error e => exact .throw e

/-- A compilation that keeps what it binds to itself starts with nothing bound. -/
theorem ownBindings_unbound {c : Compile α} (h : ∀ p a p', p.bound = [] → c p = .ok a p' → P a) :
    Quiet (ownBindings c) P := by
  intro p a p' run
  unfold SqlBuilder.ownBindings at run
  split at run
  next first =>
    cases run
    exact ⟨rfl, h _ _ _ rfl first⟩
  · cases run

theorem ownBindings {c : Compile α} (h : c.Returns P) : Quiet (ownBindings c) P :=
  ownBindings_unbound fun p a p' _ => h p a p'

theorem ownColumns {c : Compile α} (h : Quiet c P) : Quiet (ownColumns c) P := by
  intro p a p' run
  unfold SqlBuilder.ownColumns at run
  split at run
  next first =>
    cases run
    obtain ⟨kept, result⟩ := h _ _ _ first
    exact ⟨kept, result⟩
  · cases run

end Compile.Quiet

namespace Scope

variable {s : Scope}

/-! ## Names -/

/-- The dialect and the context of a scope bring no question marks into names and statements. -/
structure Clean (s : Scope) : Prop where
  openQuote : Text.Unmarked s.capabilities.quoting.openQuote
  closeQuote : Text.Unmarked s.capabilities.quoting.closeQuote
  aliasKeyword : Text.Unmarked s.capabilities.aliasKeyword
  prelude : ∀ words ∈ s.capabilities.alterColumnPrelude, Text.Unmarked words
  replacing : Text.Unmarked s.capabilities.views.createOrReplace
  context : ∀ v ∈ s.context, (s.display v).Quiet Text.Unmarked

namespace Clean

variable (clean : s.Clean)

include clean

theorem delimited {segment : String} (h : Text.Unmarked segment) : (s.delimited segment).Quiet Sql.Unmarked := by
  unfold Scope.delimited
  simp only
  split
  · refine .pure ?_
    have quoted : Text.Unmarked (s.capabilities.quoting.quote segment) := fun within => by
      rcases Quoting.mem_quote within with within | within | within
      · exact h within
      · exact clean.openQuote within
      · exact clean.closeQuote within
    simpa [Piece.text] using quoted
  · exact .throw _

theorem identifier {segment : String} (h : Text.Unmarked segment) : (s.identifier segment).Quiet Sql.Unmarked := by
  unfold Scope.identifier
  split
  · exact clean.delimited h
  · exact clean.delimited h.upper
  · split
    · exact .pure (Sql.unmarked_raw.mpr h)
    · exact clean.delimited (Text.unmarked_append.mpr ⟨by decide, h⟩)
  · exact .pure (Sql.unmarked_raw.mpr h)
  · split
    · exact clean.delimited h
    next context given =>
      refine (clean.context context given).bind fun text shown => ?_
      refine clean.delimited ?_
      simp only [Text.unmarked_append]
      exact ⟨⟨shown, by decide⟩, h⟩
  · exact .throw _

theorem segment {cs : List Char} (h : '?' ∉ cs) : (s.segment cs).Quiet Sql.Unmarked :=
  clean.identifier (Text.unmarked_ofList fun within => h (Text.mem_of_mem_stripChars within))

theorem segments {segments : List (List Char)} (h : ∀ cs ∈ segments, '?' ∉ cs) :
    (segments.mapM s.segment).Quiet fun sqls => ∀ sql ∈ sqls, sql.Unmarked :=
  .mapM fun cs hcs => clean.segment (h cs hcs)

theorem wrapFrom {cs : List Char} (h : '?' ∉ cs) (fuel : Nat) : (s.wrapFrom fuel cs).Quiet Sql.Unmarked := by
  induction fuel generalizing cs with
  | zero => exact .throw _
  | succ fuel ih =>
    unfold Scope.wrapFrom
    split
    next i _ =>
      refine (ih fun within => h (List.mem_of_mem_take within)).bind fun expression he => ?_
      refine (clean.segment fun within => h (List.mem_of_mem_drop within)).bind fun asName ha => .pure ?_
      simp [aliased, he, ha, clean.aliasKeyword]
    next =>
      have each : ∀ segment ∈ Text.splitOn '.' cs, '?' ∉ segment :=
        fun segment hs within => h (Text.mem_of_mem_splitOn hs within)
      split
      next first second rest split =>
        rw [split] at each
        refine (ih fun within => each first (.head _) (Text.mem_of_mem_stripChars within)).bind fun head hh => ?_
        refine (clean.segments fun cs hcs => each cs (.tail _ hcs)).bind fun others ho => .pure ?_
        exact Sql.unmarked_joined (by decide) (List.forall_mem_cons.mpr ⟨hh, ho⟩)
      next =>
        refine (clean.segments each).bind fun sqls hs => .pure ?_
        exact Sql.unmarked_joined (by decide) hs

/-- A name from a text without question marks has none. -/
theorem wrapString {name : String} (h : Text.Unmarked name) : (s.wrapString name).Quiet Sql.Unmarked :=
  clean.wrapFrom h _

end Clean

/-! ## Operands -/

/-- A value is a name without question marks and without values. -/
def Names (s : Scope) (v : Value) : Prop :=
  (s.wrapOperand v).Quiet fun operand => (s.spell operand).Quiet Sql.Unmarked

/-- A value is shown without question marks. -/
def Displays (s : Scope) (v : Value) : Prop :=
  (s.display v).Quiet Text.Unmarked

theorem Displays.given {v : Value} (h : s.Displays v) : (s.given v).Quiet Sql.Unmarked :=
  h.bind fun _ shown => .pure (Sql.unmarked_raw.mpr shown)

theorem displays_of_text {v : Value} (plain : v.isBuilder = false) (h : Text.Unmarked v.text) : s.Displays v := by
  unfold Displays display
  rw [plain]
  exact .pure h

theorem Names.wrap {v : Value} (h : s.Names v) : (s.wrap v).Quiet Sql.Unmarked :=
  h.bind fun _ spelled => spelled

theorem columnizeAll_quiet {columns : List Value} (h : ∀ column ∈ columns, s.Names column) :
    (s.columnizeAll columns).Quiet Sql.Unmarked := by
  refine (Compile.Quiet.mapM h).bind fun operands spelled => ?_
  refine (Compile.Quiet.mapM fun operand ho => ?_).bind fun sqls hs => .pure (Sql.unmarked_commas hs)
  cases operand with
  | sql part => exact spelled _ ho
  | object v => exact .throw _

/-- A text without question marks is a name without them. -/
theorem Clean.names_str (clean : s.Clean) {name : String} (h : Text.Unmarked name) : s.Names (.str name) := by
  have named : s.wrapOperand (.str name) = do return .sql (← s.wrapString name) := by
    conv_lhs => unfold wrapOperand
    rfl
  unfold Names
  rw [named]
  exact (clean.wrapString h).bind fun sql hs => .pure (.pure hs)

/-- The name of an object in a schema. -/
theorem Clean.qualified (clean : s.Clean) {schema : Option Value} {name : Value}
    (hs : ∀ v ∈ schema, s.Displays v) (names : s.Names name) (displays : s.Displays name) :
    (s.qualified schema name).Quiet Sql.Unmarked := by
  unfold Scope.qualified
  split
  next v given =>
    refine (hs v (Option.mem_filter_iff.mp given).1).bind fun first hf => ?_
    refine displays.bind fun second hn => clean.wrapString ?_
    simp only [Text.unmarked_append]
    exact ⟨⟨hf, by decide⟩, hn⟩
  · exact names.wrap

/-! ## Literals -/

/-- A value is a literal without question marks. -/
structure Spells (s : Scope) (v : Value) : Prop where
  literalSql : (s.literalSql v).Quiet Sql.Unmarked
  literal : (s.literal v).Quiet Text.Unmarked

theorem literals_quiet {values : List Value} (h : ∀ v ∈ values, s.Spells v) :
    (s.literals values).Quiet Sql.Unmarked := by
  refine (Compile.Quiet.mapM fun v hv => ?_).bind fun sqls hs => .pure (Sql.unmarked_commas hs)
  exact (h v hv).literal.bind fun _ text => .pure (Sql.unmarked_literal.mpr text)

end Scope

namespace Literal

theorem question_of_backslashChar {c : Char} (h : '?' ∈ backslashChar c) : c = '?' := by
  unfold backslashChar at h
  split at h <;> simp_all [eq_comm]

theorem question_of_doubledChar {c : Char} (h : '?' ∈ doubledChar c) : c = '?' := by
  unfold doubledChar at h
  split at h <;> simp_all [eq_comm]

/-- A quoted text has a question mark only where the text has one. -/
theorem unmarked_text (style : StringStyle) {s : String} (h : Text.Unmarked s) : Text.Unmarked (text style s) := by
  cases style with
  | backslash =>
    refine Text.unmarked_ofList ?_
    simp only [List.cons_append, List.mem_cons, List.mem_append, List.mem_flatMap, List.not_mem_nil, or_false]
    rintro (quote | ⟨c, hc, image⟩ | quote)
    · cases quote
    · exact h (question_of_backslashChar image ▸ hc)
    · cases quote
  | doubled =>
    refine Text.unmarked_ofList ?_
    simp only [List.cons_append, List.mem_cons, List.mem_append, List.mem_flatMap, List.not_mem_nil, or_false]
    rintro (quote | ⟨c, hc, image⟩ | quote)
    · cases quote
    · exact h (question_of_doubledChar image ▸ hc)
    · cases quote
  | national =>
    have marks : Text.Unmarked "N'" ∧ Text.Unmarked "'" := by decide
    simp [text, marks, h]

end Literal

/-- A text without question marks is a literal without them. -/
theorem Scope.spells_str (s : Scope) {text : String} (h : Text.Unmarked text) : s.Spells (.str text) where
  literalSql := .pure (Sql.unmarked_literal.mpr (Literal.unmarked_text _ h))
  literal := .pure (Literal.unmarked_text _ h)

/-! ## Queries that are written out -/

/-- A piece is a placeholder, or its text has no question marks and cannot take one that follows it. -/
def Piece.Slotted (piece : Piece) : Prop :=
  (∃ v, piece = .param v) ∨ Text.Unmarked piece.text ∧ piece.text.toList.getLast? ≠ some '\\'

theorem inlineFrom_cons {c : Char} {cs : List Char} (unmarked : c ≠ '?') (open_ : c = '\\' → cs.head? ≠ some '?')
    (literals : List String) : inlineFrom literals (c :: cs) = c :: inlineFrom literals cs := by
  conv_lhs => unfold inlineFrom
  split
  next same => cases same
  next same =>
    cases same
    exact absurd rfl (open_ rfl)
  next same =>
    cases same
    exact absurd rfl unmarked
  next same =>
    cases same
    rfl

theorem inlineSlots_cons {c : Char} {cs : List Char} (unmarked : c ≠ '?') (open_ : c = '\\' → cs.head? ≠ some '?') :
    inlineSlots (c :: cs) = inlineSlots cs := by
  conv_lhs => unfold inlineSlots
  split
  next same => cases same
  next same =>
    cases same
    exact absurd rfl (open_ rfl)
  next same =>
    cases same
    exact absurd rfl unmarked
  next same =>
    cases same
    rfl

/-- A text without question marks stays where what follows it is inlined, and has no placeholders. -/
theorem inline_append {cs : List Char} (unmarked : '?' ∉ cs) (settled : cs.getLast? ≠ some '\\')
    (literals : List String) (ds : List Char) :
    inlineFrom literals (cs ++ ds) = cs ++ inlineFrom literals ds ∧ inlineSlots (cs ++ ds) = inlineSlots ds := by
  induction cs with
  | nil => exact ⟨rfl, rfl⟩
  | cons c cs ih =>
    have mark : c ≠ '?' := fun same => unmarked (same ▸ .head _)
    have settled' : cs.getLast? ≠ some '\\' := by
      cases cs with
      | nil => simp
      | cons d cs => simpa using settled
    have open_ : c = '\\' → (cs ++ ds).head? ≠ some '?' := by
      rintro rfl
      cases cs with
      | nil => exact absurd rfl settled
      | cons d cs =>
        rintro ⟨⟩
        exact unmarked (.tail _ (.head _))
    obtain ⟨text, slots⟩ := ih (fun within => unmarked (.tail _ within)) settled'
    rw [List.cons_append, inlineFrom_cons mark open_, inlineSlots_cons mark open_, text, slots]
    exact ⟨rfl, rfl⟩

namespace Sql

/-- A fragment has a value for each placeholder of its text. -/
theorem inlineSlots_le {sql : Sql} (h : ∀ piece ∈ sql, piece.Slotted) :
    inlineSlots sql.text.toList ≤ sql.bindings.length := by
  induction sql with
  | nil => exact Nat.le_refl _
  | cons piece sql ih =>
    have rest := ih fun piece hp => h piece (.tail _ hp)
    have split : Sql.text (piece :: sql) = piece.text ++ Sql.text sql := by simp [Sql.text]
    rw [split, String.toList_append, bindings_cons, List.length_append]
    rcases h piece (.head _) with ⟨v, rfl⟩ | ⟨unmarked, settled⟩
    · simpa [Piece.text, Piece.binding?, inlineSlots, Nat.add_comm 1] using rest
    · rw [(inline_append unmarked settled [] _).2]
      omega

/-- With a literal for each placeholder, no question mark is left in the text of a fragment. -/
theorem unmarked_inlineFrom {sql : Sql} (h : ∀ piece ∈ sql, piece.Slotted) {literals : List String}
    (unmarked : ∀ literal ∈ literals, Text.Unmarked literal) (enough : inlineSlots sql.text.toList ≤ literals.length) :
    '?' ∉ inlineFrom literals sql.text.toList := by
  induction sql generalizing literals with
  | nil => simp [Sql.text, inlineFrom]
  | cons piece sql ih =>
    have split : Sql.text (piece :: sql) = piece.text ++ Sql.text sql := by simp [Sql.text]
    have later : ∀ piece ∈ sql, piece.Slotted := fun piece hp => h piece (.tail _ hp)
    rw [split, String.toList_append] at enough ⊢
    rcases h piece (.head _) with ⟨v, rfl⟩ | ⟨clear, settled⟩
    · have slot : (Piece.param v).text.toList = ['?'] := by simp [Piece.text]
      rw [slot] at enough ⊢
      cases literals with
      | nil => simp [inlineSlots] at enough
      | cons literal literals =>
        simp only [List.singleton_append, inlineSlots, List.length_cons, Nat.add_le_add_iff_right] at enough
        simp only [List.singleton_append, inlineFrom, List.mem_append, not_or]
        exact ⟨unmarked literal (.head _), ih later (fun l hl => unmarked l (.tail _ hl)) enough⟩
    · rw [(inline_append clear settled [] _).2] at enough
      rw [(inline_append clear settled literals _).1, List.mem_append, not_or]
      exact ⟨clear, ih later unmarked enough⟩

end Sql

namespace Literal

variable {style : LiteralStyle} {printers : Printers} {zone : String}

theorem forSlots_returns {values : List Value}
    (h : ∀ v ∈ values, (forSlot style printers zone v).Returns Text.Unmarked) (slots : Nat) :
    (forSlots style printers zone slots values).Returns fun literals =>
      literals.length = min slots values.length ∧ ∀ literal ∈ literals, Text.Unmarked literal := by
  induction values generalizing slots with
  | nil => cases slots <;> exact .pure ⟨by simp, nofun⟩
  | cons v values ih =>
    cases slots with
    | zero => exact .pure ⟨by simp, nofun⟩
    | succ slots =>
      refine (h v (.head _)).bind_of fun first hf => ?_
      refine (ih (fun v hv => h v (.tail _ hv)) slots).bind_of fun rest hr => .pure ?_
      refine ⟨?_, List.forall_mem_cons.mpr ⟨hf, hr.2⟩⟩
      rw [List.length_cons, hr.1, List.length_cons]
      omega

/-- A fragment has no question marks once the literals of its values stand in place of its placeholders. -/
theorem inline_returns {sql : Sql} (slotted : ∀ piece ∈ sql, piece.Slotted)
    (h : ∀ v ∈ sql.bindings, (forSlot style printers zone v).Returns Text.Unmarked) :
    (Literal.inline style printers zone sql.text sql.bindings).Returns Text.Unmarked := by
  refine (forSlots_returns h _).bind_of fun literals ⟨length, unmarked⟩ => .pure ?_
  refine Text.unmarked_ofList (Sql.unmarked_inlineFrom slotted unmarked ?_)
  rw [length, Nat.min_eq_left (Sql.inlineSlots_le slotted)]

end Literal

namespace Scope

variable {s : Scope}

/-- What a compilation renders has no question marks besides its placeholders, and neither have the literals of
its values. -/
def Inlines (s : Scope) (c : Compile Sql) : Prop :=
  c.Returns fun sql => (∀ piece ∈ sql, piece.Slotted) ∧
    ∀ v ∈ sql.bindings, (Literal.forSlot s.capabilities.escape s.nested.printers "local" v).Returns Text.Unmarked

theorem Inlines.inlined {c : Compile Sql} (h : s.Inlines c) :
    (ownBindings do return Sql.raw (← s.inlined (← c))).Quiet Sql.Unmarked := by
  refine .ownBindings (Compile.Returns.bind_of h fun sql ⟨slotted, literals⟩ => ?_)
  exact (Literal.inline_returns slotted literals).bind_of fun text ht => .pure (Sql.unmarked_raw.mpr ht)

/-- What is written out of a query, an expression or SQL text, with its placeholders. -/
def source (s : Scope) (v bindings : Value) : Compile Sql :=
  match v with
  | .str _ => do (← s.nested.raw s.client none (Raw.ofValue s.client v bindings)).textual
  | .callback chains => do
    pure (← s.nested.query s.client none none (← s.callbackQuery chains)).sql
  | v =>
    match s.env.raw? v, s.env.query? v with
    | some r, _ => do (← s.nested.raw s.client none r).textual
    | none, some q => do pure (← s.nested.query s.client none none q).sql
    | none, none => throw noSuchMember

theorem writtenOut_eq (s : Scope) (v bindings : Value) :
    s.writtenOut v bindings = ownBindings do return Sql.raw (← s.inlined (← s.source v bindings)) := by
  unfold writtenOut source
  refine congrArg ownBindings ?_
  simp only
  split
  · simp only [bind_assoc]
  · simp only [bind_assoc]
  next =>
    cases raw : s.env.raw? v with
    | some r => simp only [bind_assoc, *]
    | none =>
      cases query : s.env.query? v with
      | some q => simp only [bind_assoc, *]
      | none => simp only [*]

theorem writtenOut_quiet {v bindings : Value} (h : s.Inlines (s.source v bindings)) :
    (s.writtenOut v bindings).Quiet Sql.Unmarked := by
  rw [writtenOut_eq]
  exact h.inlined

theorem writtenConditions_quiet {v : Value}
    (h : ∀ q, s.env.query? v = some q →
      s.Inlines (s.nested.conditions s.client q.context .where_ q.statement.wheres)) :
    (s.writtenConditions v).Quiet Sql.Unmarked := by
  unfold writtenConditions
  split
  · exact .ownColumns (.ownBindings (.throw _))
  next q found => exact .ownColumns (h q found).inlined

end Scope

end SqlBuilder
