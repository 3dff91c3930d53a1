import Mathlib.Logic.Relation
import SqlBuilder.Proofs.Results

/-!
# The recursion of names

A name is cut at the keyword of an alias, and what stands before the cut is rendered as a name again; so is
the first of several segments. The place of the keyword is found in the lower-case form of the name, in which
a dotted capital has two characters, and the name itself is cut there: as many characters behind the keyword
as dotted capitals stand before it. Up to three of them leave a shorter name without the keyword. Four or more
leave the keyword in the name, which is then cut at its end, again and again.

* `Text.aliasPlace?`, `Text.overshoot`: where the keyword stands, and how far behind it a name is cut.
* `Text.findInfix_lowerChars`: where the keyword is found in the lower-case form.
* `Scope.headPart?`: the name on which the rendering of a name recurs.
* `Scope.wrapString_ends`: the rendering of a name ends if the cut is less than four characters behind, and
  only then.
-/

namespace SqlBuilder

namespace Text

/-! ## Searches -/

theorem dropStart?_isSome {pattern cs : List Char} : (dropStart? pattern cs).isSome = true ↔ pattern <+: cs := by
  induction pattern generalizing cs with
  | nil => simp [dropStart?]
  | cons p ps ih =>
    cases cs with
    | nil => simp [dropStart?]
    | cons c cs =>
      rw [dropStart?, List.cons_prefix_cons]
      by_cases same : p = c
      · simp [same, ih]
      · simp [same]

theorem findInfix_of_begins {pattern cs : List Char} (h : pattern <+: cs) : findInfix pattern cs = some 0 := by
  cases cs with
  | nil => simp [findInfix, List.prefix_nil.mp h]
  | cons c cs => rw [findInfix, if_pos (dropStart?_isSome.mpr h)]

theorem findInfix_cons {pattern cs : List Char} {c : Char} (h : ¬ pattern <+: c :: cs) :
    findInfix pattern (c :: cs) = (findInfix pattern cs).map (· + 1) := by
  rw [findInfix, if_neg (mt dropStart?_isSome.mp h)]

/-- A text is found where it occurs. -/
theorem findInfix_isSome {pattern cs : List Char} : (findInfix pattern cs).isSome = true ↔ pattern <:+: cs := by
  induction cs with
  | nil => simp [findInfix, List.isEmpty_iff]
  | cons c cs ih =>
    rw [List.infix_cons_iff]
    by_cases here : pattern <+: c :: cs
    · simp [findInfix_of_begins here, here]
    · simp [findInfix_cons here, here, ih]

theorem findInfix_eq_none {pattern cs : List Char} : findInfix pattern cs = none ↔ ¬ pattern <:+: cs := by
  rw [← findInfix_isSome, Option.not_isSome_iff_eq_none]

/-- The first occurrence in a text is the first one in a beginning of the text, if that is long enough. -/
theorem findInfix_take {pattern : List Char} (filled : pattern ≠ []) (cs : List Char) (n : Nat) :
    findInfix pattern (cs.take n) = (findInfix pattern cs).filter (· + pattern.length ≤ n) := by
  have width : 0 < pattern.length := List.length_pos_of_ne_nil filled
  induction cs generalizing n with
  | nil => simp [findInfix, filled]
  | cons c cs ih =>
    cases n with
    | zero =>
      have none_ : findInfix pattern [] = none := by simp [findInfix, filled]
      rw [List.take_zero, none_, Eq.comm, Option.filter_eq_none_iff]
      intro place _
      simp only [decide_eq_true_eq]
      omega
    | succ n =>
      rw [List.take_succ_cons]
      by_cases here : pattern <+: c :: cs
      · rw [findInfix_of_begins here]
        by_cases fits : pattern.length ≤ n + 1
        · have within : pattern <+: c :: cs.take n := by
            rw [← List.take_succ_cons]
            exact List.prefix_take_iff.mpr ⟨here, fits⟩
          simp [findInfix_of_begins within, Option.filter_some, fits]
        · have short : ¬ pattern <:+: c :: cs.take n := by
            intro within
            have bound := within.length_le
            simp only [List.length_cons, List.length_take] at bound
            omega
          simp [findInfix_eq_none.mpr short, Option.filter_some, fits]
      · have missing : ¬ pattern <+: c :: cs.take n := by
          rw [← List.take_succ_cons]
          exact fun within => here (List.prefix_take_iff.mp within).1
        rw [findInfix_cons here, findInfix_cons missing, ih]
        cases findInfix pattern cs with
        | none => rfl
        | some place =>
          have shift : place + 1 + pattern.length ≤ n + 1 ↔ place + pattern.length ≤ n := by omega
          by_cases fits : place + pattern.length ≤ n <;> simp [Option.filter, shift, fits]

/-- What is found is within the text. -/
theorem length_of_findInfix {pattern cs : List Char} {place : Nat} (filled : pattern ≠ [])
    (found : findInfix pattern cs = some place) : place + pattern.length ≤ cs.length := by
  have whole := findInfix_take filled cs cs.length
  rw [List.take_length, found] at whole
  simpa using (Option.filter_eq_some_iff.mp whole.symm).2

/-! ## Segments -/

theorem stripChars_infix (cs : List Char) : stripChars cs <:+: cs := by
  unfold stripChars trimmed trimmedRight
  refine List.IsInfix.trans ?_ (List.dropWhile_suffix isBlank).isInfix
  rw [← List.reverse_infix, List.reverse_reverse]
  exact (List.dropWhile_suffix isBlank).isInfix

/-- The first piece of a text is its beginning, and shorter than the text if there is another piece. -/
theorem prefix_of_splitOn {separator : Char} {cs first : List Char} {others : List (List Char)}
    (split : splitOn separator cs = first :: others) :
    first <+: cs ∧ (others ≠ [] → first.length < cs.length) := by
  induction cs generalizing first others with
  | nil =>
    obtain ⟨rfl, rfl⟩ : [] = first ∧ [] = others := by simpa [splitOn] using split
    simp
  | cons c cs ih =>
    unfold splitOn at split
    split at split
    · obtain ⟨rfl, -⟩ := List.cons.inj split
      simp
    next other =>
      cases pieces : splitOn separator cs with
      | nil =>
        rw [pieces] at split
        obtain ⟨rfl, rfl⟩ : [c] = first ∧ [] = others := by simpa using split
        simp
      | cons piece rest =>
        rw [pieces] at split
        obtain ⟨rfl, rfl⟩ := List.cons.inj split
        obtain ⟨begins, shorter⟩ := ih pieces
        refine ⟨List.cons_prefix_cons.mpr ⟨rfl, begins⟩, fun more => ?_⟩
        simpa using shorter more

/-! ## The keyword of an alias -/

/-- The letter that has two characters in lower case. -/
def dottedCapital : Char := 'İ'

/-- The place of the first keyword of an alias in a text, in any letter case. -/
def aliasPlace? (cs : List Char) : Option Nat :=
  findInfix Scope.aliasMark (cs.map Char.toLower)

/-- How many characters behind the keyword of an alias a name is cut. -/
def overshoot (cs : List Char) : Nat :=
  match aliasPlace? cs with
  | some place => (cs.take place).count dottedCapital
  | none => 0

theorem toLower_of_le {c : Char} (h : 128 ≤ c.toNat) : c.toLower = c := by
  have big : ¬ (c.val ≥ 'A'.val ∧ c.val ≤ 'Z'.val) := by
    rintro ⟨-, below⟩
    have bound : c.toNat ≤ 90 := UInt32.le_iff_toNat_le.mp below
    omega
  unfold Char.toLower
  rw [dif_neg big]

theorem foreign_ofNat {n : Nat} (h : n ≠ 32 ∧ n ≠ 97 ∧ n ≠ 115) : Char.ofNat n ∉ Scope.aliasMark := by
  have code : (Char.ofNat n).toNat = n ∨ (Char.ofNat n).toNat = 0 := by
    by_cases valid : n.isValidChar
    · rw [Char.ofNat, dif_pos valid]
      exact .inl rfl
    · rw [Char.ofNat, dif_neg valid]
      exact .inr rfl
  have codes : ∀ c ∈ Scope.aliasMark, c.toNat = 32 ∨ c.toNat = 97 ∨ c.toNat = 115 := by
    simp [Scope.aliasMark]
  intro within
  have := codes _ within
  omega

/-- No letter beyond ASCII has the lower-case form of one in the keyword. -/
theorem foreign_applyRuns {n : Nat} (h : 128 ≤ n) : Char.ofNat (applyRuns lowerRuns n) ∉ Scope.aliasMark := by
  have runs : ∀ run ∈ lowerRuns, run.2.1 < 128 ∨ 115 < (run.1 : Int) + run.2.2.2 ∨
      run.1 = run.2.1 ∧ (run.1 : Int) + run.2.2.2 = 107 := by decide +kernel
  refine foreign_ofNat ?_
  unfold applyRuns
  split
  next first last step shift found =>
    have known := runs _ (List.mem_of_find?_eq_some found)
    have within := List.find?_some found
    simp only [Bool.and_eq_true, decide_eq_true_eq] at within known
    omega
  next => omega

/-- The lower-case form of a character at the beginning of a text: the keyword is not found in it, but where
the character itself belongs to it. -/
inductive LowerImage (c : Char) : List Char → Prop
  | ascii (h : c.toNat < 128) : LowerImage c [c.toLower]
  | foreign {d : Char} (h : 128 ≤ c.toNat) (plain : c ≠ dottedCapital) (foreign : d ∉ Scope.aliasMark) :
      LowerImage c [d]
  | dotted (h : c = dottedCapital) : LowerImage c ['i', Char.ofNat 775]

theorem lowerFrom_cons (before : List Char) (c : Char) (cs : List Char) :
    ∃ image, LowerImage c image ∧ lowerFrom before (c :: cs) = image ++ lowerFrom (c :: before) cs := by
  have dotted {n : Nat} : n = 304 ↔ lowerExpansions.lookup n = some [105, 775] := by
    by_cases h : n = 304 <;> simp [lowerExpansions, List.lookup_cons, h, beq_eq_false_iff_ne.mpr]
  have code : dottedCapital.toNat = 304 := by decide
  have big (h : ¬ c.toNat < 128) : 128 ≤ c.toNat := by omega
  rw [lowerFrom]
  refine ⟨_, ?_, rfl⟩
  split
  next h => exact .ascii h
  next h =>
    split
    next sigma =>
      have plain : c ≠ dottedCapital := by
        rintro rfl
        exact absurd sigma (by decide)
      split
      · exact .foreign (big h) plain (by decide)
      · exact .foreign (big h) plain (by decide)
    next =>
      split
      next codes found =>
        obtain ⟨same, rfl⟩ : c.toNat = 304 ∧ codes = [105, 775] := by
          by_cases same : c.toNat = 304
          · exact ⟨same, Option.some.inj (found.symm.trans (dotted.mp same))⟩
          · simp [lowerExpansions, List.lookup_cons, beq_eq_false_iff_ne.mpr same] at found
        exact .dotted (Char.toNat_inj.mp (same.trans code.symm))
      next missing =>
        refine .foreign (big h) ?_ (foreign_applyRuns (big h))
        rintro rfl
        rw [dotted.mp code] at missing
        cases missing

theorem prefix_lowerFrom {pattern : List Char} (known : ∀ p ∈ pattern, p ∈ Scope.aliasMark) (before cs : List Char) :
    pattern <+: lowerFrom before cs ↔ pattern <+: cs.map Char.toLower := by
  have low : ∀ p ∈ Scope.aliasMark, p.toNat < 128 := by simp [Scope.aliasMark]
  induction pattern generalizing before cs with
  | nil => simp
  | cons p ps ih =>
    have first := known p (.head _)
    have others : ∀ q ∈ ps, q ∈ Scope.aliasMark := fun q hq => known q (.tail _ hq)
    cases cs with
    | nil => simp [lowerFrom]
    | cons c cs =>
      obtain ⟨image, form, split⟩ := lowerFrom_cons before c cs
      rw [split, List.map_cons, List.cons_prefix_cons]
      have beyond (h : 128 ≤ c.toNat) : p ≠ c.toLower := by
        rintro rfl
        have small := low _ first
        rw [toLower_of_le h] at small
        omega
      cases form with
      | ascii =>
        rw [List.singleton_append, List.cons_prefix_cons]
        exact and_congr_right' (ih others _ _)
      | foreign h _ foreign =>
        rw [List.singleton_append, List.cons_prefix_cons]
        exact iff_of_false (fun match_ => foreign (match_.1 ▸ first)) fun match_ => beyond h match_.1
      | dotted h =>
        have differs : p ≠ 'i' := by
          rintro rfl
          exact absurd first (by decide)
        rw [List.cons_append, List.cons_prefix_cons]
        simp [differs, beyond (h ▸ by decide)]

/-- In the lower-case form, the keyword of an alias is found as many characters later as dotted capitals stand
before it. -/
theorem findInfix_lowerFrom (before cs : List Char) : findInfix Scope.aliasMark (lowerFrom before cs) =
    (aliasPlace? cs).map fun place => place + (cs.take place).count dottedCapital := by
  unfold aliasPlace?
  -- On the rest of the name; what stands before it matters only to the form of a final sigma.
  induction cs generalizing before with
  | nil => rfl
  | cons c cs ih =>
    obtain ⟨image, form, split⟩ := lowerFrom_cons before c cs
    by_cases here : Scope.aliasMark <+: lowerFrom before (c :: cs)
    · have same := (prefix_lowerFrom (fun _ hp => hp) before (c :: cs)).mp here
      rw [findInfix_of_begins here, findInfix_of_begins same]
      rfl
    · have same := mt (prefix_lowerFrom (fun _ hp => hp) before (c :: cs)).mpr here
      rw [List.map_cons] at same ⊢
      rw [split] at here ⊢
      rw [findInfix_cons same]
      cases form with
      | ascii h =>
        have plain : c ≠ dottedCapital := by
          rintro rfl
          exact absurd h (by decide)
        rw [List.singleton_append] at here ⊢
        rw [findInfix_cons here, ih]
        cases findInfix Scope.aliasMark (cs.map Char.toLower) <;> simp [plain, Nat.add_right_comm]
      | foreign h plain _ =>
        rw [List.singleton_append] at here ⊢
        rw [findInfix_cons here, ih]
        cases findInfix Scope.aliasMark (cs.map Char.toLower) <;> simp [plain, Nat.add_right_comm]
      | dotted h =>
        have second : ¬ Scope.aliasMark <+: Char.ofNat 775 :: lowerFrom (c :: before) cs := by
          simp [Scope.aliasMark]
        rw [List.cons_append, List.singleton_append] at here ⊢
        rw [findInfix_cons here, findInfix_cons second, ih]
        cases findInfix Scope.aliasMark (cs.map Char.toLower) with
        | none => rfl
        | some place =>
          simp only [Option.map_some, List.take_succ_cons, h, List.count_cons_self]
          congr 1
          omega

theorem findInfix_lowerChars (cs : List Char) :
    findInfix Scope.aliasMark (lowerChars cs) = (aliasPlace? cs).map (· + overshoot cs) := by
  rw [lowerChars, findInfix_lowerFrom, overshoot]
  cases aliasPlace? cs <;> rfl

theorem aliasPlace?_take (cs : List Char) (n : Nat) :
    aliasPlace? (cs.take n) = (aliasPlace? cs).filter (· + 4 ≤ n) := by
  rw [aliasPlace?, List.map_take, findInfix_take (by decide)]
  rfl

theorem length_of_aliasPlace? {cs : List Char} {place : Nat} (found : aliasPlace? cs = some place) :
    place + 4 ≤ cs.length := by
  have bound := length_of_findInfix (by decide) found
  rwa [List.length_map] at bound

/-- A part of a text without the keyword of an alias does not have it either. -/
theorem aliasPlace?_of_infix {part cs : List Char} (within : part <:+: cs) (missing : aliasPlace? cs = none) :
    aliasPlace? part = none :=
  findInfix_eq_none.mpr fun found => findInfix_eq_none.mp missing (found.trans (within.map Char.toLower))

theorem overshoot_of_none {cs : List Char} (missing : aliasPlace? cs = none) : overshoot cs = 0 := by
  rw [overshoot, missing]

end Text

/-! ## The recursion -/

namespace Scope

open Text

/-- The name on which the rendering of a name recurs: what stands before the cut at an alias, or else the first
of several segments. -/
def headPart? (cs : List Char) : Option (List Char) :=
  match findInfix aliasMark (lowerChars cs) with
  | some cut => some (cs.take cut)
  | none =>
    match Text.splitOn '.' cs with
    | first :: _ :: _ => some (stripChars first)
    | _ => none

/-- The rendering of a name recurs on another one. -/
def RecursOn (cs part : List Char) : Prop :=
  headPart? cs = some part

/-- What is done with the rendering of the name on which a rendering recurs. -/
def afterHead (s : Scope) (cs : List Char) (head : Sql) : Compile Sql :=
  match findInfix aliasMark (lowerChars cs) with
  | some cut => do return s.aliased head (← s.segment (cs.drop (cut + 4)))
  | none => do return Sql.joined "." (head :: (← (Text.splitOn '.' cs).tail.mapM s.segment))

variable {s : Scope} {cs part : List Char}

theorem wrapFrom_recursOn (recurs : RecursOn cs part) (fuel : Nat) :
    s.wrapFrom (fuel + 1) cs = s.wrapFrom fuel part >>= s.afterHead cs := by
  unfold RecursOn headPart? at recurs
  rw [wrapFrom]
  unfold afterHead
  cases found : findInfix aliasMark (lowerChars cs) with
  | some cut =>
    rw [found] at recurs
    obtain rfl := Option.some.inj recurs
    rfl
  | none =>
    rw [found] at recurs
    cases segments : Text.splitOn '.' cs with
    | nil =>
      rw [segments] at recurs
      cases recurs
    | cons first rest =>
      rw [segments] at recurs
      cases rest with
      | nil => cases recurs
      | cons second rest =>
        obtain rfl := Option.some.inj recurs
        rfl

theorem wrapFrom_of_none (ends : headPart? cs = none) (fuel : Nat) :
    s.wrapFrom (fuel + 1) cs = do return Sql.joined "." (← (Text.splitOn '.' cs).mapM s.segment) := by
  unfold headPart? at ends
  rw [wrapFrom]
  cases found : findInfix aliasMark (lowerChars cs) with
  | some cut =>
    rw [found] at ends
    cases ends
  | none =>
    rw [found] at ends
    cases segments : Text.splitOn '.' cs with
    | nil => rfl
    | cons first rest =>
      rw [segments] at ends
      cases rest with
      | nil => rfl
      | cons second rest => cases ends

/-- A name that is cut less than four characters behind the keyword is rendered from a shorter one, which is
not cut at all. -/
theorem shorter_of_overshoot (short : overshoot cs < 4) (recurs : RecursOn cs part) :
    part.length < cs.length ∧ aliasPlace? part = none := by
  unfold RecursOn headPart? at recurs
  rw [findInfix_lowerChars] at recurs
  cases found : aliasPlace? cs with
  | some place =>
    have bound := length_of_aliasPlace? found
    simp only [found, Option.map_some] at recurs
    obtain rfl := Option.some.inj recurs
    refine ⟨by rw [List.length_take]; omega, ?_⟩
    rw [aliasPlace?_take, found, Option.filter_some, if_neg]
    simp only [decide_eq_true_eq]
    omega
  | none =>
    simp only [found, Option.map_none] at recurs
    split at recurs
    next first second rest split =>
      obtain rfl := Option.some.inj recurs
      obtain ⟨begins, shorter⟩ := prefix_of_splitOn split
      have within := stripChars_infix first
      exact ⟨within.length_le.trans_lt (shorter (by simp)),
        aliasPlace?_of_infix (within.trans begins.isInfix) found⟩
    · cases recurs

/-- A name that is cut four characters behind the keyword, or more, is rendered from one that is rendered from
itself. -/
theorem recursOn_self_of_overshoot (long : 4 ≤ overshoot cs) : ∃ part, RecursOn cs part ∧ RecursOn part part := by
  cases found : aliasPlace? cs with
  | none =>
    rw [overshoot_of_none found] at long
    omega
  | some place =>
    have cut : overshoot cs = (cs.take place).count dottedCapital := by rw [overshoot, found]
    have kept : aliasPlace? (cs.take (place + overshoot cs)) = some place := by
      rw [aliasPlace?_take, found, Option.filter_some, if_pos]
      simpa using long
    have same : overshoot (cs.take (place + overshoot cs)) = overshoot cs := by
      rw [overshoot, kept]
      simp only [List.take_take]
      rw [Nat.min_eq_left (by omega), cut]
    refine ⟨cs.take (place + overshoot cs), ?_, ?_⟩
    · rw [RecursOn, headPart?, findInfix_lowerChars, found]
      rfl
    · rw [RecursOn, headPart?, findInfix_lowerChars, kept, same]
      simp [List.take_take]

/-- From a name that is cut less than four characters behind the keyword, every rendering on the way recurs on a
shorter name. -/
theorem shorter_of_reaches {name : List Char} (short : overshoot name < 4)
    (reached : Relation.ReflTransGen RecursOn name cs) (recurs : RecursOn cs part) : part.length < cs.length := by
  have kept : overshoot cs < 4 := by
    clear recurs
    induction reached with
    | refl => exact short
    | tail _ step ih => simp [overshoot_of_none (shorter_of_overshoot ih step).2]
  exact (shorter_of_overshoot kept recurs).1

/-- Every name segment has a rendering. -/
def WritesSegments (s : Scope) : Prop :=
  ∀ cs, ∃ sql, (s.segment cs).Gives sql []

/-- By the quotes of a dialect, every segment is written. -/
theorem Quotes.writesSegments (h : s.Quotes) : s.WritesSegments :=
  fun cs => ⟨_, h.segment_gives cs⟩

theorem WritesSegments.mapM (writes : s.WritesSegments) (segments : List (List Char)) :
    ∃ sqls, (segments.mapM s.segment).Gives sqls [] := by
  choose sql written using writes
  exact ⟨segments.map sql, .mapM_silent fun cs _ => written cs⟩

/-- A name that is rendered from shorter ones only has a rendering. -/
theorem wrapFrom_gives (writes : s.WritesSegments) (short : overshoot cs < 4) {fuel : Nat}
    (enough : cs.length < fuel) : ∃ sql, (s.wrapFrom fuel cs).Gives sql [] := by
  induction fuel generalizing cs with
  | zero => omega
  | succ fuel ih =>
    cases ends : headPart? cs with
    | none =>
      obtain ⟨sqls, written⟩ := writes.mapM (Text.splitOn '.' cs)
      rw [wrapFrom_of_none ends]
      exact ⟨_, written.map⟩
    | some part =>
      obtain ⟨shorter, unaliased⟩ := shorter_of_overshoot short ends
      obtain ⟨head, rendered⟩ := ih (by simp [overshoot_of_none unaliased]) (by omega : part.length < fuel)
      have after : ∃ sql, (s.afterHead cs head).Gives sql [] := by
        unfold afterHead
        split
        · obtain ⟨sql, written⟩ := writes _
          exact ⟨_, written.map⟩
        · obtain ⟨sqls, written⟩ := writes.mapM (Text.splitOn '.' cs).tail
          exact ⟨_, written.map⟩
      obtain ⟨sql, written⟩ := after
      rw [wrapFrom_recursOn ends]
      exact ⟨sql, rendered.bind_silent written⟩

theorem throw_bind_after {α β : Type} (e : Error) (f : α → Compile β) : (throw e >>= f : Compile β) = throw e :=
  rfl

/-- A name that is rendered from itself has no rendering, however deep one goes. -/
theorem wrapFrom_stuck (self : RecursOn cs cs) (fuel : Nat) :
    s.wrapFrom fuel cs = throw (.fault .nestingTooDeep) := by
  induction fuel with
  | zero => rfl
  | succ fuel ih => rw [wrapFrom_recursOn self, ih, throw_bind_after]

/-- The rendering of a name ends exactly if fewer than four dotted capitals stand before the keyword of an
alias. It has a result then, and each step of it recurs on a shorter name than the one before; and else there is
a name on the way that recurs on itself. -/
theorem wrapString_ends (writes : s.WritesSegments) (name : String) :
    (overshoot name.toList < 4 → (∃ sql, (s.wrapString name).Gives sql []) ∧
      ∀ cs part, Relation.ReflTransGen RecursOn name.toList cs → RecursOn cs part → part.length < cs.length) ∧
    (4 ≤ overshoot name.toList → s.wrapString name = throw (.fault .nestingTooDeep) ∧
      ∃ cs, Relation.ReflTransGen RecursOn name.toList cs ∧ RecursOn cs cs) := by
  refine ⟨fun short => ⟨?_, fun cs part reached recurs => shorter_of_reaches short reached recurs⟩, fun long => ?_⟩
  · exact wrapFrom_gives writes short (Nat.lt_succ_self _)
  · obtain ⟨part, recurs, self⟩ := recursOn_self_of_overshoot long
    refine ⟨?_, part, .single recurs, self⟩
    rw [wrapString, wrapFrom_recursOn recurs, wrapFrom_stuck self, throw_bind_after]

/-- Three dotted capitals before a keyword in capitals. -/
theorem wrapString_ends_overshot :
    let client : Client Value := { dialect := .postgres }
    let env : Environment := { client }
    let s := env.scope client
    let name := "İİİ.a AS x"
    s.WritesSegments ∧ overshoot name.toList < 4 ∧ (∃ sql, (s.wrapString name).Gives sql []) ∧
      ∀ cs part, Relation.ReflTransGen RecursOn name.toList cs → RecursOn cs part → part.length < cs.length := by
  intro client env s name
  have quotes : s.Quotes := quotes_of_builtin (by simp [s, client, Environment.scope, Dialect.builtin]) rfl
  have writes : s.WritesSegments := quotes.writesSegments
  have short : overshoot name.toList < 4 := by decide
  exact ⟨writes, short, (wrapString_ends writes name).1 short⟩

/-- Four dotted capitals before the keyword: the name is cut behind its last character, and so is what is left of
it, without end. -/
theorem wrapString_endless :
    let client : Client Value := { dialect := .postgres }
    let env : Environment := { client }
    let s := env.scope client
    s.wrapString "İİİİ as x" = throw (.fault .nestingTooDeep) ∧
      RecursOn "İİİİ as x".toList "İİİİ as ".toList ∧ RecursOn "İİİİ as ".toList "İİİİ as ".toList ∧
        (((Query.ofClient client).from_ (.str "İİİİ as x")).compile env).outcome.1.isOk = false := by
  intro client env s
  have first : RecursOn "İİİİ as x".toList "İİİİ as ".toList := by
    unfold RecursOn
    decide
  have again : RecursOn "İİİİ as ".toList "İİİİ as ".toList := by
    unfold RecursOn
    decide
  refine ⟨?_, first, again, by decide +kernel⟩
  rw [wrapString, wrapFrom_recursOn first, wrapFrom_stuck again, throw_bind_after]

end Scope

end SqlBuilder
