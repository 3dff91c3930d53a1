import SqlBuilder.Proofs.Positions
import SqlBuilder.Proofs.WritePlaceholders

/-!
# Placeholders of drivers

A compiled statement without raw text has, in the form for a driver, one placeholder for each value and the
same delimited identifiers and comments, but for percent signs that are written twice, if no identifier and no
comment has a question mark.

* `Likeness.driven`: statements without raw text in whose names and comments nothing reads like a placeholder.
* `Query.compile_native`: the tokens of a compiled statement and of its form for a driver.
-/

namespace SqlBuilder

/-! ## Pieces -/

/-- Whether a text has no placeholders, and reads the same in the form for any driver, but for percent signs
that are written twice. -/
def isDriven (q : Quotes) (text : String) : Bool :=
  text.toList.getLast? != some '\\' && marksFrom 0 text.toList == 0 &&
    (lex q text.toList).any fun ts => ts.all (fun t => t.marks == 0) &&
      [Paramstyle.format, .qmark].all fun style =>
        lex q (positionFrom style 0 0 text.toList) == some (Token.positionedAll style 0 ts)

/-- Every fixed word of a built-in dialect but the placeholder itself has none. -/
theorem Dialect.isDriven_of_mem {d : Dialect} (builtin : d ∈ Dialect.builtin) {w : String}
    (known : w ∈ d.capabilities.fixedWords) (other : w ≠ "?") : isDriven d.capabilities.quotes w = true := by
  have style : ∀ d ∈ Dialect.builtin,
      d.capabilities.quotes ∈ ([⟨'"', '"'⟩, ⟨'\x60', '\x60'⟩, ⟨'[', ']'⟩] : List Quotes) := by
    decide
  have common : ∀ q ∈ ([⟨'"', '"'⟩, ⟨'\x60', '\x60'⟩, ⟨'[', ']'⟩] : List Quotes), ∀ w ∈ commonWords,
      w = "?" ∨ Text.isAscii w = true ∧ isDriven q (String.ofList (Text.ascii w)) = true := by
    simp only [isDriven, String.toList_ofList]
    decide +kernel
  have own : ∀ d ∈ Dialect.builtin, ∀ w ∈ d.capabilities.words,
      Text.isAscii w = true ∧ isDriven d.capabilities.quotes (String.ofList (Text.ascii w)) = true := by
    simp only [isDriven, String.toList_ofList]
    decide +kernel
  rcases List.mem_append.mp known with known | known
  · have driven := (common _ (style d builtin) w known).resolve_left other
    exact Text.of_ascii (P := (isDriven _ · = true)) driven
  · exact Text.of_ascii (P := (isDriven _ · = true)) (own d builtin w known)

/-- A text without placeholders reads the same in the form for any driver, but for percent signs. -/
theorem drives_of_isDriven {q : Quotes} {text : String} (h : isDriven q text = true) :
    ∃ ts, Drives q text.toList ts ∧ marksFrom 0 text.toList = 0 := by
  simp only [isDriven, Bool.and_eq_true, bne_iff_ne, beq_iff_eq, Option.any_eq_true, List.all_eq_true] at h
  obtain ⟨⟨settled, plain⟩, ts, read, unmarked, forms⟩ := h
  have sum : (ts.map Token.marks).sum = 0 := by
    refine List.sum_eq_zero_iff_forall_eq_nat.mpr fun n hn => ?_
    obtain ⟨t, ht, rfl⟩ := List.mem_map.mp hn
    exact unmarked t ht
  refine ⟨ts, ⟨.of_lex read, fun style count => ?_, by rw [sum, plain], settled⟩, plain⟩
  obtain ⟨model, known, same⟩ : ∃ model ∈ [Paramstyle.format, .qmark], style = .format ↔ model = .format := by
    by_cases format : style = .format
    · exact ⟨.format, by simp, by simp [format]⟩
    · exact ⟨.qmark, by simp, by simp [format]⟩
  rw [positionFrom_congr same plain count 0, Token.positionedAll_congr same unmarked count 0]
  exact .of_lex (forms model known)

/-- A character is written once or, if it is a percent sign, twice. -/
theorem Paramstyle.literal_cases (style : Paramstyle) (c : Char) :
    style.literal c = [c] ∨ c = '%' ∧ style.literal c = ['%', '%'] := by
  unfold literal
  split
  next twice =>
    simp only [Bool.and_eq_true, decide_eq_true_eq] at twice
    exact .inr ⟨twice.2, rfl⟩
  · exact .inl rfl

/-- Percent signs that are written twice are no closing quotes that are. -/
theorem doubled_literal {style : Paramstyle} {right : Char} (percent : right ≠ '%') (cs : List Char) :
    (doubled right cs).flatMap style.literal = doubled right (cs.flatMap style.literal) := by
  unfold doubled
  rw [List.flatMap_assoc, List.flatMap_assoc]
  congr 1
  funext c
  rcases style.literal_cases c with once | ⟨rfl, twice⟩
  · by_cases quote : c = right <;> simp [once, quote]
    rw [← quote, once]
    simp
  · simp [twice, Ne.symm percent]

/-- A text begins with the same character when its percent signs are written twice. -/
theorem head?_literal (style : Paramstyle) (cs : List Char) : (cs.flatMap style.literal).head? = cs.head? := by
  cases cs with
  | nil => rfl
  | cons c cs =>
    rw [List.flatMap_cons]
    rcases style.literal_cases c with once | ⟨rfl, twice⟩
    · simp [once]
    · simp [twice]

theorem flatMap_literal (style : Paramstyle) {cs : List Char} (h : '%' ∉ cs) : cs.flatMap style.literal = cs := by
  induction cs with
  | nil => rfl
  | cons c cs ih =>
    have once : style.literal c = [c] := by
      refine (style.literal_cases c).resolve_right ?_
      rintro ⟨rfl, -⟩
      exact h (.head _)
    rw [List.flatMap_cons, once, ih fun within => h (.tail _ within)]
    rfl

/-- What closes a comment does not come from percent signs that are written twice. -/
theorem infix_literal {style : Paramstyle} {cs : List Char} (h : ['*', '/'] <:+: cs.flatMap style.literal) :
    ['*', '/'] <:+: cs := by
  induction cs with
  | nil => exact h
  | cons c cs ih =>
    rw [List.flatMap_cons] at h
    rcases style.literal_cases c with once | ⟨rfl, twice⟩
    · rw [once, List.singleton_append, List.infix_cons_iff] at h
      rcases h with first | later
      · obtain ⟨rfl, next⟩ := List.cons_prefix_cons.mp first
        have slash : cs.head? = some '/' := by
          obtain ⟨rest, form⟩ := next
          rw [← head?_literal style, ← form]
          rfl
        obtain ⟨tail, rfl⟩ := List.head?_eq_some_iff.mp slash
        exact ⟨[], tail, rfl⟩
      · exact (ih later).trans (List.suffix_cons c cs).isInfix
    · rw [twice] at h
      simp [List.infix_cons_iff] at h
      exact (ih h).trans (List.suffix_cons _ cs).isInfix

/-- A numeral is the same in the form for any driver. -/
theorem Token.positioned_numeral {t : Token} (h : t.isNumeral = true) (style : Paramstyle) (count : Nat) :
    t.positioned style count = t ∧ t.marks = 0 := by
  cases t with
  | run cs =>
    have plain : '?' ∉ cs ∧ '%' ∉ cs := by
      simp only [isNumeral, Bool.or_eq_true, List.contains_iff_mem, Bool.and_eq_true, List.all_eq_true] at h
      rcases h with known | ⟨-, all⟩
      · have words : ∀ cs ∈ ["inf".toList, "-inf".toList, "nan".toList], '?' ∉ cs ∧ '%' ∉ cs := by decide
        exact words cs known
      · exact ⟨fun within => absurd (all _ within) (by decide), fun within => absurd (all _ within) (by decide)⟩
    have same : positionFrom style count 0 cs = cs := by
      rw [positionFrom_of_plain plain.1, flatMap_literal style plain.2]
      rfl
    exact ⟨congrArg run same, marksFrom_of_plain plain.1 0⟩
  | mark c => exact ⟨rfl, rfl⟩
  | _ => cases h

/-- A number is the same in the form for any driver. -/
theorem drives_number {q : Quotes} {cs : List Char} {ts : List Token} (read : lex q cs = some ts)
    (numerals : ∀ t ∈ ts, t.isNumeral = true) (mark : '?' ∉ cs) (percent : '%' ∉ cs) (slash : '\\' ∉ cs) :
    Drives q cs ts where
  reads := .of_lex read
  positioned style count := by
    have same (ts : List Token) (numerals : ∀ t ∈ ts, t.isNumeral = true) (count : Nat) :
        Token.positionedAll style count ts = ts := by
      induction ts generalizing count with
      | nil => rfl
      | cons t ts ih =>
        rw [Token.positionedAll, (Token.positioned_numeral (numerals t (.head _)) style count).1,
          ih fun t ht => numerals t (.tail _ ht)]
    rw [positionFrom_of_plain mark, flatMap_literal style percent, same ts numerals]
    exact .of_lex read
  marks := by
    rw [marksFrom_of_plain mark, List.sum_eq_zero_iff_forall_eq_nat]
    intro n hn
    obtain ⟨t, ht, rfl⟩ := List.mem_map.mp hn
    exact (Token.positioned_numeral (numerals t ht) .qmark 0).2
  settled last := slash (List.mem_of_getLast? last)

/-- The signs in the placeholders of drivers, and those that mean something to the form for them. -/
def signs : List Char :=
  ['?', '%', '\\', ':', '$', '@', 'p', 's']

/-- The mark of a placeholder has digits, and signs that are no part of anything else. -/
theorem mem_mark {style : Paramstyle} {n : Nat} {c : Char} (h : c ∈ style.mark n) :
    c.isDigit = true ∨ c ∈ signs := by
  have digit {m : Nat} (h : c ∈ (toString m).toList) : c.isDigit = true := by
    rw [Nat.toString_eq_repr, Nat.toList_repr] at h
    exact Nat.isDigit_of_mem_toDigits (by decide) (by decide) h
  cases style with
  | numeric | dollar =>
    rcases List.mem_cons.mp h with rfl | h
    · exact .inr (by decide)
    · exact .inl (digit h)
  | atp =>
    rcases List.mem_cons.mp h with rfl | h
    · exact .inr (by decide)
    rcases List.mem_cons.mp h with rfl | h
    · exact .inr (by decide)
    · exact .inl (digit h)
  | qmark | format | named _ =>
    refine .inr ?_
    simp only [Paramstyle.mark, signs, List.mem_cons, List.not_mem_nil, or_false] at h ⊢
    tauto

variable {q : Quotes} (plain : q.isPlain = true)

include plain

/-- A comment without question marks has the same text in the form for any driver, but for percent signs. -/
theorem drives_comment {cs : List Char} (closed : ¬ ['*', '/'] <:+: cs) (h : '?' ∉ cs) :
    Drives q (['/', '*', ' '] ++ cs ++ [' ', '*', '/']) [.comment (' ' :: cs ++ [' '])] := by
  have unmarked : '?' ∉ ['/', '*', ' '] ++ cs ++ [' ', '*', '/'] := by simp [h]
  have fixed (style : Paramstyle) : style.literal '/' = ['/'] ∧ style.literal '*' = ['*'] ∧
      style.literal ' ' = [' '] := by simp [Paramstyle.literal]
  refine ⟨reads_comment plain closed, fun style count => ?_, ?_, ?_⟩
  · have kept : ¬ ['*', '/'] <:+: cs.flatMap style.literal := fun within => closed (infix_literal within)
    have form := reads_comment plain kept
    rw [positionFrom_of_plain unmarked]
    simpa [Token.positionedAll, Token.positioned, fixed] using form
  · rw [marksFrom_of_plain unmarked]
    rfl
  · rw [List.getLast?_append]
    simp

variable (left : q.left ∉ signs)

include left

/-- A placeholder is the mark of a driver in the form for it. -/
theorem drives_mark : Drives q ['?'] [.run ['?']] := by
  have reads (style : Paramstyle) (n : Nat) (nonempty : style.mark n ≠ []) :
      Reads q (style.mark n) [.run (style.mark n)] := by
    refine reads_run nonempty fun c hc => ?_
    have border : ∀ c ∈ signs, parts c = false ∧ c ≠ '\'' ∧ c ≠ '/' := by simp [signs, parts]
    rcases mem_mark hc with digit | sign
    · exact Lexer.ends_digit plain digit
    · have quote : c ≠ q.left := by
        rintro rfl
        exact left sign
      simp [Lexer.ends, border c sign, quote]
  refine ⟨reads .qmark 1 (by simp [Paramstyle.mark]), fun style count => ?_, rfl, by decide⟩
  have nonempty : style.mark (count + 1) ≠ [] := by cases style <;> simp [Paramstyle.mark]
  simpa [positionFrom, Token.positionedAll, Token.positioned] using reads style _ nonempty

variable (right : q.right ∉ signs)

include right

/-- A delimited identifier without question marks has the same name in the form for any driver, but for
percent signs. -/
theorem drives_delimited {cs : List Char} (h : '?' ∉ cs) :
    Drives q (q.left :: doubled q.right cs ++ [q.right]) [.name cs] := by
  have other {c d : Char} (h : c ∉ signs) (known : d ∈ signs) : c ≠ d := by
    rintro rfl
    exact h known
  have percent : q.right ≠ '%' := other right (by decide)
  have literal (style : Paramstyle) {c : Char} (h : c ≠ '%') : style.literal c = [c] := by
    simp [Paramstyle.literal, h]
  have inside {c : Char} (within : c ∈ doubled q.right cs) : c ∈ cs := by
    obtain ⟨d, hd, hc⟩ := List.mem_flatMap.mp within
    have same : c = d := by split at hc <;> simpa using hc
    rwa [same]
  have unmarked : '?' ∉ q.left :: doubled q.right cs ++ [q.right] := by
    simp only [List.cons_append, List.mem_cons, List.mem_append, List.not_mem_nil, or_false]
    rintro (quote | within | quote)
    · exact other left (by decide) quote.symm
    · exact h (inside within)
    · exact other right (by decide) quote.symm
  refine ⟨reads_delimited plain cs, fun style count => ?_, ?_, ?_⟩
  · rw [positionFrom_of_plain unmarked]
    simpa [Token.positionedAll, Token.positioned, literal style percent,
      literal style (other left (d := '%') (by decide)), doubled_literal percent]
      using reads_delimited plain (cs.flatMap style.literal)
  · rw [marksFrom_of_plain unmarked]
    rfl
  · rw [List.getLast?_append]
    simpa using other right (d := '\\') (by decide)

omit plain left right

/-- Pieces of statements without raw text in which nothing but a placeholder reads like one: names and comments
have no question marks, and numbers none of the characters that a driver reads in another way. -/
def Capabilities.DrivenPiece (c : Capabilities) (piece : Piece) : Prop :=
  c.SafePiece piece ∧
    match piece with
    | .word w | .raw w => w ≠ "?"
    | .name _ segment => '?' ∉ segment.toList
    | .comment text => '?' ∉ text.toList
    | .number text => '?' ∉ text.toList ∧ '%' ∉ text.toList ∧ '\\' ∉ text.toList
    | .literal _ | .param _ => True
    | .stray v => v.containsUndefined = true

/-- The text of a piece with a defined value has as many placeholders as the piece has values. -/
theorem Capabilities.DrivenPiece.drives {d : Dialect} (builtin : d ∈ Dialect.builtin) {piece : Piece}
    (h : d.capabilities.DrivenPiece piece) (defined : ∀ v ∈ piece.binding?, v.containsUndefined = false) :
    ∃ ts, Drives d.capabilities.quotes piece.text.toList ts ∧
      marksFrom 0 piece.text.toList = piece.binding?.toList.length := by
  obtain ⟨plain, left, right⟩ := Dialect.quotes_plain d builtin
  have apart : ∀ d ∈ Dialect.builtin, d.capabilities.quotes.left ∉ signs ∧
      d.capabilities.quotes.right ∉ signs := by decide
  obtain ⟨safe, h⟩ := h
  cases piece with
  | word w => exact drives_of_isDriven (Dialect.isDriven_of_mem builtin safe h)
  | raw w => exact drives_of_isDriven (Dialect.isDriven_of_mem builtin safe h)
  | name quoting segment =>
    obtain rfl : quoting = d.capabilities.quoting := safe
    by_cases star : segment = "*"
    · subst star
      have driven := Dialect.isDriven_of_mem builtin (List.mem_append_left _ (by decide)) (by decide : "*" ≠ "?")
      exact drives_of_isDriven driven
    · have name := drives_delimited plain (apart d builtin).1 (apart d builtin).2 h
      rw [← Quoting.toList_quote left right star] at name
      exact ⟨_, name, name.marks.symm⟩
  | number text =>
    obtain ⟨ts, read, numerals⟩ := safe
    have number := drives_number read numerals h.1 h.2.1 h.2.2
    exact ⟨ts, number, marksFrom_of_plain h.1 0⟩
  | comment text =>
    have comment := drives_comment plain safe h
    have spelled : (Piece.comment text).text.toList = ['/', '*', ' '] ++ text.toList ++ [' ', '*', '/'] := by
      simp [Piece.text]
    rw [← spelled] at comment
    exact ⟨_, comment, comment.marks.symm⟩
  | literal text => exact safe.elim
  | param v =>
    have spelled : (Piece.param v).text.toList = ['?'] := by simp [Piece.text]
    rw [spelled]
    exact ⟨_, drives_mark plain (apart d builtin).1, rfl⟩
  | stray v =>
    have undefined : v.containsUndefined = true := h
    rw [defined v rfl] at undefined
    cases undefined

/-- The text of a fragment without raw text, whose pieces cannot run into each other, has as many placeholders
as the fragment has values. -/
theorem Sql.drives {d : Dialect} (builtin : d ∈ Dialect.builtin) {sql : Sql}
    (h : ∀ piece ∈ sql, d.capabilities.DrivenPiece piece) (spaced : sql.Spaced)
    (defined : ∀ v ∈ sql.bindings, v.containsUndefined = false) :
    ∃ ts, Drives d.capabilities.quotes sql.text.toList ts ∧ marksFrom 0 sql.text.toList = sql.bindings.length := by
  induction sql with
  | nil => exact ⟨[], .nil, rfl⟩
  | cons piece rest ih =>
    have split : Sql.text (piece :: rest) = piece.text ++ Sql.text rest := by simp [Sql.text]
    obtain ⟨within, border⟩ := spaced.border
    rw [bindings_cons] at defined ⊢
    have defined' : ∀ v ∈ piece.binding?, v.containsUndefined = false :=
      fun v hv => defined v (List.mem_append_left _ (by simpa using hv))
    obtain ⟨first, drives, slots⟩ := (h piece (.head _)).drives builtin defined'
    obtain ⟨more, drives', slots'⟩ :=
      ih (fun piece hp => h piece (.tail _ hp)) within fun v hv => defined v (List.mem_append_right _ hv)
    rw [split, String.toList_append, List.length_append, ← slots, ← slots']
    exact ⟨first ++ more, drives.append (Dialect.quotes_plain d builtin).1 drives' border,
      marksFrom_append _ ⟨drives.settled, fun _ => rfl⟩⟩

/-! ## Statements for drivers -/

namespace Likeness

/-- Statements of any kind without raw text in which nothing but placeholders reads like one: the words that
callers may put in are those of the library, and names and comments have no question marks. -/
def driven (env : Environment) (client : Client Value) : Likeness :=
  { safe env client with piece := client.capabilities.DrivenPiece, char c := c ≠ '?' }

variable {env : Environment} {client : Client Value}

/-- Every built-in dialect can write such statements. -/
theorem driven_fair (builtin : client.dialect ∈ Dialect.builtin) (unhooked : client.wrapIdentifier = none) :
    (driven env client).Fair := by
  have law : (safe env client).Lawful := safe_lawful builtin unhooked
  have known : ∀ d ∈ Dialect.builtin, "?" ∉ d.capabilities.words := by decide
  have keyword : ∀ d ∈ Dialect.builtin, partsBefore d.capabilities.aliasKeyword = true ∧
    partsAfter d.capabilities.aliasKeyword = true := by decide
  have operator : ∀ d ∈ Dialect.builtin, ∀ w ∈ d.capabilities.jsonPath.textOperator, partsBefore w = true := by
    decide
  have common {w : String} (word : w ∈ vocabulary ∨ w ∈ truncationWords) :
      (driven env client).piece (.word w) := by
    have marked : "?" ∉ vocabulary ∧ "?" ∉ truncationWords := by decide
    rcases word with word | word
    · exact ⟨law.words w word, by rintro rfl; exact marked.1 word⟩
    · exact ⟨List.mem_append_left _ (List.mem_append_right _ word), by rintro rfl; exact marked.2 word⟩
  have own {w : String} (word : w ∈ client.capabilities.words) : (driven env client).piece (.word w) :=
    ⟨List.mem_append_right _ word, by rintro rfl; exact known _ builtin word⟩
  have integer (n : Int) : (driven env client).piece (.number (toString n)) := by
    refine ⟨law.integer n, ?_, ?_, ?_⟩ <;>
      exact fun within => (mem_toString_int within).elim (by decide) (by decide)
  exact
    { law.toFair with
      toSpeaks := speaks_of_words _ (fun _ => own) (fun _ => keyword _ builtin) (fun _ => operator _ builtin)
        fun _ _ _ => slotted_truncation builtin fun w word => common (.inr word)
      words := fun w word => common (.inl word)
      name := fun h => ⟨rfl, fun within => h '?' within rfl⟩
      integer
      param := fun _ => ⟨trivial, trivial⟩
      undefined := ⟨trivial, rfl⟩
      markChars := by simp [driven]
      anyPiece := False.elim
      anyChar := False.elim }

end Likeness

/-- A compiled statement without raw text, in whose names and comments there are no question marks, is read by a
driver as it is written: the words, the delimited identifiers and the comments are the same in the form for the
driver, but for percent signs that are written twice, and there is one placeholder for each value. Where
question marks are the placeholders, the only others are those of operators. -/
theorem Query.compile_native {env : Environment} {q : Query Value} (builtin : q.client.dialect ∈ Dialect.builtin)
    (unhooked : q.client.wrapIdentifier = none) (h : (Likeness.driven env q.client).KeptLike q q)
    {p p' : Progress} {c : Compiled Value} (run : q.compile env p = .ok c p') :
    ∃ tokens native, lex q.client.capabilities.quotes c.sql.toList = some tokens ∧
      (∀ s, ∃ s', q.client.native c s = .ok native s') ∧
      lex q.client.capabilities.quotes native.sql.toList =
        some (Token.positionedAll q.client.style 0 tokens) ∧
      (tokens.map Token.marks).sum = c.bindings.length ∧ native.bindings.length = c.bindings.length ∧
      (q.client.style = .qmark → ((Token.positionedAll q.client.style 0 tokens).map Token.questions).sum =
        c.bindings.length + (tokens.map Token.escapes).sum) := by
  have law : (Likeness.driven env q.client).Fair := Likeness.driven_fair builtin unhooked
  obtain ⟨r, -, sql, bindings, frag, defined, -⟩ :=
    (Likeness.sound_kept law nestingLimit).rendered rfl h run
  have settled : ∀ v ∈ r.sql.bindings, v.containsUndefined = false := fun v hv => by
    simpa using List.any_eq_false.mp defined v hv
  obtain ⟨tokens, drives, slots⟩ := Sql.drives builtin frag.proper (frag.spaced trivial) settled
  rw [← sql] at drives
  let native : Native := ⟨q.client.positionBindings c.sql, q.client.prepare c.bindings⟩
  have form : native.sql.toList = positionFrom q.client.style 0 0 c.sql.toList := String.toList_ofList
  have marks : (tokens.map Token.marks).sum = c.bindings.length := by
    rw [drives.marks, sql, slots, bindings]
  refine ⟨tokens, native, drives.reads.lex, q.client.native_ok (Query.compile_object run), ?_, marks,
    q.client.length_prepare c.bindings, fun style => ?_⟩
  · rw [form]
    exact (drives.positioned _ 0).lex
  · rw [style, Token.questions_positionedAll, marks]

/-- A select from a table with a percent sign in its name, by an operator with a question mark. -/
theorem Query.compile_native_percent :
    let client : Client Value := { dialect := .postgres }
    let env : Environment := { client }
    let q := ((Query.ofClient client).from_ (.str "100%")).addCondition .where_ .and false
      (.compare (.str "tags") (.str "?") (.str "a?"))
    q.client.dialect ∈ Dialect.builtin ∧ q.client.wrapIdentifier = none ∧
      (Likeness.driven env q.client).KeptLike q q ∧ ∃ c p', q.compile env {} = .ok c p' ∧
        ∃ tokens native, lex q.client.capabilities.quotes c.sql.toList = some tokens ∧
          (∀ s, ∃ s', q.client.native c s = .ok native s') ∧
          lex q.client.capabilities.quotes native.sql.toList =
            some (Token.positionedAll q.client.style 0 tokens) ∧
          (tokens.map Token.marks).sum = c.bindings.length ∧ native.bindings.length = c.bindings.length ∧
          (q.client.style = .qmark → ((Token.positionedAll q.client.style 0 tokens).map Token.questions).sum =
            c.bindings.length + (tokens.map Token.escapes).sum) := by
  intro client env q
  have name {L} (s : String) (h : s.toList.all (· != '?')) : (Likeness.driven env client).Column L (.str s) (.str s) :=
    .name rfl fun c hc => bne_iff_ne.mp (List.all_eq_true.mp h c hc)
  have compared {L} : (Likeness.driven env client).TestLike L (.compare (.str "tags") (.str "?") (.str "a?"))
      (.compare (.str "tags") (.str "?") (.str "a?")) :=
    .compare (name _ rfl) (.word ⟨rfl, rfl⟩) ⟨rfl, fun _ => rfl⟩ (.bound ⟨rfl, rfl⟩ ⟨rfl, rfl⟩ rfl rfl rfl)
  have like : (Likeness.driven env client).KeptLike q q := by
    have select : (Likeness.driven env client).SelectLike ((Likeness.driven env client).keptLevel 399)
        q.statement q.statement := {
      schema := rfl
      schemaShown := nofun
      table := .some (name _ rfl)
      commonTables := .nil
      projection := .nil
      joins := .nil
      wheres := .cons ⟨rfl, rfl, nofun, rfl, compared⟩ .nil
      groups := .nil
      havings := .nil
      orders := .nil
      limit := rfl
      offset := rfl
      unions := .nil
      lock := rfl
      lockTables := .nil
      wait := rfl }
    exact ⟨⟨.inr rfl, rfl, select, rfl, nofun, rfl, nofun⟩, fun _ => nofun⟩
  have builtin : q.client.dialect ∈ Dialect.builtin := .head _
  have succeeds : (q.compile env).outcome.1.isOk = true := by decide +kernel
  unfold Compile.outcome at succeeds
  split at succeeds
  next c p' run => exact ⟨builtin, rfl, like, c, p', run, Query.compile_native builtin rfl like run⟩
  · cases succeeds

/-- A question mark in a name becomes a placeholder of the driver, and where question marks are the placeholders,
an operator reads like one. -/
theorem Query.compile_native_question :
    let native (q : Query Value) : Option (String × Nat) :=
      ((q.compile { client := q.client }).outcome.1.toOption.bind fun c =>
        (q.client.native c).outcome.1.toOption).map fun native => (native.sql, native.bindings.length)
    let postgres : Client Value := { dialect := .postgres }
    let named := ((Query.ofClient postgres).from_ (.str "a?")).addCondition .where_ .and false
      (.compare (.str "b") (.str "=") (.int 1))
    let qmark : Client Value := { dialect := .postgres, paramstyle := some .qmark }
    let keyed := ((Query.ofClient qmark).from_ (.str "t")).addCondition .where_ .and false
      (.compare (.str "tags") (.str "?") (.str "k"))
    native named = some ("select * from \"a%s\" where \"b\" = %s", 1) ∧
      native keyed = some ("select * from \"t\" where \"tags\" ? ?", 1) := by
  decide +kernel

end SqlBuilder
