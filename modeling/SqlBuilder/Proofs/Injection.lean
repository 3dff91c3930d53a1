import SqlBuilder.Proofs.Levels
import SqlBuilder.Proofs.Lexing

/-!
# Statements and the texts of callers

A statement without raw text consists of words from a fixed list, which depends on nothing but the
dialect, of punctuation, numbers and placeholders, and of delimited identifiers and comments. What a
caller gives as a text is inside of those or bound as a value.

* `Capabilities.lexicon`: the words of the library and of a dialect.
* `Token.isSafe`: the tokens of such statements.
* `Likeness.safe`: statements without raw text.
* `Query.compile_safe`: a compiled statement without raw text has such tokens only.
-/

namespace SqlBuilder

open List (Forall₂)

/-! ## Words -/

/-- The words that calls on queries bring along, with the blanks around them. -/
def callWords : List String :=
  ["count(", "count(distinct ", "min(", "min(distinct ", "max(", "max(distinct ", "sum(", "sum(distinct ",
   "avg(", "avg(distinct ", "row_number() over (", "rank() over (", "dense_rank() over (",
   "inner join ", "left join ", "left outer join ", "right join ", "right outer join ",
   "full outer join ", "cross join ", " union ", " union all ", " intersect ", " except "]

/-- The words of the dialects' truncations, with the blanks around them. -/
def truncationWords : List String :=
  ["truncate ", " restart identity", "truncate table ", "delete from ", ""]

/-- The words that statements of all dialects may have, with the blanks around them. -/
def commonWords : List String :=
  "?" :: vocabulary ++ callWords ++ truncationWords

/-- The words of the library and of a dialect, with the blanks around them. -/
def Capabilities.fixedWords (c : Capabilities) : List String :=
  commonWords ++ c.words

/-- The quotes of a dialect. -/
def Capabilities.quotes (c : Capabilities) : Quotes where
  left := c.quoting.openQuote.toList.headD '"'
  right := c.quoting.closeQuote.toList.headD '"'

namespace Token

/-- The characters of a run. -/
def run? : Token → Option (List Char)
  | run cs => some cs
  | _ => none

/-- Whether a token is a number as it is printed, or what stands on one side of the point in one. -/
def isNumeral : Token → Bool
  | run cs => ["inf".toList, "-inf".toList, "nan".toList].contains cs ||
    cs.any Char.isDigit && cs.all fun c => c.isDigit || ['-', '+', 'e'].contains c
  | mark c => c = '.'
  | _ => false

end Token

/-- The runs in the words of the library and of a dialect. -/
def Capabilities.lexicon (c : Capabilities) : List (List Char) :=
  c.fixedWords.flatMap fun w => ((lex c.quotes w.toList).getD []).filterMap Token.run?

/-- Whether a token is one of a statement without raw text. -/
def Token.isSafe (c : Capabilities) : Token → Bool
  | run cs => c.lexicon.contains cs || (run cs).isNumeral
  | quoted cs => cs = "\x7b\x7d".toList
  | mark _ | name _ | comment _ => true

/-- The runs in a fixed word are words of the lexicon. -/
theorem Capabilities.mem_lexicon {c : Capabilities} {w : String} {tokens : List Token} {cs : List Char}
    (known : w ∈ c.fixedWords) (read : lex c.quotes w.toList = some tokens) (h : .run cs ∈ tokens) :
    cs ∈ c.lexicon := by
  refine List.mem_flatMap.mpr ⟨w, known, List.mem_filterMap.mpr ⟨.run cs, ?_, rfl⟩⟩
  rw [read]
  exact h

/-- Whether a text has no tokens but runs, punctuation and a pair of braces in quotes. -/
def isWording (q : Quotes) (text : String) : Bool :=
  (lex q text.toList).any fun tokens => tokens.all fun
    | .run _ | .mark _ => true
    | .quoted cs => cs = "\x7b\x7d".toList
    | .name _ | .comment _ => false

/-- Every fixed word of a built-in dialect reads as words and punctuation. -/
theorem Dialect.isWording_of_mem {d : Dialect} (builtin : d ∈ Dialect.builtin) {w : String}
    (known : w ∈ d.capabilities.fixedWords) : isWording d.capabilities.quotes w = true := by
  have style : ∀ d ∈ Dialect.builtin, d.capabilities.quotes ∈ ([⟨'"', '"'⟩, ⟨'\x60', '\x60'⟩, ⟨'[', ']'⟩] : List Quotes) := by
    decide
  have common : ∀ q ∈ ([⟨'"', '"'⟩, ⟨'\x60', '\x60'⟩, ⟨'[', ']'⟩] : List Quotes), ∀ w ∈ commonWords,
      Text.isAscii w = true ∧ isWording q (String.ofList (Text.ascii w)) = true := by
    simp only [isWording, String.toList_ofList]
    decide +kernel
  have own : ∀ d ∈ Dialect.builtin, ∀ w ∈ d.capabilities.words,
      Text.isAscii w = true ∧ isWording d.capabilities.quotes (String.ofList (Text.ascii w)) = true := by
    simp only [isWording, String.toList_ofList]
    decide +kernel
  rcases List.mem_append.mp known with known | known
  · exact Text.of_ascii (P := (isWording _ · = true)) (common _ (style d builtin) w known)
  · exact Text.of_ascii (P := (isWording _ · = true)) (own d builtin w known)

/-- The quotes of the built-in dialects are single characters that mean nothing else. -/
theorem Dialect.quotes_plain : ∀ d ∈ Dialect.builtin, d.capabilities.quotes.isPlain = true ∧
    d.capabilities.quoting.openQuote = String.singleton d.capabilities.quotes.left ∧
      d.capabilities.quoting.closeQuote = String.singleton d.capabilities.quotes.right := by
  decide

/-! ## Pieces -/

/-- Pieces of statements without raw text. -/
def Capabilities.SafePiece (c : Capabilities) : Piece → Prop
  | .word w | .raw w => w ∈ c.fixedWords
  | .name quoting _ => quoting = c.quoting
  | .number text => ∃ tokens, lex c.quotes text.toList = some tokens ∧ ∀ t ∈ tokens, t.isNumeral = true
  | .comment text => ¬ ['*', '/'] <:+: text.toList
  | .literal _ => False
  | .param _ | .stray _ => True

/-- A name in a dialect with quotes of one character each. -/
theorem Quoting.toList_quote {quoting : Quoting} {q : Quotes} (left : quoting.openQuote = String.singleton q.left)
    (right : quoting.closeQuote = String.singleton q.right) {segment : String} (h : segment ≠ "*") :
    (quoting.quote segment).toList = q.left :: doubled q.right segment.toList ++ [q.right] := by
  have single (cs : List Char) : Text.replaceFrom [q.right] [q.right, q.right] 0 cs = doubled q.right cs := by
    induction cs with
    | nil => rfl
    | cons c cs ih =>
      have rest : doubled q.right (c :: cs) =
        (if c = q.right then [c, c] else [c]) ++ doubled q.right cs := rfl
      rw [rest, ← ih, Text.replaceFrom]
      by_cases quote : c = q.right
      · simp [Text.dropStart?, quote]
      · simp [Text.dropStart?, quote, Ne.symm quote]
  simp [Quoting.quote, h, left, right, Text.replace, Text.replaceAll, single]

/-- The text of a piece without raw text has safe tokens. -/
theorem Capabilities.SafePiece.reads {d : Dialect} (builtin : d ∈ Dialect.builtin) {piece : Piece}
    (h : d.capabilities.SafePiece piece) :
    ∃ tokens, Reads d.capabilities.quotes piece.text.toList tokens ∧
      ∀ t ∈ tokens, t.isSafe d.capabilities = true := by
  obtain ⟨plain, left, right⟩ := Dialect.quotes_plain d builtin
  have wording {w : String} (known : w ∈ d.capabilities.fixedWords) :
      ∃ tokens, Reads d.capabilities.quotes w.toList tokens ∧ ∀ t ∈ tokens, t.isSafe d.capabilities = true := by
    have words := Dialect.isWording_of_mem builtin known
    unfold isWording at words
    cases read : lex d.capabilities.quotes w.toList with
    | none => simp [read] at words
    | some tokens =>
      simp only [read, Option.any_some, List.all_eq_true] at words
      refine ⟨tokens, .of_lex read, fun t ht => ?_⟩
      have kind := words t ht
      cases t with
      | run cs => simp [Token.isSafe, Capabilities.mem_lexicon known read ht]
      | quoted cs => exact kind
      | _ => rfl
  cases piece with
  | word w => exact wording h
  | raw w => exact wording h
  | name quoting segment =>
    obtain rfl : quoting = d.capabilities.quoting := h
    by_cases star : segment = "*"
    · subst star
      exact wording (w := "*") (List.mem_append_left _ (by decide))
    · refine ⟨[.name segment.toList], ?_, by simp [Token.isSafe]⟩
      change Reads _ (d.capabilities.quoting.quote segment).toList _
      rw [Quoting.toList_quote left right star]
      exact reads_delimited plain _
  | number text =>
    obtain ⟨tokens, read, numerals⟩ := h
    refine ⟨tokens, .of_lex read, fun t ht => ?_⟩
    have numeral := numerals t ht
    cases t with
    | run cs => simp [Token.isSafe, numeral]
    | mark c => rfl
    | _ => cases numeral
  | comment text =>
    refine ⟨[.comment (' ' :: text.toList ++ [' '])], ?_, by simp [Token.isSafe]⟩
    have spelled : (Piece.comment text).text.toList = ['/', '*', ' '] ++ text.toList ++ [' ', '*', '/'] := by
      simp [Piece.text]
    rw [spelled]
    exact reads_comment plain h
  | literal text => exact h.elim
  | param v => exact wording (w := "?") (List.mem_append_left _ (.head _))
  | stray v => exact ⟨[], .nil, by simp⟩

/-- The text of a fragment begins with the first of the texts of its pieces. -/
theorem Sql.PartsBefore.head {sql : Sql} (h : sql.PartsBefore) : ∀ c ∈ sql.text.toList.head?, parts c = true := by
  induction sql with
  | nil => simp [Sql.text]
  | cons piece rest ih =>
    have split : Sql.text (piece :: rest) = piece.text ++ Sql.text rest := by simp [Sql.text]
    rw [split, String.toList_append]
    cases empty : piece.text.isEmpty with
    | true =>
      have none : piece.text = "" := by simpa using empty
      have same : Sql.texts (piece :: rest) = Sql.texts rest := by simp [Sql.texts, none]
      simpa [none] using ih (by unfold PartsBefore at h ⊢; rwa [same] at h)
    | false =>
      have first := h piece.text (by simp [Sql.texts, empty])
      have nonempty : piece.text.toList ≠ [] := by simpa using empty
      cases chars : piece.text.toList with
      | nil => exact absurd chars nonempty
      | cons c cs => simpa [partsBefore, chars] using first

/-- Of a piece and the pieces after it that cannot run into each other, one text parts at the border. -/
theorem Sql.Spaced.border {piece : Piece} {rest : Sql} (spaced : Sql.Spaced (piece :: rest)) :
    rest.Spaced ∧ ((∀ c ∈ piece.text.toList.getLast?, parts c = true) ∨
      ∀ c ∈ rest.text.toList.head?, parts c = true) := by
  have texts : Sql.texts (piece :: rest) = Sql.texts [piece] ++ Sql.texts rest := Sql.texts_append [piece] rest
  unfold Sql.Spaced at spaced
  rw [texts, List.isChain_append] at spaced
  obtain ⟨-, within, border⟩ := spaced
  refine ⟨within, ?_⟩
  cases empty : piece.text.isEmpty with
  | true =>
    have none : piece.text = "" := by simpa using empty
    exact .inl (by simp [none])
  | false =>
    have single : Sql.texts [piece] = [piece.text] := by simp [Sql.texts, empty]
    by_cases after : partsAfter piece.text = true
    · refine .inl fun c hc => ?_
      simpa [partsAfter, Option.mem_def.mp hc] using after
    · refine .inr (Sql.PartsBefore.head fun text ht => ?_)
      exact (border piece.text (by simp [single]) text ht).resolve_left after

/-- The text of a fragment without raw text, whose pieces cannot run into each other, has safe tokens. -/
theorem Sql.reads {d : Dialect} (builtin : d ∈ Dialect.builtin) {sql : Sql}
    (h : ∀ piece ∈ sql, d.capabilities.SafePiece piece) (spaced : sql.Spaced) :
    ∃ tokens, Reads d.capabilities.quotes sql.text.toList tokens ∧
      ∀ t ∈ tokens, t.isSafe d.capabilities = true := by
  induction sql with
  | nil => exact ⟨[], .nil, by simp⟩
  | cons piece rest ih =>
    have split : Sql.text (piece :: rest) = piece.text ++ Sql.text rest := by simp [Sql.text]
    obtain ⟨within, border⟩ := spaced.border
    obtain ⟨first, reads, safe⟩ := (h piece (.head _)).reads builtin
    obtain ⟨more, reads', safe'⟩ := ih (fun piece hp => h piece (.tail _ hp)) within
    rw [split, String.toList_append]
    exact ⟨first ++ more, reads.append (Dialect.quotes_plain d builtin).1 reads' border,
      fun t ht => (List.mem_append.mp ht).elim (safe t) (safe' t)⟩

/-! ## Statements without raw text -/

/-- A whole number is a numeral. -/
theorem isNumeral_int (n : Int) : (Token.run (toString n).toList).isNumeral = true := by
  have digits (m : Nat) : m.repr.toList.any Char.isDigit = true := by
    have nonempty : m.repr.toList ≠ [] := by
      rw [ne_eq, String.toList_eq_nil_iff]
      exact Nat.repr_ne_empty
    obtain ⟨c, hc⟩ := List.exists_mem_of_ne_nil _ nonempty
    have member : c ∈ m.repr.toList := hc
    rw [Nat.toList_repr] at hc
    exact List.any_eq_true.mpr ⟨c, member, Nat.isDigit_of_mem_toDigits (by decide) (by decide) hc⟩
  have digit : (toString n).toList.any Char.isDigit = true := by
    cases n with
    | ofNat m => exact digits m
    | negSucc m =>
      have sign : toString (Int.negSucc m) = "-" ++ (m + 1).repr := rfl
      rw [sign, String.toList_append, List.any_append, digits, Bool.or_true]
  have all : (toString n).toList.all (fun c => c.isDigit || ['-', '+', 'e'].contains c) = true := by
    refine List.all_eq_true.mpr fun c hc => ?_
    rcases mem_toString_int hc with rfl | digit
    · decide
    · simp [digit]
  exact Bool.or_eq_true_iff.mpr (.inr (by rw [digit, all]; rfl))

/-- The words around the table of a truncation. -/
theorem Dialect.truncation {d : Dialect} (builtin : d ∈ Dialect.builtin) :
    ∃ before ∈ truncationWords, ∃ after ∈ truncationWords, ∃ template, d.capabilities.truncate = .text template ∧
      Template.braced "table" template = .ok (before.toList.map .plain ++ .token () :: after.toList.map .plain) ∧
        partsAfter before = true ∧ (after ≠ "" → partsBefore after = true) := by
  revert d
  simp only [Dialect.builtin, List.forall_mem_cons]
  refine ⟨⟨"truncate ", ?_, " restart identity", ?_, _, rfl, rfl, rfl, fun _ => rfl⟩,
    ⟨"truncate ", ?_, "", ?_, _, rfl, rfl, rfl, by simp⟩,
    ⟨"truncate ", ?_, "", ?_, _, rfl, rfl, rfl, by simp⟩,
    ⟨"truncate ", ?_, "", ?_, _, rfl, rfl, rfl, by simp⟩,
    ⟨"truncate table ", ?_, "", ?_, _, rfl, rfl, rfl, by simp⟩,
    ⟨"truncate table ", ?_, "", ?_, _, rfl, rfl, rfl, by simp⟩,
    ⟨"delete from ", ?_, "", ?_, _, rfl, rfl, rfl, by simp⟩, by simp⟩ <;> simp [truncationWords]

namespace Likeness

/-- Statements without raw text: the words that callers may put in are those of the library, and comments
do not end before they are over. -/
def safe (env : Environment) (client : Client Value) : Likeness where
  env
  client
  value := Eq
  error := Eq
  piece := client.capabilities.SafePiece
  char _ := True
  spaced := True
  writes := True
  freezes := True
  liberal := False
  exchanges := False

variable {env : Environment} {client : Client Value}

/-- A truncation may be written if the words around its table may. -/
theorem slotted_truncation {D : Likeness} (builtin : D.client.dialect ∈ Dialect.builtin)
    (words : ∀ w ∈ truncationWords, D.piece (.word w)) {template : String} {parts : List (Text.Lexeme Unit)}
    (known : D.capabilities.truncate = .text template) (braced : Template.braced "table" template = .ok parts) :
    D.Slotted parts := by
  obtain ⟨before, hb, after, ha, template', known', braced', parted, parted'⟩ := Dialect.truncation builtin
  obtain rfl : template = template' := by
    have same := known.symm.trans known'
    simpa using same
  rw [braced'] at braced
  cases braced
  refine .inr ⟨before.toList, after.toList, rfl, ⟨?_, fun _ => ?_⟩, ?_, fun _ nonempty => ?_⟩
  · simpa using words before hb
  · simpa using parted
  · simpa using words after ha
  · simpa using parted' (by rintro rfl; exact nonempty rfl)

/-- Every built-in dialect can write such statements. -/
theorem safe_lawful (builtin : client.dialect ∈ Dialect.builtin) (unhooked : client.wrapIdentifier = none) :
    (safe env client).Lawful where
  toSpeaks := by
    have keyword : ∀ d ∈ Dialect.builtin, partsBefore d.capabilities.aliasKeyword = true ∧
      partsAfter d.capabilities.aliasKeyword = true := by decide
    have operator : ∀ d ∈ Dialect.builtin, ∀ w ∈ d.capabilities.jsonPath.textOperator, partsBefore w = true := by
      decide
    exact speaks_of_words _ (fun w known => List.mem_append_right _ known) (fun _ => keyword _ builtin)
      (fun _ => operator _ builtin) fun _ _ _ => slotted_truncation builtin fun w hw =>
        List.mem_append_left _ (List.mem_append_right _ hw)
  value_refl _ := rfl
  value_undefined h := congrArg _ h
  error_refl _ := rfl
  error_bounds h := h ▸ Iff.rfl
  words w known :=
    List.mem_append_left _ (List.mem_append_left _ (List.mem_append_left _ (.tail _ known)))
  name _ := rfl
  integer n := by
    have plain := (Dialect.quotes_plain _ builtin).1
    refine ⟨_, (reads_int plain n).lex, fun t ht => ?_⟩
    obtain rfl : t = .run (toString n).toList := by simpa using ht
    exact isNumeral_int n
  param _ := trivial
  undefined := trivial
  stray _ _ := trivial
  mark _ := List.mem_append_left _ (.head _)
  markChars _ _ := trivial
  hook := .inr unhooked
  unhooked := False.elim
  anyPiece := False.elim
  anyChar := False.elim
  unspaced := False.elim

end Likeness

/-- A statement without raw text has words of the library and of its dialect, punctuation, numbers,
placeholders, delimited identifiers and comments, and nothing else. -/
theorem Query.compile_safe {env : Environment} {q : Query Value} (builtin : q.client.dialect ∈ Dialect.builtin)
    (unhooked : q.client.wrapIdentifier = none) (h : (Likeness.safe env q.client).Like q q)
    {p p' : Progress} {c : Compiled Value} (run : q.compile env p = .ok c p') :
    ∃ tokens, lex q.client.capabilities.quotes c.sql.toList = some tokens ∧
      ∀ t ∈ tokens, t.isSafe q.client.capabilities = true := by
  obtain ⟨r, -, sql, -, frag, -⟩ := h.rendered (Likeness.safe_lawful builtin unhooked) rfl run
  obtain ⟨tokens, reads, safe⟩ := Sql.reads builtin frag.proper (frag.spaced trivial)
  exact ⟨tokens, sql ▸ reads.lex, safe⟩

/-- A select whose names and values are texts with quotes and comments in them. -/
theorem Query.compile_safe_quoted :
    let client : Client Value := { dialect := .postgres }
    let env : Environment := { client }
    let q := ((Query.ofClient client).from_ (.str "a\"; drop table b --")).addCondition .where_ .and false
      (.compare (.str "c\" or 1=1 --") (.str "=") (.str "' or 1=1 --"))
    q.client.dialect ∈ Dialect.builtin ∧ q.client.wrapIdentifier = none ∧
      (Likeness.safe env q.client).Like q q ∧ ∃ c p', q.compile env {} = .ok c p' ∧
        ∃ tokens, lex q.client.capabilities.quotes c.sql.toList = some tokens ∧
          ∀ t ∈ tokens, t.isSafe q.client.capabilities = true := by
  intro client env q
  have name {L} (s : String) : (Likeness.safe env client).Column L (.str s) (.str s) :=
    .name rfl fun _ _ => trivial
  have compared {L} (column operator : String) (s : Scalar) : (Likeness.safe env client).TestLike L
      (.compare (.str column) (.str operator) (.scalar s)) (.compare (.str column) (.str operator) (.scalar s)) :=
    .compare (name _) (.word ⟨rfl, rfl⟩) ⟨rfl, fun _ => rfl⟩ (.bound ⟨rfl, rfl⟩ ⟨rfl, rfl⟩ rfl rfl rfl)
  have like : (Likeness.safe env client).QueryLike ((Likeness.safe env client).level 399) q q := by
    have select : (Likeness.safe env client).SelectLike ((Likeness.safe env client).level 399)
        q.statement q.statement := {
      schema := rfl
      schemaShown := nofun
      table := .some (name _)
      commonTables := .nil
      projection := .nil
      joins := .nil
      wheres := .cons ⟨rfl, rfl, nofun, rfl, compared _ _ _⟩ .nil
      groups := .nil
      havings := .nil
      orders := .nil
      limit := rfl
      offset := rfl
      unions := .nil
      lock := rfl
      lockTables := .nil
      wait := rfl }
    exact ⟨.inr rfl, rfl, select, rfl, nofun, rfl, nofun⟩
  have builtin : q.client.dialect ∈ Dialect.builtin := .head _
  have succeeds : (q.compile env).outcome.1.isOk = true := by decide +kernel
  unfold Compile.outcome at succeeds
  split at succeeds
  next c p' run => exact ⟨builtin, rfl, like, c, p', run, Query.compile_safe builtin rfl like run⟩
  · cases succeeds

/-- A word of the caller's that stands for the connective of a join is no name and no value: it is part of
the statement as it is. -/
theorem Query.compile_join_word :
    let client : Client Value := { dialect := .postgres }
    let env : Environment := { client }
    let onIds (j : Join Value) (word : Option Value) :=
      j.on .and word (.str "a.id") (some (.str "=")) (some (.str "b.id"))
    let word : Value := .str "or 1=1 --"
    let q := ((Query.ofClient client).from_ (.str "a")).addJoin
      (onIds (onIds { table := .str "b" } none) (some word))
    ∃ sql tokens, (q.compile env).outcome.1.map Compiled.sql = .ok sql ∧
      lex q.client.capabilities.quotes sql.toList = some tokens ∧
        ∃ t ∈ tokens, t.isSafe q.client.capabilities = false := by
  intro client env onIds word q
  have fails : (lex client.capabilities.quotes ((q.compile env).outcome.1.toOption.elim "" Compiled.sql).toList).any
      (·.contains (.run "1=1".toList)) = true := by decide +kernel
  have unknown : Token.isSafe client.capabilities (.run "1=1".toList) = false := by decide +kernel
  cases outcome : (q.compile env).outcome.1 with
  | error e =>
    rw [outcome] at fails
    cases fails
  | ok c =>
    rw [outcome] at fails
    obtain ⟨tokens, read, found⟩ := (Option.any_eq_true _ _).mp fails
    exact ⟨c.sql, tokens, rfl, read, _, List.contains_iff_mem.mp found, unknown⟩

end SqlBuilder
