import SqlBuilder.Proofs.Fragment

/-!
# Reading statements

A lexer for the statements of a dialect. It reads one character at a time: delimited identifiers with
their closing quote written twice inside, comments, texts in single quotes, marks of punctuation, and runs
of all other characters: words, numbers, operators and placeholders.

* `Token`: what a statement is made of.
* `lex`: the tokens of a text, if nothing in it is left open.
* `Reads.append`: the tokens of two texts with a blank or a mark of punctuation at the border.
* `reads_delimited`: a delimited identifier is one token, whatever its name.
* `Text.of_ascii`: a fixed word by its bytes, from which its characters are computed much faster.
-/

namespace SqlBuilder

/-! ## Words in ASCII -/

namespace Text

/-- Whether all characters of a text are in ASCII. -/
def isAscii (s : String) : Bool :=
  s.toByteArray.data.toList.all (· < 128)

/-- The characters of a text in ASCII, which are its bytes. -/
def ascii (s : String) : List Char :=
  s.toByteArray.data.toList.map fun b => Char.ofNat b.toNat

theorem utf8EncodeChar_ascii {c : Char} (h : ∀ b ∈ String.utf8EncodeChar c, b < 128) :
    (String.utf8EncodeChar c).map (fun b => Char.ofNat b.toNat) = [c] := by
  unfold String.utf8EncodeChar at h ⊢
  have lead {n : Nat} (large : 128 ≤ n) (byte : n < 256) : ¬ UInt8.ofNat n < 128 := by
    rw [UInt8.lt_iff_toNat_lt, UInt8.toNat_ofNat', Nat.mod_eq_of_lt byte]
    exact Nat.not_lt.mpr large
  simp only at h ⊢
  split
  next one =>
    have code : (UInt8.ofNat c.val.toNat).toNat = c.toNat := by
      rw [UInt8.toNat_ofNat']
      exact Nat.mod_eq_of_lt (by omega)
    rw [List.map_singleton, code, Char.ofNat_toNat]
  next more =>
    rw [if_neg more] at h
    split at h
    · exact absurd (h _ (.head _)) (lead (by omega) (by omega))
    · split at h
      · exact absurd (h _ (.head _)) (lead (by omega) (by omega))
      · exact absurd (h _ (.head _)) (lead (by omega) (by omega))

/-- A text in ASCII is that of its characters. -/
theorem ofList_ascii {s : String} (h : isAscii s = true) : String.ofList (ascii s) = s := by
  obtain ⟨cs, rfl⟩ : ∃ cs, s = String.ofList cs := ⟨s.toList, by simp⟩
  have bytes : (String.ofList cs).toByteArray.data.toList = cs.flatMap String.utf8EncodeChar := by
    simp [List.utf8Encode]
  rw [isAscii, bytes, List.all_eq_true] at h
  rw [ascii, bytes]
  refine congrArg String.ofList ?_
  clear bytes
  induction cs with
  | nil => rfl
  | cons c cs ih =>
    rw [List.flatMap_cons] at h ⊢
    rw [List.map_append, utf8EncodeChar_ascii fun b hb => by simpa using h b (List.mem_append_left _ hb),
      ih fun b hb => h b (List.mem_append_right _ hb)]
    rfl

/-- What holds of the characters of a text in ASCII holds of the text. -/
theorem of_ascii {P : String → Prop} {s : String} (h : isAscii s = true ∧ P (String.ofList (ascii s))) : P s :=
  ofList_ascii h.1 ▸ h.2

end Text

/-! ## Tokens -/

/-- A part of a statement. -/
inductive Token
  /-- a word, a number, an operator or a placeholder -/
  | run (cs : List Char)
  /-- a mark of punctuation -/
  | mark (c : Char)
  /-- the name in a delimited identifier -/
  | name (cs : List Char)
  /-- the text between single quotes -/
  | quoted (cs : List Char)
  | comment (cs : List Char)
  deriving DecidableEq

/-- The quotes around delimited identifiers. -/
structure Quotes where
  left : Char
  right : Char
  deriving DecidableEq

/-- Quotes that mean nothing else. -/
def Quotes.isPlain (q : Quotes) : Bool :=
  [q.left, q.right].all fun c =>
    !parts c && !c.isDigit && !(['/', '*', '\'', '?', '-'].contains c)

namespace Lexer

/-- What a lexer is reading. -/
inductive Mode
  | between
  | run (cs : List Char)
  | name (cs : List Char)
  /-- a delimited identifier after a quote that may be the closing one -/
  | closed (cs : List Char)
  | quoted (cs : List Char)
  /-- a slash that may open a comment -/
  | slash
  | comment (cs : List Char)
  /-- a comment after a star that may close it -/
  | star (cs : List Char)
  deriving DecidableEq

/-- The tokens that a lexer has read, and what it is reading. -/
structure State where
  tokens : List Token := []
  mode : Mode := .between
  deriving DecidableEq

variable (q : Quotes)

/-- Reads the first character of a token. -/
def begin_ (tokens : List Token) (c : Char) : State :=
  if c = ' ' then { tokens }
  else if parts c then { tokens := tokens ++ [.mark c] }
  else if c = q.left then { tokens, mode := .name [] }
  else if c = '\'' then { tokens, mode := .quoted [] }
  else if c = '/' then { tokens, mode := .slash }
  else { tokens, mode := .run [c] }

/-- Whether a character ends a run. -/
def ends (c : Char) : Bool :=
  parts c || c = q.left || c = '\'' || c = '/'

/-- Reads a character after a run. -/
def proceed (tokens : List Token) (cs : List Char) (c : Char) : State :=
  if ends q c then begin_ q (tokens ++ [.run cs]) c else { tokens, mode := .run (cs ++ [c]) }

/-- Reads a character. -/
def step (s : State) (c : Char) : State :=
  match s.mode with
  | .between => begin_ q s.tokens c
  | .run cs => proceed q s.tokens cs c
  | .name cs => { s with mode := if c = q.right then .closed cs else .name (cs ++ [c]) }
  | .closed cs =>
    if c = q.right then { s with mode := .name (cs ++ [c]) } else begin_ q (s.tokens ++ [.name cs]) c
  | .quoted cs =>
    if c = '\'' then { tokens := s.tokens ++ [.quoted cs] } else { s with mode := .quoted (cs ++ [c]) }
  | .slash => if c = '*' then { s with mode := .comment [] } else proceed q s.tokens ['/'] c
  | .comment cs => { s with mode := if c = '*' then .star cs else .comment (cs ++ [c]) }
  | .star cs =>
    if c = '/' then { tokens := s.tokens ++ [.comment cs] }
    else { s with mode := if c = '*' then .star (cs ++ ['*']) else .comment (cs ++ ['*', c]) }

/-- The tokens when nothing more comes, if nothing is left open. -/
def State.settled (s : State) : Option (List Token) :=
  match s.mode with
  | .between => some s.tokens
  | .run cs => some (s.tokens ++ [.run cs])
  | .closed cs => some (s.tokens ++ [.name cs])
  | .slash => some (s.tokens ++ [.run ['/']])
  | _ => none

/-- Reads a text. -/
def read (s : State) (cs : List Char) : State :=
  cs.foldl (step q) s

end Lexer

/-- The tokens of a text, if nothing in it is left open. -/
def lex (q : Quotes) (cs : List Char) : Option (List Token) :=
  (Lexer.read q {} cs).settled

namespace Lexer

/-! ## Borders -/

variable {q : Quotes} (plain : q.isPlain = true)

theorem begin_parts {c : Char} (h : parts c = true) (tokens : List Token) :
    (begin_ q tokens c).mode = .between := by
  unfold begin_
  split
  · rfl
  · rfl

include plain

theorem parts_ne_right {c : Char} (h : parts c = true) : c ≠ q.right := by
  rintro rfl
  simp [Quotes.isPlain, h] at plain

/-- A character that parts ends what can end. -/
theorem step_settled {s : State} {tokens : List Token} {c : Char} (h : s.settled = some tokens)
    (parted : parts c = true) : step q s c = begin_ q tokens c := by
  obtain ⟨before, mode⟩ := s
  have star : c ≠ '*' := by rintro rfl; exact absurd parted (by decide)
  cases mode with
  | between =>
    cases h
    rfl
  | run cs =>
    cases h
    simp [step, proceed, ends, parted]
  | closed cs =>
    cases h
    simp [step, parts_ne_right plain parted]
  | slash =>
    cases h
    simp [step, star, proceed, ends, parted]
  | _ => cases h

/-- After a character that parts, either a token is left open or none is being read. -/
theorem step_parts {s : State} {tokens : List Token} {c : Char} (h : (step q s c).settled = some tokens)
    (parted : parts c = true) : step q s c = { tokens } := by
  have right := parts_ne_right plain parted
  have between (before : List Token) (ends : step q s c = begin_ q before c) : step q s c = { tokens } := by
    rw [ends] at h ⊢
    have mode := begin_parts (q := q) parted before
    generalize begin_ q before c = s at h mode ⊢
    obtain ⟨read, _⟩ := s
    cases mode
    cases h
    rfl
  obtain ⟨before, mode⟩ := s
  cases mode with
  | between => exact between _ rfl
  | run cs => exact between _ (step_settled plain rfl parted)
  | closed cs => exact between _ (step_settled plain rfl parted)
  | slash => exact between _ (step_settled plain rfl parted)
  | name cs => simp [step, right, State.settled] at h
  | quoted cs =>
    have quote : c ≠ '\'' := by rintro rfl; exact absurd parted (by decide)
    simp [step, quote, State.settled] at h
  | comment cs =>
    have star : c ≠ '*' := by rintro rfl; exact absurd parted (by decide)
    simp [step, star, State.settled] at h
  | star cs =>
    have star : c ≠ '*' := by rintro rfl; exact absurd parted (by decide)
    have slash : c ≠ '/' := by rintro rfl; exact absurd parted (by decide)
    simp [step, star, slash, State.settled] at h

omit plain

/-! ## Tokens read before -/

/-- A state with more tokens before those that it has read. -/
def State.after (before : List Token) (s : State) : State :=
  { s with tokens := before ++ s.tokens }

theorem begin_after (before tokens : List Token) (c : Char) :
    begin_ q (before ++ tokens) c = (begin_ q tokens c).after before := by
  unfold begin_
  split_ifs <;> simp [State.after]

theorem proceed_after (before tokens : List Token) (cs : List Char) (c : Char) :
    proceed q (before ++ tokens) cs c = (proceed q tokens cs c).after before := by
  unfold proceed
  split_ifs
  · rw [List.append_assoc, begin_after]
  · rfl

theorem step_after (before : List Token) (s : State) (c : Char) :
    step q (s.after before) c = (step q s c).after before := by
  obtain ⟨tokens, mode⟩ := s
  cases mode with
  | between => exact begin_after before tokens c
  | run cs => exact proceed_after before tokens cs c
  | name cs => rfl
  | closed cs =>
    simp only [step, State.after]
    split_ifs
    · rfl
    · rw [List.append_assoc, begin_after]
      rfl
  | quoted cs =>
    simp only [step, State.after]
    split_ifs <;> simp
  | slash =>
    simp only [step, State.after]
    split_ifs
    · rfl
    · exact proceed_after before tokens ['/'] c
  | comment cs => rfl
  | star cs =>
    simp only [step, State.after]
    split_ifs <;> simp

theorem read_after (before : List Token) (s : State) (cs : List Char) :
    read q (s.after before) cs = (read q s cs).after before := by
  induction cs generalizing s with
  | nil => rfl
  | cons c cs ih =>
    change read q (step q (s.after before) c) cs = (read q (step q s c) cs).after before
    rw [step_after, ih]

theorem settled_after (before : List Token) (s : State) :
    (s.after before).settled = s.settled.map (before ++ ·) := by
  obtain ⟨tokens, mode⟩ := s
  cases mode <;> simp [State.settled, State.after]

end Lexer

/-! ## Texts one after another -/

/-- A text has these tokens, whatever has been read before it. -/
def Reads (q : Quotes) (cs : List Char) (tokens : List Token) : Prop :=
  ∀ before, (Lexer.read q { tokens := before } cs).settled = some (before ++ tokens)

namespace Reads

variable {q : Quotes} {cs ds : List Char} {tokens more : List Token}

theorem of_lex (h : lex q cs = some tokens) : Reads q cs tokens := by
  intro before
  have start : ({ tokens := before } : Lexer.State) = Lexer.State.after before {} := by
    simp [Lexer.State.after]
  rw [start, Lexer.read_after, Lexer.settled_after]
  change (lex q cs).map _ = _
  rw [h]
  rfl

theorem lex (h : Reads q cs tokens) : lex q cs = some tokens :=
  h []

theorem nil : Reads q [] [] :=
  fun before => by simp [Lexer.read, Lexer.State.settled]

/-- The tokens of two texts, one after the other, are those of both if one parts at the border. -/
theorem append (plain : q.isPlain = true) (h : Reads q cs tokens) (h' : Reads q ds more)
    (border : (∀ c ∈ cs.getLast?, parts c = true) ∨ ∀ d ∈ ds.head?, parts d = true) :
    Reads q (cs ++ ds) (tokens ++ more) := by
  intro before
  have first := h before
  have second := h' (before ++ tokens)
  rw [List.append_assoc] at second
  unfold Lexer.read at first second ⊢
  rw [List.foldl_append]
  generalize reached : List.foldl (Lexer.step q) { tokens := before } cs = s at first ⊢
  rcases border with border | border
  · -- the first text ends between two tokens, where the second one starts
    have between : s = { tokens := before ++ tokens } := by
      rcases List.eq_nil_or_concat cs with rfl | ⟨front, c, rfl⟩
      · subst reached
        exact congrArg (fun read : List Token => ({ tokens := read } : Lexer.State)) (Option.some.inj first)
      · rw [List.concat_eq_append, List.foldl_append] at reached
        subst reached
        exact Lexer.step_parts plain first (border c (by simp))
    rw [between, second]
  · cases ds with
    | nil => rw [List.foldl_nil, first, ← second]; rfl
    | cons d ds =>
      rw [List.foldl_cons, Lexer.step_settled plain first (border d rfl), ← second]
      rfl

end Reads

variable {q : Quotes}

/-- A run of characters that end none is one token. -/
theorem reads_run {cs : List Char} (nonempty : cs ≠ []) (h : ∀ c ∈ cs, Lexer.ends q c = false) :
    Reads q cs [.run cs] := by
  intro before
  have rest (front cs : List Char) (h : ∀ c ∈ cs, Lexer.ends q c = false) :
      Lexer.read q { tokens := before, mode := .run front } cs =
        { tokens := before, mode := .run (front ++ cs) } := by
    induction cs generalizing front with
    | nil => simp [Lexer.read]
    | cons c cs ih =>
      have first := h c (.head _)
      change Lexer.read q (Lexer.proceed q before front c) cs = _
      simp only [Lexer.proceed, first, Bool.false_eq_true, if_false]
      rw [ih _ fun c hc => h c (.tail _ hc), List.append_assoc]
      rfl
  cases cs with
  | nil => exact absurd rfl nonempty
  | cons c cs =>
    have first := h c (.head _)
    simp only [Lexer.ends, Bool.or_eq_false_iff, decide_eq_false_iff_not] at first
    obtain ⟨⟨⟨parted, left⟩, quote⟩, slash⟩ := first
    have blank : c ≠ ' ' := by rintro rfl; exact absurd parted (by decide)
    have begins : Lexer.step q { tokens := before } c = { tokens := before, mode := .run [c] } := by
      simp [Lexer.step, Lexer.begin_, blank, parted, left, quote, slash]
    change (Lexer.read q (Lexer.step q { tokens := before } c) cs).settled = _
    rw [begins, rest [c] cs fun c hc => h c (.tail _ hc)]
    rfl

/-! ## Numbers, names and comments -/

variable (plain : q.isPlain = true)

include plain

/-- A digit goes on with the token before it. -/
theorem Lexer.ends_digit {c : Char} (digit : c.isDigit = true) : Lexer.ends q c = false := by
  simp only [Quotes.isPlain, List.all_cons, List.all_nil, Bool.and_true, Bool.and_eq_true] at plain
  have left : c ≠ q.left := by rintro rfl; simp [digit] at plain
  have other {d : Char} (h : d.isDigit = false) : c ≠ d := by rintro rfl; simp [digit] at h
  simp [Lexer.ends, left, parts, other (d := ' ') rfl, other (d := '(') rfl, other (d := ')') rfl,
    other (d := ',') rfl, other (d := '.') rfl, other (d := '\'') rfl, other (d := '/') rfl]

/-- A whole number is one token. -/
theorem reads_int (n : Int) : Reads q (toString n).toList [.run (toString n).toList] := by
  refine reads_run ?_ fun c hc => ?_
  · cases n with
    | ofNat n =>
      have digits : toString (Int.ofNat n) = n.repr := rfl
      rw [digits, ne_eq, String.toList_eq_nil_iff]
      exact Nat.repr_ne_empty
    | negSucc n =>
      have sign : toString (Int.negSucc n) = "-" ++ toString (n + 1) := rfl
      simp [sign]
  · rcases mem_toString_int hc with rfl | digit
    · simp only [Quotes.isPlain, List.all_cons, List.all_nil, Bool.and_true, Bool.and_eq_true] at plain
      have left : '-' ≠ q.left := by rintro h; simp [← h] at plain
      simp [Lexer.ends, left, parts]
    · exact Lexer.ends_digit plain digit

/-- A name with its closing quotes written twice. -/
def doubled (right : Char) (cs : List Char) : List Char :=
  cs.flatMap fun c => if c = right then [c, c] else [c]

omit plain in
/-- A delimited identifier is one token, whatever its name. -/
theorem read_doubled (tokens : List Token) (front cs : List Char) :
    Lexer.read q { tokens, mode := .name front } (doubled q.right cs) =
      { tokens, mode := .name (front ++ cs) } := by
  induction cs generalizing front with
  | nil => simp [doubled, Lexer.read]
  | cons c cs ih =>
    have rest : doubled q.right (c :: cs) =
        (if c = q.right then [c, c] else [c]) ++ doubled q.right cs := rfl
    unfold Lexer.read at ih ⊢
    rw [rest, List.foldl_append]
    have first : List.foldl (Lexer.step q) { tokens, mode := .name front } (if c = q.right then [c, c] else [c]) =
        { tokens, mode := .name (front ++ [c]) } := by
      split_ifs with quote
      · simp [Lexer.step, quote]
      · simp [Lexer.step, quote]
    rw [first, ih, List.append_assoc]
    rfl

/-- A delimited identifier is one token, whatever its name. -/
theorem reads_delimited (cs : List Char) :
    Reads q (q.left :: doubled q.right cs ++ [q.right]) [.name cs] := by
  intro before
  simp only [Quotes.isPlain, List.all_cons, List.all_nil, Bool.and_true, Bool.and_eq_true] at plain
  have blank : q.left ≠ ' ' := by rintro h; simp [h, parts] at plain
  have parted : parts q.left = false := by simpa using plain.1.1.1
  have begins : Lexer.step q { tokens := before } q.left = { tokens := before, mode := .name [] } := by
    simp [Lexer.step, Lexer.begin_, blank, parted]
  change (Lexer.read q (Lexer.step q { tokens := before } q.left) (doubled q.right cs ++ [q.right])).settled = _
  rw [begins]
  have inside := read_doubled (q := q) before [] cs
  unfold Lexer.read at inside ⊢
  rw [List.foldl_append, inside]
  simp [Lexer.step, Lexer.State.settled]

omit plain in
/-- Inside a comment, a text that does not close it: it may end with a star, which may close it. -/
theorem read_comment (tokens : List Token) (front cs : List Char) (h : ¬ ['*', '/'] <:+: cs) :
    Lexer.read q { tokens, mode := .comment front } cs = { tokens, mode := .comment (front ++ cs) } ∨
      ∃ start, cs = start ++ ['*'] ∧
        Lexer.read q { tokens, mode := .comment front } cs = { tokens, mode := .star (front ++ start) } := by
  unfold Lexer.read
  induction cs using List.reverseRecOn with
  | nil => simp
  | append_singleton cs c ih =>
    rw [List.foldl_append]
    have infix_ : ¬ ['*', '/'] <:+: cs := fun within => h (within.trans (List.infix_append' [] cs [c]))
    rcases ih infix_ with inside | ⟨start, rfl, star⟩
    · rw [inside]
      by_cases star : c = '*'
      · exact .inr ⟨cs, by rw [star], by simp [Lexer.step, star]⟩
      · exact .inl (by simp [Lexer.step, star])
    · rw [star]
      have slash : c ≠ '/' := by
        rintro rfl
        exact h ⟨start, [], by simp⟩
      by_cases again : c = '*'
      · exact .inr ⟨start ++ ['*'], by rw [again], by simp [Lexer.step, again]⟩
      · exact .inl (by simp [Lexer.step, slash, again])

/-- A comment is one token, if its text does not close it. -/
theorem reads_comment {cs : List Char} (h : ¬ ['*', '/'] <:+: cs) :
    Reads q (['/', '*', ' '] ++ cs ++ [' ', '*', '/']) [.comment (' ' :: cs ++ [' '])] := by
  intro before
  simp only [Quotes.isPlain, List.all_cons, List.all_nil, Bool.and_true, Bool.and_eq_true] at plain
  have left : '/' ≠ q.left := by rintro h; simp [← h] at plain
  have begins : Lexer.read q { tokens := before } ['/', '*', ' '] =
      { tokens := before, mode := .comment [' '] } := by
    simp [Lexer.read, Lexer.step, Lexer.begin_, parts, left]
  unfold Lexer.read at begins ⊢
  rw [List.foldl_append, List.foldl_append, begins]
  have inside := read_comment (q := q) before [' '] cs h
  unfold Lexer.read at inside
  rcases inside with inside | ⟨start, rfl, inside⟩
  · rw [inside]
    simp [Lexer.step, Lexer.State.settled]
  · rw [inside]
    simp [Lexer.step, Lexer.State.settled]

end SqlBuilder
