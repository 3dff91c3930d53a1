import SqlBuilder.Proofs.Digits
import SqlBuilder.Proofs.TextLiterals

/-!
# Arrays as literals

A list that is written out as an array in braces is one literal, and the grammar of arrays reads its content back as
that list: braces stand around the elements of an array and commas between them, texts stand in double quotes with
backslashes inside, and a word without quotes is a null, a truth value or a whole number. So a text is read as a text,
whatever it spells.

* `ArrayElement`: what an array may hold.
* `ArrayReader.step`, `ArrayElement.read?`: the grammar of arrays, as a reader that goes character by character.
* `ArrayElement.Reads`: a text that is read as one element, wherever elements stand.
* `Literal.reads_braceItem`: an element is written so that it is read back.
* `Literal.array_denotes`: a list as a literal.
-/

namespace SqlBuilder

/-! ## Elements -/

/-- What an array may hold: nulls, truth values, whole numbers, texts, and arrays of those. -/
inductive ArrayElement
  | null
  | bool (b : Bool)
  | int (n : Int)
  | str (s : String)
  | array (items : List ArrayElement)

namespace ArrayElement

mutual

/-- An element as a value; an array is a list. -/
def toValue : ArrayElement → Value
  | null => .null
  | bool b => .bool b
  | int n => .int n
  | str s => .str s
  | array items => .list (toValues items)

/-- Elements as values. -/
def toValues : List ArrayElement → List Value
  | [] => []
  | e :: es => toValue e :: toValues es

end

/-- The number that a word of digits is. -/
def number? (word : List Char) : Option Nat :=
  if !word.isEmpty && word.all Char.isDigit then some (Text.digitsValue word) else none

/-- The whole number that a word is. -/
def whole? : List Char → Option Int
  | '-' :: digits => (number? digits).map fun n => -n
  | digits => (number? digits).map Int.ofNat

/-- The element that a word without quotes is. -/
def ofWord? (word : List Char) : Option ArrayElement :=
  match whole? word, String.ofList word with
  | some n, _ => some (int n)
  | none, "NULL" => some null
  | none, "true" => some (bool true)
  | none, "false" => some (bool false)
  | none, _ => none

end ArrayElement

/-! ## Reading arrays -/

/-- Where a reader stands. -/
inductive ArrayPlace
  /-- behind an opening brace: an element comes, or the array ends -/
  | opened
  /-- behind a comma, or at the start: an element comes -/
  | between
  /-- behind an element: a comma comes, or the array ends -/
  | closed
  /-- in a word, of which a part has been read -/
  | word (read : List Char)
  /-- in a text, of which a part has been read -/
  | quoted (read : List Char)
  /-- behind a backslash in a text -/
  | escaped (read : List Char)

/-- A reader of arrays: where it stands, the elements of the innermost open array, and those of the arrays around it,
from the inside to the outside. -/
structure ArrayReader where
  place : ArrayPlace := .between
  items : List ArrayElement := []
  outer : List (List ArrayElement) := []

namespace ArrayReader

/-- An element has been read. -/
def add (r : ArrayReader) (e : ArrayElement) : ArrayReader :=
  { r with place := .closed, items := r.items ++ [e] }

/-- The innermost array ends; it is an element of the one around it. -/
def close? (r : ArrayReader) : Option ArrayReader :=
  match r.outer with
  | [] => none
  | items :: outer => some (add { items, outer } (.array r.items))

/-- The first character of an element. -/
def begin? (r : ArrayReader) : Char → Option ArrayReader
  | '\x7b' => some { place := .opened, outer := r.items :: r.outer }
  | '"' => some { r with place := .quoted [] }
  | '\x7d' | ',' | '\\' => none
  | c => some { r with place := .word [c] }

/-- The character behind an element. -/
def delimit? (r : ArrayReader) : Char → Option ArrayReader
  | ',' => some { r with place := .between }
  | '\x7d' => r.close?
  | _ => none

/-- Reads one character. -/
def step (r : ArrayReader) (c : Char) : Option ArrayReader :=
  match r.place with
  | .opened => if c = '\x7d' then r.close? else r.begin? c
  | .between => r.begin? c
  | .closed => r.delimit? c
  | .word read =>
    match c with
    | ',' | '\x7d' => (ArrayElement.ofWord? read).bind fun e => (r.add e).delimit? c
    | '\x7b' | '"' | '\\' => none
    | c => some { r with place := .word (read ++ [c]) }
  | .quoted read =>
    match c with
    | '"' => some (r.add (.str (String.ofList read)))
    | '\\' => some { r with place := .escaped read }
    | c => some { r with place := .quoted (read ++ [c]) }
  | .escaped read => some { r with place := .quoted (read ++ [c]) }

/-- Reads characters one after another. -/
def run (r : ArrayReader) (cs : List Char) : Option ArrayReader :=
  cs.foldlM step r

end ArrayReader

/-- The elements of the array that a text is. -/
def ArrayElement.read? (s : String) : Option (List ArrayElement) :=
  match ArrayReader.run {} s.toList with
  | some ⟨.closed, [.array items], []⟩ => some items
  | _ => none

namespace ArrayReader

variable {r : ArrayReader}

theorem run_cons (c : Char) (cs : List Char) : r.run (c :: cs) = (r.step c).bind (run · cs) :=
  List.foldlM_cons

/-- An element may come next. -/
def Expects (r : ArrayReader) : Prop :=
  r.place = .opened ∨ r.place = .between

/-- A character that does not end an array begins an element wherever one may come. -/
theorem Expects.step (h : r.Expects) {c : Char} (open_ : c ≠ '\x7d') : r.step c = r.begin? c := by
  rcases h with h | h
  · rw [ArrayReader.step, h]
    exact if_neg open_
  · rw [ArrayReader.step, h]

/-- A character that may stand in a word. -/
def IsWordChar (c : Char) : Prop :=
  c ≠ ',' ∧ c ≠ '\x7b' ∧ c ≠ '\x7d' ∧ c ≠ '"' ∧ c ≠ '\\'

instance : DecidablePred IsWordChar :=
  fun _ => inferInstanceAs (Decidable (_ ∧ _))

theorem step_word {read : List Char} {c : Char} (plain : IsWordChar c) :
    step { r with place := .word read } c = some { r with place := .word (read ++ [c]) } := by
  obtain ⟨comma, open_, close, quote, slash⟩ := plain
  simp [step]

theorem begin?_word {c : Char} (plain : IsWordChar c) : r.begin? c = some { r with place := .word [c] } := by
  obtain ⟨comma, open_, close, quote, slash⟩ := plain
  simp [begin?]

/-- A word goes on up to the character behind it. -/
theorem run_word {cs : List Char} (plain : ∀ c ∈ cs, IsWordChar c) (read rest : List Char) :
    run { r with place := .word read } (cs ++ rest) = run { r with place := .word (read ++ cs) } rest := by
  induction cs generalizing read with
  | nil => rw [List.nil_append, List.append_nil]
  | cons c cs ih =>
    rw [List.cons_append, run_cons, step_word (plain c (.head _)), Option.bind_some,
      ih fun d hd => plain d (.tail _ hd), List.append_assoc, List.singleton_append]

/-- A text goes on up to its closing quote; a backslash before a character makes it a part of the text. -/
theorem run_quoted (cs read rest : List Char) :
    run { r with place := .quoted read }
      (cs.flatMap (fun c => if c = '\\' || c = '"' then ['\\', c] else [c]) ++ '"' :: rest) =
      run (r.add (.str (String.ofList (read ++ cs)))) rest := by
  induction cs generalizing read with
  | nil =>
    rw [List.flatMap_nil, List.nil_append, List.append_nil, run_cons]
    rfl
  | cons c cs ih =>
    rw [List.flatMap_cons, List.append_assoc]
    split
    next marked =>
      have slash : step { r with place := .quoted read } '\\' = some { r with place := .escaped read } := rfl
      have kept : step { r with place := .escaped read } c = some { r with place := .quoted (read ++ [c]) } := rfl
      rw [List.cons_append, List.singleton_append, run_cons, slash, Option.bind_some, run_cons, kept, Option.bind_some,
        ih, List.append_assoc, List.singleton_append]
    next plain =>
      have next_ : step { r with place := .quoted read } c = some { r with place := .quoted (read ++ [c]) } := by
        simp_all [step]
      rw [List.singleton_append, run_cons, next_, Option.bind_some, ih, List.append_assoc, List.singleton_append]

end ArrayReader

/-! ## Writing elements -/

namespace ArrayElement

open ArrayReader

/-- A text is read as one element wherever an element may come, if a comma or the end of the array stands behind
it. -/
def WrittenAs (e : ArrayElement) (text : List Char) : Prop :=
  ∀ r : ArrayReader, r.Expects → ∀ c rest, c = ',' ∨ c = '\x7d' →
    r.run (text ++ c :: rest) = (r.add e).run (c :: rest)

/-- A word that is an element is read as that. -/
theorem writtenAs_word {word : List Char} {e : ArrayElement} (filled : word ≠ [])
    (plain : ∀ c ∈ word, IsWordChar c) (own : ofWord? word = some e) : e.WrittenAs word := by
  intro r expects c rest delimiter
  obtain ⟨first, others, rfl⟩ := List.exists_cons_of_ne_nil filled
  have begun : r.step first = some { r with place := .word [first] } := by
    rw [expects.step (plain first (.head _)).2.2.1, begin?_word (plain first (.head _))]
  have ended : step { r with place := .word (first :: others) } c = (r.add e).step c := by
    rcases delimiter with rfl | rfl <;> simp [step, own, add]
  rw [List.cons_append, run_cons, begun, Option.bind_some, run_word fun d hd => plain d (.tail _ hd),
    List.singleton_append, run_cons, ended, run_cons]

/-- A text in double quotes is read as that text. -/
theorem writtenAs_str (s : String) : (str s).WrittenAs (Literal.braceQuoted s).toList := by
  intro r expects c rest _
  have begun : r.step '"' = some { r with place := .quoted [] } := expects.step (by decide)
  rw [Literal.braceQuoted, String.toList_ofList, List.append_assoc, List.cons_append, run_cons, begun, Option.bind_some,
    List.singleton_append, run_quoted, List.nil_append, String.ofList_toList]

theorem number?_repr (n : Nat) : number? n.repr.toList = some n := by
  have filled : n.repr.toList ≠ [] := by
    rw [ne_eq, String.toList_eq_nil_iff]
    exact Nat.repr_ne_empty
  have digits : n.repr.toList.all Char.isDigit = true := by
    rw [List.all_eq_true]
    exact fun c hc => Text.isDigit_of_mem_repr hc
  have all_ : (!n.repr.toList.isEmpty && n.repr.toList.all Char.isDigit) = true := by
    rw [digits, Bool.and_true, Bool.not_eq_true', List.isEmpty_eq_false_iff]
    exact filled
  rw [number?, if_pos all_, Text.digitsValue_repr]

theorem whole?_toString (n : Int) : whole? (toString n).toList = some n := by
  cases n with
  | ofNat m =>
    have unsigned : whole? m.repr.toList = (number? m.repr.toList).map Int.ofNat := by
      rw [whole?]
      intro digits chars
      have sign : '-' ∈ m.repr.toList := chars ▸ .head _
      exact absurd (Text.isDigit_of_mem_repr sign) (by decide)
    have written : toString (Int.ofNat m) = m.repr := rfl
    rw [written, unsigned, number?_repr]
    rfl
  | negSucc m =>
    have written : (toString (Int.negSucc m)).toList = '-' :: (m + 1).repr.toList := by
      have split : toString (Int.negSucc m) = "-" ++ (m + 1).repr := rfl
      rw [split, String.toList_append]
      rfl
    rw [written, whole?, number?_repr]
    rfl

theorem ofWord?_int (n : Int) : ofWord? (toString n).toList = some (int n) := by
  rw [ofWord?, whole?_toString]

/-- A whole number is read as that number. -/
theorem writtenAs_int (n : Int) : (int n).WrittenAs (toString n).toList := by
  have digits : ∀ c ∈ (toString n).toList, c = '-' ∨ c.isDigit = true := fun c hc => mem_toString_int hc
  refine writtenAs_word ?_ (fun c hc => ?_) (ofWord?_int n)
  · intro none_
    have own := ofWord?_int n
    rw [none_] at own
    cases own
  · rcases digits c hc with rfl | digit
    · decide
    · refine ⟨?_, ?_, ?_, ?_, ?_⟩ <;> rintro rfl <;> cases digit

/-- Elements with commas between them, behind others or at the beginning of an array. -/
theorem run_listed {es : List ArrayElement} {texts : List (List Char)} (written : List.Forall₂ WrittenAs es texts)
    (filled : es ≠ []) {r : ArrayReader} (expects : r.Expects) (rest : List Char) :
    r.run ([','].intercalate texts ++ '\x7d' :: rest) =
      run { r with place := .closed, items := r.items ++ es } ('\x7d' :: rest) := by
  induction written generalizing r with
  | nil => exact absurd rfl filled
  | @cons e text es texts first others ih =>
    cases others with
    | nil =>
      rw [List.intercalate_singleton, first r expects _ rest (.inr rfl)]
      rfl
    | cons second others =>
      have comma : (r.add e).step ',' = some { r.add e with place := .between } := rfl
      rw [List.intercalate_cons_cons, List.append_assoc, List.append_assoc, List.singleton_append,
        first r expects _ _ (.inl rfl), run_cons, comma, Option.bind_some, ih (by simp) (.inr rfl)]
      simp [add]

/-- Elements in braces are read as an array of them, whatever stands behind. -/
theorem run_array {es : List ArrayElement} {texts : List (List Char)} (written : List.Forall₂ WrittenAs es texts)
    {r : ArrayReader} (expects : r.Expects) (rest : List Char) :
    r.run ('\x7b' :: ([','].intercalate texts ++ '\x7d' :: rest)) = (r.add (.array es)).run rest := by
  have begun : r.step '\x7b' = some { place := .opened, outer := r.items :: r.outer } := expects.step (by decide)
  rw [run_cons, begun, Option.bind_some]
  cases written with
  | nil =>
    rw [List.intercalate_nil, List.nil_append, run_cons]
    rfl
  | cons first others =>
    rw [run_listed (.cons first others) (by simp) (.inl rfl), run_cons]
    rfl

end ArrayElement

namespace Literal

open ArrayElement

variable (printers : Printers)

/-- Texts with commas between them in braces. -/
theorem toList_braced (texts : List String) : ("\x7b" ++ Text.joinWith "," texts ++ "\x7d").toList =
    '\x7b' :: ([','].intercalate (texts.map String.toList) ++ ['\x7d']) := by
  simp [Text.joinWith, String.toList_append, String.toList_intercalate]

mutual

/-- An element is written so that it is read back. -/
theorem braceItem_writtenAs : ∀ e : ArrayElement,
    ∃ text, braceItem printers e.toValue = pure text ∧ e.WrittenAs text.toList
  | .null => ⟨"NULL", rfl, writtenAs_word (by decide) (by decide) rfl⟩
  | .bool true => ⟨"true", rfl, writtenAs_word (by decide) (by decide) rfl⟩
  | .bool false => ⟨"false", rfl, writtenAs_word (by decide) (by decide) rfl⟩
  | .int n => ⟨toString n, rfl, writtenAs_int n⟩
  | .str s => ⟨braceQuoted s, rfl, writtenAs_str s⟩
  | .array items => by
    obtain ⟨texts, listed, written⟩ := braceItems_writtenAs items
    refine ⟨"\x7b" ++ Text.joinWith "," texts ++ "\x7d", ?_, fun r expects c rest _ => ?_⟩
    · rw [toValue, braceItem, listed, pure_bind]
    · rw [toList_braced, List.cons_append, List.append_assoc, List.singleton_append, run_array written expects]

/-- Elements are written so that they are read back. -/
theorem braceItems_writtenAs : ∀ es : List ArrayElement,
    ∃ texts, braceItems printers (toValues es) = pure texts ∧ List.Forall₂ WrittenAs es (texts.map String.toList)
  | [] => ⟨[], rfl, .nil⟩
  | e :: es => by
    obtain ⟨text, first, written⟩ := braceItem_writtenAs e
    obtain ⟨texts, others, rest⟩ := braceItems_writtenAs es
    refine ⟨text :: texts, ?_, .cons written rest⟩
    rw [toValues, braceItems, first, pure_bind, others, pure_bind]

end

/-- A list is written out as one literal of texts in single quotes, and the grammar of arrays reads the content of that
as the list: the elements of every array in it are the same, in the same order. -/
theorem array_denotes (zone : String) (items : List ArrayElement) :
    ∃ literal content, result .braced printers zone (.list (toValues items)) = pure (.str literal) ∧
      TextGrammar.standard.Denotes literal content ∧ read? content = some items := by
  obtain ⟨texts, listed, written⟩ := braceItems_writtenAs printers items
  refine ⟨_, "\x7b" ++ Text.joinWith "," texts ++ "\x7d", ?_, TextGrammar.denotes_doubled _, ?_⟩
  · have braced : render .braced printers zone (.list (toValues items)) =
        (do return doubled ("\x7b" ++ Text.joinWith "," (← braceItems printers (toValues items)) ++ "\x7d")) := by
      rw [render]
      rfl
    change (do return Value.str (← render .braced printers zone (.list (toValues items)))) = _
    rw [braced, listed, pure_bind, pure_bind]
  · rw [read?, toList_braced, run_array written (.inr rfl)]
    rfl

/-- The content of the literal for texts that spell something else, a null and empty arrays. -/
example : read? "\x7b\"NULL\",\"\",\"a,\\\"\x7d\",NULL,\x7b\x7b\x7d\x7d\x7d" =
    some [.str "NULL", .str "", .str "a,\"\x7d", .null, .array [.array []]] := by
  rfl

end Literal

end SqlBuilder
