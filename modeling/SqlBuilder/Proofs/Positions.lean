import Mathlib.Algebra.GroupWithZero.Nat
import SqlBuilder.Native
import SqlBuilder.Proofs.Lexing

/-!
# Statements in the form for drivers

What the form of a text for a driver has to do with the text: the parts of a text are brought into that form
one by one, and a text without question marks has its percent signs written twice at most.

* `marksFrom`, `escapesFrom`: the question marks of a text that are placeholders, and those that are not.
* `positionFrom_append`: the form of two texts, one after the other.
* `Token.positioned`: a token in the form for a driver.
* `Drives`: a text that has the tokens of its form for a driver, up to their own form.
* `Client.native_ok`: the form of a statement.
-/

namespace SqlBuilder

/-! ## Question marks -/

/-- How many placeholders a text has after a run of backslashes. -/
def marksFrom (slashes : Nat) : List Char → Nat
  | [] => 0
  | c :: cs =>
    if c = '\\' then marksFrom (slashes + 1) cs
    else if c = '?' then
      if slashes % 2 = 1 then marksFrom 0 cs else marksFrom 0 cs + 1
    else marksFrom 0 cs

/-- How many question marks of a text after a run of backslashes are no placeholders. -/
def escapesFrom (slashes : Nat) : List Char → Nat
  | [] => 0
  | c :: cs =>
    if c = '\\' then escapesFrom (slashes + 1) cs
    else if c = '?' then
      if slashes % 2 = 1 then escapesFrom 0 cs + 1 else escapesFrom 0 cs
    else escapesFrom 0 cs

/-- A question mark is a placeholder or it is none. -/
theorem count_question (slashes : Nat) (cs : List Char) :
    cs.count '?' = marksFrom slashes cs + escapesFrom slashes cs := by
  fun_induction marksFrom slashes cs with
  | case1 => rfl
  | case2 slashes cs ih => simpa [escapesFrom] using ih
  | case3 slashes cs odd _ ih =>
    rw [List.count_cons_self, ih]
    simp [escapesFrom, odd, Nat.add_assoc]
  | case4 slashes cs even _ ih =>
    rw [List.count_cons_self, ih]
    simp [escapesFrom, even, Nat.add_right_comm]
  | case5 slashes c cs slash mark ih =>
    rw [List.count_cons_of_ne mark, ih]
    simp [escapesFrom, slash, mark]

/-- Where question marks are the placeholders of a driver, there are as many in the form for it as before. -/
theorem count_positionFrom_qmark (count slashes : Nat) (cs : List Char) :
    (positionFrom .qmark count slashes cs).count '?' = cs.count '?' := by
  have slash (n : Nat) : (List.replicate n '\\').count '?' = 0 := by
    rw [List.count_replicate]
    rfl
  fun_induction positionFrom .qmark count slashes cs with
  | case1 => exact slash _
  | case2 count slashes cs ih => simpa using ih
  | case3 count slashes cs odd _ ih =>
    rw [List.count_append, slash, List.count_cons_self, List.count_cons_self, ih, Nat.zero_add]
  | case4 count slashes cs even _ ih =>
    rw [List.count_append, List.count_append, slash, List.count_cons_self, ih]
    simp [Paramstyle.mark, Nat.add_comm]
  | case5 count slashes c cs _ mark ih =>
    rw [List.count_append, List.count_append, slash, List.count_cons_of_ne mark, ih]
    simp [Paramstyle.literal, mark]

/-! ## Texts without placeholders -/

/-- A text without question marks has its percent signs written twice at most. -/
theorem positionFrom_of_plain {cs : List Char} (h : '?' ∉ cs) (style : Paramstyle) (count slashes : Nat) :
    positionFrom style count slashes cs = List.replicate slashes '\\' ++ cs.flatMap style.literal := by
  fun_induction positionFrom style count slashes cs with
  | case1 => simp
  | case2 count slashes cs ih =>
    have single : style.literal '\\' = ['\\'] := by simp [Paramstyle.literal]
    rw [ih fun within => h (.tail _ within), List.flatMap_cons, single, List.replicate_succ',
      List.append_assoc]
  | case3 | case4 => exact absurd (.head _) h
  | case5 count slashes c cs _ mark ih =>
    rw [ih fun within => h (.tail _ within), List.flatMap_cons, List.append_assoc]
    rfl

theorem marksFrom_of_plain {cs : List Char} (h : '?' ∉ cs) (slashes : Nat) : marksFrom slashes cs = 0 := by
  have none_ := count_question slashes cs
  rw [List.count_eq_zero_of_not_mem h] at none_
  omega

/-- In a text without placeholders, all that counts is whether percent signs are written twice. -/
theorem positionFrom_congr {style style' : Paramstyle} (same : style = .format ↔ style' = .format)
    {cs : List Char} {slashes : Nat} (h : marksFrom slashes cs = 0) (count count' : Nat) :
    positionFrom style count slashes cs = positionFrom style' count' slashes cs := by
  fun_induction marksFrom slashes cs generalizing count count' with
  | case1 => rfl
  | case2 slashes cs ih => simpa [positionFrom] using ih h count count'
  | case3 slashes cs odd _ ih => simp [positionFrom, odd, ih h count count']
  | case4 slashes cs even _ ih => cases h
  | case5 slashes c cs slash mark ih =>
    simp [positionFrom, slash, mark, ih h count count', Paramstyle.literal, same]

/-! ## Parts of texts -/

/-- A text that does not end with a backslash, after a number of backslashes. -/
def Settled (slashes : Nat) (cs : List Char) : Prop :=
  cs.getLast? ≠ some '\\' ∧ (cs = [] → slashes = 0)

theorem Settled.tail {c : Char} {cs : List Char} {slashes : Nat} (h : Settled slashes (c :: cs)) (n : Nat)
    (open_ : c ≠ '\\' → n = 0) : Settled n cs := by
  refine ⟨?_, ?_⟩
  · cases cs with
    | nil => simp
    | cons d cs => simpa using h.1
  · rintro rfl
    exact open_ fun slash => h.1 (by simp [slash])

/-- The form of two texts, one after the other, if the first one does not end with a backslash. -/
theorem positionFrom_append {a : List Char} (style : Paramstyle) (b : List Char) {count slashes : Nat}
    (settled : Settled slashes a) :
    positionFrom style count slashes (a ++ b) =
      positionFrom style count slashes a ++ positionFrom style (count + marksFrom slashes a) 0 b := by
  fun_induction positionFrom style count slashes a with
  | case1 count slashes =>
    obtain rfl := settled.2 rfl
    simp [marksFrom]
  | case2 count slashes cs ih =>
    simpa [positionFrom, marksFrom] using ih (settled.tail _ fun slash => absurd rfl slash)
  | case3 count slashes cs odd _ ih =>
    simp [positionFrom, marksFrom, odd, ih (settled.tail _ fun _ => rfl)]
  | case4 count slashes cs even _ ih =>
    simp [positionFrom, marksFrom, even, ih (settled.tail _ fun _ => rfl), Nat.add_assoc, Nat.add_comm 1]
  | case5 count slashes c cs slash mark ih =>
    simp [positionFrom, marksFrom, slash, mark, ih (settled.tail _ fun _ => rfl)]

theorem marksFrom_append {a : List Char} (b : List Char) {slashes : Nat} (settled : Settled slashes a) :
    marksFrom slashes (a ++ b) = marksFrom slashes a + marksFrom 0 b := by
  fun_induction marksFrom slashes a with
  | case1 slashes =>
    obtain rfl := settled.2 rfl
    simp
  | case2 slashes cs ih =>
    simpa [marksFrom] using ih (settled.tail _ fun slash => absurd rfl slash)
  | case3 slashes cs odd _ ih => simp [marksFrom, odd, ih (settled.tail _ fun _ => rfl)]
  | case4 slashes cs even _ ih =>
    simp [marksFrom, even, ih (settled.tail _ fun _ => rfl), Nat.add_right_comm]
  | case5 slashes c cs slash mark ih => simp [marksFrom, slash, mark, ih (settled.tail _ fun _ => rfl)]

/-- A character that parts stays as it is. -/
theorem Paramstyle.literal_parts {style : Paramstyle} {c : Char} (h : parts c = true) : style.literal c = [c] := by
  have percent : c ≠ '%' := by
    rintro rfl
    exact absurd h (by decide)
  simp [literal, percent]

theorem ne_of_parts {c d : Char} (h : parts c = true) (other : parts d = false) : c ≠ d := by
  rintro rfl
  rw [h] at other
  cases other

/-- The form of a text begins with a character that parts if the text does. -/
theorem positionFrom_head {cs : List Char} (h : ∀ c ∈ cs.head?, parts c = true) (style : Paramstyle)
    (count : Nat) : ∀ c ∈ (positionFrom style count 0 cs).head?, parts c = true := by
  cases cs with
  | nil => simp [positionFrom]
  | cons c cs =>
    have parted : parts c = true := h c rfl
    simp [positionFrom, ne_of_parts parted (d := '\\') rfl, ne_of_parts parted (d := '?') rfl,
      Paramstyle.literal_parts parted, parted]

theorem positionFrom_concat {c : Char} (h : parts c = true) (style : Paramstyle) (count slashes : Nat)
    (cs : List Char) : ∃ ds, positionFrom style count slashes (cs ++ [c]) = ds ++ [c] := by
  fun_induction positionFrom style count slashes cs with
  | case1 count slashes =>
    refine ⟨List.replicate slashes '\\', ?_⟩
    simp [positionFrom, ne_of_parts h (d := '\\') rfl, ne_of_parts h (d := '?') rfl,
      Paramstyle.literal_parts h]
  | case2 count slashes cs ih => simpa [positionFrom] using ih
  | case3 count slashes cs odd _ ih =>
    obtain ⟨ds, rest⟩ := ih
    exact ⟨List.replicate (slashes - 1) '\\' ++ '?' :: ds, by simp [positionFrom, odd, rest]⟩
  | case4 count slashes cs even _ ih =>
    obtain ⟨ds, rest⟩ := ih
    exact ⟨List.replicate slashes '\\' ++ style.mark (count + 1) ++ ds, by simp [positionFrom, even, rest]⟩
  | case5 count slashes d cs slash mark ih =>
    obtain ⟨ds, rest⟩ := ih
    exact ⟨List.replicate slashes '\\' ++ style.literal d ++ ds, by simp [positionFrom, slash, mark, rest]⟩

/-- The form of a text ends with a character that parts if the text does. -/
theorem positionFrom_last {cs : List Char} (h : ∀ c ∈ cs.getLast?, parts c = true) (style : Paramstyle)
    (count : Nat) : ∀ c ∈ (positionFrom style count 0 cs).getLast?, parts c = true := by
  rcases List.eq_nil_or_concat cs with rfl | ⟨front, d, rfl⟩
  · simp [positionFrom]
  · rw [List.concat_eq_append] at h ⊢
    have parted : parts d = true := h d (by simp)
    obtain ⟨ds, form⟩ := positionFrom_concat parted style count 0 front
    simp [form, parted]

/-! ## Tokens -/

namespace Token

/-- How many placeholders a token has. -/
def marks : Token → Nat
  | run cs => marksFrom 0 cs
  | _ => 0

/-- How many question marks of a token are no placeholders, outside of names and comments. -/
def escapes : Token → Nat
  | run cs => escapesFrom 0 cs
  | quoted cs => cs.count '?'
  | _ => 0

/-- How many question marks a token has, outside of names and comments. -/
def questions : Token → Nat
  | run cs | quoted cs => cs.count '?'
  | _ => 0

/-- A token in the form for a driver, after some placeholders. Names and comments stay as they are, but for
percent signs that are written twice. -/
def positioned (style : Paramstyle) (count : Nat) : Token → Token
  | run cs => run (positionFrom style count 0 cs)
  | mark c => mark c
  | name cs => name (cs.flatMap style.literal)
  | quoted cs => quoted (cs.flatMap style.literal)
  | comment cs => comment (cs.flatMap style.literal)

/-- Tokens in the form for a driver, after some placeholders. -/
def positionedAll (style : Paramstyle) : Nat → List Token → List Token
  | _, [] => []
  | count, t :: ts => t.positioned style count :: positionedAll style (count + t.marks) ts

theorem positionedAll_append (style : Paramstyle) (count : Nat) (ts us : List Token) :
    positionedAll style count (ts ++ us) =
      positionedAll style count ts ++ positionedAll style (count + (ts.map marks).sum) us := by
  induction ts generalizing count with
  | nil => simp [positionedAll]
  | cons t ts ih => simp [positionedAll, ih, Nat.add_assoc]

theorem positioned_congr {style style' : Paramstyle} (same : style = .format ↔ style' = .format) {t : Token}
    (h : t.marks = 0) (count count' : Nat) : t.positioned style count = t.positioned style' count' := by
  have literal : style.literal = style'.literal := by
    funext c
    simp only [Paramstyle.literal, same]
  cases t with
  | run cs => exact congrArg run (positionFrom_congr same h count count')
  | _ => simp [positioned, literal]

/-- For tokens without placeholders, all that counts is whether percent signs are written twice. -/
theorem positionedAll_congr {style style' : Paramstyle} (same : style = .format ↔ style' = .format)
    {ts : List Token} (h : ∀ t ∈ ts, t.marks = 0) (count count' : Nat) :
    positionedAll style count ts = positionedAll style' count' ts := by
  induction ts generalizing count count' with
  | nil => rfl
  | cons t ts ih =>
    have first := h t (.head _)
    rw [positionedAll, positionedAll, positioned_congr same first count count',
      ih (fun t ht => h t (.tail _ ht)) _ (count' + t.marks)]

/-- Where question marks are the placeholders of a driver, the form for it has one for each placeholder, and
those that were none before. -/
theorem questions_positionedAll (count : Nat) (ts : List Token) :
    ((positionedAll .qmark count ts).map questions).sum = (ts.map marks).sum + (ts.map escapes).sum := by
  have literal (cs : List Char) : cs.flatMap (Paramstyle.literal .qmark) = cs := by
    induction cs with
    | nil => rfl
    | cons c cs ih => rw [List.flatMap_cons, ih]; rfl
  have one (count : Nat) (t : Token) : (t.positioned .qmark count).questions = t.marks + t.escapes := by
    cases t with
    | run cs => exact (count_positionFrom_qmark count 0 cs).trans (count_question 0 cs)
    | quoted cs => simp [positioned, questions, marks, escapes, literal]
    | _ => rfl
  induction ts generalizing count with
  | nil => rfl
  | cons t ts ih =>
    simp only [positionedAll, List.map_cons, List.sum_cons, one, ih]
    omega

end Token

/-! ## Texts and their tokens -/

/-- A text whose form for any driver has the tokens of the text in their form for it. -/
structure Drives (q : Quotes) (cs : List Char) (ts : List Token) : Prop where
  reads : Reads q cs ts
  positioned : ∀ style count, Reads q (positionFrom style count 0 cs) (Token.positionedAll style count ts)
  marks : (ts.map Token.marks).sum = marksFrom 0 cs
  settled : cs.getLast? ≠ some '\\'

namespace Drives

variable {q : Quotes} {cs ds : List Char} {ts us : List Token}

theorem nil : Drives q [] [] where
  reads := .nil
  positioned _ _ := .nil
  marks := rfl
  settled := nofun

/-- Two texts, one after the other, if one parts at the border. -/
theorem append (plain : q.isPlain = true) (h : Drives q cs ts) (h' : Drives q ds us)
    (border : (∀ c ∈ cs.getLast?, parts c = true) ∨ ∀ d ∈ ds.head?, parts d = true) :
    Drives q (cs ++ ds) (ts ++ us) where
  reads := h.reads.append plain h'.reads border
  positioned style count := by
    rw [positionFrom_append style ds ⟨h.settled, fun _ => rfl⟩, Token.positionedAll_append, h.marks]
    refine (h.positioned style count).append plain (h'.positioned style _) ?_
    exact border.imp (fun parted => positionFrom_last parted style count)
      fun parted => positionFrom_head parted style _
  marks := by
    rw [List.map_append, List.sum_append, h.marks, h'.marks, marksFrom_append ds ⟨h.settled, fun _ => rfl⟩]
  settled := by
    rw [List.getLast?_append]
    cases last : ds.getLast? with
    | none => simpa using h.settled
    | some d => simpa [last] using h'.settled

end Drives

/-! ## Statements -/

namespace Client

variable (client : Client Value)

/-- A statement with a text has a form for the driver, which is that of its text and of its values. -/
theorem native_ok {c : Compiled Value} (text : c.object = none) (p : Progress) :
    ∃ p', client.native c p = .ok ⟨client.positionBindings c.sql, client.prepare c.bindings⟩ p' := by
  unfold native
  rw [text]
  cases client.debug with
  | true => exact ⟨_, rfl⟩
  | false => exact ⟨_, rfl⟩

theorem length_prepare (values : List Value) : (client.prepare values).length = values.length := by
  unfold prepare
  split
  · exact List.length_map ..
  · rfl

end Client

end SqlBuilder
