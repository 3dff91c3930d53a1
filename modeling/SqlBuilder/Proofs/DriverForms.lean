import SqlBuilder.Proofs.Positions

/-!
# Statements between their placeholders

The form of a statement for a driver can be decoded: it is what stands between the placeholders of the statement, with
the marks of the driver between each two of these spans. Where percent signs are written twice, a reader of such
formats finds the same spans again.

* `spans`: what stands between the placeholders of a text.
* `spliced`: spans with fillings between them.
* `positionFrom_spliced`: the form for a driver, of any style.
* `printf?`: the spans of a text in which `%s` is a placeholder and `%%` a percent sign.
* `positionBindings_decodes`: the forms for drivers of all styles.
-/

namespace SqlBuilder

/-! ## Spans -/

/-- The number of backslashes at the end of a text. -/
def endSlashes (cs : List Char) : Nat :=
  (cs.reverse.takeWhile (· = '\\')).length

/-- The spans between the placeholders of a text that stands behind another one. A question mark is a placeholder
behind an even number of backslashes. Behind an odd number it belongs to its span, and the last one of the backslashes
is left out. -/
def spansFrom (front : List Char) : List Char → List (List Char)
  | [] => [[]]
  | c :: cs =>
    let rest := spansFrom (front ++ [c]) cs
    if c = '?' ∧ endSlashes front % 2 = 0 then [] :: rest
    else if c = '\\' ∧ cs.head? = some '?' ∧ endSlashes (front ++ [c]) % 2 = 1 then rest
    else rest.modifyHead (c :: ·)

/-- The spans between the placeholders of a text. -/
def spans (cs : List Char) : List (List Char) :=
  spansFrom [] cs

/-- Spans with fillings between them, from the left. Where there is no filling, a question mark stands. -/
def spliced : List (List Char) → List (List Char) → List Char
  | [], _ => []
  | [span], _ => span
  | span :: spans, filling :: fillings => span ++ filling ++ spliced spans fillings
  | span :: spans, [] => span ++ '?' :: spliced spans []

@[simp] theorem endSlashes_nil : endSlashes [] = 0 :=
  rfl

@[simp] theorem endSlashes_slash (front : List Char) : endSlashes (front ++ ['\\']) = endSlashes front + 1 := by
  simp [endSlashes]

theorem endSlashes_other {c : Char} (h : c ≠ '\\') (front : List Char) : endSlashes (front ++ [c]) = 0 := by
  simp [endSlashes, h]

section Spans

variable {front cs : List Char}

theorem spansFrom_mark (even : endSlashes front % 2 = 0) :
    spansFrom front ('?' :: cs) = [] :: spansFrom (front ++ ['?']) cs := by
  simp [spansFrom, even]

theorem spansFrom_escaped (odd : endSlashes front % 2 = 1) :
    spansFrom front ('?' :: cs) = (spansFrom (front ++ ['?']) cs).modifyHead ('?' :: ·) := by
  simp [spansFrom, odd]

theorem spansFrom_escape (mark : cs.head? = some '?') (odd : (endSlashes front + 1) % 2 = 1) :
    spansFrom front ('\\' :: cs) = spansFrom (front ++ ['\\']) cs := by
  simp [spansFrom, mark, odd]

theorem spansFrom_slash (plain : ¬ (cs.head? = some '?' ∧ (endSlashes front + 1) % 2 = 1)) :
    spansFrom front ('\\' :: cs) = (spansFrom (front ++ ['\\']) cs).modifyHead ('\\' :: ·) := by
  simp [spansFrom, plain]

theorem spansFrom_other {c : Char} (slash : c ≠ '\\') (mark : c ≠ '?') :
    spansFrom front (c :: cs) = (spansFrom (front ++ [c]) cs).modifyHead (c :: ·) := by
  simp [spansFrom, slash, mark]

/-- There is a span before the first placeholder and one behind each. -/
theorem length_spansFrom (front cs : List Char) :
    (spansFrom front cs).length = marksFrom (endSlashes front) cs + 1 := by
  induction cs generalizing front with
  | nil => rfl
  | cons c cs ih =>
    have rest := ih (front ++ [c])
    by_cases slash : c = '\\'
    · subst slash
      rw [endSlashes_slash] at rest
      rw [marksFrom, if_pos rfl, ← rest]
      by_cases escape : cs.head? = some '?' ∧ (endSlashes front + 1) % 2 = 1
      · rw [spansFrom_escape escape.1 escape.2]
      · rw [spansFrom_slash escape, List.length_modifyHead]
    · rw [endSlashes_other slash] at rest
      by_cases mark : c = '?'
      · subst mark
        rcases Nat.mod_two_eq_zero_or_one (endSlashes front) with even | odd
        · simp [spansFrom_mark even, marksFrom, even, rest]
        · simp [spansFrom_escaped odd, marksFrom, odd, rest]
      · simp [spansFrom_other slash mark, marksFrom, slash, mark, rest]

theorem spansFrom_ne_nil (front cs : List Char) : spansFrom front cs ≠ [] :=
  List.ne_nil_of_length_eq_add_one (length_spansFrom front cs)

end Spans

section Spliced

variable {spans : List (List Char)} (filled : spans ≠ [])
include filled

/-- A text at the beginning of the first span. -/
theorem spliced_modifyHead (cs : List Char) (fillings : List (List Char)) :
    spliced (spans.modifyHead fun span => cs ++ span) fillings = cs ++ spliced spans fillings := by
  obtain ⟨span, spans, rfl⟩ := List.exists_cons_of_ne_nil filled
  cases spans with
  | nil => simp [spliced]
  | cons next spans => cases fillings <;> simp [spliced]

theorem spliced_cons (span filling : List Char) (fillings : List (List Char)) :
    spliced (span :: spans) (filling :: fillings) = span ++ filling ++ spliced spans fillings := by
  obtain ⟨next, spans, rfl⟩ := List.exists_cons_of_ne_nil filled
  rfl

end Spliced

/-! ## Forms for drivers -/

namespace Paramstyle

/-- The marks of some placeholders behind a number of others. -/
def marks (style : Paramstyle) (count n : Nat) : List (List Char) :=
  (List.range' (count + 1) n).map style.mark

theorem marks_succ (style : Paramstyle) (count n : Nat) :
    style.marks count (n + 1) = style.mark (count + 1) :: style.marks (count + 1) n :=
  rfl

/-- Spans as the driver has to read them. -/
def literals (style : Paramstyle) (spans : List (List Char)) : List (List Char) :=
  spans.map fun span => span.flatMap style.literal

theorem literals_cons (style : Paramstyle) (span : List Char) (spans : List (List Char)) :
    style.literals (span :: spans) = span.flatMap style.literal :: style.literals spans :=
  rfl

theorem literals_modifyHead (style : Paramstyle) (c : Char) (spans : List (List Char)) :
    style.literals (spans.modifyHead (c :: ·)) =
      (style.literals spans).modifyHead fun span => style.literal c ++ span := by
  cases spans <;> simp [literals]

theorem literal_of_ne {style : Paramstyle} {c : Char} (h : c ≠ '%') : style.literal c = [c] := by
  simp [literal, h]

end Paramstyle

/-- Of the backslashes before a text, those that stay in the form: all of them, but the last one of an odd number
before a question mark. -/
def keptSlashes (slashes : Nat) (cs : List Char) : Nat :=
  if cs.head? = some '?' then slashes - slashes % 2 else slashes

/-- The form for a driver is the spans with the marks between them. -/
theorem positionFrom_spliced (style : Paramstyle) (count : Nat) (front cs : List Char) :
    positionFrom style count (endSlashes front) cs =
      List.replicate (keptSlashes (endSlashes front) cs) '\\' ++
        spliced (style.literals (spansFrom front cs)) (style.marks count (marksFrom (endSlashes front) cs)) := by
  -- The form holds backslashes back until it is known what stands behind them; a span has each of them where it is
  -- read, if it stays. So the backslashes that are held back are before the first span.
  induction cs generalizing count front with
  | nil => simp [positionFrom, keptSlashes, spansFrom, Paramstyle.literals, spliced]
  | cons c cs ih =>
    have rest (count : Nat) := ih count (front ++ [c])
    have filled : style.literals (spansFrom (front ++ [c]) cs) ≠ [] := by
      simpa [Paramstyle.literals] using spansFrom_ne_nil (front ++ [c]) cs
    by_cases slash : c = '\\'
    · subst slash
      rw [endSlashes_slash] at rest
      have kept : keptSlashes (endSlashes front) ('\\' :: cs) = endSlashes front := rfl
      rw [positionFrom, if_pos rfl, rest, marksFrom, if_pos rfl, kept]
      by_cases escape : cs.head? = some '?' ∧ (endSlashes front + 1) % 2 = 1
      · have dropped : keptSlashes (endSlashes front + 1) cs = endSlashes front := by
          rw [keptSlashes, if_pos escape.1, escape.2, Nat.add_sub_cancel]
        rw [spansFrom_escape escape.1 escape.2, dropped]
      · have all : keptSlashes (endSlashes front + 1) cs = endSlashes front + 1 := by
          unfold keptSlashes
          split
          next mark =>
            have even : (endSlashes front + 1) % 2 = 0 := by grind
            rw [even, Nat.sub_zero]
          · rfl
        rw [spansFrom_slash escape, Paramstyle.literals_modifyHead, spliced_modifyHead filled, all,
          Paramstyle.literal_of_ne (by decide), List.replicate_succ', List.append_assoc]
    · rw [endSlashes_other slash] at rest
      have none_ : keptSlashes 0 cs = 0 := by simp [keptSlashes]
      by_cases mark : c = '?'
      · subst mark
        have kept : keptSlashes (endSlashes front) ('?' :: cs) = endSlashes front - endSlashes front % 2 := rfl
        rw [positionFrom, if_neg slash, if_pos rfl, marksFrom, if_neg slash, if_pos rfl, kept, rest, rest, none_]
        rcases Nat.mod_two_eq_zero_or_one (endSlashes front) with even | odd
        · rw [if_neg (by simp [even]), if_neg (by simp [even]), spansFrom_mark even, even, Paramstyle.marks_succ,
            Paramstyle.literals_cons, spliced_cons filled]
          simp
        · rw [if_pos odd, if_pos odd, spansFrom_escaped odd, odd, Paramstyle.literals_modifyHead,
            spliced_modifyHead filled, Paramstyle.literal_of_ne (by decide)]
          simp
      · have kept : keptSlashes (endSlashes front) (c :: cs) = endSlashes front := by simp [keptSlashes, mark]
        rw [positionFrom, if_neg slash, if_neg mark, marksFrom, if_neg slash, if_neg mark, kept, rest, none_,
          spansFrom_other slash mark, Paramstyle.literals_modifyHead, spliced_modifyHead filled]
        simp

/-- The form of a statement for a driver is its spans with the marks of the driver between them. -/
theorem positionBindings_spliced (style : Paramstyle) (sql : String) :
    (positionBindings style sql).toList =
      spliced (style.literals (spans sql.toList)) (style.marks 0 (marksFrom 0 sql.toList)) := by
  rw [positionBindings, String.toList_ofList]
  simpa [keptSlashes, spans] using positionFrom_spliced style 0 [] sql.toList

/-! ## Decoding -/

/-- The spans of a format in which `%s` is a placeholder and `%%` a percent sign. No other percent sign may stand in
it. -/
def printf? : List Char → Option (List (List Char))
  | [] => some [[]]
  | '%' :: '%' :: cs => (printf? cs).map fun spans => spans.modifyHead ('%' :: ·)
  | '%' :: 's' :: cs => (printf? cs).map fun spans => [] :: spans
  | '%' :: _ => none
  | c :: cs => (printf? cs).map fun spans => spans.modifyHead (c :: ·)

/-- A character that the driver has to read as itself is read so. -/
theorem printf?_literal (c : Char) (cs : List Char) :
    printf? (Paramstyle.literal .format c ++ cs) = (printf? cs).map fun spans => spans.modifyHead (c :: ·) := by
  by_cases percent : c = '%'
  · subst percent
    rfl
  · rw [Paramstyle.literal_of_ne percent, List.singleton_append, printf?]
    all_goals simp [percent]

theorem printf?_span (span cs : List Char) :
    printf? (span.flatMap (Paramstyle.literal .format) ++ cs) =
      (printf? cs).map fun spans => spans.modifyHead (span ++ ·) := by
  induction span with
  | nil =>
    have same : (fun spans : List (List Char) => spans.modifyHead ([] ++ ·)) = id := by
      funext spans
      cases spans <;> rfl
    rw [same, Option.map_id]
    rfl
  | cons c span ih =>
    rw [List.flatMap_cons, List.append_assoc, printf?_literal, ih, Option.map_map]
    refine congrArg (Option.map · (printf? cs)) ?_
    funext spans
    exact List.modifyHead_modifyHead ..

/-- The spans are found again between the marks. -/
theorem printf?_spliced {spans : List (List Char)} {n : Nat} (counted : spans.length = n + 1) (count : Nat) :
    printf? (spliced (Paramstyle.literals .format spans) (Paramstyle.marks .format count n)) = some spans := by
  induction n generalizing spans count with
  | zero =>
    obtain ⟨span, rfl⟩ := List.length_eq_one_iff.mp counted
    have read := printf?_span span []
    simpa [printf?, Paramstyle.literals, spliced] using read
  | succ n ih =>
    obtain ⟨span, spans, rfl⟩ := List.exists_cons_of_length_eq_add_one counted
    have others : spans.length = n + 1 := Nat.succ.inj counted
    have filled : Paramstyle.literals .format spans ≠ [] := by
      simpa [Paramstyle.literals] using List.ne_nil_of_length_eq_add_one others
    rw [Paramstyle.marks_succ, Paramstyle.literals_cons, spliced_cons filled, List.append_assoc, printf?_span]
    simp [Paramstyle.mark, printf?, ih others]

/-- The spans of a style that reads every character as itself stay as they are. -/
theorem Paramstyle.literals_of_plain {style : Paramstyle} (plain : style ≠ .format) (spans : List (List Char)) :
    style.literals spans = spans := by
  have single : style.literal = fun c => [c] := by
    funext c
    simp [literal, plain]
  simp [literals, single, List.flatMap_singleton']

/-- The form of a statement for a driver can be decoded. It is the spans between the placeholders of the statement,
with the marks of the driver between them, which are numbered from the left; and where percent signs are written twice,
reading it as a format gives the same spans. -/
theorem positionBindings_decodes (sql : String) :
    let n := marksFrom 0 sql.toList
    let numbered (mark : Nat → String) := (List.range' 1 n).map fun k => (mark k).toList
    (spans sql.toList).length = n + 1 ∧
    (positionBindings .qmark sql).toList = spliced (spans sql.toList) (numbered fun _ => "?") ∧
    (positionBindings .numeric sql).toList = spliced (spans sql.toList) (numbered fun k => ":" ++ toString k) ∧
    (positionBindings .dollar sql).toList = spliced (spans sql.toList) (numbered fun k => "$" ++ toString k) ∧
    (positionBindings .atp sql).toList = spliced (spans sql.toList) (numbered fun k => "@p" ++ toString k) ∧
    printf? (positionBindings .format sql).toList = some (spans sql.toList) := by
  intro n numbered
  have counted : (spans sql.toList).length = n + 1 := length_spansFrom [] sql.toList
  have form {style : Paramstyle} {mark : Nat → String} (plain : style ≠ .format)
      (same : ∀ k, style.mark k = (mark k).toList) :
      (positionBindings style sql).toList = spliced (spans sql.toList) (numbered mark) := by
    rw [positionBindings_spliced, Paramstyle.literals_of_plain plain, Paramstyle.marks, funext same]
  refine ⟨counted, form nofun ?_, form nofun ?_, form nofun ?_, form nofun ?_, ?_⟩
  · exact fun k => rfl
  · exact fun k => by simp [Paramstyle.mark]
  · exact fun k => by simp [Paramstyle.mark]
  · exact fun k => by simp [Paramstyle.mark]
  · rw [positionBindings_spliced, printf?_spliced counted]

end SqlBuilder
