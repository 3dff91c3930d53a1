import SqlBuilder.Proofs.NameRecursion

/-!
# Aliases behind names

A name, the keyword of an alias in any letter case and the alias behind it are rendered as the name by itself, with
the alias by itself as its alias; and an aggregate of such a text is the aggregate of the name under that alias. The
text is split at the place that the keyword has in its lower-case form. That is its place in the text if the name has
no dotted capital in it, and else too far behind: the name takes in what stands before the cut, and the alias lacks it.

* `Text.aliasPlace?_withAlias`: the keyword is found behind the name.
* `Scope.wrapFrom_of_enough`: the depth that a rendering may go does not matter, if the recursion ends.
* `Scope.wrapString_withAlias`: where a name with an alias is split.
* `Scope.wrap_aliased`: a name with an alias, and an aggregate of it.
-/

namespace SqlBuilder

namespace Text

variable {name word asName : String}

/-- A word is the keyword of an alias, in any letter case. -/
def IsAliasWord (word : String) : Prop :=
  word.toList.map Char.toLower = ['a', 's']

instance : Decidable (IsAliasWord word) :=
  inferInstanceAs (Decidable (word.toList.map Char.toLower = ['a', 's']))

/-- A name, the keyword of an alias and the alias, with a blank before and after the keyword. -/
def withAlias (name word asName : String) : String :=
  name ++ " " ++ word ++ " " ++ asName

theorem IsAliasWord.width (h : IsAliasWord word) : word.toList.length = 2 := by
  have letters := congrArg List.length h
  simpa using letters

theorem toList_withAlias : (withAlias name word asName).toList =
    name.toList ++ (' ' :: word.toList ++ [' '] ++ asName.toList) := by
  simp [withAlias]

theorem take_withAlias (n : Nat) : (withAlias name word asName).toList.take (name.toList.length + n) =
    name.toList ++ (' ' :: word.toList ++ [' '] ++ asName.toList).take n := by
  rw [toList_withAlias, List.take_length_add_append]

theorem take_name_withAlias : (withAlias name word asName).toList.take name.toList.length = name.toList := by
  simpa using take_withAlias 0

/-- A text without a pattern still lacks it with a character behind it that does not end the pattern. -/
theorem not_infix_concat {pattern cs : List Char} {c : Char} (missing : ¬ pattern <:+: cs)
    (other : pattern.getLast? ≠ some c) : ¬ pattern <:+: cs ++ [c] := by
  intro found
  rcases List.infix_concat_iff.mp found with ends | within
  · rcases List.suffix_concat_iff.mp ends with rfl | ⟨front, rfl, -⟩
    · exact missing List.nil_infix
    · exact other (by simp)
  · exact missing within

/-- The first keyword behind a name stands where the name ends. -/
theorem aliasPlace?_withAlias (unaliased : aliasPlace? (name ++ " ").toList = none) (keyword : IsAliasWord word) :
    aliasPlace? (withAlias name word asName).toList = some name.toList.length := by
  have letters : word.toList.map Char.toLower = ['a', 's'] := keyword
  have width := keyword.width
  -- not earlier, where its last blank would be a letter of the one that stands behind the name
  have before : aliasPlace? ((withAlias name word asName).toList.take (name.toList.length + 3)) = none := by
    have lowered : (name.toList ++ (' ' :: word.toList ++ [' '] ++ asName.toList).take 3).map Char.toLower =
        (name ++ " ").toList.map Char.toLower ++ ['a'] ++ ['s'] := by
      simp [letters, width]
    rw [take_withAlias, aliasPlace?, findInfix_eq_none, lowered]
    exact not_infix_concat (not_infix_concat (findInfix_eq_none.mp unaliased) (by decide)) (by decide)
  have there : (aliasPlace? ((withAlias name word asName).toList.take (name.toList.length + 4))).isSome = true := by
    have lowered : (name.toList ++ (' ' :: word.toList ++ [' '] ++ asName.toList).take 4).map Char.toLower =
        name.toList.map Char.toLower ++ Scope.aliasMark := by
      simp [letters, width, List.take_append, Scope.aliasMark]
    rw [take_withAlias, aliasPlace?, findInfix_isSome, lowered]
    exact (List.suffix_append _ _).isInfix
  rw [aliasPlace?_take] at before there
  obtain ⟨place, kept⟩ := Option.isSome_iff_exists.mp there
  obtain ⟨found, near⟩ := Option.filter_eq_some_iff.mp kept
  have far := Option.filter_eq_none_iff.mp before place found
  simp only [decide_eq_true_eq] at near far
  rw [found]
  congr 1
  omega

/-- A name with an alias is cut as many characters behind the name as dotted capitals stand in it. -/
theorem findInfix_withAlias (unaliased : aliasPlace? (name ++ " ").toList = none) (keyword : IsAliasWord word) :
    findInfix Scope.aliasMark (lowerChars (withAlias name word asName).toList) =
      some (name.toList.length + name.toList.count dottedCapital) := by
  have place : aliasPlace? (withAlias name word asName).toList = some name.toList.length :=
    aliasPlace?_withAlias unaliased keyword
  rw [findInfix_lowerChars, overshoot, place]
  simp only [take_name_withAlias]
  rfl

end Text

namespace Scope

open Text

variable {s : Scope} {name word asName : String}

/-- The depth that the rendering of a name may go does not matter, if the name is rendered from shorter ones. -/
theorem wrapFrom_of_enough {cs : List Char} (short : overshoot cs < 4) {fuel fuel' : Nat} (enough : cs.length < fuel)
    (enough' : cs.length < fuel') : s.wrapFrom fuel cs = s.wrapFrom fuel' cs := by
  induction fuel generalizing cs fuel' with
  | zero => omega
  | succ fuel ih =>
    obtain ⟨fuel', rfl⟩ : ∃ n, fuel' = n + 1 := ⟨fuel' - 1, by omega⟩
    cases ends : headPart? cs with
    | none => rw [wrapFrom_of_none ends, wrapFrom_of_none ends]
    | some part =>
      obtain ⟨shorter, unaliased⟩ := shorter_of_overshoot short ends
      rw [wrapFrom_recursOn ends, wrapFrom_recursOn ends,
        ih (by simp [overshoot_of_none unaliased]) (by omega) (by omega : part.length < fuel')]

/-- What a name with an alias is rendered from: the name, with what stands between it and the cut. -/
def keptName (name word : String) : String :=
  name ++ String.ofList ((' ' :: word.toList ++ [' ']).take (name.toList.count dottedCapital))

theorem keptName_of_notMem (exact_ : dottedCapital ∉ name.toList) : keptName name word = name := by
  simp [keptName, List.count_eq_zero_of_not_mem exact_]

theorem toList_keptName (keyword : IsAliasWord word) (short : name.toList.count dottedCapital < 4)
    (asName : String) : (keptName name word).toList =
      (withAlias name word asName).toList.take (name.toList.length + name.toList.count dottedCapital) := by
  have width := keyword.width
  rw [take_withAlias, List.take_append_of_le_length (by simp [width]; omega), keptName]
  simp

/-- Fewer than four characters of the keyword are none. -/
theorem aliasPlace?_keptName (unaliased : aliasPlace? (name ++ " ").toList = none) (keyword : IsAliasWord word)
    (short : name.toList.count dottedCapital < 4) : aliasPlace? (keptName name word).toList = none := by
  rw [toList_keptName keyword short "", aliasPlace?_take, aliasPlace?_withAlias unaliased keyword,
    Option.filter_some, if_neg]
  simpa using short

/-- A name with an alias is split into what it is rendered from and the rest of the alias. -/
theorem wrapString_withAlias (unaliased : aliasPlace? (name ++ " ").toList = none) (keyword : IsAliasWord word)
    (short : name.toList.count dottedCapital < 4) :
    s.wrapString (withAlias name word asName) = do
      let expression ← s.wrapString (keptName name word)
      return s.aliased expression (← s.segment (asName.toList.drop (name.toList.count dottedCapital))) := by
  have width := keyword.width
  have front := toList_keptName keyword short asName
  have back : (withAlias name word asName).toList.drop (name.toList.length + name.toList.count dottedCapital + 4) =
      asName.toList.drop (name.toList.count dottedCapital) := by
    have skip : name.toList.count dottedCapital + 4 =
        (' ' :: word.toList ++ [' ']).length + name.toList.count dottedCapital := by
      simp [width]
      omega
    rw [toList_withAlias, Nat.add_assoc, skip, List.drop_length_add_append, List.drop_length_add_append]
  have shorter : (keptName name word).toList.length < (withAlias name word asName).toList.length := by
    rw [front, toList_withAlias]
    simp [width]
    omega
  have ends : overshoot (keptName name word).toList < 4 := by
    simp [overshoot_of_none (aliasPlace?_keptName unaliased keyword short)]
  rw [wrapString, wrapFrom, findInfix_withAlias unaliased keyword]
  simp only [← front, back]
  rw [wrapFrom_of_enough ends shorter (Nat.lt_succ_self _)]
  rfl

/-! ## Names and aggregates -/

theorem wrap_str (name : String) : s.wrap (.str name) = s.wrapString name := by
  have text : s.wrapOperand (.str name) = do return .sql (← s.wrapString name) := by simp [wrapOperand, Scalar.text]
  rw [wrap, text]
  simp [spell]

theorem splitAlias?_withAlias (unaliased : aliasPlace? (name ++ " ").toList = none) (keyword : IsAliasWord word)
    (exact_ : dottedCapital ∉ name.toList) : splitAlias? (withAlias name word asName) = some (name, asName) := by
  have back : (withAlias name word asName).toList.drop (name.toList.length + 4) = asName.toList := by
    have skip : 4 = (' ' :: word.toList ++ [' ']).length := by simp [keyword.width]
    rw [toList_withAlias, skip, List.drop_length_add_append, List.drop_left]
  rw [splitAlias?, findInfix_withAlias unaliased keyword, List.count_eq_zero_of_not_mem exact_]
  simp [take_name_withAlias, back]

theorem aggregate_withAlias (unaliased : aliasPlace? (name ++ " ").toList = none) (keyword : IsAliasWord word)
    (exact_ : dottedCapital ∉ name.toList) (filled : asName ≠ "") (function : String) (distinct : Bool) :
    s.aggregate function (.str (withAlias name word asName)) distinct .null = do
      let target ← s.wrap (.str name)
      let call := Sql.word (function ++ if distinct then "(distinct " else "(") ++ target ++ Sql.word ")"
      return s.aliased call (← s.segment asName.toList) := by
  have named : (Value.str asName).isTruthy = true := by simp [Value.isTruthy, Scalar.isTruthy, filled]
  have under : s.aliasName (.str asName) = s.segment asName.toList := by simp [aliasName, segmentOf, spell]
  unfold aggregate aggregateOperand
  simp only [splitAlias?_withAlias unaliased keyword exact_]
  have single : (Value.str name).sequence? = none := rfl
  simp only [single, aliasedIf, if_pos named, under]

/-- A name with an alias behind the keyword is rendered as the name under the alias, and an aggregate of it as the
aggregate of the name under the alias, if no dotted capital stands in the name. Up to three of these cut it as many
characters too late. -/
theorem wrap_aliased (quotes : s.Quotes) (unaliased : aliasPlace? (name ++ " ").toList = none)
    (keyword : IsAliasWord word) (filled : asName ≠ "") :
    (dottedCapital ∉ name.toList → ∃ sql, (s.wrap (.str name)).Gives sql [] ∧
      (s.wrap (.str (withAlias name word asName))).Gives
        (s.aliased sql [.name s.capabilities.quoting (strip asName)]) [] ∧
      ∀ (function : String) (distinct : Bool),
        (s.aggregate function (.str (withAlias name word asName)) distinct .null).Gives
          (s.aliased (Sql.word (function ++ if distinct then "(distinct " else "(") ++ sql ++ Sql.word ")")
            [.name s.capabilities.quoting (strip asName)]) []) ∧
    (name.toList.count dottedCapital < 4 → ∃ sql, (s.wrap (.str (keptName name word))).Gives sql [] ∧
      (s.wrap (.str (withAlias name word asName))).Gives (s.aliased sql [.name s.capabilities.quoting
        (String.ofList (stripChars (asName.toList.drop (name.toList.count dottedCapital))))]) []) := by
  -- by the place of the cut, which is the end of the name where nothing is lost
  have cut (short : name.toList.count dottedCapital < 4) : ∃ sql, (s.wrap (.str (keptName name word))).Gives sql [] ∧
      (s.wrap (.str (withAlias name word asName))).Gives (s.aliased sql [.name s.capabilities.quoting
        (String.ofList (stripChars (asName.toList.drop (name.toList.count dottedCapital))))]) [] := by
    have ends : overshoot (keptName name word).toList < 4 := by
      simp [overshoot_of_none (aliasPlace?_keptName unaliased keyword short)]
    obtain ⟨sql, head⟩ := wrapFrom_gives quotes.writesSegments ends (Nat.lt_succ_self _)
    refine ⟨sql, by rwa [wrap_str], ?_⟩
    rw [wrap_str, wrapString_withAlias unaliased keyword short]
    exact head.bind_silent (quotes.segment_gives _).map
  refine ⟨fun exact_ => ?_, cut⟩
  have none_ : name.toList.count dottedCapital = 0 := List.count_eq_zero_of_not_mem exact_
  obtain ⟨sql, head, whole⟩ := cut (by omega)
  rw [keptName_of_notMem exact_] at head
  rw [none_, List.drop_zero] at whole
  refine ⟨sql, head, whole, fun function distinct => ?_⟩
  rw [aggregate_withAlias unaliased keyword exact_ filled]
  exact head.bind_silent (quotes.segment_gives asName.toList).map

/-- A dotted name that ends in the word of the keyword, and an alias with blanks around it and a dotted capital. -/
theorem wrap_aliased_dotted :
    let client : Client Value := { dialect := .oracle }
    let env : Environment := { client }
    let s := env.scope client
    let text := withAlias "straße.as" "aS" " İd "
    s.Quotes ∧ aliasPlace? ("straße.as" ++ " ").toList = none ∧ IsAliasWord "aS" ∧ " İd " ≠ "" ∧
      dottedCapital ∉ "straße.as".toList ∧ ∃ sql, (s.wrap (.str "straße.as")).Gives sql [] ∧
        (s.wrap (.str text)).Gives (s.aliased sql [.name s.capabilities.quoting (strip " İd ")]) [] ∧
        ∀ (function : String) (distinct : Bool), (s.aggregate function (.str text) distinct .null).Gives
          (s.aliased (Sql.word (function ++ if distinct then "(distinct " else "(") ++ sql ++ Sql.word ")")
            [.name s.capabilities.quoting (strip " İd ")]) [] := by
  intro client env s text
  have quotes : s.Quotes := quotes_of_builtin (by simp [s, client, Environment.scope, Dialect.builtin]) rfl
  have unaliased : aliasPlace? ("straße.as" ++ " ").toList = none := by decide
  have exact_ : dottedCapital ∉ "straße.as".toList := by decide
  have keyword : IsAliasWord "aS" := by decide
  exact ⟨quotes, unaliased, keyword, by decide, exact_, (wrap_aliased quotes unaliased keyword (by decide)).1 exact_⟩

/-- A dotted capital before the keyword: the alias loses its first character, in a name and in an aggregate. -/
theorem wrap_aliased_shifted :
    let client : Client Value := { dialect := .postgres }
    let env : Environment := { client }
    let s := env.scope client
    let text (sql : Compile Sql) : Option String := sql.outcome.1.toOption.map Sql.text
    aliasPlace? ("İ" ++ " ").toList = none ∧ IsAliasWord "as" ∧
      text (do return s.aliased (← s.wrap (.str "İ")) [.name s.capabilities.quoting (strip "xy")]) =
        some "\"İ\" as \"xy\"" ∧
      text (s.wrap (.str "İ as xy")) = some "\"İ\" as \"y\"" ∧
      text (s.aggregate "count" (.str "İ as xy") false .null) = some "count(\"İ\") as \"y\"" := by
  decide +kernel

end Scope

end SqlBuilder
