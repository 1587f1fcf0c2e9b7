import GflagsCompletions.Core.FlagInfo

namespace Gflags
namespace Completion

/-!
# Reading search hints from the cursor word

`CanonicalizeCursorWordAndSearchOptions` drops one leading quote and every
leading dash, then walks backwards over the word, consuming up to three `?`
and up to one `+`.  Each `?` widens the search by one field (name, path,
help text); the `+` lifts the line limit.

The backward walk is greedy: it takes a `?` whenever it may, and a `+`
otherwise.  The family of admissible modifier suffixes is closed under
taking suffixes, so the greedy walk stops exactly at the longest admissible
suffix.  That is the content of `canonicalizeCursorWordAndSearchOptions_spec`.
A walk that starts with one modifier already counted takes the same steps
while it stays below the caps, so one more `?` or `+` typed at the end keeps
the token and only moves the switches.
-/

/-- `RemoveTrailingChar`: whether `c` was removed from the end, and the
string afterwards. -/
def removeTrailingChar (str : List Char) (c : Char) : Bool × List Char :=
  if str.getLast? = some c then (true, str.dropLast) else (false, str)

/-- The `while (true)` loop of `CanonicalizeCursorWordAndSearchOptions`,
returning the remaining token and the two counters. -/
def consumeSearchOptions (token : List Char) (foundQuestionMarks foundPlusses : Nat) :
    List Char × Nat × Nat :=
  if foundQuestionMarks < 3 ∧ (removeTrailingChar token '?').1 then
    consumeSearchOptions (removeTrailingChar token '?').2 (foundQuestionMarks + 1) foundPlusses
  else if foundPlusses < 1 ∧ (removeTrailingChar token '+').1 then
    consumeSearchOptions (removeTrailingChar token '+').2 foundQuestionMarks (foundPlusses + 1)
  else (token, foundQuestionMarks, foundPlusses)
termination_by (3 - foundQuestionMarks) + (1 - foundPlusses)

/-- `while ((*canonical_search_token)[0] == '-')`: the empty string's
terminating NUL is not a dash, so the loop stops there. -/
def stripLeadingDashes : List Char → List Char
  | '-' :: rest => stripLeadingDashes rest
  | token => token

/-- `CanonicalizeCursorWordAndSearchOptions`.  An empty word leaves the
caller's options untouched. -/
def canonicalizeCursorWordAndSearchOptions (cursorWord : List Char)
    (options : CompletionOptions) : List Char × CompletionOptions :=
  if cursorWord = [] then (cursorWord, options)
  else
    let token := if cursorWord.head? = some '"' then cursorWord.drop 1 else cursorWord
    let (token, foundQuestionMarks, foundPlusses) :=
      consumeSearchOptions (stripLeadingDashes token) 0 0
    (token,
      { flagNameSubstringSearch := decide (0 < foundQuestionMarks)
        flagLocationSubstringSearch := decide (1 < foundQuestionMarks)
        flagDescriptionSubstringSearch := decide (2 < foundQuestionMarks)
        returnAllMatchingFlags := decide (0 < foundPlusses)
        forceNoUpdate := false })

/-! ## The walk from the end -/

/-- The three steps of the walk: take a `?`, take a `+`, or stop. -/
theorem consumeSearchOptions_of_question {token : List Char} {foundQuestionMarks foundPlusses : Nat}
    (question : foundQuestionMarks < 3 ∧ (removeTrailingChar token '?').1) :
    consumeSearchOptions token foundQuestionMarks foundPlusses =
      consumeSearchOptions (removeTrailingChar token '?').2 (foundQuestionMarks + 1) foundPlusses := by
  rw [consumeSearchOptions, if_pos question]

theorem consumeSearchOptions_of_plus {token : List Char} {foundQuestionMarks foundPlusses : Nat}
    (noQuestion : ¬ (foundQuestionMarks < 3 ∧ (removeTrailingChar token '?').1))
    (plus : foundPlusses < 1 ∧ (removeTrailingChar token '+').1) :
    consumeSearchOptions token foundQuestionMarks foundPlusses =
      consumeSearchOptions (removeTrailingChar token '+').2 foundQuestionMarks (foundPlusses + 1) := by
  rw [consumeSearchOptions, if_neg noQuestion, if_pos plus]

theorem consumeSearchOptions_of_stop {token : List Char} {foundQuestionMarks foundPlusses : Nat}
    (noQuestion : ¬ (foundQuestionMarks < 3 ∧ (removeTrailingChar token '?').1))
    (noPlus : ¬ (foundPlusses < 1 ∧ (removeTrailingChar token '+').1)) :
    consumeSearchOptions token foundQuestionMarks foundPlusses =
      (token, foundQuestionMarks, foundPlusses) := by
  rw [consumeSearchOptions, if_neg noQuestion, if_neg noPlus]

theorem removeTrailingChar_eq_true {str : List Char} {c : Char}
    (removed : (removeTrailingChar str c).1 = true) :
    str = (removeTrailingChar str c).2 ++ [c] := by
  by_cases last : str.getLast? = some c
  · simpa only [removeTrailingChar, if_pos last] using (List.dropLast_append_getLast? c last).symm
  · simp only [removeTrailingChar, if_neg last, Bool.false_eq_true] at removed

theorem removeTrailingChar_eq_false {str : List Char} {c : Char}
    (kept : (removeTrailingChar str c).1 = false) : str.getLast? ≠ some c := by
  unfold removeTrailingChar at kept
  split at kept
  · cases kept
  · assumption

theorem stripLeadingDashes_eq_dropWhile (token : List Char) :
    stripLeadingDashes token = token.dropWhile (· == '-') := by
  induction token with
  | nil => rfl
  | cons c rest ih =>
    by_cases dash : c = '-'
    · subst c
      simp [stripLeadingDashes, ih]
    · simp [stripLeadingDashes, dash, List.dropWhile_cons]

/-- At most three `?` and one `+`, and nothing else: what the walk may consume. -/
def IsSearchModifierSuffix (suffix : List Char) : Prop :=
  (∀ ch ∈ suffix, ch = '?' ∨ ch = '+') ∧ suffix.count '?' ≤ 3 ∧ suffix.count '+' ≤ 1

instance : DecidablePred IsSearchModifierSuffix :=
  fun _ => inferInstanceAs (Decidable (_ ∧ _))

theorem IsSearchModifierSuffix.of_suffix {suffix longer : List Char}
    (valid : IsSearchModifierSuffix longer) (within : suffix <:+ longer) :
    IsSearchModifierSuffix suffix :=
  ⟨fun ch member => valid.1 ch (within.subset member),
    (within.sublist.count_le _).trans valid.2.1, (within.sublist.count_le _).trans valid.2.2⟩

/-- What the loop leaves: the consumed suffix, the counters as its counts,
and a last character the loop may not consume. -/
theorem consumeSearchOptions_spec (token : List Char) (foundQuestionMarks foundPlusses : Nat)
    (questionCap : foundQuestionMarks ≤ 3) (plusCap : foundPlusses ≤ 1) :
    let result := consumeSearchOptions token foundQuestionMarks foundPlusses
    ∃ suffix, token = result.1 ++ suffix ∧ (∀ ch ∈ suffix, ch = '?' ∨ ch = '+') ∧
      result.2.1 = foundQuestionMarks + suffix.count '?' ∧
      result.2.2 = foundPlusses + suffix.count '+' ∧ result.2.1 ≤ 3 ∧ result.2.2 ≤ 1 ∧
      ¬ (result.2.1 < 3 ∧ result.1.getLast? = some '?') ∧
      ¬ (result.2.2 < 1 ∧ result.1.getLast? = some '+') := by
  induction token, foundQuestionMarks, foundPlusses
    using consumeSearchOptions.induct with
  | case1 token questions plusses question ih =>
    rw [consumeSearchOptions, if_pos question]
    obtain ⟨suffix, split, only, questionCount, plusCount, rest⟩ :=
      ih (by omega) plusCap
    refine ⟨suffix ++ ['?'], ?_, ?_, ?_, ?_, rest⟩
    · rw [← List.append_assoc, ← split]
      exact removeTrailingChar_eq_true question.2
    · simpa [or_imp, forall_and] using only
    · simp [questionCount]
      omega
    · simpa using plusCount
  | case2 token questions plusses noQuestion plus ih =>
    rw [consumeSearchOptions, if_neg noQuestion, if_pos plus]
    obtain ⟨suffix, split, only, questionCount, plusCount, rest⟩ :=
      ih questionCap (by omega)
    refine ⟨suffix ++ ['+'], ?_, ?_, ?_, ?_, rest⟩
    · rw [← List.append_assoc, ← split]
      exact removeTrailingChar_eq_true plus.2
    · simpa [or_imp, forall_and] using only
    · simpa using questionCount
    · simp [plusCount]
      omega
  | case3 token questions plusses noQuestion noPlus =>
    rw [consumeSearchOptions, if_neg noQuestion, if_neg noPlus]
    refine ⟨[], by simp, by simp, by simp, by simp, questionCap, plusCap, ?_, ?_⟩
    · rintro ⟨room, last⟩
      exact removeTrailingChar_eq_false (Bool.eq_false_iff.mpr fun removed =>
        noQuestion ⟨room, removed⟩) last
    · rintro ⟨room, last⟩
      exact removeTrailingChar_eq_false (Bool.eq_false_iff.mpr fun removed =>
        noPlus ⟨room, removed⟩) last

/-- Started with both counters at zero, the loop consumes the longest
admissible suffix, and its counters count that suffix. -/
theorem consumeSearchOptions_longest (token : List Char) :
    ∃ suffix, token = (consumeSearchOptions token 0 0).1 ++ suffix ∧
      IsSearchModifierSuffix suffix ∧
      (∀ other, other <:+ token → IsSearchModifierSuffix other →
        other.length ≤ suffix.length) ∧
      (consumeSearchOptions token 0 0).2.1 = suffix.count '?' ∧
      (consumeSearchOptions token 0 0).2.2 = suffix.count '+' := by
  obtain ⟨suffix, split, only, questionCount, plusCount, questionCap, plusCap, noQuestion,
    noPlus⟩ := consumeSearchOptions_spec token 0 0 (by omega) (by omega)
  refine ⟨suffix, split, ⟨only, by omega, by omega⟩, fun other within valid => ?_,
    by omega, by omega⟩
  by_contra longer
  rcases List.eq_nil_or_concat (consumeSearchOptions token 0 0).1 with empty | ⟨front, last, shape⟩
  · rw [empty, List.nil_append] at split
    have := within.length_le
    rw [split] at this
    omega
  · have extended : (last :: suffix) <:+ token := ⟨front, by rw [split, shape]; simp⟩
    have inOther : (last :: suffix) <:+ other :=
      List.suffix_of_suffix_length_le extended within (by simp only [List.length_cons]; omega)
    have lastValid := valid.of_suffix inOther
    have final : (consumeSearchOptions token 0 0).1.getLast? = some last := by simp [shape]
    rcases lastValid.1 last (List.mem_cons_self _ _) with rfl | rfl
    · have := lastValid.2.1
      simp only [List.count_cons_self] at this
      exact noQuestion ⟨by omega, final⟩
    · have := lastValid.2.2
      simp only [List.count_cons_self] at this
      exact noPlus ⟨by omega, final⟩

/-- `result` reads the search modifiers at the end of `cursorWord`: the
unquoted, undashed word splits into the canonical token and the longest
admissible modifier suffix, and the switches record that suffix. -/
def ReadsModifierSuffix (cursorWord : List Char) (result : List Char × CompletionOptions) :
    Prop :=
  ∃ suffix, (if cursorWord.head? = some '"' then cursorWord.tail else cursorWord).dropWhile
        (· == '-') = result.1 ++ suffix ∧
    IsSearchModifierSuffix suffix ∧
    (∀ other, other <:+ (if cursorWord.head? = some '"' then cursorWord.tail
        else cursorWord).dropWhile (· == '-') →
      IsSearchModifierSuffix other → other.length ≤ suffix.length) ∧
    (result.2.flagNameSubstringSearch = true ↔ 1 ≤ suffix.count '?') ∧
    (result.2.flagLocationSubstringSearch = true ↔ 2 ≤ suffix.count '?') ∧
    (result.2.flagDescriptionSubstringSearch = true ↔ suffix.count '?' = 3) ∧
    (result.2.returnAllMatchingFlags = true ↔ '+' ∈ suffix) ∧
    result.2.forceNoUpdate = false

theorem canonicalizeCursorWordAndSearchOptions_spec (cursorWord : List Char)
    (options : CompletionOptions) (nonempty : cursorWord ≠ []) :
    ReadsModifierSuffix cursorWord (canonicalizeCursorWordAndSearchOptions cursorWord options) := by
  have unquoted : (if cursorWord.head? = some '"' then cursorWord.drop 1 else cursorWord) =
      (if cursorWord.head? = some '"' then cursorWord.tail else cursorWord) := by
    rw [List.drop_one]
  obtain ⟨suffix, split, valid, longest, questionCount, plusCount⟩ :=
    consumeSearchOptions_longest
      (stripLeadingDashes (if cursorWord.head? = some '"' then cursorWord.drop 1 else cursorWord))
  rw [stripLeadingDashes_eq_dropWhile, unquoted] at split longest questionCount plusCount
  refine ⟨suffix, ?_⟩
  simp only [canonicalizeCursorWordAndSearchOptions, if_neg nonempty, unquoted,
    stripLeadingDashes_eq_dropWhile, questionCount, plusCount, decide_eq_true_eq]
  have cap := valid.2.1
  exact ⟨split, valid, longest, by omega, by omega, by omega, List.count_pos_iff, trivial⟩

theorem canonicalizeCursorWordAndSearchOptions_quoted_hints :
    ['"', '-', '-', 'h', 'e', 'l', '?', '+', '?'] ≠ [] ∧
      ReadsModifierSuffix ['"', '-', '-', 'h', 'e', 'l', '?', '+', '?']
        (canonicalizeCursorWordAndSearchOptions ['"', '-', '-', 'h', 'e', 'l', '?', '+', '?'] {}) :=
  ⟨by decide, canonicalizeCursorWordAndSearchOptions_spec _ _ (by decide)⟩

/-! ## Words without modifiers -/

theorem stripLeadingDashes_of_head {token : List Char} (undashed : token.head? ≠ some '-') :
    stripLeadingDashes token = token := by
  rw [stripLeadingDashes_eq_dropWhile]
  cases token with
  | nil => rfl
  | cons c rest =>
    have : c ≠ '-' := by simpa using undashed
    simp [List.dropWhile_cons, this]

theorem consumeSearchOptions_of_plain {token : List Char} (noQuestion : token.getLast? ≠ some '?')
    (noPlus : token.getLast? ≠ some '+') : consumeSearchOptions token 0 0 = (token, 0, 0) := by
  rw [consumeSearchOptions]
  simp [removeTrailingChar, noQuestion, noPlus]

/-- A word with no leading quote, whose undashed rest ends in neither
modifier, reads as that rest with every switch off. -/
theorem canonicalizeCursorWordAndSearchOptions_of_plain {cursorWord : List Char}
    (options : CompletionOptions) (nonempty : cursorWord ≠ [])
    (unquoted : cursorWord.head? ≠ some '"')
    (noQuestion : (stripLeadingDashes cursorWord).getLast? ≠ some '?')
    (noPlus : (stripLeadingDashes cursorWord).getLast? ≠ some '+') :
    canonicalizeCursorWordAndSearchOptions cursorWord options = (stripLeadingDashes cursorWord, {}) := by
  simp only [canonicalizeCursorWordAndSearchOptions, if_neg nonempty, if_neg unquoted,
    consumeSearchOptions_of_plain noQuestion noPlus]
  rfl

/-- The `?` switches widen one field at a time: without the name search
there is no path or help-text search either. -/
theorem canonicalizeCursorWordAndSearchOptions_narrow (cursorWord : List Char)
    (noName : (canonicalizeCursorWordAndSearchOptions cursorWord {}).2.flagNameSubstringSearch =
      false) :
    (canonicalizeCursorWordAndSearchOptions cursorWord {}).2.flagLocationSubstringSearch = false ∧
      (canonicalizeCursorWordAndSearchOptions cursorWord {}).2.flagDescriptionSubstringSearch =
        false := by
  unfold canonicalizeCursorWordAndSearchOptions at noName ⊢
  by_cases empty : cursorWord = []
  · simp [empty]
  · simp only [if_neg empty, decide_eq_false_iff_not] at noName ⊢
    omega

/-! ## One more modifier -/

/-- The walk only counts up. -/
theorem le_consumeSearchOptions (token : List Char) (foundQuestionMarks foundPlusses : Nat) :
    foundQuestionMarks ≤ (consumeSearchOptions token foundQuestionMarks foundPlusses).2.1 ∧
      foundPlusses ≤ (consumeSearchOptions token foundQuestionMarks foundPlusses).2.2 := by
  induction token, foundQuestionMarks, foundPlusses using consumeSearchOptions.induct with
  | case1 token questions plusses question ih =>
    rw [consumeSearchOptions_of_question question]
    omega
  | case2 token questions plusses noQuestion plus ih =>
    rw [consumeSearchOptions_of_plus noQuestion plus]
    omega
  | case3 token questions plusses noQuestion noPlus =>
    rw [consumeSearchOptions_of_stop noQuestion noPlus]
    exact ⟨le_rfl, le_rfl⟩

/-- A walk that starts with one more `?` counted takes the same steps, as
long as the first walk stays below the cap of three. -/
theorem consumeSearchOptions_succ (token : List Char) (foundQuestionMarks foundPlusses : Nat)
    (room : (consumeSearchOptions token foundQuestionMarks foundPlusses).2.1 < 3) :
    consumeSearchOptions token (foundQuestionMarks + 1) foundPlusses =
      ((consumeSearchOptions token foundQuestionMarks foundPlusses).1,
        (consumeSearchOptions token foundQuestionMarks foundPlusses).2.1 + 1,
        (consumeSearchOptions token foundQuestionMarks foundPlusses).2.2) := by
  induction token, foundQuestionMarks, foundPlusses using consumeSearchOptions.induct with
  | case1 token questions plusses question ih =>
    rw [consumeSearchOptions_of_question question] at room ⊢
    have below := le_consumeSearchOptions (removeTrailingChar token '?').2 (questions + 1) plusses
    rw [consumeSearchOptions_of_question ⟨by omega, question.2⟩, ih room]
  | case2 token questions plusses noQuestion plus ih =>
    rw [consumeSearchOptions_of_plus noQuestion plus] at room ⊢
    rw [consumeSearchOptions_of_plus (fun more => noQuestion ⟨by omega, more.2⟩) plus, ih room]
  | case3 token questions plusses noQuestion noPlus =>
    rw [consumeSearchOptions_of_stop noQuestion noPlus] at room ⊢
    rw [consumeSearchOptions_of_stop (fun more => noQuestion ⟨by omega, more.2⟩) noPlus]

/-- A walk that starts with the `+` already counted takes the same steps, as
long as the first walk consumes no `+`. -/
theorem consumeSearchOptions_succ_plus (token : List Char) (foundQuestionMarks foundPlusses : Nat)
    (room : (consumeSearchOptions token foundQuestionMarks foundPlusses).2.2 < 1) :
    consumeSearchOptions token foundQuestionMarks (foundPlusses + 1) =
      ((consumeSearchOptions token foundQuestionMarks foundPlusses).1,
        (consumeSearchOptions token foundQuestionMarks foundPlusses).2.1,
        (consumeSearchOptions token foundQuestionMarks foundPlusses).2.2 + 1) := by
  induction token, foundQuestionMarks, foundPlusses using consumeSearchOptions.induct with
  | case1 token questions plusses question ih =>
    rw [consumeSearchOptions_of_question question] at room ⊢
    rw [consumeSearchOptions_of_question question, ih room]
  | case2 token questions plusses noQuestion plus ih =>
    have above := (le_consumeSearchOptions (removeTrailingChar token '+').2 questions
      (plusses + 1)).2
    rw [consumeSearchOptions_of_plus noQuestion plus] at room
    omega
  | case3 token questions plusses noQuestion noPlus =>
    rw [consumeSearchOptions_of_stop noQuestion noPlus] at room ⊢
    rw [consumeSearchOptions_of_stop noQuestion (fun more => by omega)]

theorem stripLeadingDashes_append_of_ne (token : List Char) {c : Char} (notDash : c ≠ '-') :
    stripLeadingDashes (token ++ [c]) = stripLeadingDashes token ++ [c] := by
  simp only [stripLeadingDashes_eq_dropWhile, List.dropWhile_append]
  split
  · rename_i dashes
    rw [List.isEmpty_iff.mp dashes]
    simp [notDash]
  · rfl

/-- The leading quote of a non-empty word is its own first character, so a
character added at the end stays after the unquoted word. -/
theorem unquoted_append {cursorWord : List Char} (c : Char) (nonempty : cursorWord ≠ []) :
    (if (cursorWord ++ [c]).head? = some '"' then (cursorWord ++ [c]).drop 1
      else cursorWord ++ [c]) =
      (if cursorWord.head? = some '"' then cursorWord.drop 1 else cursorWord) ++ [c] := by
  rw [List.head?_append_of_ne_nil _ nonempty]
  split
  · exact List.drop_append_of_le_length (List.length_pos.mpr nonempty)
  · rfl

/-- One more `?` at the end of a word whose walk stopped below three keeps
the token and switches the searches on one field further. -/
theorem canonicalizeCursorWordAndSearchOptions_append_question (cursorWord : List Char)
    (room : (canonicalizeCursorWordAndSearchOptions cursorWord {}).2.flagDescriptionSubstringSearch =
      false) :
    canonicalizeCursorWordAndSearchOptions (cursorWord ++ ['?']) {} =
      ((canonicalizeCursorWordAndSearchOptions cursorWord {}).1,
        { (canonicalizeCursorWordAndSearchOptions cursorWord {}).2 with
          flagNameSubstringSearch := true
          flagLocationSubstringSearch :=
            (canonicalizeCursorWordAndSearchOptions cursorWord {}).2.flagNameSubstringSearch
          flagDescriptionSubstringSearch :=
            (canonicalizeCursorWordAndSearchOptions cursorWord {}).2.flagLocationSubstringSearch }) := by
  by_cases empty : cursorWord = []
  · have single : consumeSearchOptions ['?'] 0 0 = ([], 1, 0) := by
      rw [consumeSearchOptions_of_question (by decide),
        consumeSearchOptions_of_stop (by decide) (by decide)]
      rfl
    subst empty
    simp [canonicalizeCursorWordAndSearchOptions, stripLeadingDashes, single]
  simp only [canonicalizeCursorWordAndSearchOptions, if_neg empty, List.append_eq_nil,
    List.cons_ne_nil, and_false, if_false, unquoted_append _ empty,
    stripLeadingDashes_append_of_ne _ (by decide : '?' ≠ '-')] at room ⊢
  generalize stripLeadingDashes (if cursorWord.head? = some '"' then cursorWord.drop 1
    else cursorWord) = token at room ⊢
  have first : consumeSearchOptions (token ++ ['?']) 0 0 = consumeSearchOptions token 1 0 := by
    rw [consumeSearchOptions_of_question ⟨by omega, by simp [removeTrailingChar]⟩]
    simp [removeTrailingChar]
  rw [first, consumeSearchOptions_succ _ _ _
    (Nat.lt_succ_of_le (Nat.not_lt.mp (of_decide_eq_false room)))]
  generalize consumeSearchOptions token 0 0 = result
  obtain ⟨rest, questions, plusses⟩ := result
  simp only [Prod.mk.injEq, CompletionOptions.mk.injEq, decide_eq_true_eq, decide_eq_decide,
    true_and, and_true]
  omega

/-- A `+` at the end of a word that had none keeps the token and the search
switches, and lifts the line limit. -/
theorem canonicalizeCursorWordAndSearchOptions_append_plus (cursorWord : List Char)
    (room : (canonicalizeCursorWordAndSearchOptions cursorWord {}).2.returnAllMatchingFlags =
      false) :
    canonicalizeCursorWordAndSearchOptions (cursorWord ++ ['+']) {} =
      ((canonicalizeCursorWordAndSearchOptions cursorWord {}).1,
        { (canonicalizeCursorWordAndSearchOptions cursorWord {}).2 with
          returnAllMatchingFlags := true }) := by
  by_cases empty : cursorWord = []
  · have single : consumeSearchOptions ['+'] 0 0 = ([], 0, 1) := by
      rw [consumeSearchOptions_of_plus (by decide) (by decide),
        consumeSearchOptions_of_stop (by decide) (by decide)]
      rfl
    subst empty
    simp [canonicalizeCursorWordAndSearchOptions, stripLeadingDashes, single]
  simp only [canonicalizeCursorWordAndSearchOptions, if_neg empty, List.append_eq_nil,
    List.cons_ne_nil, and_false, if_false, unquoted_append _ empty,
    stripLeadingDashes_append_of_ne _ (by decide : '+' ≠ '-')] at room ⊢
  generalize stripLeadingDashes (if cursorWord.head? = some '"' then cursorWord.drop 1
    else cursorWord) = token at room ⊢
  have first : consumeSearchOptions (token ++ ['+']) 0 0 = consumeSearchOptions token 0 1 := by
    rw [consumeSearchOptions_of_plus (by simp [removeTrailingChar])
      ⟨by omega, by simp [removeTrailingChar]⟩]
    simp [removeTrailingChar]
  rw [first, consumeSearchOptions_succ_plus _ _ _
    (Nat.lt_succ_of_le (Nat.not_lt.mp (of_decide_eq_false room)))]
  generalize consumeSearchOptions token 0 0 = result
  obtain ⟨rest, questions, plusses⟩ := result
  simp only [Prod.mk.injEq, CompletionOptions.mk.injEq, decide_eq_true_eq, true_and, and_true]
  omega

end Completion
end Gflags
