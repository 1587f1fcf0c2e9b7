import GflagsCompletions.Search.Canonicalize

namespace Gflags
namespace Completion

open StdString

/-!
# Finding the matching flags and their shared prefix

`FindMatchingFlags` walks the snapshot once.  It inserts every flag that
`DoesSingleFlagMatch` accepts into the match set, and folds the names of the
matches into `longest_common_prefix`: the first match's name, then at each
further match the part the running prefix shares with the new name.

The fold's invariant is that the running prefix is the longest common prefix
of the names matched so far.  It holds from the first match on, so the
final value depends only on which names matched, not on their order.
One more `?` typed after a word widens the search by one field and keeps
every earlier match.
-/

/-- `DoesSingleFlagMatch`: a prefix match on the name, or a substring match
in each field whose search the cursor word switched on. -/
def doesSingleFlagMatch (flag : CommandLineFlagInfo) (options : CompletionOptions)
    (matchToken : List Char) : Bool :=
  if find flag.name matchToken = some 0 then true
  else if options.flagNameSubstringSearch ∧ (find flag.name matchToken).isSome then true
  else if options.flagLocationSubstringSearch ∧ (find flag.filename matchToken).isSome then true
  else if options.flagDescriptionSubstringSearch ∧ (find flag.description matchToken).isSome then
    true
  else false

/-- The match predicate in the spec's words. -/
def MatchesToken (options : CompletionOptions) (matchToken : List Char)
    (flag : CommandLineFlagInfo) : Prop :=
  matchToken <+: flag.name ∨
    (options.flagNameSubstringSearch = true ∧ matchToken <:+: flag.name) ∨
    (options.flagLocationSubstringSearch = true ∧ matchToken <:+: flag.filename) ∨
    (options.flagDescriptionSubstringSearch = true ∧ matchToken <:+: flag.description)

theorem doesSingleFlagMatch_eq_true_iff (flag : CommandLineFlagInfo)
    (options : CompletionOptions) (matchToken : List Char) :
    doesSingleFlagMatch flag options matchToken = true ↔ MatchesToken options matchToken flag := by
  simp only [doesSingleFlagMatch, MatchesToken, find_eq_zero_iff, find_isSome_iff]
  split_ifs <;> simp_all

/-- The inner `while` loop of `FindMatchingFlags`: the number of leading
characters on which two names agree. -/
def commonPrefixLength : List Char → List Char → Nat
  | a :: left, b :: right => if a = b then commonPrefixLength left right + 1 else 0
  | _, _ => 0

/-- The loop state of `FindMatchingFlags`. -/
structure MatchScan where
  allMatches : List FlagPointer
  firstMatch : Bool
  longestCommonPrefix : List Char

/-- The state before the loop: `all_matches->clear()`, `first_match = true`,
and the caller's empty `longest_common_prefix`. -/
def MatchScan.initial : MatchScan := ⟨[], true, []⟩

/-- One iteration of the loop of `FindMatchingFlags`. -/
def scanFlag (options : CompletionOptions) (matchToken : List Char) (scan : MatchScan)
    (flag : FlagPointer) : MatchScan :=
  if doesSingleFlagMatch flag.info options matchToken then
    if scan.firstMatch then ⟨scan.allMatches ++ [flag], false, flag.info.name⟩
    else if scan.longestCommonPrefix = [] ∨ flag.info.name = [] then
      ⟨scan.allMatches ++ [flag], false, []⟩
    else
      ⟨scan.allMatches ++ [flag], false,
        scan.longestCommonPrefix.take
          (commonPrefixLength scan.longestCommonPrefix flag.info.name)⟩
  else scan

/-- `FindMatchingFlags`: the match set and the longest common prefix.  The
prefix starts as the caller's empty string and stays so if nothing matches. -/
def findMatchingFlags (allFlags : List CommandLineFlagInfo) (options : CompletionOptions)
    (matchToken : List Char) : List FlagPointer × List Char :=
  let scan := (snapshotPointers allFlags).foldl (scanFlag options matchToken) MatchScan.initial
  (scan.allMatches, scan.longestCommonPrefix)

/-! ## The shared prefix of two names -/

theorem take_commonPrefixLength_prefix_right (left right : List Char) :
    left.take (commonPrefixLength left right) <+: right := by
  induction left generalizing right with
  | nil => simp
  | cons a left ih =>
    cases right with
    | nil => simp [commonPrefixLength]
    | cons b right =>
      by_cases same : a = b
      · subst b
        simpa [commonPrefixLength] using ih right
      · simp [commonPrefixLength, same]

theorem prefix_take_commonPrefixLength {shared left right : List Char}
    (inLeft : shared <+: left) (inRight : shared <+: right) :
    shared <+: left.take (commonPrefixLength left right) := by
  induction left generalizing shared right with
  | nil => simpa using inLeft
  | cons a left ih =>
    rcases shared with _ | ⟨c, shared⟩
    · exact List.nil_prefix
    · cases right with
      | nil => exact absurd (List.prefix_nil.mp inRight) (List.cons_ne_nil _ _)
      | cons b right =>
        obtain ⟨rfl, restLeft⟩ := List.cons_prefix_cons.mp inLeft
        obtain ⟨rfl, restRight⟩ := List.cons_prefix_cons.mp inRight
        simpa [commonPrefixLength] using ih restLeft restRight

/-! ## The invariant of the fold -/

/-- `shared` is the longest common prefix of `names`. -/
def IsLongestCommonPrefix (names : List (List Char)) (shared : List Char) : Prop :=
  (∀ name ∈ names, shared <+: name) ∧ ∀ other, (∀ name ∈ names, other <+: name) → other <+: shared

theorem IsLongestCommonPrefix.unique {names : List (List Char)} {first second : List Char}
    (isFirst : IsLongestCommonPrefix names first) (isSecond : IsLongestCommonPrefix names second) :
    first = second :=
  (isSecond.2 first isFirst.1).eq_of_length
    (le_antisymm (isSecond.2 first isFirst.1).length_le (isFirst.2 second isSecond.1).length_le)

theorem IsLongestCommonPrefix.congr {names names' : List (List Char)} {shared : List Char}
    (same : ∀ name, name ∈ names ↔ name ∈ names') (isShared : IsLongestCommonPrefix names shared) :
    IsLongestCommonPrefix names' shared :=
  ⟨fun name member => isShared.1 name ((same name).mpr member),
    fun other common => isShared.2 other fun name member => common name ((same name).mp member)⟩

/-- From the first match on, the running prefix is the longest common prefix
of the names matched so far. -/
def MatchScan.Consistent (scan : MatchScan) : Prop :=
  (scan.firstMatch = true ↔ scan.allMatches = []) ∧
    (scan.allMatches ≠ [] →
      IsLongestCommonPrefix (scan.allMatches.map (·.info.name)) scan.longestCommonPrefix)

theorem MatchScan.initial_consistent : MatchScan.initial.Consistent :=
  ⟨by simp [MatchScan.initial], by simp [MatchScan.initial]⟩

theorem scanFlag_allMatches (options : CompletionOptions) (matchToken : List Char)
    (scan : MatchScan) (flag : FlagPointer) :
    (scanFlag options matchToken scan flag).allMatches =
      scan.allMatches ++ [flag].filter (doesSingleFlagMatch ·.info options matchToken) := by
  unfold scanFlag
  split_ifs <;> simp_all

/-- The step lemma: one iteration keeps the running prefix right. -/
theorem scanFlag_consistent (options : CompletionOptions) (matchToken : List Char)
    {scan : MatchScan} (flag : FlagPointer) (consistent : scan.Consistent) :
    (scanFlag options matchToken scan flag).Consistent := by
  obtain ⟨first, shared⟩ := consistent
  unfold scanFlag
  split_ifs with matched isFirst empty
  · have none := first.mp isFirst
    refine ⟨by simp, fun _ => ⟨?_, fun other common => ?_⟩⟩ <;>
      simp_all [List.prefix_refl]
  · have some : scan.allMatches ≠ [] := fun none => isFirst (first.mpr none)
    obtain ⟨_, largest⟩ := shared some
    refine ⟨by simp, fun _ => ⟨by simp, fun other common => ?_⟩⟩
    simp only [List.map_append, List.map_cons, List.map_nil, List.mem_append,
      List.mem_singleton] at common
    rcases empty with noShared | noName
    · simpa [noShared] using largest other fun name member => common name (.inl member)
    · simpa [noName] using common _ (.inr rfl)
  · have some : scan.allMatches ≠ [] := fun none => isFirst (first.mpr none)
    obtain ⟨common, largest⟩ := shared some
    refine ⟨by simp, fun _ => ⟨fun name member => ?_, fun other inAll => ?_⟩⟩
    · simp only [List.map_append, List.map_cons, List.map_nil, List.mem_append,
        List.mem_singleton] at member
      rcases member with old | rfl
      · exact (List.take_prefix _ _).trans (common name old)
      · exact take_commonPrefixLength_prefix_right _ _
    · simp only [List.map_append, List.map_cons, List.map_nil, List.mem_append,
        List.mem_singleton] at inAll
      exact prefix_take_commonPrefixLength (largest other fun name member => inAll name (.inl member))
        (inAll _ (.inr rfl))
  · exact ⟨first, shared⟩

/-- The run lemma: the whole loop keeps the invariant and collects exactly
the matching flags. -/
theorem foldl_scanFlag (options : CompletionOptions) (matchToken : List Char)
    (flags : List FlagPointer) {scan : MatchScan} (consistent : scan.Consistent) :
    (flags.foldl (scanFlag options matchToken) scan).Consistent ∧
      (flags.foldl (scanFlag options matchToken) scan).allMatches =
        scan.allMatches ++ flags.filter (doesSingleFlagMatch ·.info options matchToken) := by
  induction flags generalizing scan with
  | nil => simpa using consistent
  | cons flag rest ih =>
    obtain ⟨restConsistent, restMatches⟩ := ih (scanFlag_consistent options matchToken flag consistent)
    refine ⟨restConsistent, ?_⟩
    rw [List.foldl_cons, restMatches, scanFlag_allMatches]
    by_cases matched : doesSingleFlagMatch flag.info options matchToken <;>
      simp [List.filter_cons, matched]

theorem findMatchingFlags_fst (allFlags : List CommandLineFlagInfo) (options : CompletionOptions)
    (matchToken : List Char) :
    (findMatchingFlags allFlags options matchToken).1 =
      (snapshotPointers allFlags).filter (doesSingleFlagMatch ·.info options matchToken) := by
  simpa [MatchScan.initial] using (foldl_scanFlag options matchToken (snapshotPointers allFlags)
    MatchScan.initial_consistent).2

/-- With every substring search off, a flag matches when its name starts
with the token. -/
theorem matchesToken_iff_prefix {options : CompletionOptions} {matchToken : List Char}
    {flag : CommandLineFlagInfo} (noName : options.flagNameSubstringSearch = false)
    (noLocation : options.flagLocationSubstringSearch = false)
    (noDescription : options.flagDescriptionSubstringSearch = false) :
    MatchesToken options matchToken flag ↔ matchToken <+: flag.name := by
  simp [MatchesToken, noName, noLocation, noDescription]

theorem mem_findMatchingFlags {allFlags : List CommandLineFlagInfo} {options : CompletionOptions}
    {matchToken : List Char} {flag : FlagPointer} :
    flag ∈ (findMatchingFlags allFlags options matchToken).1 ↔
      flag ∈ snapshotPointers allFlags ∧ MatchesToken options matchToken flag.info := by
  rw [findMatchingFlags_fst, List.mem_filter, doesSingleFlagMatch_eq_true_iff]

theorem nodup_findMatchingFlags (allFlags : List CommandLineFlagInfo) (options : CompletionOptions)
    (matchToken : List Char) : (findMatchingFlags allFlags options matchToken).1.Nodup := by
  rw [findMatchingFlags_fst]
  exact (FlagPointer.nodup_snapshotPointers allFlags).filter _

theorem foldl_scanFlag_of_unmatched (options : CompletionOptions) (matchToken : List Char)
    (flags : List FlagPointer) (scan : MatchScan)
    (unmatched : ∀ flag ∈ flags, doesSingleFlagMatch flag.info options matchToken = false) :
    flags.foldl (scanFlag options matchToken) scan = scan := by
  induction flags with
  | nil => rfl
  | cons flag rest ih =>
    rw [List.foldl_cons, scanFlag, if_neg (by simp [unmatched flag (List.mem_cons_self _ _)])]
    exact ih fun other member => unmatched other (List.mem_cons_of_mem _ member)

/-- With no match the loop never writes the prefix, which stays empty. -/
theorem findMatchingFlags_snd_of_fst_eq_nil {allFlags : List CommandLineFlagInfo}
    {options : CompletionOptions} {matchToken : List Char}
    (noMatch : (findMatchingFlags allFlags options matchToken).1 = []) :
    (findMatchingFlags allFlags options matchToken).2 = [] := by
  rw [findMatchingFlags_fst, List.filter_eq_nil_iff] at noMatch
  simp only [findMatchingFlags]
  rw [foldl_scanFlag_of_unmatched _ _ _ _ fun flag member => by simpa using noMatch flag member]
  rfl

theorem map_info_findMatchingFlags (allFlags : List CommandLineFlagInfo)
    (options : CompletionOptions) (matchToken : List Char) :
    (findMatchingFlags allFlags options matchToken).1.map FlagPointer.info =
      allFlags.filter (doesSingleFlagMatch · options matchToken) := by
  conv_rhs => rw [← FlagPointer.map_info_snapshotPointers allFlags, List.filter_map]
  rw [findMatchingFlags_fst]
  rfl

theorem findMatchingFlags_consistent (allFlags : List CommandLineFlagInfo)
    (options : CompletionOptions) (matchToken : List Char)
    (someMatch : (findMatchingFlags allFlags options matchToken).1 ≠ []) :
    IsLongestCommonPrefix ((findMatchingFlags allFlags options matchToken).1.map (·.info.name))
      (findMatchingFlags allFlags options matchToken).2 :=
  (foldl_scanFlag options matchToken (snapshotPointers allFlags)
    MatchScan.initial_consistent).1.2 someMatch

theorem findMatchingFlags_ne_nil {allFlags : List CommandLineFlagInfo}
    {options : CompletionOptions} {matchToken : List Char}
    (someMatch : ∃ flag ∈ allFlags, doesSingleFlagMatch flag options matchToken = true) :
    (findMatchingFlags allFlags options matchToken).1 ≠ [] := by
  obtain ⟨flag, member, matched⟩ := someMatch
  intro empty
  have := map_info_findMatchingFlags allFlags options matchToken
  rw [empty, List.map_nil] at this
  exact List.mem_nil_iff flag |>.mp (this ▸ List.mem_filter.mpr ⟨member, matched⟩)

/-- The match set is empty exactly when no flag of the snapshot matches. -/
theorem findMatchingFlags_eq_nil_iff {allFlags : List CommandLineFlagInfo}
    {options : CompletionOptions} {matchToken : List Char} :
    (findMatchingFlags allFlags options matchToken).1 = [] ↔
      ∀ flag ∈ allFlags, ¬ MatchesToken options matchToken flag := by
  rw [← List.map_eq_nil_iff, map_info_findMatchingFlags, List.filter_eq_nil_iff]
  simp only [doesSingleFlagMatch_eq_true_iff]

/-- The match set does not read the line-limit switch. -/
theorem findMatchingFlags_returnAllMatchingFlags (allFlags : List CommandLineFlagInfo)
    (options : CompletionOptions) (matchToken : List Char) (returnAll : Bool) :
    findMatchingFlags allFlags { options with returnAllMatchingFlags := returnAll } matchToken =
      findMatchingFlags allFlags options matchToken :=
  rfl

theorem matchedNames_findMatchingFlags (allFlags : List CommandLineFlagInfo)
    (options : CompletionOptions) (matchToken : List Char) :
    (findMatchingFlags allFlags options matchToken).1.map (·.info.name) =
      (allFlags.filter (doesSingleFlagMatch · options matchToken)).map (·.name) := by
  rw [← map_info_findMatchingFlags, List.map_map]
  rfl

/-! ## Matching again by the shared prefix -/

section Rematch

variable {allFlags : List CommandLineFlagInfo} {options : CompletionOptions}
  {matchToken shared : List Char}

theorem mem_findMatchingFlags_prefix_only {pointer : FlagPointer} :
    pointer ∈ (findMatchingFlags allFlags {} shared).1 ↔
      pointer ∈ snapshotPointers allFlags ∧ shared <+: pointer.info.name := by
  rw [mem_findMatchingFlags, matchesToken_iff_prefix rfl rfl rfl]

/-- Matching by prefix only with the longest common prefix of a match set
keeps every match, and the prefix is that of the new match set too. -/
theorem findMatchingFlags_by_longestCommonPrefix
    (isLongest : IsLongestCommonPrefix
      ((findMatchingFlags allFlags options matchToken).1.map (·.info.name)) shared) :
    (∀ flag ∈ (findMatchingFlags allFlags options matchToken).1,
        flag ∈ (findMatchingFlags allFlags {} shared).1) ∧
      IsLongestCommonPrefix ((findMatchingFlags allFlags {} shared).1.map (·.info.name)) shared := by
  have covers : ∀ flag ∈ (findMatchingFlags allFlags options matchToken).1,
      flag ∈ (findMatchingFlags allFlags {} shared).1 := fun flag member =>
    mem_findMatchingFlags_prefix_only.mpr
      ⟨(mem_findMatchingFlags.mp member).1, isLongest.1 _ (List.mem_map_of_mem _ member)⟩
  refine ⟨covers, fun name inNames => ?_, fun other common => isLongest.2 other fun name inNames => ?_⟩
  · obtain ⟨pointer, inRematched, rfl⟩ := List.mem_map.mp inNames
    exact (mem_findMatchingFlags_prefix_only.mp inRematched).2
  · obtain ⟨pointer, member, rfl⟩ := List.mem_map.mp inNames
    exact common _ (List.mem_map_of_mem _ (covers pointer member))

/-- Without substring searches, matching again by the longest common prefix
finds the same flags. -/
theorem findMatchingFlags_by_longestCommonPrefix_eq (noName : options.flagNameSubstringSearch = false)
    (noLocation : options.flagLocationSubstringSearch = false)
    (noDescription : options.flagDescriptionSubstringSearch = false)
    (isLongest : IsLongestCommonPrefix
      ((findMatchingFlags allFlags options matchToken).1.map (·.info.name)) shared) :
    (findMatchingFlags allFlags {} shared).1 = (findMatchingFlags allFlags options matchToken).1 := by
  have prefixOnly : ∀ pointer, pointer ∈ (findMatchingFlags allFlags options matchToken).1 ↔
      pointer ∈ snapshotPointers allFlags ∧ matchToken <+: pointer.info.name := fun pointer => by
    rw [mem_findMatchingFlags, matchesToken_iff_prefix noName noLocation noDescription]
  have tokenShared : matchToken <+: shared := isLongest.2 _ fun name inNames => by
    obtain ⟨pointer, member, rfl⟩ := List.mem_map.mp inNames
    exact ((prefixOnly pointer).mp member).2
  rw [findMatchingFlags_fst, findMatchingFlags_fst]
  refine List.filter_congr fun pointer inSnapshot => Bool.eq_iff_iff.mpr ?_
  rw [doesSingleFlagMatch_eq_true_iff, doesSingleFlagMatch_eq_true_iff,
    matchesToken_iff_prefix rfl rfl rfl, matchesToken_iff_prefix noName noLocation noDescription]
  exact ⟨tokenShared.trans, fun starts =>
    isLongest.1 _ (List.mem_map_of_mem _ ((prefixOnly pointer).mpr ⟨inSnapshot, starts⟩))⟩

end Rematch

/-- The prefix `FindMatchingFlags` reports for one snapshot, switch setting
and token is the longest common prefix of the matched names, and reordering
the snapshot does not change it. -/
def FindsLongestCommonPrefix (allFlags : List CommandLineFlagInfo) (options : CompletionOptions)
    (matchToken : List Char) : Prop :=
  IsLongestCommonPrefix ((findMatchingFlags allFlags options matchToken).1.map (·.info.name))
      (findMatchingFlags allFlags options matchToken).2 ∧
    ∀ reordered, reordered.Perm allFlags →
      (findMatchingFlags reordered options matchToken).2 =
        (findMatchingFlags allFlags options matchToken).2

theorem findMatchingFlags_longestCommonPrefix (allFlags : List CommandLineFlagInfo)
    (options : CompletionOptions) (matchToken : List Char)
    (someMatch : ∃ flag ∈ allFlags, doesSingleFlagMatch flag options matchToken = true) :
    FindsLongestCommonPrefix allFlags options matchToken := by
  have isShared := findMatchingFlags_consistent allFlags options matchToken
    (findMatchingFlags_ne_nil someMatch)
  refine ⟨isShared, fun reordered permuted => ?_⟩
  have reorderedMatch : ∃ flag ∈ reordered, doesSingleFlagMatch flag options matchToken = true :=
    let ⟨flag, member, matched⟩ := someMatch
    ⟨flag, permuted.symm.subset member, matched⟩
  have sameNames : ∀ name, name ∈ (findMatchingFlags reordered options matchToken).1.map
      (·.info.name) ↔ name ∈ (findMatchingFlags allFlags options matchToken).1.map (·.info.name) := by
    intro name
    simp only [matchedNames_findMatchingFlags]
    exact ((permuted.filter _).map _).mem_iff
  exact (findMatchingFlags_consistent reordered options matchToken
    (findMatchingFlags_ne_nil reorderedMatch)).congr sameNames |>.unique isShared

theorem findMatchingFlags_longestCommonPrefix_he :
    (∃ flag ∈ [{ name := "help".toList }, { name := "height".toList }, { name := "hello".toList }],
        doesSingleFlagMatch flag {} "he".toList = true) ∧
      FindsLongestCommonPrefix
        [{ name := "help".toList }, { name := "height".toList }, { name := "hello".toList }]
        {} "he".toList :=
  ⟨by decide, findMatchingFlags_longestCommonPrefix _ _ _ (by decide)⟩

/-! ## One more question mark widens the search -/

/-- A match stays a match when each search switch is on wherever it was. -/
theorem MatchesToken.mono {options wider : CompletionOptions} {matchToken : List Char}
    {flag : CommandLineFlagInfo}
    (name : options.flagNameSubstringSearch = true → wider.flagNameSubstringSearch = true)
    (location :
      options.flagLocationSubstringSearch = true → wider.flagLocationSubstringSearch = true)
    (description :
      options.flagDescriptionSubstringSearch = true → wider.flagDescriptionSubstringSearch = true)
    (matched : MatchesToken options matchToken flag) : MatchesToken wider matchToken flag := by
  rcases matched with starts | ⟨switched, inside⟩ | ⟨switched, inside⟩ | ⟨switched, inside⟩
  · exact .inl starts
  · exact .inr (.inl ⟨name switched, inside⟩)
  · exact .inr (.inr (.inl ⟨location switched, inside⟩))
  · exact .inr (.inr (.inr ⟨description switched, inside⟩))

/-- One more `?` at the end of the cursor word, while fewer than three were
read, keeps the token, turns the name search on, moves the name search's old
setting to the location search and the location search's to the description
search, and loses no match: the flags found before are found again, in the
same order. -/
theorem findMatchingFlags_append_question (allFlags : List CommandLineFlagInfo)
    (cursorWord : List Char)
    (room : (canonicalizeCursorWordAndSearchOptions cursorWord {}).2.flagDescriptionSubstringSearch =
      false) :
    (canonicalizeCursorWordAndSearchOptions (cursorWord ++ ['?']) {}).1 =
        (canonicalizeCursorWordAndSearchOptions cursorWord {}).1 ∧
      (canonicalizeCursorWordAndSearchOptions (cursorWord ++ ['?']) {}).2.flagNameSubstringSearch =
        true ∧
      (canonicalizeCursorWordAndSearchOptions (cursorWord ++ ['?']) {}).2.flagLocationSubstringSearch =
        (canonicalizeCursorWordAndSearchOptions cursorWord {}).2.flagNameSubstringSearch ∧
      (canonicalizeCursorWordAndSearchOptions (cursorWord ++ ['?']) {}).2.flagDescriptionSubstringSearch =
        (canonicalizeCursorWordAndSearchOptions cursorWord {}).2.flagLocationSubstringSearch ∧
      (findMatchingFlags allFlags (canonicalizeCursorWordAndSearchOptions cursorWord {}).2
        (canonicalizeCursorWordAndSearchOptions cursorWord {}).1).1.Sublist
        (findMatchingFlags allFlags (canonicalizeCursorWordAndSearchOptions (cursorWord ++ ['?']) {}).2
          (canonicalizeCursorWordAndSearchOptions (cursorWord ++ ['?']) {}).1).1 := by
  have narrow := canonicalizeCursorWordAndSearchOptions_narrow cursorWord
  rw [canonicalizeCursorWordAndSearchOptions_append_question cursorWord room]
  refine ⟨rfl, rfl, rfl, rfl, ?_⟩
  rw [findMatchingFlags_fst, findMatchingFlags_fst]
  refine List.monotone_filter_right _ fun pointer matched => ?_
  rw [doesSingleFlagMatch_eq_true_iff] at matched ⊢
  refine matched.mono (fun _ => rfl) (fun located => ?_) (fun described => ?_)
  · cases named : (canonicalizeCursorWordAndSearchOptions cursorWord {}).2.flagNameSubstringSearch
    · rw [(narrow named).1] at located
      cases located
    · rfl
  · rw [room] at described
    cases described

theorem findMatchingFlags_append_question_he :
    (canonicalizeCursorWordAndSearchOptions "he".toList {}).2.flagDescriptionSubstringSearch =
        false ∧
      (canonicalizeCursorWordAndSearchOptions ("he".toList ++ ['?']) {}).1 =
        (canonicalizeCursorWordAndSearchOptions "he".toList {}).1 ∧
      (canonicalizeCursorWordAndSearchOptions ("he".toList ++ ['?']) {}).2.flagNameSubstringSearch =
        true ∧
      (canonicalizeCursorWordAndSearchOptions ("he".toList ++ ['?']) {}).2.flagLocationSubstringSearch =
        (canonicalizeCursorWordAndSearchOptions "he".toList {}).2.flagNameSubstringSearch ∧
      (canonicalizeCursorWordAndSearchOptions ("he".toList ++ ['?']) {}).2.flagDescriptionSubstringSearch =
        (canonicalizeCursorWordAndSearchOptions "he".toList {}).2.flagLocationSubstringSearch ∧
      (findMatchingFlags [{ name := "help".toList }, { name := "ahem".toList }]
          (canonicalizeCursorWordAndSearchOptions "he".toList {}).2
          (canonicalizeCursorWordAndSearchOptions "he".toList {}).1).1.Sublist
        (findMatchingFlags [{ name := "help".toList }, { name := "ahem".toList }]
          (canonicalizeCursorWordAndSearchOptions ("he".toList ++ ['?']) {}).2
          (canonicalizeCursorWordAndSearchOptions ("he".toList ++ ['?']) {}).1).1 := by
  have room : (canonicalizeCursorWordAndSearchOptions "he".toList {}).2.flagDescriptionSubstringSearch =
      false := by
    rw [canonicalizeCursorWordAndSearchOptions_of_plain _ (by decide) (by decide) (by decide)
      (by decide)]
  exact ⟨room, findMatchingFlags_append_question _ _ room⟩

end Completion
end Gflags
