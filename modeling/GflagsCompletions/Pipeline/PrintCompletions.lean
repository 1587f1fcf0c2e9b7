import GflagsCompletions.Output.Finalize

namespace Gflags
namespace Completion

/-!
# The completion run, from the cursor word to standard output

`PrintFlagCompletionInfo` chains the stages.  It canonicalises the cursor
word, finds the matches and their shared prefix, and then prints one of three
things: the shared prefix as `--<prefix>` when it is longer than the token
(the shortcut), nothing when no flag matches, or the listing that
`FinalizeCompletionOutput` builds from the categorised matches, one entry per
line, closed by a lone `~` when every match was listed.
`HandleCommandLineCompletions` runs it for a non-empty word and exits.

The results are about whole runs.  The flag lines of a listing name distinct
matching flags, and its last entry says whether a match was left out.  After
a shortcut the shell completes the word to `--<prefix>`, and the run on that
word lists its matches instead of printing the prefix again.  Which of the
three outputs is printed is decided by the matches alone, and a `+` added
to the word changes only the line limit.
-/

/-- What `PrintFlagCompletionInfo` writes. -/
inductive CompletionOutput where
  | nothing
  | commonPrefix (longestCommonPrefix : List Char)
  | listing (completions : List CompletionLine)
deriving DecidableEq, Repr

/-- `PrintFlagCompletionInfo`, over the snapshot `GetAllFlags` returns. -/
def printFlagCompletionInfo (programInvocationShortName : List Char) (pathSeparator : Char)
    (allFlags : List CommandLineFlagInfo) (cursorWord : List Char) : CompletionOutput :=
  let canonical := canonicalizeCursorWordAndSearchOptions cursorWord {}
  let found := findMatchingFlags allFlags canonical.2 canonical.1
  if canonical.1.length < found.2.length then .commonPrefix found.2
  else if found.1 = [] then .nothing
  else
    let located := tryFindModuleAndPackageDir programInvocationShortName pathSeparator allFlags
    let notable := categorizeAllMatchingFlags pathSeparator found.1 canonical.1 located.1 located.2
    let finalized := finalizeCompletionOutput found.1 canonical.2 notable
    .listing (if finalized.1.forceNoUpdate then finalized.2 ++ [.noUpdate] else finalized.2)

/-- The bytes written to `stdout`: `--` and the prefix with no newline, or
each entry followed by a newline; `none` when building an entry throws. -/
def CompletionOutput.stdout (columns : Int) (describeOneFlag : CommandLineFlagInfo → List Char) :
    CompletionOutput → Option (List Char)
  | .nothing => some []
  | .commonPrefix longestCommonPrefix => some ("--".toList ++ longestCommonPrefix)
  | .listing completions =>
    (completions.mapM (CompletionLine.text columns describeOneFlag)).map
      fun texts => (texts.map (· ++ ['\n'])).flatten

/-- `HandleCommandLineCompletions`: nothing happens for an empty word;
otherwise the output, after which the program exits. -/
def handleCommandLineCompletions (programInvocationShortName : List Char) (pathSeparator : Char)
    (allFlags : List CommandLineFlagInfo) (tabCompletionWord : List Char) :
    Option CompletionOutput :=
  if tabCompletionWord = [] then none
  else some (printFlagCompletionInfo programInvocationShortName pathSeparator allFlags
    tabCompletionWord)

/-- The inversion lemma of the run: a listing is what the emission pass
writes, closed by the marker for the count of flags written. -/
theorem printFlagCompletionInfo_eq_listing {programInvocationShortName : List Char}
    {pathSeparator : Char} {allFlags : List CommandLineFlagInfo} {cursorWord : List Char}
    {completions : List CompletionLine}
    (printed : printFlagCompletionInfo programInvocationShortName pathSeparator allFlags cursorWord =
      .listing completions) :
    let canonical := canonicalizeCursorWordAndSearchOptions cursorWord {}
    let matchingFlags := (findMatchingFlags allFlags canonical.2 canonical.1).1
    let located := tryFindModuleAndPackageDir programInvocationShortName pathSeparator allFlags
    let notable :=
      categorizeAllMatchingFlags pathSeparator matchingFlags canonical.1 located.1 located.2
    completions = (emitOutputGroups (maxDesiredLines canonical.2) (notable.perfectMatchFlag ≠ [])
        (selectOutputGroups matchingFlags (maxDesiredLines canonical.2) notable).outputGroups).completions ++
      [if (emittedFlags (finalizeCompletionOutput matchingFlags canonical.2 notable).2).length =
          matchingFlags.length then .noUpdate else .remainingHidden] := by
  unfold printFlagCompletionInfo at printed
  dsimp only at printed ⊢
  split at printed
  · cases printed
  split at printed
  · cases printed
  cases printed
  exact finalizeCompletionOutput_marker _ _ _

/-- The inversion lemma of the shortcut: the prefix printed is the shared
prefix of the matches, and it is longer than the canonical token. -/
theorem printFlagCompletionInfo_eq_commonPrefix {programInvocationShortName : List Char}
    {pathSeparator : Char} {allFlags : List CommandLineFlagInfo} {cursorWord shared : List Char}
    (shortcut : printFlagCompletionInfo programInvocationShortName pathSeparator allFlags
      cursorWord = .commonPrefix shared) :
    let canonical := canonicalizeCursorWordAndSearchOptions cursorWord {}
    (findMatchingFlags allFlags canonical.2 canonical.1).2 = shared ∧
      canonical.1.length < shared.length := by
  unfold printFlagCompletionInfo at shortcut
  dsimp only at shortcut ⊢
  split at shortcut
  · cases shortcut
    exact ⟨rfl, by assumption⟩
  · split at shortcut <;> cases shortcut

/-- A listing is printed only for a non-empty match set. -/
theorem findMatchingFlags_ne_nil_of_listing {programInvocationShortName : List Char}
    {pathSeparator : Char} {allFlags : List CommandLineFlagInfo} {cursorWord : List Char}
    {completions : List CompletionLine}
    (printed : printFlagCompletionInfo programInvocationShortName pathSeparator allFlags
      cursorWord = .listing completions) :
    (findMatchingFlags allFlags (canonicalizeCursorWordAndSearchOptions cursorWord {}).2
      (canonicalizeCursorWordAndSearchOptions cursorWord {}).1).1 ≠ [] := by
  unfold printFlagCompletionInfo at printed
  dsimp only at printed
  split at printed
  · cases printed
  split at printed
  · cases printed
  assumption

/-! ## Which output the run prints -/

/-- The decision at the end of `PrintFlagCompletionInfo`, for a match set
whose shared prefix is empty when it is and the longest common prefix of
`names` otherwise. -/
theorem decided_output {token shared : List Char} {found : List FlagPointer}
    {names : List (List Char)} {listing : List CompletionLine} {output : CompletionOutput}
    (emptyShared : found = [] → shared = [])
    (isShared : found ≠ [] → IsLongestCommonPrefix names shared)
    (decided : output = if token.length < shared.length then .commonPrefix shared
      else if found = [] then .nothing else .listing listing) :
    (output = .nothing ↔ found = []) ∧
      (∀ other, output = .commonPrefix other ↔
        found ≠ [] ∧ IsLongestCommonPrefix names other ∧ token.length < other.length) ∧
      ((∃ completions, output = .listing completions) ↔
        found ≠ [] ∧ ∀ other, IsLongestCommonPrefix names other → other.length ≤ token.length) := by
  subst decided
  by_cases empty : found = []
  · simp [empty, emptyShared empty]
  · have unique : ∀ {other}, IsLongestCommonPrefix names other → shared = other :=
      fun isOther => (isShared empty).unique isOther
    by_cases longer : token.length < shared.length
    · simp only [if_pos longer]
      refine ⟨⟨nofun, fun isEmpty => absurd isEmpty empty⟩, fun other => ⟨fun same => ?_, fun ⟨_, isOther, _⟩ => ?_⟩,
        ⟨nofun, fun ⟨_, bounded⟩ => absurd (bounded shared (isShared empty)) (by omega)⟩⟩
      · cases same
        exact ⟨empty, isShared empty, longer⟩
      · rw [unique isOther]
    · simp only [if_neg longer, if_neg empty]
      refine ⟨⟨nofun, fun isEmpty => absurd isEmpty empty⟩,
        fun other => ⟨nofun, fun ⟨_, isOther, otherLonger⟩ =>
          absurd (unique isOther ▸ otherLonger) longer⟩,
        ⟨fun _ => ⟨empty, fun other isOther => ?_⟩, fun _ => ⟨listing, rfl⟩⟩⟩
      rw [← unique isOther]
      omega

/-- Which of its three outputs the run prints, read off the flags that match
the canonical token: nothing exactly when none does; the shortcut exactly
when the longest common prefix of the matched names is longer than the
token, and then it prints that prefix; the listing otherwise. -/
theorem printFlagCompletionInfo_decides (programInvocationShortName : List Char)
    (pathSeparator : Char) (allFlags : List CommandLineFlagInfo) (cursorWord : List Char) :
    (printFlagCompletionInfo programInvocationShortName pathSeparator allFlags cursorWord =
        .nothing ↔
      ∀ flag ∈ allFlags, ¬ MatchesToken (canonicalizeCursorWordAndSearchOptions cursorWord {}).2
        (canonicalizeCursorWordAndSearchOptions cursorWord {}).1 flag) ∧
    (∀ shared, printFlagCompletionInfo programInvocationShortName pathSeparator allFlags
        cursorWord = .commonPrefix shared ↔
      (∃ flag ∈ allFlags, MatchesToken (canonicalizeCursorWordAndSearchOptions cursorWord {}).2
        (canonicalizeCursorWordAndSearchOptions cursorWord {}).1 flag) ∧
      IsLongestCommonPrefix ((allFlags.filter fun flag => doesSingleFlagMatch flag
          (canonicalizeCursorWordAndSearchOptions cursorWord {}).2
          (canonicalizeCursorWordAndSearchOptions cursorWord {}).1).map (·.name)) shared ∧
      (canonicalizeCursorWordAndSearchOptions cursorWord {}).1.length < shared.length) ∧
    ((∃ completions, printFlagCompletionInfo programInvocationShortName pathSeparator allFlags
        cursorWord = .listing completions) ↔
      (∃ flag ∈ allFlags, MatchesToken (canonicalizeCursorWordAndSearchOptions cursorWord {}).2
        (canonicalizeCursorWordAndSearchOptions cursorWord {}).1 flag) ∧
      ∀ shared, IsLongestCommonPrefix ((allFlags.filter fun flag => doesSingleFlagMatch flag
          (canonicalizeCursorWordAndSearchOptions cursorWord {}).2
          (canonicalizeCursorWordAndSearchOptions cursorWord {}).1).map (·.name)) shared →
        shared.length ≤ (canonicalizeCursorWordAndSearchOptions cursorWord {}).1.length) := by
  have someMatch : (∃ flag ∈ allFlags, MatchesToken
      (canonicalizeCursorWordAndSearchOptions cursorWord {}).2
      (canonicalizeCursorWordAndSearchOptions cursorWord {}).1 flag) ↔
      (findMatchingFlags allFlags (canonicalizeCursorWordAndSearchOptions cursorWord {}).2
        (canonicalizeCursorWordAndSearchOptions cursorWord {}).1).1 ≠ [] := by
    rw [ne_eq, findMatchingFlags_eq_nil_iff]
    push_neg
    rfl
  rw [someMatch, ← findMatchingFlags_eq_nil_iff, ← matchedNames_findMatchingFlags]
  exact decided_output findMatchingFlags_snd_of_fst_eq_nil
    (findMatchingFlags_consistent allFlags _ _) rfl

/-- A `+` added to a word that had none changes only the line limit: the
token, the matches and their shared prefix stay, so the run prints nothing
or the shortcut exactly when it did before, and the limit goes from 98 lines
to 999999. -/
theorem printFlagCompletionInfo_append_plus (programInvocationShortName : List Char)
    (pathSeparator : Char) (allFlags : List CommandLineFlagInfo) (cursorWord : List Char)
    (room : (canonicalizeCursorWordAndSearchOptions cursorWord {}).2.returnAllMatchingFlags =
      false) :
    (canonicalizeCursorWordAndSearchOptions (cursorWord ++ ['+']) {}).1 =
        (canonicalizeCursorWordAndSearchOptions cursorWord {}).1 ∧
      findMatchingFlags allFlags (canonicalizeCursorWordAndSearchOptions (cursorWord ++ ['+']) {}).2
          (canonicalizeCursorWordAndSearchOptions (cursorWord ++ ['+']) {}).1 =
        findMatchingFlags allFlags (canonicalizeCursorWordAndSearchOptions cursorWord {}).2
          (canonicalizeCursorWordAndSearchOptions cursorWord {}).1 ∧
      (printFlagCompletionInfo programInvocationShortName pathSeparator allFlags
          (cursorWord ++ ['+']) = .nothing ↔
        printFlagCompletionInfo programInvocationShortName pathSeparator allFlags cursorWord =
          .nothing) ∧
      (∀ shared, printFlagCompletionInfo programInvocationShortName pathSeparator allFlags
          (cursorWord ++ ['+']) = .commonPrefix shared ↔
        printFlagCompletionInfo programInvocationShortName pathSeparator allFlags cursorWord =
          .commonPrefix shared) ∧
      maxDesiredLines (canonicalizeCursorWordAndSearchOptions cursorWord {}).2 = 98 ∧
      maxDesiredLines (canonicalizeCursorWordAndSearchOptions (cursorWord ++ ['+']) {}).2 =
        999999 := by
  have plus := canonicalizeCursorWordAndSearchOptions_append_plus cursorWord room
  have found : findMatchingFlags allFlags
      (canonicalizeCursorWordAndSearchOptions (cursorWord ++ ['+']) {}).2
      (canonicalizeCursorWordAndSearchOptions (cursorWord ++ ['+']) {}).1 =
      findMatchingFlags allFlags (canonicalizeCursorWordAndSearchOptions cursorWord {}).2
        (canonicalizeCursorWordAndSearchOptions cursorWord {}).1 := by
    rw [plus]
    exact findMatchingFlags_returnAllMatchingFlags _ _ _ _
  refine ⟨by rw [plus], found, ?_, fun shared => ?_, by simp [maxDesiredLines, room],
    by simp [maxDesiredLines, plus]⟩ <;>
  · unfold printFlagCompletionInfo
    dsimp only
    rw [found, plus]
    split_ifs <;> simp

theorem printFlagCompletionInfo_append_plus_he :
    (canonicalizeCursorWordAndSearchOptions "he".toList {}).2.returnAllMatchingFlags = false ∧
      (canonicalizeCursorWordAndSearchOptions ("he".toList ++ ['+']) {}).1 =
        (canonicalizeCursorWordAndSearchOptions "he".toList {}).1 ∧
      findMatchingFlags [{ name := "help".toList }]
          (canonicalizeCursorWordAndSearchOptions ("he".toList ++ ['+']) {}).2
          (canonicalizeCursorWordAndSearchOptions ("he".toList ++ ['+']) {}).1 =
        findMatchingFlags [{ name := "help".toList }]
          (canonicalizeCursorWordAndSearchOptions "he".toList {}).2
          (canonicalizeCursorWordAndSearchOptions "he".toList {}).1 ∧
      (printFlagCompletionInfo "foo".toList '/' [{ name := "help".toList }]
          ("he".toList ++ ['+']) = .nothing ↔
        printFlagCompletionInfo "foo".toList '/' [{ name := "help".toList }] "he".toList =
          .nothing) ∧
      (∀ shared, printFlagCompletionInfo "foo".toList '/' [{ name := "help".toList }]
          ("he".toList ++ ['+']) = .commonPrefix shared ↔
        printFlagCompletionInfo "foo".toList '/' [{ name := "help".toList }] "he".toList =
          .commonPrefix shared) ∧
      maxDesiredLines (canonicalizeCursorWordAndSearchOptions "he".toList {}).2 = 98 ∧
      maxDesiredLines (canonicalizeCursorWordAndSearchOptions ("he".toList ++ ['+']) {}).2 =
        999999 := by
  have room : (canonicalizeCursorWordAndSearchOptions "he".toList {}).2.returnAllMatchingFlags =
      false := by
    rw [canonicalizeCursorWordAndSearchOptions_of_plain _ (by decide) (by decide) (by decide)
      (by decide)]
  exact ⟨room, printFlagCompletionInfo_append_plus _ _ _ _ room⟩

/-! ## The candidate groups partition the matches -/

section Partition

variable (pathSeparator : Char) (matchingFlags : List FlagPointer)
  (searchToken module packageDir : List Char)

/-- The candidate groups of categorised matches are the fibres of
`categorizeFlag` over the matches; the commonly-used group is empty. -/
theorem flatten_candidateGroups :
    ((candidateGroups matchingFlags (categorizeAllMatchingFlags pathSeparator matchingFlags
        searchToken module packageDir)).map DisplayInfoGroup.group).flatten =
      ([some .perfectMatch, some .module, some .package, some .subpackage, none].map
        fun chosen => matchingFlags.filter fun flag =>
          categorizeFlag pathSeparator searchToken module packageDir flag.info = chosen).flatten := by
  simp only [candidateGroups, otherGroup, retrieveUnusedFlags_categorizeAllMatchingFlags]
  rw [categorizeAllMatchingFlags_eq]
  simp [perfectMatchGroup, moduleGroup, packageGroup, mostCommonGroup, subpackageGroup, bucketOf]

theorem nodup_flatten_candidateGroups (nodup : matchingFlags.Nodup) :
    ((candidateGroups matchingFlags (categorizeAllMatchingFlags pathSeparator matchingFlags
        searchToken module packageDir)).map DisplayInfoGroup.group).flatten.Nodup := by
  rw [flatten_candidateGroups]
  exact nodup_flatten_fibres _ nodup (by decide)

theorem mem_of_mem_flatten_candidateGroups {flag : FlagPointer}
    (member : flag ∈ ((candidateGroups matchingFlags (categorizeAllMatchingFlags pathSeparator
        matchingFlags searchToken module packageDir)).map DisplayInfoGroup.group).flatten) :
    flag ∈ matchingFlags := by
  rw [flatten_candidateGroups] at member
  obtain ⟨fibre, inFibres, inFibre⟩ := List.mem_flatten.mp member
  obtain ⟨_, _, rfl⟩ := List.mem_map.mp inFibres
  exact (List.mem_filter.mp inFibre).1

end Partition

/-- A duplicate-free part of a duplicate-free list is as long as the list
exactly when it holds all of it. -/
theorem length_eq_iff_forall_mem {α : Type} {part whole : List α} (partNodup : part.Nodup)
    (wholeNodup : whole.Nodup) (within : part ⊆ whole) :
    part.length = whole.length ↔ ∀ item ∈ whole, item ∈ part := by
  have partSub := List.subperm_of_subset partNodup within
  constructor
  · intro same item member
    exact (partSub.perm_of_length_le same.ge).mem_iff.mpr member
  · intro covers
    exact le_antisymm partSub.length_le (List.subperm_of_subset wholeNodup covers).length_le

/-! ## The listing -/

/-- What a listing printed for `cursorWord` must satisfy: its flag lines name
distinct snapshot flags that match the canonical token, and its last entry is
the hidden-flags line exactly when some matching flag has no line, and the
lone `~` exactly when every matching flag has one. -/
def ListsMatchingFlags (allFlags : List CommandLineFlagInfo) (cursorWord : List Char)
    (completions : List CompletionLine) : Prop :=
  let canonical := canonicalizeCursorWordAndSearchOptions cursorWord {}
  let IsMatch := fun flag : FlagPointer =>
    flag ∈ snapshotPointers allFlags ∧ MatchesToken canonical.2 canonical.1 flag.info
  (emittedFlags completions).Nodup ∧ (∀ flag ∈ emittedFlags completions, IsMatch flag) ∧
    (completions.getLast? = some .remainingHidden ↔
      ∃ flag, IsMatch flag ∧ flag ∉ emittedFlags completions) ∧
    (completions.getLast? = some .noUpdate ↔
      ∀ flag, IsMatch flag → flag ∈ emittedFlags completions)

theorem printFlagCompletionInfo_listsMatchingFlags (programInvocationShortName : List Char)
    (pathSeparator : Char) (allFlags : List CommandLineFlagInfo) (cursorWord : List Char)
    (completions : List CompletionLine)
    (printed : printFlagCompletionInfo programInvocationShortName pathSeparator allFlags cursorWord =
      .listing completions) :
    ListsMatchingFlags allFlags cursorWord completions := by
  have listed := printFlagCompletionInfo_eq_listing printed
  dsimp only at listed
  subst listed
  unfold ListsMatchingFlags
  dsimp only
  generalize canonicalizeCursorWordAndSearchOptions cursorWord {} = canonical
  generalize tryFindModuleAndPackageDir programInvocationShortName pathSeparator allFlags = located
  have within := emittedFlags_finalizeCompletionOutput_sublist
    (findMatchingFlags allFlags canonical.2 canonical.1).1 canonical.2
    (categorizeAllMatchingFlags pathSeparator (findMatchingFlags allFlags canonical.2 canonical.1).1
      canonical.1 located.1 located.2)
  rw [emittedFlags_finalizeCompletionOutput] at within ⊢
  generalize emitOutputGroups _ _ _ = emitted at within ⊢
  have nodup := List.Nodup.sublist within
    (nodup_flatten_candidateGroups _ _ _ _ _ (nodup_findMatchingFlags _ _ _))
  have inMatches := fun flag member => mem_of_mem_flatten_candidateGroups _ _ _ _ _
    (within.subset (a := flag) member)
  have count := length_eq_iff_forall_mem nodup (nodup_findMatchingFlags _ _ _) inMatches
  have lineFlags : ∀ marker : CompletionLine, marker.flag? = none →
      emittedFlags (emitted.completions ++ [marker]) = emittedFlags emitted.completions :=
    fun marker unflagged => by simp [unflagged]
  simp only [← mem_findMatchingFlags]
  by_cases full : (emittedFlags emitted.completions).length =
    (findMatchingFlags allFlags canonical.2 canonical.1).1.length
  · rw [if_pos full, lineFlags .noUpdate rfl, List.getLast?_concat]
    exact ⟨nodup, inMatches, ⟨(fun same => by cases same),
      fun ⟨flag, member, missing⟩ => absurd (count.mp full flag member) missing⟩,
      ⟨fun _ => count.mp full, fun _ => rfl⟩⟩
  · rw [if_neg full, lineFlags .remainingHidden rfl, List.getLast?_concat]
    have missing := mt count.mpr full
    push_neg at missing
    exact ⟨nodup, inMatches, ⟨fun _ => missing, fun _ => rfl⟩,
      ⟨(fun same => by cases same), fun covers => absurd (count.mpr covers) full⟩⟩

set_option maxRecDepth 4000 in
theorem printFlagCompletionInfo_listsMatchingFlags_ab :
    printFlagCompletionInfo "foo".toList '/' [{ name := "ab".toList }, { name := "ac".toList }]
        "a".toList =
      .listing [.header [] "-* Other flags *-".toList, .underline [] "-* Other flags *-".toList,
        .flag [] false ⟨0, { name := "ab".toList }⟩, .flag [] false ⟨1, { name := "ac".toList }⟩,
        .noUpdate] ∧
      ListsMatchingFlags [{ name := "ab".toList }, { name := "ac".toList }] "a".toList
        [.header [] "-* Other flags *-".toList, .underline [] "-* Other flags *-".toList,
          .flag [] false ⟨0, { name := "ab".toList }⟩, .flag [] false ⟨1, { name := "ac".toList }⟩,
          .noUpdate] := by
  refine ⟨?printed, printFlagCompletionInfo_listsMatchingFlags _ _ _ _ _ ?printed⟩
  rw [printFlagCompletionInfo, canonicalizeCursorWordAndSearchOptions_of_plain _ (by decide)
    (by decide) (by decide) (by decide)]
  decide

/-! ## After the shortcut -/

/-- A character of a C identifier: a letter, a digit or an underscore. -/
def isIdentifierChar (c : Char) : Bool := c.isAlphanum || c == '_'

theorem isIdentifierChar_ne {c : Char} (ident : isIdentifierChar c = true) :
    c ≠ '-' ∧ c ≠ '"' ∧ c ≠ '?' ∧ c ≠ '+' := by
  refine ⟨?_, ?_, ?_, ?_⟩ <;> rintro rfl <;> exact absurd ident (by decide)

/-- The word the shell puts in place after a shortcut, `--<shared>`, reads as
`shared` with every switch off when `shared` is a non-empty run of identifier
characters. -/
theorem canonicalizeCursorWordAndSearchOptions_completed {shared : List Char}
    (nonempty : shared ≠ []) (ident : ∀ c ∈ shared, isIdentifierChar c = true) :
    canonicalizeCursorWordAndSearchOptions ("--".toList ++ shared) {} = (shared, {}) := by
  have undashed : stripLeadingDashes ("--".toList ++ shared) = shared := by
    obtain ⟨c, rest, rfl⟩ := List.exists_cons_of_ne_nil nonempty
    show stripLeadingDashes ('-' :: '-' :: c :: rest) = c :: rest
    simp only [stripLeadingDashes]
    exact stripLeadingDashes_of_head (by simpa using (isIdentifierChar_ne (ident c (.head _))).1)
  have plain : ∀ c, shared.getLast? = some c → c ≠ '?' ∧ c ≠ '+' := fun c last =>
    (isIdentifierChar_ne (ident c (List.mem_of_getLast?_eq_some last))).2.2
  rw [canonicalizeCursorWordAndSearchOptions_of_plain _ (by simp) (by simp)
    (by rw [undashed]; exact fun last => (plain _ last).1 rfl)
    (by rw [undashed]; exact fun last => (plain _ last).2 rfl), undashed]

/-- The shortcut `--<shared>` for `cursorWord` is stable: the run on the
completed word `--<shared>` prints a listing; its matches include those for
`cursorWord` and have `shared` as their longest common prefix; and when
`cursorWord` carries no `?`, the two match sets are the same. -/
def ShortcutIsStable (programInvocationShortName : List Char) (pathSeparator : Char)
    (allFlags : List CommandLineFlagInfo) (cursorWord shared : List Char) : Prop :=
  let first := canonicalizeCursorWordAndSearchOptions cursorWord {}
  let again := canonicalizeCursorWordAndSearchOptions ("--".toList ++ shared) {}
  let matched := (findMatchingFlags allFlags first.2 first.1).1
  let rematched := (findMatchingFlags allFlags again.2 again.1).1
  (∃ completions, printFlagCompletionInfo programInvocationShortName pathSeparator allFlags
      ("--".toList ++ shared) = .listing completions) ∧
    (∀ flag ∈ matched, flag ∈ rematched) ∧
    IsLongestCommonPrefix (rematched.map (·.info.name)) shared ∧
    (first.2.flagNameSubstringSearch = false → rematched = matched)

theorem printFlagCompletionInfo_shortcut_stable (programInvocationShortName : List Char)
    (pathSeparator : Char) (allFlags : List CommandLineFlagInfo) (cursorWord shared : List Char)
    (identifiers : ∀ flag ∈ allFlags, ∀ c ∈ flag.name, isIdentifierChar c = true)
    (shortcut : printFlagCompletionInfo programInvocationShortName pathSeparator allFlags
      cursorWord = .commonPrefix shared) :
    ShortcutIsStable programInvocationShortName pathSeparator allFlags cursorWord shared := by
  obtain ⟨isShared, longer⟩ := printFlagCompletionInfo_eq_commonPrefix shortcut
  unfold ShortcutIsStable
  dsimp only at isShared longer ⊢
  set first := canonicalizeCursorWordAndSearchOptions cursorWord {}
  set matched := (findMatchingFlags allFlags first.2 first.1).1
  have someMatch : matched ≠ [] := fun none => by
    rw [← isShared, findMatchingFlags_snd_of_fst_eq_nil none] at longer
    exact Nat.not_lt_zero _ longer
  have isLongest : IsLongestCommonPrefix (matched.map (·.info.name)) shared :=
    isShared ▸ findMatchingFlags_consistent _ _ _ someMatch
  have nonempty : shared ≠ [] := by
    rintro rfl
    exact Nat.not_lt_zero _ longer
  obtain ⟨flag, member⟩ := List.exists_mem_of_ne_nil matched someMatch
  have ident : ∀ c ∈ shared, isIdentifierChar c = true := fun c inShared =>
    identifiers flag.info (FlagPointer.info_mem_of_mem (mem_findMatchingFlags.mp member).1) c
      ((isLongest.1 _ (List.mem_map_of_mem _ member)).subset inShared)
  rw [canonicalizeCursorWordAndSearchOptions_completed nonempty ident]
  obtain ⟨covers, reLongest⟩ := findMatchingFlags_by_longestCommonPrefix isLongest
  have reNonempty := List.ne_nil_of_mem (covers flag member)
  have reShared := (findMatchingFlags_consistent _ _ _ reNonempty).unique reLongest
  refine ⟨?listing, covers, reLongest, fun noName => ?same⟩
  case listing =>
    rw [printFlagCompletionInfo, canonicalizeCursorWordAndSearchOptions_completed nonempty ident]
    dsimp only
    rw [if_neg (by rw [reShared]; exact lt_irrefl _), if_neg reNonempty]
    exact ⟨_, rfl⟩
  case same =>
    obtain ⟨noLocation, noDescription⟩ :=
      canonicalizeCursorWordAndSearchOptions_narrow cursorWord noName
    exact findMatchingFlags_by_longestCommonPrefix_eq noName noLocation noDescription isLongest

set_option maxRecDepth 4000 in
theorem printFlagCompletionInfo_shortcut_stable_hel :
    (∀ flag ∈ ([{ name := "help".toList }, { name := "hello".toList }] : List CommandLineFlagInfo),
        ∀ c ∈ flag.name, isIdentifierChar c = true) ∧
      printFlagCompletionInfo "foo".toList '/' [{ name := "help".toList }, { name := "hello".toList }]
        "he".toList = .commonPrefix "hel".toList ∧
      ShortcutIsStable "foo".toList '/' [{ name := "help".toList }, { name := "hello".toList }]
        "he".toList "hel".toList := by
  refine ⟨?identifiers, ?shortcut,
    printFlagCompletionInfo_shortcut_stable _ _ _ _ _ ?identifiers ?shortcut⟩
  case identifiers => decide
  case shortcut =>
    rw [printFlagCompletionInfo, canonicalizeCursorWordAndSearchOptions_of_plain _ (by decide)
      (by decide) (by decide) (by decide)]
    decide

/-! ## A line break in a help text -/

set_option maxRecDepth 4000 in
/-- The short format copies a help text with its line break, so one entry
takes two printed lines: the listing has five entries and the output six
lines. -/
theorem printFlagCompletionInfo_help_text_newline
    (describeOneFlag : CommandLineFlagInfo → List Char) :
    printFlagCompletionInfo "foo".toList '/'
        [{ name := "ab".toList, description := "x\ny".toList }, { name := "ac".toList }] "a".toList =
      .listing [.header [] "-* Other flags *-".toList, .underline [] "-* Other flags *-".toList,
        .flag [] false ⟨0, { name := "ab".toList, description := "x\ny".toList }⟩,
        .flag [] false ⟨1, { name := "ac".toList }⟩, .noUpdate] ∧
      (CompletionLine.flag [] false ⟨0, { name := "ab".toList, description := "x\ny".toList }⟩).text
        80 describeOneFlag = some "--ab [] x\ny".toList ∧
      (CompletionOutput.listing [.header [] "-* Other flags *-".toList,
        .underline [] "-* Other flags *-".toList,
        .flag [] false ⟨0, { name := "ab".toList, description := "x\ny".toList }⟩,
        .flag [] false ⟨1, { name := "ac".toList }⟩, .noUpdate]).stdout 80 describeOneFlag =
        some "-* Other flags *-\n-----------------\n--ab [] x\ny\n--ac [] \n~\n".toList ∧
      "-* Other flags *-\n-----------------\n--ab [] x\ny\n--ac [] \n~\n".toList.count '\n' = 6 := by
  refine ⟨?_, rfl, rfl, by decide⟩
  rw [printFlagCompletionInfo, canonicalizeCursorWordAndSearchOptions_of_plain _ (by decide)
    (by decide) (by decide) (by decide)]
  decide

end Completion
end Gflags
