import GflagsCompletions.Pipeline.ShellOrder

namespace Gflags
namespace Completion

/-!
# The long format is for the perfect match only

`FinalizeCompletionOutput` hands `perfect_match_found` to the first group as
its long-format switch and clears it after that group.  The switch is set
only when the perfect-match bucket is non-empty, and then the selection pass
has put the perfect-match group first, whatever else it selects; the other
groups are fibres of the categoriser that hold no flag named as the token.
So a listing opens with the long lines of the matches named as the canonical
token and has no other long line.  When the flag names of the snapshot are
distinct there is at most one such match.
-/

/-- Whether an entry is a flag line in the long format. -/
def CompletionLine.isLong : CompletionLine → Bool
  | .flag _ longOutputFormat _ => longOutputFormat
  | _ => false

/-- The groups after the perfect-match group hold no flag named as the token. -/
theorem name_ne_of_mem_candidateGroups_tail (pathSeparator : Char)
    (matchingFlags : List FlagPointer) (searchToken module packageDir : List Char) :
    ∀ group ∈ (candidateGroups matchingFlags (categorizeAllMatchingFlags pathSeparator
        matchingFlags searchToken module packageDir)).tail,
      ∀ flag ∈ group.group, flag.info.name ≠ searchToken := by
  intro group member flag inGroup named
  have perfect := (categorizeFlag_eq_perfectMatch_iff pathSeparator searchToken module packageDir
    flag.info).mpr named
  simp only [candidateGroups, otherGroup, retrieveUnusedFlags_categorizeAllMatchingFlags,
    List.tail_cons, List.mem_cons, List.mem_singleton, List.not_mem_nil, or_false] at member
  rcases member with rfl | rfl | rfl | rfl | rfl <;>
    simp [moduleGroup, packageGroup, mostCommonGroup, subpackageGroup,
      categorizeAllMatchingFlags_eq, bucketOf, perfect] at inGroup

/-- Started in the short format over groups that hold no flag named as the
token, the emission loop appends no long line and no line for such a flag. -/
theorem emitGroups_short {searchToken : List Char} (groups : List DisplayInfoGroup)
    (foreign : ∀ group ∈ groups, ∀ flag ∈ group.group, flag.info.name ≠ searchToken)
    (indent : Nat) (state : EmissionState) :
    ∃ added, (emitGroups indent false groups state).completions = state.completions ++ added ∧
      ∀ line ∈ added, line.isLong = false ∧ ∀ flag ∈ line.flag?, flag.info.name ≠ searchToken := by
  obtain ⟨added, grown, fromGroups⟩ := emitGroups_appends groups indent false state
  refine ⟨added, grown, fun line member => ?_⟩
  obtain ⟨group, inGroups, spaces, format, headed, footed, flags, short, leading, entry⟩ :=
    fromGroups line member
  rcases mem_groupEntries.mp entry with ⟨-, rfl | rfl⟩ | ⟨flag, inFlags, rfl⟩ | ⟨-, rfl⟩
  · exact ⟨rfl, nofun⟩
  · exact ⟨rfl, nofun⟩
  · refine ⟨Bool.eq_false_iff.mpr fun long => Bool.false_ne_true (short long), fun other found => ?_⟩
    cases Option.mem_def.mp found
    exact foreign group inGroups flag (leading.subset inFlags)
  · exact ⟨rfl, nofun⟩

/-- The lines the listing ends with: no flag line. -/
theorem isLong_marker (written listed : Nat) :
    ∀ line ∈ [if written = listed then CompletionLine.noUpdate else .remainingHidden],
      line.isLong = false ∧ line.flag? = none := by
  intro line member
  rw [List.mem_singleton.mp member]
  split <;> exact ⟨rfl, rfl⟩

/-- The emission pass opens with the long lines of some perfect matches, and
no later entry is in the long format or names a flag called as the token,
when the groups after the perfect-match group hold no such flag. -/
theorem emitOutputGroups_long_lead (matchingFlags : List FlagPointer) (maxDesiredLines : Int)
    (notable : NotableFlags) {token : List Char}
    (foreign : ∀ group ∈ (candidateGroups matchingFlags notable).tail,
      ∀ flag ∈ group.group, flag.info.name ≠ token) :
    ∃ (lineIndentation : List Char) (flags : List FlagPointer) (rest : List CompletionLine),
      (emitOutputGroups maxDesiredLines (notable.perfectMatchFlag ≠ [])
          (selectOutputGroups matchingFlags maxDesiredLines notable).outputGroups).completions =
        flags.map (.flag lineIndentation true) ++ rest ∧
      flags <+: notable.perfectMatchFlag ∧
      ∀ line ∈ rest, line.isLong = false ∧ ∀ flag ∈ line.flag?, flag.info.name ≠ token := by
  obtain ⟨chosen, within, selected⟩ :=
    selectOutputGroups_split matchingFlags maxDesiredLines notable
  have later := fun group member => foreign group (within.subset member)
  rw [emitOutputGroups, selected]
  by_cases perfect : notable.perfectMatchFlag = []
  case pos =>
    simp only [perfect, ne_eq, not_true_eq_false, decide_False, if_false, List.nil_append]
    obtain ⟨added, grown, short⟩ :=
      emitGroups_short chosen later (chosen.length - 1) ⟨maxDesiredLines, 0, []⟩
    exact ⟨[], [], added, grown, List.nil_prefix, short⟩
  case neg =>
    simp only [perfect, ne_eq, not_false_eq_true, decide_True, if_true, List.singleton_append,
      List.length_cons, Nat.add_sub_cancel]
    rw [emitGroups]
    obtain ⟨headed, footed, flags, headedNonempty, -, leading, appended⟩ :=
      outputSingleGroupWithLimit_written (perfectMatchGroup notable).group
        (List.replicate chosen.length ' ') (perfectMatchGroup notable).header
        (perfectMatchGroup notable).footer true ⟨maxDesiredLines, 0, []⟩
    obtain ⟨added, grown, short⟩ := emitGroups_short chosen later (chosen.length - 1)
      (outputSingleGroupWithLimit (perfectMatchGroup notable).group
        (List.replicate chosen.length ' ') (perfectMatchGroup notable).header
        (perfectMatchGroup notable).footer true ⟨maxDesiredLines, 0, []⟩)
    have headless : headed = false :=
      Bool.eq_false_iff.mpr fun isHeaded => headedNonempty isHeaded rfl
    refine ⟨List.replicate chosen.length ' ', flags, (if footed then
      [.footer (List.replicate chosen.length ' ') (perfectMatchGroup notable).footer] else []) ++
        added, ?_, leading, fun line member => ?_⟩
    · rw [grown, appended, headless]
      simp [groupEntries, perfectMatchGroup]
    · rcases List.mem_append.mp member with footer | new
      · split at footer
        · rw [List.mem_singleton.mp footer]
          exact ⟨rfl, nofun⟩
        · cases footer
      · exact short line new

/-- A listing opens with the long lines of some matches named as the canonical
token; no later entry is in the long format or names such a match. -/
theorem printFlagCompletionInfo_long_lead {programInvocationShortName : List Char}
    {pathSeparator : Char} {allFlags : List CommandLineFlagInfo} {cursorWord : List Char}
    {completions : List CompletionLine}
    (printed : printFlagCompletionInfo programInvocationShortName pathSeparator allFlags
      cursorWord = .listing completions) :
    let canonical := canonicalizeCursorWordAndSearchOptions cursorWord {}
    ∃ (lineIndentation : List Char) (flags : List FlagPointer) (rest : List CompletionLine),
      completions = flags.map (.flag lineIndentation true) ++ rest ∧
      flags.Sublist (findMatchingFlags allFlags canonical.2 canonical.1).1 ∧
      (∀ flag ∈ flags, flag.info.name = canonical.1) ∧
      ∀ line ∈ rest, line.isLong = false ∧ ∀ flag ∈ line.flag?, flag.info.name ≠ canonical.1 := by
  intro canonical
  have listed := printFlagCompletionInfo_eq_listing printed
  dsimp only at listed
  generalize (findMatchingFlags allFlags canonical.2 canonical.1).1 = matchingFlags at listed ⊢
  generalize tryFindModuleAndPackageDir programInvocationShortName pathSeparator allFlags =
    located at listed
  have perfectIs := perfectMatchFlag_categorizeAllMatchingFlags pathSeparator matchingFlags
    canonical.1 located.1 located.2
  obtain ⟨lineIndentation, flags, rest, opening, leading, short⟩ :=
    emitOutputGroups_long_lead matchingFlags (maxDesiredLines canonical.2) _
      (name_ne_of_mem_candidateGroups_tail pathSeparator matchingFlags canonical.1 located.1
        located.2)
  rw [perfectIs] at leading
  rw [opening, List.append_assoc] at listed
  refine ⟨lineIndentation, flags, _, listed, leading.sublist.trans (List.filter_sublist _),
    fun flag member => of_decide_eq_true (List.mem_filter.mp (leading.subset member)).2,
    fun line member => ?_⟩
  rcases List.mem_append.mp member with early | last
  · exact short line early
  · obtain ⟨notLong, noFlag⟩ := isLong_marker _ _ line last
    exact ⟨notLong, by rw [noFlag]; nofun⟩

/-- Flags of distinct names all named alike: at most one. -/
theorem length_le_one_of_named {flags : List FlagPointer} {token : List Char}
    (distinct : (flags.map fun flag => flag.info.name).Nodup)
    (named : ∀ flag ∈ flags, flag.info.name = token) : flags.length ≤ 1 := by
  have alike : (flags.map fun flag => flag.info.name) = List.replicate flags.length token :=
    List.eq_replicate_iff.mpr ⟨List.length_map _ _, fun name member => by
      obtain ⟨flag, inFlags, rfl⟩ := List.mem_map.mp member
      exact named flag inFlags⟩
  rw [alike] at distinct
  exact List.nodup_replicate.mp distinct

/-- With distinct flag names, the matches have distinct names. -/
theorem nodup_names_findMatchingFlags {allFlags : List CommandLineFlagInfo}
    (distinct : (allFlags.map CommandLineFlagInfo.name).Nodup) (options : CompletionOptions)
    (matchToken : List Char) :
    ((findMatchingFlags allFlags options matchToken).1.map fun flag => flag.info.name).Nodup := by
  have named : (fun flag : FlagPointer => flag.info.name) =
      CommandLineFlagInfo.name ∘ FlagPointer.info := rfl
  rw [named, ← List.map_map, map_info_findMatchingFlags]
  exact distinct.sublist ((List.filter_sublist _).map _)

/-- With distinct flag names, a flag line of a listing is in the long format
exactly when its flag is named as the canonical token; there is at most one
such line, and it opens the listing. -/
theorem printFlagCompletionInfo_long_format_first {programInvocationShortName : List Char}
    {pathSeparator : Char} {allFlags : List CommandLineFlagInfo} {cursorWord : List Char}
    {completions : List CompletionLine}
    (distinct : (allFlags.map CommandLineFlagInfo.name).Nodup)
    (printed : printFlagCompletionInfo programInvocationShortName pathSeparator allFlags
      cursorWord = .listing completions) :
    let token := (canonicalizeCursorWordAndSearchOptions cursorWord {}).1
    (∀ lineIndentation longOutputFormat pointer,
      CompletionLine.flag lineIndentation longOutputFormat pointer ∈ completions →
        (longOutputFormat = true ↔ pointer.info.name = token)) ∧
      (completions.filter CompletionLine.isLong).length ≤ 1 ∧
      ∀ line ∈ completions, line.isLong = true → completions.head? = some line := by
  intro token
  obtain ⟨lineIndentation, flags, rest, split, within, named, later⟩ :=
    printFlagCompletionInfo_long_lead printed
  have atMostOne : flags.length ≤ 1 := length_le_one_of_named
    ((nodup_names_findMatchingFlags distinct _ _).sublist (within.map _)) named
  rw [split]
  refine ⟨fun lineIndentation' longOutputFormat pointer member => ?_, ?_, fun line member long => ?_⟩
  · rcases List.mem_append.mp member with lead | tail
    · obtain ⟨flag, inFlags, same⟩ := List.mem_map.mp lead
      cases same
      exact ⟨fun _ => named _ inFlags, fun _ => rfl⟩
    · obtain ⟨short, foreign⟩ := later _ tail
      have short : longOutputFormat = false := short
      exact ⟨fun long => absurd (short ▸ long) Bool.false_ne_true,
        fun same => absurd same (foreign pointer rfl)⟩
  · have restShort : rest.filter CompletionLine.isLong = [] :=
      List.filter_eq_nil_iff.mpr fun line member => by simp [(later line member).1]
    rw [List.filter_append, restShort, List.append_nil, List.filter_eq_self.mpr, List.length_map]
    · exact atMostOne
    · intro line member
      obtain ⟨_, _, rfl⟩ := List.mem_map.mp member
      rfl
  · rcases List.mem_append.mp member with lead | tail
    · obtain ⟨flag, inFlags, rfl⟩ := List.mem_map.mp lead
      obtain ⟨first, rfl⟩ : ∃ first, flags = [first] := by
        match flags, atMostOne with
        | [], _ => cases inFlags
        | [first], _ => exact ⟨first, rfl⟩
      rw [List.mem_singleton.mp inFlags]
      rfl
    · exact absurd long (by simp [(later line tail).1])

set_option maxRecDepth 4000 in
theorem printFlagCompletionInfo_long_format_first_a :
    (([{ name := "a".toList }, { name := "ab".toList }] : List CommandLineFlagInfo).map
        CommandLineFlagInfo.name).Nodup ∧
      printFlagCompletionInfo "foo".toList '/' [{ name := "a".toList }, { name := "ab".toList }]
          "a".toList =
        .listing [.flag [' '] true ⟨0, { name := "a".toList }⟩,
          .footer [' '] "==========".toList, .header [] "-* Other flags *-".toList,
          .underline [] "-* Other flags *-".toList, .flag [] false ⟨1, { name := "ab".toList }⟩,
          .noUpdate] ∧
      let token := (canonicalizeCursorWordAndSearchOptions "a".toList {}).1
      (∀ lineIndentation longOutputFormat pointer,
        CompletionLine.flag lineIndentation longOutputFormat pointer ∈
          [.flag [' '] true ⟨0, { name := "a".toList }⟩,
            .footer [' '] "==========".toList, .header [] "-* Other flags *-".toList,
            .underline [] "-* Other flags *-".toList, .flag [] false ⟨1, { name := "ab".toList }⟩,
            .noUpdate] →
          (longOutputFormat = true ↔ pointer.info.name = token)) ∧
        ([CompletionLine.flag [' '] true ⟨0, { name := "a".toList }⟩,
            .footer [' '] "==========".toList, .header [] "-* Other flags *-".toList,
            .underline [] "-* Other flags *-".toList, .flag [] false ⟨1, { name := "ab".toList }⟩,
            .noUpdate].filter CompletionLine.isLong).length ≤ 1 ∧
        ∀ line ∈ [CompletionLine.flag [' '] true ⟨0, { name := "a".toList }⟩,
            .footer [' '] "==========".toList, .header [] "-* Other flags *-".toList,
            .underline [] "-* Other flags *-".toList, .flag [] false ⟨1, { name := "ab".toList }⟩,
            .noUpdate],
          line.isLong = true →
            [CompletionLine.flag [' '] true ⟨0, { name := "a".toList }⟩,
              .footer [' '] "==========".toList, .header [] "-* Other flags *-".toList,
              .underline [] "-* Other flags *-".toList, .flag [] false ⟨1, { name := "ab".toList }⟩,
              .noUpdate].head? = some line := by
  refine ⟨?distinct, ?printed, printFlagCompletionInfo_long_format_first ?distinct ?printed⟩
  case distinct => decide
  case printed =>
    rw [printFlagCompletionInfo, canonicalizeCursorWordAndSearchOptions_of_plain _ (by decide)
      (by decide) (by decide) (by decide)]
    decide

end Completion
end Gflags
