import GflagsCompletions.Pipeline.ShellOrder

namespace Gflags
namespace Completion

/-!
# One entry per line

The shell reads the listing line by line, one completion a line, so an entry
whose text holds a line break becomes two completions.  The indentation of
every entry is spaces, the headers and footers are fixed texts, and a long
flag line replaces its line breaks by padding.  A short flag line copies the
flag's name, default and help text unchanged: these are the only places a
line break can come from.

The results below say that where no flag written in the short format has a
line break in those fields, splitting the output at its line breaks gives
back the texts of the entries, in order, and an empty tail.  Every listing
also ends in a sentinel starting with `~` and begins with an entry that does
not, so the candidates share no first character and the shell, which would
put their common prefix in place of the word, leaves the word as typed.
-/

/-! ## Splitting the output -/

theorem exists_of_mem_mapM {α β : Type} {f : α → Option β} :
    ∀ {items : List α} {results : List β}, items.mapM f = some results →
      ∀ result ∈ results, ∃ item ∈ items, f item = some result
  | [], _, mapped, _, member => by
    cases mapped
    cases member
  | item :: rest, results, mapped, result, member => by
    simp only [List.mapM_cons, Option.bind_eq_bind, Option.bind_eq_some, Option.pure_def,
      Option.some.injEq] at mapped
    obtain ⟨first, computed, others, restMapped, rfl⟩ := mapped
    rcases List.mem_cons.mp member with rfl | later
    · exact ⟨item, List.mem_cons_self _ _, computed⟩
    · obtain ⟨other, inRest, computedOther⟩ := exists_of_mem_mapM restMapped result later
      exact ⟨other, List.mem_cons_of_mem _ inRest, computedOther⟩

/-- Each text followed by a separator is the texts and an empty tail, joined
by the separator. -/
theorem flatten_map_append_singleton {α : Type} (separator : α) :
    ∀ texts : List (List α),
      (texts.map (· ++ [separator])).flatten = [separator].intercalate (texts ++ [[]])
  | [] => rfl
  | text :: rest => by
    obtain ⟨next, others, split⟩ := List.exists_cons_of_ne_nil
      (List.append_ne_nil_of_right_ne_nil rest (List.cons_ne_nil [] []))
    rw [List.map_cons, List.flatten_cons, flatten_map_append_singleton separator rest,
      List.cons_append, split]
    simp [List.intercalate, List.intersperse_cons_cons]

/-- When no entry's text holds a line break, the lines of the output are the
entries' texts. -/
theorem CompletionOutput.splitOn_stdout {columns : Int}
    {describeOneFlag : CommandLineFlagInfo → List Char} {completions : List CompletionLine}
    {output : List Char}
    (oneLine : ∀ line ∈ completions, ∀ text,
      line.text columns describeOneFlag = some text → '\n' ∉ text)
    (written :
      (CompletionOutput.listing completions).stdout columns describeOneFlag = some output) :
    ∃ texts, completions.mapM (CompletionLine.text columns describeOneFlag) = some texts ∧
      output.splitOn '\n' = texts ++ [[]] := by
  obtain ⟨texts, mapped, rfl⟩ := Option.map_eq_some'.mp written
  refine ⟨texts, mapped, ?_⟩
  rw [flatten_map_append_singleton]
  refine List.splitOn_intercalate _ '\n' ?_
    (List.append_ne_nil_of_right_ne_nil _ (List.cons_ne_nil _ _))
  intro text member
  rcases List.mem_append.mp member with rendered | tail
  · obtain ⟨line, inCompletions, computed⟩ := exists_of_mem_mapM mapped text rendered
    exact oneLine line inCompletions text computed
  · rw [List.mem_singleton.mp tail]
    exact List.not_mem_nil _

/-! ## Where the entries come from -/

/-- Every entry of the emission loop was there before, or is an entry of one
of its groups indented by spaces. -/
theorem mem_emitGroups (groups : List DisplayInfoGroup) :
    ∀ (indent : Nat) (longOutputFormat : Bool) (state : EmissionState) (line : CompletionLine),
      line ∈ (emitGroups indent longOutputFormat groups state).completions →
      line ∈ state.completions ∨ ∃ group ∈ groups,
        ∃ (spaces : Nat) (longFormat headed footed : Bool) (flags : List FlagPointer),
          line ∈ groupEntries (List.replicate spaces ' ') group.header group.footer longFormat
            headed footed flags := by
  intro indent longOutputFormat state line member
  obtain ⟨added, grown, fromGroups⟩ := emitGroups_appends groups indent longOutputFormat state
  rw [grown] at member
  rcases List.mem_append.mp member with old | new
  · exact .inl old
  · obtain ⟨group, inGroups, spaces, format, headed, footed, flags, -, -, entry⟩ :=
      fromGroups line new
    exact .inr ⟨group, inGroups, spaces, format, headed, footed, flags, entry⟩

theorem candidateGroups_newline_free (matchingFlags : List FlagPointer) (notable : NotableFlags) :
    ∀ group ∈ candidateGroups matchingFlags notable, '\n' ∉ group.header ∧ '\n' ∉ group.footer := by
  simp only [candidateGroups, List.mem_cons, List.mem_singleton, List.not_mem_nil, or_false]
  rintro group (rfl | rfl | rfl | rfl | rfl | rfl) <;>
    dsimp only [perfectMatchGroup, moduleGroup, packageGroup, mostCommonGroup, subpackageGroup,
      otherGroup] <;> exact ⟨by decide, by decide⟩

/-- The copied fields of a group's entry are spaces, the group's header or
footer, or the fields of a flag in the short format. -/
theorem groupEntries_copied {spaces : Nat} {header footer : List Char}
    {longOutputFormat headed footed : Bool} {flags : List FlagPointer} {line : CompletionLine}
    (member : line ∈ groupEntries (List.replicate spaces ' ') header footer longOutputFormat headed
      footed flags)
    (headerFree : '\n' ∉ header) (footerFree : '\n' ∉ footer)
    (shortFree : ∀ lineIndentation pointer, line = .flag lineIndentation false pointer →
      '\n' ∉ pointer.info.name ∧ '\n' ∉ pointer.info.defaultValue ∧
        '\n' ∉ pointer.info.description) :
    ∀ field ∈ line.copied, '\n' ∉ field := by
  have spacesFree : '\n' ∉ List.replicate spaces ' ' := fun inSpaces =>
    absurd (List.eq_of_mem_replicate inSpaces) (by decide)
  rcases mem_groupEntries.mp member with ⟨-, rfl | rfl⟩ | ⟨pointer, -, rfl⟩ | ⟨-, rfl⟩
  · simp [CompletionLine.copied, spacesFree, headerFree]
  · simp [CompletionLine.copied, spacesFree]
  · cases longOutputFormat with
    | false => simp [CompletionLine.copied, spacesFree, shortFree _ _ rfl]
    | true => simp [CompletionLine.copied, spacesFree]
  · simp [CompletionLine.copied, spacesFree, footerFree]

/-! ## The listing -/

/-- If no flag written in the short format has a line break in its name,
default or help text, every entry of a listing is one line of the output:
split at its line breaks, the output gives back the entries' texts, in
order, and an empty tail. -/
theorem printFlagCompletionInfo_one_line_per_entry {programInvocationShortName : List Char}
    {pathSeparator : Char} {allFlags : List CommandLineFlagInfo} {cursorWord : List Char}
    {completions : List CompletionLine} (columns : Int)
    (describeOneFlag : CommandLineFlagInfo → List Char)
    (printed : printFlagCompletionInfo programInvocationShortName pathSeparator allFlags
      cursorWord = .listing completions)
    (shortFree : ∀ lineIndentation pointer, CompletionLine.flag lineIndentation false pointer ∈
      completions → '\n' ∉ pointer.info.name ∧ '\n' ∉ pointer.info.defaultValue ∧
        '\n' ∉ pointer.info.description)
    {output : List Char}
    (written :
      (CompletionOutput.listing completions).stdout columns describeOneFlag = some output) :
    ∃ texts, completions.mapM (CompletionLine.text columns describeOneFlag) = some texts ∧
      output.splitOn '\n' = texts ++ [[]] := by
  refine CompletionOutput.splitOn_stdout (fun line member text rendered =>
    CompletionLine.newline_not_mem_text ?_ rendered) written
  have listed := printFlagCompletionInfo_eq_listing printed
  dsimp only at listed
  rw [listed] at member shortFree
  rcases List.mem_append.mp member with emitted | marker
  · rcases mem_emitGroups _ _ _ _ line emitted with
      initial | ⟨group, selected, _, _, _, _, _, entry⟩
    · cases initial
    · obtain ⟨headerFree, footerFree⟩ :=
        candidateGroups_newline_free _ _ group (mem_candidateGroups_of_selected selected)
      exact groupEntries_copied entry headerFree footerFree fun lineIndentation pointer isFlag =>
        shortFree lineIndentation pointer (List.mem_append_left _ (isFlag ▸ emitted))
  · rw [List.mem_singleton.mp marker]
    split <;> nofun

theorem printFlagCompletionInfo_one_line_per_entry_ab :
    printFlagCompletionInfo "foo".toList '/' [{ name := "ab".toList }, { name := "ac".toList }]
        "a".toList = .listing [.header [] "-* Other flags *-".toList, .underline [] "-* Other flags *-".toList,
          .flag [] false ⟨0, { name := "ab".toList }⟩, .flag [] false ⟨1, { name := "ac".toList }⟩,
          .noUpdate] ∧
      (∀ lineIndentation pointer, CompletionLine.flag lineIndentation false pointer ∈
        ([.header [] "-* Other flags *-".toList, .underline [] "-* Other flags *-".toList,
          .flag [] false ⟨0, { name := "ab".toList }⟩, .flag [] false ⟨1, { name := "ac".toList }⟩,
          .noUpdate] : List CompletionLine) →
        '\n' ∉ pointer.info.name ∧ '\n' ∉ pointer.info.defaultValue ∧
          '\n' ∉ pointer.info.description) ∧
      (CompletionOutput.listing [.header [] "-* Other flags *-".toList, .underline [] "-* Other flags *-".toList,
          .flag [] false ⟨0, { name := "ab".toList }⟩, .flag [] false ⟨1, { name := "ac".toList }⟩,
          .noUpdate]).stdout 80 (fun _ => [])
        = some "-* Other flags *-\n-----------------\n--ab [] \n--ac [] \n~\n".toList ∧
      ∃ texts, ([.header [] "-* Other flags *-".toList, .underline [] "-* Other flags *-".toList,
          .flag [] false ⟨0, { name := "ab".toList }⟩, .flag [] false ⟨1, { name := "ac".toList }⟩,
          .noUpdate] : List CompletionLine).mapM (CompletionLine.text 80 fun _ => []) = some texts ∧
        "-* Other flags *-\n-----------------\n--ab [] \n--ac [] \n~\n".toList.splitOn '\n' =
          texts ++ [[]] := by
  have shortFree : ∀ lineIndentation pointer, CompletionLine.flag lineIndentation false pointer ∈
      ([.header [] "-* Other flags *-".toList, .underline [] "-* Other flags *-".toList,
          .flag [] false ⟨0, { name := "ab".toList }⟩, .flag [] false ⟨1, { name := "ac".toList }⟩,
          .noUpdate] : List CompletionLine) →
      '\n' ∉ pointer.info.name ∧ '\n' ∉ pointer.info.defaultValue ∧
        '\n' ∉ pointer.info.description := by
    intro lineIndentation pointer member
    simp only [List.mem_cons, CompletionLine.flag.injEq, reduceCtorEq, false_or, or_false,
      List.mem_singleton, List.not_mem_nil] at member
    rcases member with ⟨-, -, rfl⟩ | ⟨-, -, rfl⟩ <;> decide
  refine ⟨?printed, shortFree, ?written,
    printFlagCompletionInfo_one_line_per_entry 80 _ ?printed shortFree ?written⟩
  · rw [printFlagCompletionInfo, canonicalizeCursorWordAndSearchOptions_of_plain _ (by decide)
      (by decide) (by decide) (by decide)]
    decide
  · decide

/-! ## The shell keeps the word -/

/-- The emission pass over selected groups whose first is non-empty writes
an entry. -/
theorem emitOutputGroups_ne_nil {maxDesiredLines : Int} {perfectMatchFound : Bool}
    {first : DisplayInfoGroup} (rest : List DisplayInfoGroup) (nonempty : first.group ≠ [])
    (room : 2 ≤ maxDesiredLines) :
    (emitOutputGroups maxDesiredLines perfectMatchFound (first :: rest)).completions ≠ [] := by
  obtain ⟨added, grown, -⟩ := emitGroups_appends rest ((first :: rest).length - 1 - 1) false
    (outputSingleGroupWithLimit first.group (List.replicate ((first :: rest).length - 1) ' ')
      first.header first.footer perfectMatchFound ⟨maxDesiredLines, 0, []⟩)
  rw [emitOutputGroups, emitGroups, grown]
  exact List.append_ne_nil_of_left_ne_nil
    (outputSingleGroupWithLimit_ne_nil _ _ _ _ _ nonempty room) _

/-- The texts of a shaped entry, some entries, and a sentinel: the first
text starts with a character other than the sentinel's `~`. -/
theorem no_shared_prefix_of_shaped {columns : Int}
    {describeOneFlag : CommandLineFlagInfo → List Char} {first sentinel : CompletionLine}
    {rest : List CompletionLine} {texts : List (List Char)} (shaped : first.WellShaped)
    (closing : sentinel = .noUpdate ∨ sentinel = .remainingHidden)
    (rendered : (first :: rest ++ [sentinel]).mapM (CompletionLine.text columns describeOneFlag) =
      some texts) :
    2 ≤ texts.length ∧ ∀ shared, (∀ text ∈ texts, shared <+: text) → shared = [] := by
  simp only [List.cons_append, List.mapM_cons, List.mapM_append, List.mapM_nil,
    Option.bind_eq_bind, Option.bind_eq_some, Option.pure_def, Option.some.injEq,
    exists_eq_left] at rendered
  obtain ⟨firstText, firstRendered, others,
    ⟨middle, -, lasts, ⟨lastText, lastRendered, _, rfl, rfl⟩, rfl⟩, rfl⟩ := rendered
  obtain ⟨common, c, d, below, ⟨leadRest, inLead⟩, ⟨tildeRest, inTilde⟩⟩ :=
    first.sortsBefore_tilde shaped
  have noCommon : common = [] := by
    have lengths := congrArg List.length inTilde
    simp only [List.length_append, List.length_singleton] at lengths
    exact List.length_eq_zero.mp (by omega)
  subst noCommon
  have tilde : d = '~' := (by simpa using inTilde : d = '~' ∧ tildeRest = []).1
  obtain ⟨firstRest, firstIs⟩ : ∃ firstRest, firstText = c :: firstRest := by
    obtain ⟨textRest, whole⟩ :=
      (CompletionLine.startsWith_lead columns describeOneFlag shaped) _ firstRendered
    exact ⟨leadRest ++ textRest, by rw [← whole, ← inLead]; simp⟩
  obtain ⟨lastRest, lastIs⟩ : ∃ lastRest, lastText = '~' :: lastRest := by
    rcases closing with rfl | rfl <;> cases lastRendered <;> exact ⟨_, rfl⟩
  refine ⟨by simp, fun shared starts => ?_⟩
  match shared, starts with
  | [], _ => rfl
  | s :: _, starts =>
    have fromFirst := (List.cons_prefix_cons.mp
      (firstIs ▸ starts firstText (List.mem_cons_self _ _))).1
    have fromLast := (List.cons_prefix_cons.mp
      (lastIs ▸ starts lastText (by simp))).1
    exact absurd below (by rw [← fromFirst, fromLast, tilde]; exact lt_irrefl _)

/-- A listing never has the shell complete the word: it offers at least two
candidates, and no character starts them all, so the common prefix the shell
could put in place of the word is empty. -/
theorem printFlagCompletionInfo_keeps_word {programInvocationShortName : List Char}
    {pathSeparator : Char} {allFlags : List CommandLineFlagInfo} {cursorWord : List Char}
    {completions : List CompletionLine} (columns : Int)
    (describeOneFlag : CommandLineFlagInfo → List Char)
    (printed : printFlagCompletionInfo programInvocationShortName pathSeparator allFlags
      cursorWord = .listing completions)
    {texts : List (List Char)}
    (rendered : completions.mapM (CompletionLine.text columns describeOneFlag) = some texts) :
    2 ≤ texts.length ∧ ∀ shared, (∀ text ∈ texts, shared <+: text) → shared = [] := by
  have listed := printFlagCompletionInfo_eq_listing printed
  dsimp only at listed
  obtain ⟨first, rest, selected, nonempty⟩ := selectOutputGroups_nonempty_head
    (canonicalizeCursorWordAndSearchOptions cursorWord {}).2
    (categorizeAllMatchingFlags pathSeparator
      (findMatchingFlags allFlags (canonicalizeCursorWordAndSearchOptions cursorWord {}).2
        (canonicalizeCursorWordAndSearchOptions cursorWord {}).1).1
      (canonicalizeCursorWordAndSearchOptions cursorWord {}).1
      (tryFindModuleAndPackageDir programInvocationShortName pathSeparator allFlags).1
      (tryFindModuleAndPackageDir programInvocationShortName pathSeparator allFlags).2)
    (findMatchingFlags_ne_nil_of_listing printed)
  have shaped := (emitOutputGroups_sorted
    (findMatchingFlags allFlags (canonicalizeCursorWordAndSearchOptions cursorWord {}).2
      (canonicalizeCursorWordAndSearchOptions cursorWord {}).1).1
    (canonicalizeCursorWordAndSearchOptions cursorWord {}).2
    (categorizeAllMatchingFlags pathSeparator
      (findMatchingFlags allFlags (canonicalizeCursorWordAndSearchOptions cursorWord {}).2
        (canonicalizeCursorWordAndSearchOptions cursorWord {}).1).1
      (canonicalizeCursorWordAndSearchOptions cursorWord {}).1
      (tryFindModuleAndPackageDir programInvocationShortName pathSeparator allFlags).1
      (tryFindModuleAndPackageDir programInvocationShortName pathSeparator allFlags).2)).2
  rw [selected] at listed shaped
  obtain ⟨entry, entries, emitted⟩ := List.exists_cons_of_ne_nil
    (emitOutputGroups_ne_nil rest nonempty (maxDesiredLines_ge_two _))
  rw [emitted] at listed shaped
  rw [listed] at rendered
  exact no_shared_prefix_of_shaped (shaped entry (List.mem_cons_self _ _))
    (by split <;> simp) rendered

theorem printFlagCompletionInfo_keeps_word_ab :
    printFlagCompletionInfo "foo".toList '/' [{ name := "ab".toList }, { name := "ac".toList }]
        "a".toList = .listing [.header [] "-* Other flags *-".toList, .underline [] "-* Other flags *-".toList,
          .flag [] false ⟨0, { name := "ab".toList }⟩, .flag [] false ⟨1, { name := "ac".toList }⟩,
          .noUpdate] ∧
      ([.header [] "-* Other flags *-".toList, .underline [] "-* Other flags *-".toList,
          .flag [] false ⟨0, { name := "ab".toList }⟩, .flag [] false ⟨1, { name := "ac".toList }⟩,
          .noUpdate] : List CompletionLine).mapM (CompletionLine.text 80 fun _ => []) =
        some ["-* Other flags *-".toList, "-----------------".toList, "--ab [] ".toList,
          "--ac [] ".toList, "~".toList] ∧
      2 ≤ (["-* Other flags *-".toList, "-----------------".toList, "--ab [] ".toList,
          "--ac [] ".toList, "~".toList] : List (List Char)).length ∧
      ∀ shared, (∀ text ∈ (["-* Other flags *-".toList, "-----------------".toList, "--ab [] ".toList,
          "--ac [] ".toList, "~".toList] : List (List Char)), shared <+: text) → shared = [] := by
  refine ⟨?printed, ?rendered, printFlagCompletionInfo_keeps_word 80 _ ?printed ?rendered⟩
  · rw [printFlagCompletionInfo, canonicalizeCursorWordAndSearchOptions_of_plain _ (by decide)
      (by decide) (by decide) (by decide)]
    decide
  · decide

end Completion
end Gflags
