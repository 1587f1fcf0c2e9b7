import GflagsCompletions.Output.FlagLines

namespace Gflags
namespace Completion

/-!
# Choosing the groups and spending the line budget

`FinalizeCompletionOutput` makes two passes.  The selection pass walks the
buckets in precedence order and keeps a group while the estimated lines of
the groups kept so far, `SizeInLines`, stay below the budget of 98 lines
(999999 with `+`).  The emission pass then writes each kept group through
`OutputSingleGroupWithLimit`, which spends a single shared counter: two lines
for a header with its underline, one per flag, one for a footer.  Finally
the number of flags written is compared with the size of the match set.

The emission pass keeps one invariant: the counter is never negative, the
entries written and the counter add up to the budget, and the flag counter
counts the flag lines written.  The selection estimate is never below the
lines a group really takes, except for the header-less first group, whose
estimate is one more; with every group taking at least three lines, no group
is dropped that the emission pass could have written in full.  When the
selection pass does leave a non-empty group out, fewer than two lines remain
after the groups it kept, so the groups it left out would write nothing.

Only the first group may lack a header, and a group with a header needs two
lines of room.  So once a group is cut short, at most one line is left and
every later group writes nothing: the flags written are the first flags of
the selected groups, in the order the groups are written.
-/

/-- `DisplayInfoGroup`. -/
structure DisplayInfoGroup where
  header : List Char
  footer : List Char
  group : List FlagPointer

namespace DisplayInfoGroup

/-- `DisplayInfoGroup::SizeInLines`. -/
def sizeInLines (group : DisplayInfoGroup) : Int :=
  group.group.length + 1 + (if group.header ≠ [] then 1 else 0) +
    (if group.footer ≠ [] then 1 else 0)

/-- The lines the group takes when written in full: its flags, the header
with its underline, the footer; nothing for an empty group. -/
def linesInFull (group : DisplayInfoGroup) : Nat :=
  if group.group = [] then 0
  else group.group.length + (if group.header ≠ [] then 2 else 0) +
    (if group.footer ≠ [] then 1 else 0)

end DisplayInfoGroup

/-- The group of the perfect match: no header, a footer of ten `=`. -/
def perfectMatchGroup (notable : NotableFlags) : DisplayInfoGroup :=
  ⟨[], "==========".toList, notable.perfectMatchFlag⟩

/-- The group of the module's flags. -/
def moduleGroup (notable : NotableFlags) : DisplayInfoGroup :=
  ⟨"-* Matching module flags *-".toList, "===========================".toList,
    notable.moduleFlags⟩

/-- The group of the package's flags. -/
def packageGroup (notable : NotableFlags) : DisplayInfoGroup :=
  ⟨"-* Matching package flags *-".toList, "============================".toList,
    notable.packageFlags⟩

/-- The group of the commonly used flags. -/
def mostCommonGroup (notable : NotableFlags) : DisplayInfoGroup :=
  ⟨"-* Commonly used flags *-".toList, "=========================".toList,
    notable.mostCommonFlags⟩

/-- The group of the sub-packages' flags. -/
def subpackageGroup (notable : NotableFlags) : DisplayInfoGroup :=
  ⟨"-* Matching sub-package flags *-".toList, "================================".toList,
    notable.subpackageFlags⟩

/-- The group of the remaining matches: a header, no footer. -/
def otherGroup (obscureFlags : List FlagPointer) : DisplayInfoGroup :=
  ⟨"-* Other flags *-".toList, [], obscureFlags⟩

/-- `max_desired_lines`. -/
def maxDesiredLines (options : CompletionOptions) : Int :=
  if options.returnAllMatchingFlags then 999999 else 98

/-- The state of the selection pass. -/
structure GroupSelection where
  linesSoFar : Int
  outputGroups : List DisplayInfoGroup

/-- One `if (lines_so_far < max_desired_lines && !group.empty())` block of
the selection pass. -/
def selectGroup (maxDesiredLines : Int) (selection : GroupSelection) (group : DisplayInfoGroup) :
    GroupSelection :=
  if selection.linesSoFar < maxDesiredLines ∧ group.group ≠ [] then
    ⟨selection.linesSoFar + group.sizeInLines, selection.outputGroups ++ [group]⟩
  else selection

/-- The selection pass after the perfect-match block, which alone skips the
budget test.  The block for the other flags computes `obscure_flags` only
when the budget test passes; the set is the same either way. -/
def selectOutputGroups (matchingFlags : List FlagPointer) (maxDesiredLines : Int)
    (notable : NotableFlags) : GroupSelection :=
  let selection : GroupSelection :=
    if notable.perfectMatchFlag ≠ [] then
      ⟨(perfectMatchGroup notable).sizeInLines, [perfectMatchGroup notable]⟩
    else ⟨0, []⟩
  let selection := selectGroup maxDesiredLines selection (moduleGroup notable)
  let selection := selectGroup maxDesiredLines selection (packageGroup notable)
  let selection := selectGroup maxDesiredLines selection (mostCommonGroup notable)
  let selection := selectGroup maxDesiredLines selection (subpackageGroup notable)
  selectGroup maxDesiredLines selection (otherGroup (retrieveUnusedFlags matchingFlags notable))

/-- The counters and the vector the emission pass threads through
`OutputSingleGroupWithLimit`. -/
structure EmissionState where
  remainingLineLimit : Int
  completionElementsOutput : Nat
  completions : List CompletionLine

/-- The flag loop of `OutputSingleGroupWithLimit`, which runs while lines
remain. -/
def outputFlagLines (lineIndentation : List Char) (longOutputFormat : Bool) :
    List FlagPointer → EmissionState → EmissionState
  | [], state => state
  | flag :: rest, state =>
    if 0 < state.remainingLineLimit then
      outputFlagLines lineIndentation longOutputFormat rest
        ⟨state.remainingLineLimit - 1, state.completionElementsOutput + 1,
          state.completions ++ [.flag lineIndentation longOutputFormat flag]⟩
    else state

/-- `OutputSingleGroupWithLimit`. -/
def outputSingleGroupWithLimit (group : List FlagPointer) (lineIndentation header footer : List Char)
    (longOutputFormat : Bool) (state : EmissionState) : EmissionState :=
  if group = [] then state
  else if header ≠ [] ∧ state.remainingLineLimit < 2 then state
  else
    let state : EmissionState :=
      if header ≠ [] then
        ⟨state.remainingLineLimit - 2, state.completionElementsOutput,
          state.completions ++ [.header lineIndentation header, .underline lineIndentation header]⟩
      else state
    let state := outputFlagLines lineIndentation longOutputFormat group state
    if footer ≠ [] ∧ 1 ≤ state.remainingLineLimit then
      ⟨state.remainingLineLimit - 1, state.completionElementsOutput,
        state.completions ++ [.footer lineIndentation footer]⟩
    else state

/-- The emission loop: `indent` spaces, one fewer for each later group, and
the long format for the first group only if it is the perfect match. -/
def emitGroups : Nat → Bool → List DisplayInfoGroup → EmissionState → EmissionState
  | _, _, [], state => state
  | indent, perfectMatchFound, group :: rest, state =>
    emitGroups (indent - 1) false rest
      (outputSingleGroupWithLimit group.group (List.replicate indent ' ') group.header
        group.footer perfectMatchFound state)

/-- The emission pass of `FinalizeCompletionOutput`, from a full counter. -/
def emitOutputGroups (maxDesiredLines : Int) (perfectMatchFound : Bool)
    (outputGroups : List DisplayInfoGroup) : EmissionState :=
  emitGroups (outputGroups.length - 1) perfectMatchFound outputGroups ⟨maxDesiredLines, 0, []⟩

/-- `FinalizeCompletionOutput`: the options with the verdict on
`force_no_update`, and the entries it adds. -/
def finalizeCompletionOutput (matchingFlags : List FlagPointer) (options : CompletionOptions)
    (notable : NotableFlags) : CompletionOptions × List CompletionLine :=
  let emitted := emitOutputGroups (maxDesiredLines options) (notable.perfectMatchFlag ≠ [])
    (selectOutputGroups matchingFlags (maxDesiredLines options) notable).outputGroups
  if emitted.completionElementsOutput ≠ matchingFlags.length then
    ({ options with forceNoUpdate := false }, emitted.completions ++ [.remainingHidden])
  else ({ options with forceNoUpdate := true }, emitted.completions)

/-- The flags of the flag lines among `lines`, in order. -/
def emittedFlags (lines : List CompletionLine) : List FlagPointer :=
  lines.filterMap CompletionLine.flag?

@[simp] theorem emittedFlags_nil : emittedFlags [] = [] := rfl

@[simp] theorem emittedFlags_append (first second : List CompletionLine) :
    emittedFlags (first ++ second) = emittedFlags first ++ emittedFlags second :=
  List.filterMap_append _ _ _

@[simp] theorem emittedFlags_cons (line : CompletionLine) (rest : List CompletionLine) :
    emittedFlags (line :: rest) = line.flag?.toList ++ emittedFlags rest := by
  cases line <;> rfl

@[simp] theorem emittedFlags_map_flag (lineIndentation : List Char) (longOutputFormat : Bool)
    (flags : List FlagPointer) :
    emittedFlags (flags.map (.flag lineIndentation longOutputFormat)) = flags := by
  induction flags with
  | nil => rfl
  | cons flag rest ih => simp [ih, CompletionLine.flag?]

/-! ## The flag loop -/

/-- The flag loop writes the first `remaining_line_limit` flags of the group. -/
theorem outputFlagLines_eq (lineIndentation : List Char) (longOutputFormat : Bool)
    (group : List FlagPointer) (state : EmissionState) (nonneg : 0 ≤ state.remainingLineLimit) :
    outputFlagLines lineIndentation longOutputFormat group state =
      ⟨state.remainingLineLimit - (group.take state.remainingLineLimit.toNat).length,
        state.completionElementsOutput + (group.take state.remainingLineLimit.toNat).length,
        state.completions ++
          (group.take state.remainingLineLimit.toNat).map (.flag lineIndentation longOutputFormat)⟩ := by
  induction group generalizing state with
  | nil => simp [outputFlagLines]
  | cons flag rest ih =>
    by_cases positive : 0 < state.remainingLineLimit
    · have shown : state.remainingLineLimit.toNat = (state.remainingLineLimit - 1).toNat + 1 := by
        omega
      rw [outputFlagLines, if_pos positive, ih _ (by simp only; omega), shown]
      simp only [List.take_succ_cons, List.length_cons, List.map_cons, List.append_assoc,
        List.singleton_append, EmissionState.mk.injEq, and_true]
      constructor <;> push_cast <;> omega
    · have none : state.remainingLineLimit.toNat = 0 := by omega
      simp [outputFlagLines, positive, none]

/-! ## The invariant of the emission pass -/

/-- The invariant of the emission pass for a budget of `budget` lines. -/
structure EmissionState.Accounted (budget : Int) (state : EmissionState) : Prop where
  nonneg : 0 ≤ state.remainingLineLimit
  balance : state.completions.length + state.remainingLineLimit = budget
  counted : state.completionElementsOutput = (emittedFlags state.completions).length

theorem outputFlagLines_accounted {budget : Int} (lineIndentation : List Char)
    (longOutputFormat : Bool) (group : List FlagPointer) {state : EmissionState}
    (accounted : state.Accounted budget) :
    (outputFlagLines lineIndentation longOutputFormat group state).Accounted budget := by
  obtain ⟨nonneg, balance, counted⟩ := accounted
  rw [outputFlagLines_eq _ _ _ _ nonneg]
  have within : ((group.take state.remainingLineLimit.toNat).length : Int) ≤
      state.remainingLineLimit := by
    have := List.length_take_le state.remainingLineLimit.toNat group
    omega
  refine ⟨by simp only; omega, ?_, ?_⟩
  · simp only [List.length_append, List.length_map]
    push_cast
    omega
  · simp only [emittedFlags_append, emittedFlags_map_flag, List.length_append, counted]

/-- A header with its underline, or a footer, keeps the invariant when the
counter pays for it. -/
theorem accounted_push {budget : Int} {state : EmissionState} (lines : List CompletionLine)
    (accounted : state.Accounted budget) (paid : lines.length ≤ state.remainingLineLimit)
    (noFlag : emittedFlags lines = []) :
    (⟨state.remainingLineLimit - lines.length, state.completionElementsOutput,
      state.completions ++ lines⟩ : EmissionState).Accounted budget := by
  obtain ⟨nonneg, balance, counted⟩ := accounted
  refine ⟨by simp only; omega, ?_, ?_⟩
  · simp only [List.length_append]
    push_cast
    omega
  · simp only [emittedFlags_append, noFlag, List.append_nil, counted]

/-- One group keeps the invariant: the step lemma of the emission loop. -/
theorem outputSingleGroupWithLimit_accounted {budget : Int} (group : List FlagPointer)
    (lineIndentation header footer : List Char) (longOutputFormat : Bool) {state : EmissionState}
    (accounted : state.Accounted budget) :
    (outputSingleGroupWithLimit group lineIndentation header footer longOutputFormat state).Accounted
      budget := by
  unfold outputSingleGroupWithLimit
  by_cases empty : group = []
  · rwa [if_pos empty]
  rw [if_neg empty]
  by_cases short : header ≠ [] ∧ state.remainingLineLimit < 2
  · rwa [if_pos short]
  rw [if_neg short]
  have headed : (if header ≠ [] then
      (⟨state.remainingLineLimit - 2, state.completionElementsOutput,
        state.completions ++ [.header lineIndentation header, .underline lineIndentation header]⟩ :
          EmissionState) else state).Accounted budget := by
    by_cases headerShown : header ≠ []
    · rw [if_pos headerShown]
      have room := not_and.mp short headerShown
      exact accounted_push [.header lineIndentation header, .underline lineIndentation header]
        accounted (by simp only [List.length_cons, List.length_nil]; omega) rfl
    · rwa [if_neg headerShown]
  have written := outputFlagLines_accounted lineIndentation longOutputFormat group headed
  dsimp only
  generalize outputFlagLines lineIndentation longOutputFormat group _ = after at written ⊢
  split
  · rename_i footed
    exact accounted_push [.footer lineIndentation footer] written
      (by simp only [List.length_singleton]; omega) rfl
  · exact written

/-- The run lemma of the emission loop. -/
theorem emitGroups_accounted {budget : Int} (indent : Nat) (perfectMatchFound : Bool)
    (groups : List DisplayInfoGroup) {state : EmissionState} (accounted : state.Accounted budget) :
    (emitGroups indent perfectMatchFound groups state).Accounted budget := by
  induction groups generalizing indent perfectMatchFound state with
  | nil => exact accounted
  | cons group rest ih =>
    exact ih _ _ (outputSingleGroupWithLimit_accounted _ _ _ _ _ accounted)

/-! ## Which flags the emission pass writes -/

/-- One group writes its first flags, and all of them unless at most one line
is left after it. -/
theorem outputSingleGroupWithLimit_cut (group : List FlagPointer)
    (lineIndentation header footer : List Char) (longOutputFormat : Bool) (state : EmissionState)
    (nonneg : 0 ≤ state.remainingLineLimit) :
    ∃ count, emittedFlags
        (outputSingleGroupWithLimit group lineIndentation header footer longOutputFormat
          state).completions = emittedFlags state.completions ++ group.take count ∧
      (group.length ≤ count ∨ (outputSingleGroupWithLimit group lineIndentation header footer
        longOutputFormat state).remainingLineLimit < 2) := by
  unfold outputSingleGroupWithLimit
  by_cases empty : group = []
  · exact ⟨0, by simp [empty], .inl (by simp [empty])⟩
  rw [if_neg empty]
  by_cases short : header ≠ [] ∧ state.remainingLineLimit < 2
  · exact ⟨0, by simp [short], .inr (by simp only [if_pos short]; exact short.2)⟩
  rw [if_neg short]
  have headed : ∃ middle : EmissionState, (if header ≠ [] then
      (⟨state.remainingLineLimit - 2, state.completionElementsOutput,
        state.completions ++ [.header lineIndentation header, .underline lineIndentation header]⟩ :
          EmissionState) else state) = middle ∧ 0 ≤ middle.remainingLineLimit ∧
        emittedFlags middle.completions = emittedFlags state.completions := by
    by_cases headerShown : header ≠ []
    · have room := not_and.mp short headerShown
      exact ⟨_, if_pos headerShown, by simp only; omega, by simp [CompletionLine.flag?]⟩
    · exact ⟨_, if_neg headerShown, nonneg, rfl⟩
  obtain ⟨middle, isMiddle, middleNonneg, middleFlags⟩ := headed
  dsimp only
  rw [isMiddle, outputFlagLines_eq _ _ _ _ middleNonneg]
  refine ⟨middle.remainingLineLimit.toNat, ?_, ?_⟩
  · split <;> simp only [emittedFlags_append, emittedFlags_map_flag, middleFlags,
      emittedFlags_cons, CompletionLine.flag?, Option.toList, emittedFlags_nil, List.append_nil,
      List.nil_append]
  · by_cases fits : group.length ≤ middle.remainingLineLimit.toNat
    · exact .inl fits
    · have taken : (group.take middle.remainingLineLimit.toNat).length =
          middle.remainingLineLimit.toNat := List.length_take_of_le (by omega)
      right
      split <;> simp only [taken] at * <;> omega

theorem outputSingleGroupWithLimit_emitted (group : List FlagPointer)
    (lineIndentation header footer : List Char) (longOutputFormat : Bool) (state : EmissionState)
    (nonneg : 0 ≤ state.remainingLineLimit) :
    ∃ count, emittedFlags
        (outputSingleGroupWithLimit group lineIndentation header footer longOutputFormat
          state).completions = emittedFlags state.completions ++ group.take count :=
  let ⟨count, written, _⟩ :=
    outputSingleGroupWithLimit_cut group lineIndentation header footer longOutputFormat state nonneg
  ⟨count, written⟩

theorem outputFlagLines_full (lineIndentation : List Char) (longOutputFormat : Bool)
    (group : List FlagPointer) (state : EmissionState)
    (fits : group.length ≤ state.remainingLineLimit) :
    outputFlagLines lineIndentation longOutputFormat group state =
      ⟨state.remainingLineLimit - group.length, state.completionElementsOutput + group.length,
        state.completions ++ group.map (.flag lineIndentation longOutputFormat)⟩ := by
  rw [outputFlagLines_eq _ _ _ _ (by omega), List.take_of_length_le (by omega)]

/-- A group whose lines fit the counter is written in full, and costs
exactly its lines. -/
theorem outputSingleGroupWithLimit_full (shown : DisplayInfoGroup) (lineIndentation : List Char)
    (longOutputFormat : Bool) (state : EmissionState)
    (fits : shown.linesInFull ≤ state.remainingLineLimit) :
    let after := outputSingleGroupWithLimit shown.group lineIndentation shown.header shown.footer
      longOutputFormat state
    after.remainingLineLimit = state.remainingLineLimit - shown.linesInFull ∧
      emittedFlags after.completions = emittedFlags state.completions ++ shown.group := by
  obtain ⟨header, footer, group⟩ := shown
  by_cases empty : group = []
  · simp [outputSingleGroupWithLimit, DisplayInfoGroup.linesInFull, empty]
  simp only [DisplayInfoGroup.linesInFull, empty, if_false] at fits ⊢
  unfold outputSingleGroupWithLimit
  rw [if_neg empty]
  by_cases headerShown : header = [] <;> by_cases footerShown : footer = [] <;>
    simp only [headerShown, footerShown, ne_eq, not_true_eq_false, not_false_eq_true, false_and,
      true_and, if_false, if_true, Nat.add_zero] at fits ⊢ <;>
    push_cast at fits ⊢
  · rw [outputFlagLines_full _ _ _ _ fits]
    simp
  · rw [outputFlagLines_full _ _ _ _ (by omega), if_pos (by simp only; omega)]
    simp only [emittedFlags_append, emittedFlags_map_flag, emittedFlags_cons, CompletionLine.flag?,
      Option.toList, emittedFlags_nil, List.append_nil, List.nil_append, and_true]
    omega
  · rw [if_neg (by omega), outputFlagLines_full _ _ _ _ (by simp only; omega)]
    simp only [emittedFlags_append, emittedFlags_map_flag, emittedFlags_cons, CompletionLine.flag?,
      Option.toList, emittedFlags_nil, List.append_nil, List.nil_append, and_true]
    omega
  · rw [if_neg (by omega), outputFlagLines_full _ _ _ _ (by simp only; omega),
      if_pos (by simp only; omega)]
    simp only [emittedFlags_append, emittedFlags_map_flag, emittedFlags_cons, CompletionLine.flag?,
      Option.toList, emittedFlags_nil, List.append_nil, List.nil_append, and_true]
    omega

/-- The run lemma for the flags: the emission loop writes a sublist of the
groups' flags. -/
theorem emitGroups_emitted {budget : Int} (indent : Nat) (perfectMatchFound : Bool)
    (groups : List DisplayInfoGroup) {state : EmissionState} (accounted : state.Accounted budget) :
    ∃ written, List.Sublist written (groups.map DisplayInfoGroup.group).flatten ∧
      emittedFlags (emitGroups indent perfectMatchFound groups state).completions =
        emittedFlags state.completions ++ written := by
  induction groups generalizing indent perfectMatchFound state with
  | nil => exact ⟨[], List.Sublist.slnil, by simp [emitGroups]⟩
  | cons group rest ih =>
    obtain ⟨count, first⟩ := outputSingleGroupWithLimit_emitted group.group
      (List.replicate indent ' ') group.header group.footer perfectMatchFound state accounted.nonneg
    obtain ⟨written, within, later⟩ := ih (indent - 1) false
      (outputSingleGroupWithLimit_accounted group.group _ _ _ _ accounted)
    refine ⟨group.group.take count ++ written,
      (List.take_sublist _ _).append within, ?_⟩
    rw [emitGroups, later, first, List.append_assoc]

/-! ## The counter cuts the order of the groups once -/

/-- A group with a header is skipped whole when fewer than two lines remain. -/
theorem outputSingleGroupWithLimit_of_short (group : List FlagPointer)
    (lineIndentation header footer : List Char) (longOutputFormat : Bool) (state : EmissionState)
    (headed : header ≠ []) (short : state.remainingLineLimit < 2) :
    outputSingleGroupWithLimit group lineIndentation header footer longOutputFormat state = state := by
  unfold outputSingleGroupWithLimit
  rw [if_pos (And.intro headed short)]
  exact ite_self state

/-- From fewer than two lines left, groups with headers write nothing. -/
theorem emitGroups_of_short (groups : List DisplayInfoGroup)
    (headed : ∀ group ∈ groups, group.header ≠ []) :
    ∀ (indent : Nat) (perfectMatchFound : Bool) (state : EmissionState),
      state.remainingLineLimit < 2 → emitGroups indent perfectMatchFound groups state = state := by
  induction groups with
  | nil => intros; rfl
  | cons group rest ih =>
    intro indent perfectMatchFound state short
    rw [emitGroups, outputSingleGroupWithLimit_of_short _ _ _ _ _ _
      (headed group (List.mem_cons_self _ _)) short]
    exact ih (fun other member => headed other (List.mem_cons_of_mem _ member)) _ _ _ short

/-- A non-empty group written from an empty vector with at least two lines
of room writes an entry. -/
theorem outputSingleGroupWithLimit_ne_nil (group : List FlagPointer)
    (lineIndentation header footer : List Char) (longOutputFormat : Bool) {budget : Int}
    (nonempty : group ≠ []) (room : 2 ≤ budget) :
    (outputSingleGroupWithLimit group lineIndentation header footer longOutputFormat
      ⟨budget, 0, []⟩).completions ≠ [] := by
  have accounted : (⟨budget, 0, []⟩ : EmissionState).Accounted budget :=
    ⟨by simp only; omega, by simp, rfl⟩
  obtain ⟨count, written, fullOrShort⟩ := outputSingleGroupWithLimit_cut group lineIndentation
    header footer longOutputFormat _ accounted.nonneg
  intro empty
  rw [empty] at written
  rcases fullOrShort with full | short
  · rw [List.take_of_length_le full] at written
    exact nonempty (by simpa using written.symm)
  · have balance := (outputSingleGroupWithLimit_accounted group lineIndentation header footer
      longOutputFormat accounted).balance
    rw [empty, List.length_nil, Nat.cast_zero, zero_add] at balance
    omega

/-- The run lemma of the cut: when every group after the first has a header,
the emission loop writes the first flags of the groups, taken in order. -/
theorem emitGroups_prefix {budget : Int} (groups : List DisplayInfoGroup)
    (headed : ∀ group ∈ groups.tail, group.header ≠ []) :
    ∀ (indent : Nat) (perfectMatchFound : Bool) (state : EmissionState),
      state.Accounted budget → ∃ written, written <+: (groups.map DisplayInfoGroup.group).flatten ∧
        emittedFlags (emitGroups indent perfectMatchFound groups state).completions =
          emittedFlags state.completions ++ written := by
  induction groups with
  | nil => exact fun _ _ _ _ => ⟨[], List.nil_prefix, by simp [emitGroups]⟩
  | cons group rest ih =>
    intro indent perfectMatchFound state accounted
    have restHeaded : ∀ other ∈ rest, other.header ≠ [] := headed
    obtain ⟨count, first, fullOrShort⟩ := outputSingleGroupWithLimit_cut group.group
      (List.replicate indent ' ') group.header group.footer perfectMatchFound state accounted.nonneg
    rw [emitGroups]
    rcases fullOrShort with full | short
    · obtain ⟨written, within, later⟩ := ih (fun other member => restHeaded other
        (List.mem_of_mem_tail member)) (indent - 1) false _
        (outputSingleGroupWithLimit_accounted _ _ _ _ _ accounted)
      rw [List.take_of_length_le full] at first
      refine ⟨group.group ++ written, (List.prefix_append_right_inj _).mpr within, ?_⟩
      rw [later, first, List.append_assoc]
    · refine ⟨group.group.take count, (List.take_prefix _ _).trans (List.prefix_append _ _), ?_⟩
      rw [emitGroups_of_short rest restHeaded _ _ _ short, first]

/-- Groups whose lines fit the counter are all written in full. -/
theorem emitGroups_full (indent : Nat) (perfectMatchFound : Bool) (groups : List DisplayInfoGroup)
    (state : EmissionState)
    (fits : ((groups.map DisplayInfoGroup.linesInFull).sum : Int) ≤ state.remainingLineLimit) :
    emittedFlags (emitGroups indent perfectMatchFound groups state).completions =
      emittedFlags state.completions ++ (groups.map DisplayInfoGroup.group).flatten := by
  induction groups generalizing indent perfectMatchFound state with
  | nil => simp [emitGroups]
  | cons group rest ih =>
    simp only [List.map_cons, List.sum_cons] at fits
    rw [Int.natCast_add] at fits
    obtain ⟨spent, written⟩ := outputSingleGroupWithLimit_full group
      (List.replicate indent ' ') perfectMatchFound state (by omega)
    rw [emitGroups, ih _ _ _ (by rw [spent]; omega), written]
    simp

/-- A group whose lines do not fit the counter leaves at most one line. -/
theorem outputSingleGroupWithLimit_of_overflow (shown : DisplayInfoGroup)
    (lineIndentation : List Char) (longOutputFormat : Bool) (state : EmissionState)
    (nonneg : 0 ≤ state.remainingLineLimit) (overflow : state.remainingLineLimit < shown.linesInFull) :
    (outputSingleGroupWithLimit shown.group lineIndentation shown.header shown.footer
      longOutputFormat state).remainingLineLimit < 2 := by
  obtain ⟨header, footer, group⟩ := shown
  by_cases empty : group = []
  · simp [DisplayInfoGroup.linesInFull, empty] at overflow
    omega
  simp only [DisplayInfoGroup.linesInFull, empty, if_false] at overflow
  unfold outputSingleGroupWithLimit
  rw [if_neg empty]
  by_cases short : header ≠ [] ∧ state.remainingLineLimit < 2
  · rw [if_pos short]
    exact short.2
  rw [if_neg short]
  dsimp only
  have room : header ≠ [] → 2 ≤ state.remainingLineLimit := fun headerShown =>
    not_lt.mp (not_and.mp short headerShown)
  by_cases headerShown : header = [] <;>
    simp only [headerShown, ne_eq, not_true_eq_false, not_false_eq_true, if_true, if_false,
      Nat.add_zero, forall_const] at overflow room ⊢ <;>
    split_ifs at overflow ⊢ <;>
    simp (disch := first | omega | (dsimp only; omega)) only [outputFlagLines_eq,
      List.length_take] at * <;>
    omega

/-- The counter after the emission loop: fewer than two lines are left, or
the counter paid exactly the full lines of every group. -/
theorem emitGroups_remaining {budget : Int} (groups : List DisplayInfoGroup) :
    ∀ (indent : Nat) (perfectMatchFound : Bool) (state : EmissionState), state.Accounted budget →
      (emitGroups indent perfectMatchFound groups state).remainingLineLimit < 2 ∨
        (emitGroups indent perfectMatchFound groups state).remainingLineLimit =
          state.remainingLineLimit - (groups.map DisplayInfoGroup.linesInFull).sum := by
  induction groups with
  | nil => exact fun _ _ _ _ => .inr (by simp [emitGroups])
  | cons group rest ih =>
    intro indent perfectMatchFound state accounted
    rw [emitGroups]
    simp only [List.map_cons, List.sum_cons, Nat.cast_add]
    rcases ih (indent - 1) false _ (outputSingleGroupWithLimit_accounted group.group
        (List.replicate indent ' ') group.header group.footer perfectMatchFound accounted) with
      short | paid
    · exact .inl short
    by_cases fits : (group.linesInFull : Int) ≤ state.remainingLineLimit
    · obtain ⟨spent, -⟩ := outputSingleGroupWithLimit_full group (List.replicate indent ' ')
        perfectMatchFound state fits
      exact .inr (by rw [paid, spent]; ring)
    · have short := outputSingleGroupWithLimit_of_overflow group (List.replicate indent ' ')
        perfectMatchFound state accounted.nonneg (by omega)
      exact .inl (by rw [paid]; omega)

/-- Emitting a concatenation emits its parts in turn. -/
theorem emitGroups_append (first second : List DisplayInfoGroup) :
    ∀ (indent : Nat) (perfectMatchFound : Bool) (state : EmissionState),
      emitGroups indent perfectMatchFound (first ++ second) state =
        emitGroups (indent - first.length) (perfectMatchFound && first.isEmpty) second
          (emitGroups indent perfectMatchFound first state) := by
  induction first with
  | nil => intros; simp [emitGroups]
  | cons group rest ih =>
    intro indent perfectMatchFound state
    rw [List.cons_append, emitGroups, ih, emitGroups, List.length_cons, Nat.sub_sub,
      Nat.add_comm 1, List.isEmpty_cons, Bool.and_false, Bool.false_and]

/-! ## The selection pass -/

/-- The groups the selection pass considers, in its order. -/
def candidateGroups (matchingFlags : List FlagPointer) (notable : NotableFlags) :
    List DisplayInfoGroup :=
  [perfectMatchGroup notable, moduleGroup notable, packageGroup notable, mostCommonGroup notable,
    subpackageGroup notable, otherGroup (retrieveUnusedFlags matchingFlags notable)]

/-- With a positive budget the perfect-match block, which skips the budget
test, selects as the other blocks do. -/
theorem selectOutputGroups_eq_foldl (matchingFlags : List FlagPointer) (maxDesiredLines : Int)
    (notable : NotableFlags) (positive : 0 < maxDesiredLines) :
    selectOutputGroups matchingFlags maxDesiredLines notable =
      (candidateGroups matchingFlags notable).foldl (selectGroup maxDesiredLines) ⟨0, []⟩ := by
  have first : selectGroup maxDesiredLines ⟨0, []⟩ (perfectMatchGroup notable) =
      if notable.perfectMatchFlag ≠ [] then
        ⟨(perfectMatchGroup notable).sizeInLines, [perfectMatchGroup notable]⟩
      else ⟨0, []⟩ := by
    by_cases empty : notable.perfectMatchFlag = [] <;>
      simp [selectGroup, empty, positive, perfectMatchGroup]
  simp only [candidateGroups, List.foldl_cons, List.foldl_nil, first]
  rfl

theorem foldl_selectGroup_sublist (maxDesiredLines : Int) (groups : List DisplayInfoGroup)
    (selection : GroupSelection) :
    ∃ chosen, List.Sublist chosen groups ∧
      (groups.foldl (selectGroup maxDesiredLines) selection).outputGroups =
        selection.outputGroups ++ chosen := by
  induction groups generalizing selection with
  | nil => exact ⟨[], List.Sublist.slnil, by simp⟩
  | cons group rest ih =>
    obtain ⟨chosen, within, selected⟩ := ih (selectGroup maxDesiredLines selection group)
    rw [List.foldl_cons, selected]
    unfold selectGroup
    split
    · exact ⟨group :: chosen, within.cons₂ group, by simp⟩
    · exact ⟨chosen, within.cons group, rfl⟩

/-- The selection pass chooses the perfect-match group first when there is a
perfect match, and then some of the other groups, in their order. -/
theorem selectOutputGroups_split (matchingFlags : List FlagPointer) (maxDesiredLines : Int)
    (notable : NotableFlags) :
    ∃ chosen, chosen.Sublist (candidateGroups matchingFlags notable).tail ∧
      (selectOutputGroups matchingFlags maxDesiredLines notable).outputGroups =
        (if notable.perfectMatchFlag ≠ [] then [perfectMatchGroup notable] else []) ++ chosen := by
  let first : GroupSelection := if notable.perfectMatchFlag ≠ [] then
      ⟨(perfectMatchGroup notable).sizeInLines, [perfectMatchGroup notable]⟩
    else ⟨0, []⟩
  obtain ⟨chosen, within, selected⟩ := foldl_selectGroup_sublist maxDesiredLines
    (candidateGroups matchingFlags notable).tail first
  have unrolled : selectOutputGroups matchingFlags maxDesiredLines notable =
      (candidateGroups matchingFlags notable).tail.foldl (selectGroup maxDesiredLines) first := rfl
  refine ⟨chosen, within, ?_⟩
  rw [unrolled, selected]
  simp only [first]
  split <;> rfl

theorem sizeInLines_of_header {group : DisplayInfoGroup} (headed : group.header ≠ [])
    (nonempty : group.group ≠ []) : group.sizeInLines = group.linesInFull := by
  simp only [DisplayInfoGroup.sizeInLines, DisplayInfoGroup.linesInFull, nonempty, headed,
    if_false, if_true, ne_eq, not_false_eq_true]
  split <;> push_cast <;> omega

/-- The estimate of a non-empty group is at most one line above its full
lines; it is one above for a group without a header. -/
theorem sizeInLines_le {group : DisplayInfoGroup} (nonempty : group.group ≠ []) :
    group.sizeInLines ≤ group.linesInFull + 1 := by
  simp only [DisplayInfoGroup.sizeInLines, DisplayInfoGroup.linesInFull, nonempty, if_false]
  split_ifs <;> push_cast <;> omega

/-- Over non-empty groups of which only the first may lack a header, the
estimates add up to at most one line above the full lines. -/
theorem sum_sizeInLines_le (groups : List DisplayInfoGroup)
    (nonempty : ∀ group ∈ groups, group.group ≠ [])
    (headed : ∀ group ∈ groups.tail, group.header ≠ []) :
    (groups.map DisplayInfoGroup.sizeInLines).sum ≤ (groups.map DisplayInfoGroup.linesInFull).sum + 1 := by
  cases groups with
  | nil => simp
  | cons first rest =>
    have estimated : (rest.map DisplayInfoGroup.sizeInLines).sum =
        (rest.map fun group => (group.linesInFull : Int)).sum :=
      congrArg List.sum (List.map_congr_left fun group member =>
        sizeInLines_of_header (headed group member) (nonempty group (List.mem_cons_of_mem _ member)))
    have firstEstimate := sizeInLines_le (nonempty first (List.mem_cons_self _ _))
    simp only [List.map_cons, List.sum_cons, estimated, Nat.cast_add, Nat.cast_list_sum, List.map_map,
      Function.comp_def]
    omega

/-- Groups with headers, whose full lines together fit the budget with two
lines to spare, are all selected. -/
theorem foldl_selectGroup_of_fits (maxDesiredLines : Int) (groups : List DisplayInfoGroup)
    (selection : GroupSelection) (headed : ∀ group ∈ groups, group.header ≠ [])
    (fits : selection.linesSoFar + ((groups.map DisplayInfoGroup.linesInFull).sum : Int) ≤
      maxDesiredLines + 2) :
    (groups.foldl (selectGroup maxDesiredLines) selection).outputGroups =
      selection.outputGroups ++ groups.filter (fun group => group.group ≠ []) := by
  induction groups generalizing selection with
  | nil => simp
  | cons group rest ih =>
    simp only [List.map_cons, List.sum_cons] at fits
    rw [Int.natCast_add] at fits
    have restHeaded := fun other member => headed other (List.mem_cons_of_mem _ member)
    rw [List.foldl_cons]
    by_cases empty : group.group = []
    · have skipped : selectGroup maxDesiredLines selection group = selection := by
        simp [selectGroup, empty]
      have free : group.linesInFull = 0 := by simp [DisplayInfoGroup.linesInFull, empty]
      rw [skipped, ih selection restHeaded (by omega)]
      simp [List.filter_cons, empty]
    · have atLeast : 3 ≤ group.linesInFull := by
        have nonempty := List.length_pos.mpr empty
        simp only [DisplayInfoGroup.linesInFull, empty, if_false,
          headed group (List.mem_cons_self _ _), ne_eq, not_false_eq_true, if_true]
        split <;> omega
      have taken : selectGroup maxDesiredLines selection group =
          ⟨selection.linesSoFar + group.linesInFull, selection.outputGroups ++ [group]⟩ := by
        rw [selectGroup, if_pos ⟨by omega, empty⟩,
          sizeInLines_of_header (headed group (List.mem_cons_self _ _)) empty]
      rw [taken, ih _ restHeaded (by simp only; omega)]
      simp [List.filter_cons, empty]

theorem sum_linesInFull_filter (groups : List DisplayInfoGroup) :
    ((groups.filter (fun group => group.group ≠ [])).map DisplayInfoGroup.linesInFull).sum =
      (groups.map DisplayInfoGroup.linesInFull).sum := by
  induction groups with
  | nil => rfl
  | cons group rest ih =>
    by_cases empty : group.group = []
    · rw [List.filter_cons_of_neg (by simp [empty]), ih]
      simp [empty, DisplayInfoGroup.linesInFull]
    · rw [List.filter_cons_of_pos (by simp [empty]), List.map_cons, List.sum_cons, ih]
      rfl

theorem flatten_group_filter (groups : List DisplayInfoGroup) :
    ((groups.filter (fun group => group.group ≠ [])).map DisplayInfoGroup.group).flatten =
      (groups.map DisplayInfoGroup.group).flatten := by
  induction groups with
  | nil => rfl
  | cons group rest ih =>
    by_cases empty : group.group = []
    · rw [List.filter_cons_of_neg (by simp [empty]), ih]
      simp [empty]
    · rw [List.filter_cons_of_pos (by simp [empty]), List.map_cons, List.flatten_cons, ih]
      rfl

/-- When every group fits the budget in full, the selection pass keeps every
non-empty group. -/
theorem selectOutputGroups_of_fits (matchingFlags : List FlagPointer) (maxDesiredLines : Int)
    (notable : NotableFlags) (positive : 0 < maxDesiredLines)
    (fits : (((candidateGroups matchingFlags notable).map DisplayInfoGroup.linesInFull).sum : Int) ≤
      maxDesiredLines) :
    (selectOutputGroups matchingFlags maxDesiredLines notable).outputGroups =
      (candidateGroups matchingFlags notable).filter (fun group => group.group ≠ []) := by
  rw [selectOutputGroups_eq_foldl _ _ _ positive]
  simp only [candidateGroups, List.map_cons, List.sum_cons] at fits ⊢
  push_cast at fits
  rw [List.foldl_cons, foldl_selectGroup_of_fits _ _ _ (by
    simp [moduleGroup, packageGroup, mostCommonGroup, subpackageGroup, otherGroup])]
  · by_cases empty : notable.perfectMatchFlag = []
    · simp [selectGroup, perfectMatchGroup, List.filter_cons, empty]
    · simp [selectGroup, perfectMatchGroup, List.filter_cons, empty, positive]
  · by_cases empty : notable.perfectMatchFlag = []
    · simp only [selectGroup, perfectMatchGroup, empty, ne_eq, not_true_eq_false, and_false,
        if_false]
      simp only [List.map_cons, List.sum_cons, List.map_nil, List.sum_nil] at fits ⊢
      omega
    · simp only [selectGroup, perfectMatchGroup, empty, positive, ne_eq, not_false_eq_true,
        and_self, if_true, DisplayInfoGroup.sizeInLines, DisplayInfoGroup.linesInFull,
        List.map_cons, List.sum_cons, List.map_nil, List.sum_nil] at fits ⊢
      simp only [empty, if_false, List.nil_eq, not_true_eq_false, if_false] at fits ⊢
      push_cast at fits ⊢
      omega

/-- Every match is in one of the candidate groups: a named bucket or the
unused flags. -/
theorem mem_flatten_candidateGroups {matchingFlags : List FlagPointer} {notable : NotableFlags}
    {flag : FlagPointer} (member : flag ∈ matchingFlags) :
    flag ∈ ((candidateGroups matchingFlags notable).map DisplayInfoGroup.group).flatten := by
  by_cases notableFlag : notable.IsNotable flag
  · rcases notableFlag with inBucket | inBucket | inBucket | inBucket | inBucket <;>
      simp [candidateGroups, perfectMatchGroup, moduleGroup, packageGroup, mostCommonGroup,
        subpackageGroup, inBucket]
  · simp [candidateGroups, otherGroup, retrieveUnusedFlags, member, notableFlag]

theorem maxDesiredLines_pos (options : CompletionOptions) : 0 < maxDesiredLines options := by
  unfold maxDesiredLines
  split <;> decide

theorem maxDesiredLines_ge_two (options : CompletionOptions) : 2 ≤ maxDesiredLines options := by
  unfold maxDesiredLines
  split <;> decide

/-- `FinalizeCompletionOutput` adds the entries of the emission pass, and the
marker for hidden flags when the counts differ. -/
theorem finalizeCompletionOutput_snd (matchingFlags : List FlagPointer)
    (options : CompletionOptions) (notable : NotableFlags) :
    let emitted := emitOutputGroups (maxDesiredLines options) (notable.perfectMatchFlag ≠ [])
      (selectOutputGroups matchingFlags (maxDesiredLines options) notable).outputGroups
    (finalizeCompletionOutput matchingFlags options notable).2 = emitted.completions ∨
      (finalizeCompletionOutput matchingFlags options notable).2 =
        emitted.completions ++ [.remainingHidden] := by
  unfold finalizeCompletionOutput
  dsimp only
  split
  · exact .inr rfl
  · exact .inl rfl

theorem emittedFlags_finalizeCompletionOutput (matchingFlags : List FlagPointer)
    (options : CompletionOptions) (notable : NotableFlags) :
    emittedFlags (finalizeCompletionOutput matchingFlags options notable).2 =
      emittedFlags (emitOutputGroups (maxDesiredLines options) (notable.perfectMatchFlag ≠ [])
        (selectOutputGroups matchingFlags (maxDesiredLines options) notable).outputGroups).completions := by
  unfold finalizeCompletionOutput
  dsimp only
  split <;> simp [CompletionLine.flag?]

theorem start_accounted (options : CompletionOptions) :
    (⟨maxDesiredLines options, 0, []⟩ : EmissionState).Accounted (maxDesiredLines options) :=
  ⟨(maxDesiredLines_pos options).le, by simp, rfl⟩

/-! ## Which flags the listing holds -/

theorem flatten_group_sublist {chosen groups : List DisplayInfoGroup}
    (within : List.Sublist chosen groups) :
    List.Sublist (chosen.map DisplayInfoGroup.group).flatten
      (groups.map DisplayInfoGroup.group).flatten := by
  induction within with
  | slnil => exact List.Sublist.slnil
  | cons group _ ih => simpa using ih.trans (List.sublist_append_right _ _)
  | cons₂ group _ ih => simpa using ih.append_left group.group

/-- `FinalizeCompletionOutput` writes flags of the candidate groups, in their
order, each at most as often as it occurs there. -/
theorem emittedFlags_finalizeCompletionOutput_sublist (matchingFlags : List FlagPointer)
    (options : CompletionOptions) (notable : NotableFlags) :
    List.Sublist (emittedFlags (finalizeCompletionOutput matchingFlags options notable).2)
      ((candidateGroups matchingFlags notable).map DisplayInfoGroup.group).flatten := by
  obtain ⟨written, within, emitted⟩ := emitGroups_emitted
    ((selectOutputGroups matchingFlags (maxDesiredLines options) notable).outputGroups.length - 1)
    (notable.perfectMatchFlag ≠ [])
    (selectOutputGroups matchingFlags (maxDesiredLines options) notable).outputGroups
    (start_accounted options)
  obtain ⟨chosen, chosenWithin, selected⟩ := foldl_selectGroup_sublist (maxDesiredLines options)
    (candidateGroups matchingFlags notable) ⟨0, []⟩
  rw [selectOutputGroups_eq_foldl _ _ _ (maxDesiredLines_pos options), selected,
    List.nil_append] at within
  rw [emittedFlags_finalizeCompletionOutput, emitOutputGroups, emitted, emittedFlags_nil,
    List.nil_append]
  exact within.trans (flatten_group_sublist chosenWithin)

/-- Every candidate group after the perfect match's has a header. -/
theorem candidateGroups_tail_headed (matchingFlags : List FlagPointer) (notable : NotableFlags) :
    ∀ group ∈ (candidateGroups matchingFlags notable).tail, group.header ≠ [] := by
  simp [candidateGroups, moduleGroup, packageGroup, mostCommonGroup, subpackageGroup, otherGroup]

/-- Only the first group the selection pass chooses may lack a header. -/
theorem selectOutputGroups_tail_headed (matchingFlags : List FlagPointer) (maxDesiredLines : Int)
    (notable : NotableFlags) :
    ∀ group ∈ (selectOutputGroups matchingFlags maxDesiredLines notable).outputGroups.tail,
      group.header ≠ [] := by
  obtain ⟨chosen, within, selected⟩ := selectOutputGroups_split matchingFlags maxDesiredLines notable
  have inChosen : ∀ group ∈ (selectOutputGroups matchingFlags maxDesiredLines notable).outputGroups.tail,
      group ∈ chosen := by
    rw [selected]
    split
    · exact fun _ member => member
    · exact fun _ member => List.mem_of_mem_tail member
  exact fun group member =>
    candidateGroups_tail_headed matchingFlags notable group (within.subset (inChosen group member))

/-- Selecting from groups of which one is non-empty, starting with nothing
selected and room left, selects a non-empty group first. -/
theorem foldl_selectGroup_head (maxDesiredLines : Int) (groups : List DisplayInfoGroup) :
    ∀ selection : GroupSelection, selection.linesSoFar < maxDesiredLines →
      selection.outputGroups = [] → (∃ group ∈ groups, group.group ≠ []) →
      ∃ first rest, (groups.foldl (selectGroup maxDesiredLines) selection).outputGroups =
        first :: rest ∧ first.group ≠ [] := by
  induction groups with
  | nil => exact fun _ _ _ ⟨_, member, _⟩ => absurd member (List.not_mem_nil _)
  | cons group others ih =>
    intro selection room nothing ⟨witness, member, nonempty⟩
    rw [List.foldl_cons]
    by_cases empty : group.group = []
    · have skipped : selectGroup maxDesiredLines selection group = selection := by
        simp [selectGroup, empty]
      rw [skipped]
      refine ih selection room nothing ⟨witness, ?_, nonempty⟩
      rcases List.mem_cons.mp member with rfl | later
      · exact absurd empty nonempty
      · exact later
    · obtain ⟨chosen, -, selected⟩ := foldl_selectGroup_sublist maxDesiredLines others
        (selectGroup maxDesiredLines selection group)
      refine ⟨group, chosen, ?_, empty⟩
      rw [selected, selectGroup, if_pos ⟨room, empty⟩, nothing]
      rfl

/-- With a match, the selection pass selects a non-empty group first. -/
theorem selectOutputGroups_nonempty_head {matchingFlags : List FlagPointer}
    (options : CompletionOptions) (notable : NotableFlags) (someMatch : matchingFlags ≠ []) :
    ∃ first rest,
      (selectOutputGroups matchingFlags (maxDesiredLines options) notable).outputGroups =
        first :: rest ∧ first.group ≠ [] := by
  obtain ⟨flag, member⟩ := List.exists_mem_of_ne_nil _ someMatch
  obtain ⟨group, inCandidates, inGroup⟩ :=
    List.mem_flatten.mp (@mem_flatten_candidateGroups _ notable _ member)
  obtain ⟨candidate, isCandidate, rfl⟩ := List.mem_map.mp inCandidates
  rw [selectOutputGroups_eq_foldl _ _ _ (maxDesiredLines_pos options)]
  exact foldl_selectGroup_head _ _ _ (maxDesiredLines_pos options) rfl
    ⟨candidate, isCandidate, List.ne_nil_of_mem inGroup⟩

/-- The flags written are the first flags of the selected groups, in the
order the groups are written. -/
theorem emittedFlags_prefix_selected (matchingFlags : List FlagPointer)
    (options : CompletionOptions) (notable : NotableFlags) :
    emittedFlags (finalizeCompletionOutput matchingFlags options notable).2 <+:
      ((selectOutputGroups matchingFlags (maxDesiredLines options) notable).outputGroups.map
        DisplayInfoGroup.group).flatten := by
  obtain ⟨written, within, emitted⟩ := emitGroups_prefix
    (selectOutputGroups matchingFlags (maxDesiredLines options) notable).outputGroups
    (selectOutputGroups_tail_headed matchingFlags (maxDesiredLines options) notable)
    ((selectOutputGroups matchingFlags (maxDesiredLines options) notable).outputGroups.length - 1)
    (notable.perfectMatchFlag ≠ []) _ (start_accounted options)
  rw [emittedFlags_finalizeCompletionOutput, emitOutputGroups, emitted, emittedFlags_nil,
    List.nil_append]
  exact within

/-- Once the estimate reaches the budget, the selection pass adds nothing. -/
theorem foldl_selectGroup_of_full (maxDesiredLines : Int) (groups : List DisplayInfoGroup)
    (selection : GroupSelection) (full : ¬ selection.linesSoFar < maxDesiredLines) :
    groups.foldl (selectGroup maxDesiredLines) selection = selection := by
  induction groups with
  | nil => rfl
  | cons group rest ih =>
    rw [List.foldl_cons, selectGroup, if_neg (fun room => full room.1), ih]

/-- The selection pass takes the non-empty groups in order while the estimate
stays below the budget: it splits them into the groups it adds, whose
estimates it counts, and the rest, which it leaves out only once the estimate
has reached the budget. -/
theorem foldl_selectGroup_split (maxDesiredLines : Int) (groups : List DisplayInfoGroup) :
    ∀ selection : GroupSelection, ∃ chosen dropped,
      groups.filter (fun group => group.group ≠ []) = chosen ++ dropped ∧
      (groups.foldl (selectGroup maxDesiredLines) selection).outputGroups =
        selection.outputGroups ++ chosen ∧
      (groups.foldl (selectGroup maxDesiredLines) selection).linesSoFar =
        selection.linesSoFar + (chosen.map DisplayInfoGroup.sizeInLines).sum ∧
      (dropped ≠ [] →
        maxDesiredLines ≤ (groups.foldl (selectGroup maxDesiredLines) selection).linesSoFar) := by
  induction groups with
  | nil => exact fun _ => ⟨[], [], rfl, by simp, by simp, fun none => absurd rfl none⟩
  | cons group rest ih =>
    intro selection
    rw [List.foldl_cons]
    by_cases empty : group.group = []
    · obtain ⟨chosen, dropped, whole, rest⟩ := ih selection
      refine ⟨chosen, dropped, by simpa [List.filter_cons, empty] using whole, ?_⟩
      rwa [selectGroup, if_neg (fun room => room.2 empty)]
    by_cases room : selection.linesSoFar < maxDesiredLines
    · obtain ⟨chosen, dropped, whole, selected, counted, stopped⟩ :=
        ih (selectGroup maxDesiredLines selection group)
      refine ⟨group :: chosen, dropped, by rw [List.filter_cons_of_pos (by simpa using empty), whole,
        List.cons_append], ?_, ?_, stopped⟩
      · rw [selected, selectGroup, if_pos ⟨room, empty⟩]
        simp
      · rw [counted, selectGroup, if_pos ⟨room, empty⟩]
        simp only [List.map_cons, List.sum_cons]
        ring
    · have skipped : selectGroup maxDesiredLines selection group = selection := by
        rw [selectGroup, if_neg (fun both => room both.1)]
      rw [skipped, foldl_selectGroup_of_full _ _ _ room]
      exact ⟨[], group :: rest.filter (fun group => group.group ≠ []),
        by simp [List.filter_cons, empty], by simp, by simp, fun _ => not_lt.mp room⟩

/-- The flags a listing shows are the first flags of the candidate groups in
display order: perfect match, module, package, commonly used, sub-package,
the rest.  The selection and the line budget cut that order once, and no
flag is shown after one that is left out. -/
theorem finalizeCompletionOutput_shows_leading_flags (matchingFlags : List FlagPointer)
    (options : CompletionOptions) (notable : NotableFlags) :
    emittedFlags (finalizeCompletionOutput matchingFlags options notable).2 <+:
      ((candidateGroups matchingFlags notable).map DisplayInfoGroup.group).flatten := by
  obtain ⟨chosen, dropped, whole, selected, -⟩ := foldl_selectGroup_split (maxDesiredLines options)
    (candidateGroups matchingFlags notable) ⟨0, []⟩
  have shown := emittedFlags_prefix_selected matchingFlags options notable
  rw [selectOutputGroups_eq_foldl _ _ _ (maxDesiredLines_pos options), selected] at shown
  simp only [List.nil_append] at shown
  rw [← flatten_group_filter, whole, List.map_append, List.flatten_append]
  exact shown.trans (List.prefix_append _ _)

/-- The entries `FinalizeCompletionOutput` adds, with what its caller appends
for `force_no_update`, end in the lone `~` when every match was written and
in the hidden-flags line otherwise. -/
theorem finalizeCompletionOutput_marker (matchingFlags : List FlagPointer)
    (options : CompletionOptions) (notable : NotableFlags) :
    (if (finalizeCompletionOutput matchingFlags options notable).1.forceNoUpdate then
        (finalizeCompletionOutput matchingFlags options notable).2 ++ [.noUpdate]
      else (finalizeCompletionOutput matchingFlags options notable).2) =
      (emitOutputGroups (maxDesiredLines options) (notable.perfectMatchFlag ≠ [])
        (selectOutputGroups matchingFlags (maxDesiredLines options) notable).outputGroups).completions ++
        [if (emittedFlags (finalizeCompletionOutput matchingFlags options notable).2).length =
            matchingFlags.length then .noUpdate else .remainingHidden] := by
  have counted := (emitGroups_accounted
    ((selectOutputGroups matchingFlags (maxDesiredLines options) notable).outputGroups.length - 1)
    (notable.perfectMatchFlag ≠ [])
    (selectOutputGroups matchingFlags (maxDesiredLines options) notable).outputGroups
    (start_accounted options)).counted
  rw [emittedFlags_finalizeCompletionOutput]
  unfold finalizeCompletionOutput emitOutputGroups at *
  dsimp only
  rw [← counted]
  split_ifs <;> simp_all

/-! ## The budget law -/

/-- The selection pass stops only where the emission pass runs out.  The
selected groups are the leading non-empty candidate groups; when some are
left out, fewer than two lines remain once the selected ones are written, so
that writing every non-empty candidate group, from the same start, writes the
same entries. -/
theorem selectOutputGroups_cut (matchingFlags : List FlagPointer) (maxDesiredLines : Int)
    (notable : NotableFlags) (positive : 0 < maxDesiredLines) (perfectMatchFound : Bool) :
    (selectOutputGroups matchingFlags maxDesiredLines notable).outputGroups <+:
        (candidateGroups matchingFlags notable).filter (fun group => group.group ≠ []) ∧
      ((selectOutputGroups matchingFlags maxDesiredLines notable).outputGroups ≠
          (candidateGroups matchingFlags notable).filter (fun group => group.group ≠ []) →
        (emitOutputGroups maxDesiredLines perfectMatchFound
          (selectOutputGroups matchingFlags maxDesiredLines notable).outputGroups).remainingLineLimit <
            2) ∧
      emitGroups ((selectOutputGroups matchingFlags maxDesiredLines notable).outputGroups.length - 1)
          perfectMatchFound ((candidateGroups matchingFlags notable).filter (fun group => group.group ≠ []))
          ⟨maxDesiredLines, 0, []⟩ =
        emitOutputGroups maxDesiredLines perfectMatchFound
          (selectOutputGroups matchingFlags maxDesiredLines notable).outputGroups := by
  obtain ⟨chosen, dropped, whole, selected, counted, stopped⟩ :=
    foldl_selectGroup_split maxDesiredLines (candidateGroups matchingFlags notable) ⟨0, []⟩
  have headed := selectOutputGroups_tail_headed matchingFlags maxDesiredLines notable
  rw [selectOutputGroups_eq_foldl _ _ _ positive] at headed ⊢
  simp only [List.nil_append, zero_add] at selected counted
  rw [selected] at headed ⊢
  rw [whole]
  have reached : dropped ≠ [] → maxDesiredLines ≤ (chosen.map DisplayInfoGroup.sizeInLines).sum :=
    fun some => counted ▸ stopped some
  have nonempty : ∀ group ∈ chosen, group.group ≠ [] := by
    intro group member
    have kept := List.mem_append_left dropped member
    rw [← whole, List.mem_filter] at kept
    simpa using kept.2
  have short : dropped ≠ [] →
      (emitOutputGroups maxDesiredLines perfectMatchFound chosen).remainingLineLimit < 2 := by
    intro some
    have estimated := sum_sizeInLines_le chosen nonempty headed
    rcases emitGroups_remaining chosen (chosen.length - 1) perfectMatchFound _
        (⟨positive.le, by simp, rfl⟩ : (⟨maxDesiredLines, 0, []⟩ : EmissionState).Accounted
          maxDesiredLines) with
      short | paid
    · exact short
    · have := reached some
      rw [emitOutputGroups, paid]
      simp only
      omega
  refine ⟨List.prefix_append _ _, fun differ => short fun none => differ (by rw [none,
    List.append_nil]), ?_⟩
  rw [emitGroups_append, ← emitOutputGroups]
  by_cases none : dropped = []
  · rw [none]
    rfl
  obtain ⟨first, others, rfl⟩ := List.exists_cons_of_ne_nil fun nothing : chosen = [] => by
    have := reached none
    simp only [nothing, List.map_nil, List.sum_nil] at this
    omega
  refine emitGroups_of_short dropped (fun group member => ?_) _ _ _ (short none)
  have later : group ∈ ((candidateGroups matchingFlags notable).filter
      (fun group => group.group ≠ [])).tail := by
    rw [whole]
    exact List.mem_append_right others member
  exact candidateGroups_tail_headed matchingFlags notable group
    ((List.filter_sublist _).tail.subset later)

/-- The budget law.  Over the loop of the emission pass the counter stays
non-negative and, with the entries written, makes up the budget; at most the
budget's worth of entries comes before the closing marker; a match goes
unwritten only when writing every non-empty group in full would exceed the
budget; and the estimate of `SizeInLines` drops no group the emission pass
could write: the selected groups lead the non-empty candidate groups, fewer
than two lines remain after them when any is left out, and writing every
non-empty candidate group writes the same entries. -/
theorem finalizeCompletionOutput_budget (matchingFlags : List FlagPointer)
    (options : CompletionOptions) (notable : NotableFlags) :
    (∀ iterations, (emitGroups
        ((selectOutputGroups matchingFlags (maxDesiredLines options) notable).outputGroups.length - 1)
        (notable.perfectMatchFlag ≠ [])
        ((selectOutputGroups matchingFlags (maxDesiredLines options) notable).outputGroups.take
          iterations)
        ⟨maxDesiredLines options, 0, []⟩).Accounted (maxDesiredLines options)) ∧
      (((finalizeCompletionOutput matchingFlags options notable).2.filter
        (· ≠ .remainingHidden)).length : Int) ≤ maxDesiredLines options ∧
      ((∃ flag ∈ matchingFlags,
          flag ∉ emittedFlags (finalizeCompletionOutput matchingFlags options notable).2) →
        maxDesiredLines options <
          ((candidateGroups matchingFlags notable).map DisplayInfoGroup.linesInFull).sum) ∧
      ((selectOutputGroups matchingFlags (maxDesiredLines options) notable).outputGroups <+:
          (candidateGroups matchingFlags notable).filter (fun group => group.group ≠ []) ∧
        ((selectOutputGroups matchingFlags (maxDesiredLines options) notable).outputGroups ≠
            (candidateGroups matchingFlags notable).filter (fun group => group.group ≠ []) →
          (emitOutputGroups (maxDesiredLines options) (notable.perfectMatchFlag ≠ [])
            (selectOutputGroups matchingFlags (maxDesiredLines options)
              notable).outputGroups).remainingLineLimit < 2) ∧
        emitGroups
            ((selectOutputGroups matchingFlags (maxDesiredLines options) notable).outputGroups.length - 1)
            (notable.perfectMatchFlag ≠ [])
            ((candidateGroups matchingFlags notable).filter (fun group => group.group ≠ []))
            ⟨maxDesiredLines options, 0, []⟩ =
          emitOutputGroups (maxDesiredLines options) (notable.perfectMatchFlag ≠ [])
            (selectOutputGroups matchingFlags (maxDesiredLines options) notable).outputGroups) := by
  have positive := maxDesiredLines_pos options
  have start := start_accounted options
  refine ⟨fun iterations => emitGroups_accounted _ _ _ start, ?_, ?_,
    selectOutputGroups_cut matchingFlags _ notable positive _⟩
  · have accounted := emitGroups_accounted
      ((selectOutputGroups matchingFlags (maxDesiredLines options) notable).outputGroups.length - 1)
      (notable.perfectMatchFlag ≠ [])
      (selectOutputGroups matchingFlags (maxDesiredLines options) notable).outputGroups start
    have := accounted.nonneg
    have := accounted.balance
    have shorter := List.length_filter_le (· ≠ CompletionLine.remainingHidden)
      (emitOutputGroups (maxDesiredLines options) (notable.perfectMatchFlag ≠ [])
        (selectOutputGroups matchingFlags (maxDesiredLines options) notable).outputGroups).completions
    unfold emitOutputGroups at shorter
    rcases finalizeCompletionOutput_snd matchingFlags options notable with same | hidden
    · rw [same]
      unfold emitOutputGroups
      omega
    · have dropped : [CompletionLine.remainingHidden].filter (· ≠ .remainingHidden) = [] := by
        decide
      rw [hidden, List.filter_append, dropped, List.append_nil]
      unfold emitOutputGroups
      omega
  · rintro ⟨flag, member, missing⟩
    by_contra within
    push_neg at within
    rw [emittedFlags_finalizeCompletionOutput, emitOutputGroups,
      selectOutputGroups_of_fits _ _ _ positive within,
      emitGroups_full _ _ _ _ (by rw [sum_linesInFull_filter]; exact within),
      flatten_group_filter] at missing
    exact missing (by simpa using mem_flatten_candidateGroups member)

end Completion
end Gflags
