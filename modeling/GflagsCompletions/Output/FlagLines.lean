import GflagsCompletions.Search.Relevance

namespace Gflags
namespace Completion

open StdString

/-!
# Rendering one completion line

`GetShortFlagLine` writes `--name [default] ` and as much of the help text
as the terminal width leaves, cut with `...`.  `GetLongFlagLine` edits the
block `DescribeOneFlag` returns (a second dash before the name, a line break
before `type:` and `default:`), adds a heading and the defining file, drops
doubled line breaks, and finally replaces each line break by the spaces that
pad the line to the next multiple of the width.

`DescribeOneFlag` and `FLAGS_tab_completion_columns` are parameters.  The
completion code pushes each rendered line into a `vector<string>`; here the
vector holds `CompletionLine`s, each naming what it renders, and
`CompletionLine.text` is the string the code pushes for it; it is `none`
where `GetLongFlagLine` does not return.

The padding loop is a single pass whose only state is the column modulo the
width.  A break off a row boundary pads its row out, and the text after it
starts a row; a break on a boundary gets one space too few per row.  The two
loops of `GetLongFlagLine` change only spaces and line breaks, so every
character the terminal shows stays, in order.
-/

/-- The `SStringPrintf` into `prefix` of `GetShortFlagLine`:
`<indentation>--<name> [<default>] `, the default quoted for string flags. -/
def shortFlagPrefix (lineIndentation : List Char) (info : CommandLineFlagInfo) : List Char :=
  let quote := if info.type = "string".toList then "'".toList else []
  lineIndentation ++ "--".toList ++ info.name ++ " [".toList ++ quote ++ info.defaultValue ++
    quote ++ "] ".toList

/-- `GetShortFlagLine`.  `columns` is `FLAGS_tab_completion_columns`; the cut
length `remainder - 3` is an `int` handed to `substr` as a `size_t`. -/
def getShortFlagLine (columns : Int) (lineIndentation : List Char) (info : CommandLineFlagInfo) :
    List Char :=
  let prefixText := shortFlagPrefix lineIndentation info
  let remainder : Int := columns - prefixText.length
  let suffix :=
    if 0 < remainder then
      if remainder < info.description.length then
        substr info.description 0 (toSizeT (remainder - 3)) ++ "...".toList
      else info.description
    else []
  prefixText ++ suffix

/-- `kNewlineWithIndent`. -/
def newlineWithIndent : List Char := "\n    ".toList

/-- `kDoubledNewlines`: a line break, five spaces, a line break. -/
def doubledNewlines : List Char := "\n     \n".toList

theorem length_doubledNewlines : doubledNewlines.length = 7 := rfl

/-- The loop that replaces each doubled line break by a single one. -/
def eliminateDoubledNewlines (output : List Char) : List Char :=
  match found : find output doubledNewlines with
  | none => output
  | some newlines => eliminateDoubledNewlines (replace output newlines 7 "\n".toList)
termination_by output.length
decreasing_by
  have occurs := (find_eq_some _ _ _ found).1.length_le
  rw [List.length_drop, length_doubledNewlines] at occurs
  rw [length_replace _ _ _ _ (by omega)]
  show output.length - 7 + 1 < output.length
  omega

/-- The padding loop: each line break, found from the front, becomes
`line_of_spaces.substr(1, missing_spaces)`, where `line_of_spaces` holds
`columns` spaces. -/
def reflowNewlines (columns : Nat) (output : List Char) : List Char :=
  match found : find output ['\n'] with
  | none => output
  | some newline =>
    let newlinePos := newline % columns
    let missingSpaces := columns - newlinePos
    reflowNewlines columns
      (replace output newline 1 (substr (List.replicate columns ' ') 1 missingSpaces))
termination_by output.count '\n'
decreasing_by
  obtain ⟨⟨tail, split⟩, -⟩ := find_eq_some _ _ _ found
  have whole : output = output.take newline ++ '\n' :: tail := by
    conv_lhs => rw [← List.take_append_drop newline output]
    rw [← split]
    rfl
  have rest : output.drop (newline + 1) = tail := by
    rw [← List.drop_drop, ← split]
    rfl
  rw [replace, rest]
  conv_rhs => rw [whole]
  simp [substr, List.count_replicate]

/-- The padding loop as one pass from the left; `index` is the position the
next character lands on. -/
def reflowFrom (columns : Nat) : Nat → List Char → List Char
  | _, [] => []
  | index, c :: rest =>
    if c = '\n' then
      let spaces := min (columns - index % columns) (columns - 1)
      List.replicate spaces ' ' ++ reflowFrom columns (index + spaces) rest
    else c :: reflowFrom columns (index + 1) rest

/-- The loop, which searches from the front each time, is the one pass: the
part before the first remaining line break has none. -/
theorem reflowNewlines_append (columns : Nat) (rest : List Char) {lead : List Char}
    (free : '\n' ∉ lead) :
    reflowNewlines columns (lead ++ rest) = lead ++ reflowFrom columns lead.length rest := by
  induction rest generalizing lead with
  | nil =>
    rw [reflowNewlines]
    split
    · simp [reflowFrom]
    · rename_i found
      simp [StdString.find_singleton_eq_none free] at found
  | cons c rest ih =>
    by_cases newline : c = '\n'
    · subst c
      have spaceFree : '\n' ∉ lead ++ List.replicate
          (min (columns - lead.length % columns) (columns - 1)) ' ' := by
        simp [free, List.mem_replicate]
      rw [reflowNewlines]
      split
      · rename_i found
        simp [StdString.find_singleton_append rest free] at found
      · rename_i newline found
        rw [StdString.find_singleton_append rest free, Option.some.injEq] at found
        subst newline
        have spaces : substr (List.replicate columns ' ') 1 (columns - lead.length % columns) =
            List.replicate (min (columns - lead.length % columns) (columns - 1)) ' ' := by
          simp [substr, List.drop_replicate, List.take_replicate, min_comm]
        have kept : (lead ++ '\n' :: rest).take lead.length = lead := List.take_left _ _
        have dropped : (lead ++ '\n' :: rest).drop (lead.length + 1) = rest := by
          rw [List.drop_append]
          rfl
        simp only [replace, kept, dropped, spaces]
        rw [ih spaceFree]
        simp [reflowFrom]
    · have charFree : '\n' ∉ lead ++ [c] := by simp [free, Ne.symm newline]
      have := ih charFree
      simp only [List.append_assoc, List.singleton_append, List.length_append,
        List.length_singleton] at this
      simp [this, reflowFrom, newline]

theorem newline_not_mem_reflowFrom (columns index : Nat) (output : List Char) :
    '\n' ∉ reflowFrom columns index output := by
  induction output generalizing index with
  | nil => simp [reflowFrom]
  | cons c rest ih =>
    by_cases newline : c = '\n'
    · simp [reflowFrom, newline, List.mem_replicate, ih]
    · simp [reflowFrom, newline, Ne.symm newline, ih]

theorem reflowNewlines_eq_reflowFrom (columns : Nat) (output : List Char) :
    reflowNewlines columns output = reflowFrom columns 0 output := by
  simpa using @reflowNewlines_append columns output [] (List.not_mem_nil _)

/-- No line break survives the padding loop. -/
theorem newline_not_mem_reflowNewlines (columns : Nat) (output : List Char) :
    '\n' ∉ reflowNewlines columns output := by
  rw [reflowNewlines_eq_reflowFrom]
  exact newline_not_mem_reflowFrom columns 0 output

/-! ## The rows of the padded line -/

/-- The pass over two parts is the pass over the first, then the pass over
the second from where the first stopped. -/
theorem reflowFrom_append (columns : Nat) (second first : List Char) :
    ∀ index, reflowFrom columns index (first ++ second) =
      reflowFrom columns index first ++
        reflowFrom columns (index + (reflowFrom columns index first).length) second := by
  induction first with
  | nil => simp [reflowFrom]
  | cons c rest ih =>
    intro index
    by_cases newline : c = '\n'
    · simp only [List.cons_append, reflowFrom, if_pos newline, List.append_eq, ih,
        List.append_assoc, List.length_append, List.length_replicate, Nat.add_assoc]
    · simp only [List.cons_append, reflowFrom, if_neg newline, List.append_eq, ih,
        List.length_cons, Nat.add_right_comm _ 1, Nat.add_assoc]

/-- The pass depends on the position only modulo the width. -/
theorem reflowFrom_congr_mod (columns : Nat) (output : List Char) :
    ∀ {index other : Nat}, index % columns = other % columns →
      reflowFrom columns index output = reflowFrom columns other output := by
  induction output with
  | nil => intros; rfl
  | cons c rest ih =>
    intro index other same
    by_cases newline : c = '\n'
    · simp only [reflowFrom, if_pos newline, same]
      rw [ih (Nat.add_mod_eq_add_mod_right _ same)]
    · simp only [reflowFrom, if_neg newline]
      rw [ih (Nat.add_mod_eq_add_mod_right 1 same)]

/-- Padding a position by the columns missing from its row reaches a row
boundary. -/
theorem add_padding_mod (columns position : Nat) (positive : 0 < columns) :
    (position + (columns - position % columns)) % columns = 0 % columns := by
  have below := Nat.mod_lt position positive
  have split := Nat.mod_add_div position columns
  have whole : position + (columns - position % columns) = columns * (position / columns + 1) := by
    rw [Nat.mul_add, Nat.mul_one]
    omega
  rw [whole, Nat.mul_mod_right, Nat.zero_mod]

/-- A line break that does not fall on a row boundary pads its row out with
spaces, and the text after it is laid out as if it began the output, at the
start of a row. -/
theorem reflowNewlines_pads_row (columns : Nat) (positive : 0 < columns) (front back : List Char)
    (offRow : (reflowNewlines columns front).length % columns ≠ 0) :
    reflowNewlines columns (front ++ '\n' :: back) =
      reflowNewlines columns front ++
        List.replicate (columns - (reflowNewlines columns front).length % columns) ' ' ++
        reflowNewlines columns back := by
  simp only [reflowNewlines_eq_reflowFrom] at offRow ⊢
  have below := Nat.mod_lt (reflowFrom columns 0 front).length positive
  have spaces : min (columns - (reflowFrom columns 0 front).length % columns) (columns - 1) =
      columns - (reflowFrom columns 0 front).length % columns := by omega
  rw [reflowFrom_append, Nat.zero_add, reflowFrom, if_pos rfl]
  dsimp only
  rw [spaces, List.append_assoc,
    reflowFrom_congr_mod columns back (add_padding_mod columns _ positive)]

theorem reflowNewlines_pads_row_ab :
    0 < 4 ∧ (reflowNewlines 4 "ab".toList).length % 4 ≠ 0 ∧
      reflowNewlines 4 ("ab".toList ++ '\n' :: "cd".toList) =
        reflowNewlines 4 "ab".toList ++
          List.replicate (4 - (reflowNewlines 4 "ab".toList).length % 4) ' ' ++
          reflowNewlines 4 "cd".toList := by
  have offRow : (reflowNewlines 4 "ab".toList).length % 4 ≠ 0 := by
    rw [reflowNewlines_eq_reflowFrom]
    decide
  exact ⟨by decide, offRow, reflowNewlines_pads_row 4 (by decide) _ _ offRow⟩

/-- A line break on a row boundary is replaced by `columns - 1` spaces: the
text after it is laid out from the last column of a row, one column short of
the next row. -/
theorem reflowNewlines_on_row_boundary (columns : Nat) (front back : List Char)
    (onRow : (reflowNewlines columns front).length % columns = 0) :
    reflowNewlines columns (front ++ '\n' :: back) =
      reflowNewlines columns front ++ List.replicate (columns - 1) ' ' ++
        reflowFrom columns (columns - 1) back := by
  simp only [reflowNewlines_eq_reflowFrom] at onRow ⊢
  rw [reflowFrom_append, Nat.zero_add, reflowFrom, if_pos rfl]
  dsimp only
  rw [onRow, Nat.sub_zero, min_eq_right (Nat.sub_le columns 1), List.append_assoc,
    reflowFrom_congr_mod columns back (Nat.add_mod_eq_add_mod_right (columns - 1)
      (onRow.trans (Nat.zero_mod columns).symm)), Nat.zero_add]

theorem reflowNewlines_on_row_boundary_abcd :
    (reflowNewlines 4 "abcd".toList).length % 4 = 0 ∧
      reflowNewlines 4 ("abcd".toList ++ '\n' :: "ef".toList) =
        reflowNewlines 4 "abcd".toList ++ List.replicate (4 - 1) ' ' ++
          reflowFrom 4 (4 - 1) "ef".toList := by
  have onRow : (reflowNewlines 4 "abcd".toList).length % 4 = 0 := by
    rw [reflowNewlines_eq_reflowFrom]
    decide
  exact ⟨onRow, reflowNewlines_on_row_boundary 4 _ _ onRow⟩

/-- The part of `GetLongFlagLine` before its two loops: the edited
`DescribeOneFlag` text, under a heading and above the defining file.  A
missing marker makes `replace` throw. -/
def longFlagBlock (describeOneFlag : CommandLineFlagInfo → List Char)
    (lineIndentation : List Char) (info : CommandLineFlagInfo) : Option (List Char) := do
  let output := describeOneFlag info
  let oldFlagname := '-' :: info.name
  let pos ← find output oldFlagname
  let output := replace output pos oldFlagname.length ('-' :: oldFlagname)
  let pos ← find output " type:".toList
  let output := replace output pos 1 newlineWithIndent
  let pos ← find output " default:".toList
  let output := replace output pos 1 newlineWithIndent
  some (lineIndentation ++ " Details for '--".toList ++ info.name ++ "':\n".toList ++
    output ++ "    defined: ".toList ++ info.filename)

/-- `GetLongFlagLine`.  A width of zero or less never reaches a result:
`line_of_spaces` cannot be built for a negative width, and the padding loop
divides by a zero one. -/
def getLongFlagLine (columns : Int) (describeOneFlag : CommandLineFlagInfo → List Char)
    (lineIndentation : List Char) (info : CommandLineFlagInfo) : Option (List Char) := do
  let output ← longFlagBlock describeOneFlag lineIndentation info
  if columns ≤ 0 then none
  else some (reflowNewlines columns.toNat (eliminateDoubledNewlines output))

theorem eliminateDoubledNewlines_of_find_eq_none {output : List Char}
    (none : find output doubledNewlines = none) : eliminateDoubledNewlines output = output := by
  rw [eliminateDoubledNewlines]
  split
  · rfl
  · rename_i found
    rw [none] at found
    cases found

theorem eliminateDoubledNewlines_of_find_eq_some {output : List Char} {newlines : Nat}
    (found : find output doubledNewlines = some newlines) :
    eliminateDoubledNewlines output =
      eliminateDoubledNewlines (replace output newlines 7 "\n".toList) := by
  rw [eliminateDoubledNewlines]
  split
  · rename_i none
    rw [found] at none
    cases none
  · rename_i again
    rw [found, Option.some.injEq] at again
    rw [again]

/-- A leading part with no line break survives the doubled-break loop: every
doubled break starts with a line break, so each one lies after it. -/
theorem prefix_eliminateDoubledNewlines {lead output : List Char} (leading : lead <+: output)
    (free : '\n' ∉ lead) : lead <+: eliminateDoubledNewlines output := by
  induction output using eliminateDoubledNewlines.induct with
  | case1 output none => rwa [eliminateDoubledNewlines_of_find_eq_none none]
  | case2 output newlines found ih =>
    rw [eliminateDoubledNewlines_of_find_eq_some found]
    exact ih (prefix_replace leading (find_ge_of_free_lead found rfl leading free))

theorem prefix_of_longFlagBlock {describeOneFlag : CommandLineFlagInfo → List Char}
    {lineIndentation : List Char} {info : CommandLineFlagInfo} {block : List Char}
    (built : longFlagBlock describeOneFlag lineIndentation info = some block) :
    lineIndentation ++ " Details for '--".toList <+: block := by
  simp only [longFlagBlock, Option.bind_eq_bind, Option.bind_eq_some, Option.some.injEq] at built
  obtain ⟨_, _, _, _, _, _, rfl⟩ := built
  simp only [List.append_assoc]
  exact (List.prefix_append_right_inj _).mpr (List.prefix_append _ _)

/-- A long flag line starts with its indentation and ` Details for '--`. -/
theorem prefix_getLongFlagLine {columns : Int} {describeOneFlag : CommandLineFlagInfo → List Char}
    {lineIndentation : List Char} {info : CommandLineFlagInfo} {text : List Char}
    (rendered : getLongFlagLine columns describeOneFlag lineIndentation info = some text)
    (free : '\n' ∉ lineIndentation) : lineIndentation ++ " Details for '--".toList <+: text := by
  simp only [getLongFlagLine, Option.bind_eq_bind, Option.bind_eq_some] at rendered
  obtain ⟨block, built, shown⟩ := rendered
  split at shown
  · cases shown
  · rw [Option.some.injEq] at shown
    subst shown
    have leadFree : '\n' ∉ lineIndentation ++ " Details for '--".toList := by
      simp only [List.mem_append, free, false_or]
      decide
    obtain ⟨rest, whole⟩ := prefix_eliminateDoubledNewlines (prefix_of_longFlagBlock built) leadFree
    rw [← whole, reflowNewlines_append _ _ leadFree]
    exact List.prefix_append _ _

/-- A long flag line holds no line break. -/
theorem newline_not_mem_getLongFlagLine {columns : Int}
    {describeOneFlag : CommandLineFlagInfo → List Char} {lineIndentation : List Char}
    {info : CommandLineFlagInfo} {text : List Char}
    (rendered : getLongFlagLine columns describeOneFlag lineIndentation info = some text) :
    '\n' ∉ text := by
  simp only [getLongFlagLine, Option.bind_eq_bind, Option.bind_eq_some] at rendered
  obtain ⟨block, -, shown⟩ := rendered
  split at shown
  · cases shown
  · rw [Option.some.injEq] at shown
    exact shown ▸ newline_not_mem_reflowNewlines _ _

/-! ## What the two loops keep -/

/-- The characters a terminal shows: all but spaces and line breaks. -/
def isVisible (c : Char) : Bool :=
  c != ' ' && c != '\n'

theorem filter_isVisible_reflowFrom (columns : Nat) (output : List Char) :
    ∀ index, (reflowFrom columns index output).filter isVisible = output.filter isVisible := by
  induction output with
  | nil => intro; rfl
  | cons c rest ih =>
    intro index
    by_cases newline : c = '\n'
    · subst c
      simp [reflowFrom, ih, List.filter_replicate, isVisible]
    · simp [reflowFrom, newline, ih, List.filter_cons]

/-- One step of the doubled-break loop removes a space line: five spaces and
a line break. -/
theorem filter_isVisible_replace_doubledNewlines {output : List Char} {newlines : Nat}
    (found : find output doubledNewlines = some newlines) :
    (replace output newlines 7 "\n".toList).filter isVisible = output.filter isVisible := by
  obtain ⟨⟨tail, occurs⟩, -⟩ := find_eq_some _ _ _ found
  have whole : output = output.take newlines ++ doubledNewlines ++ tail := by
    rw [List.append_assoc, occurs, List.take_append_drop]
  have rest : output.drop (newlines + 7) = tail := by
    rw [← List.drop_drop, ← occurs]
    rfl
  conv_rhs => rw [whole]
  simp only [replace, rest, List.filter_append]
  rfl

theorem filter_isVisible_eliminateDoubledNewlines (output : List Char) :
    (eliminateDoubledNewlines output).filter isVisible = output.filter isVisible := by
  induction output using eliminateDoubledNewlines.induct with
  | case1 output none => rw [eliminateDoubledNewlines_of_find_eq_none none]
  | case2 output newlines found ih =>
    rw [eliminateDoubledNewlines_of_find_eq_some found, ih,
      filter_isVisible_replace_doubledNewlines found]

/-- For a positive width the long line is built whenever its block is, and
the two loops only change where the block breaks: every character the
terminal shows stays, in order, and no line break is left. -/
theorem getLongFlagLine_keeps_visible (columns : Int)
    (describeOneFlag : CommandLineFlagInfo → List Char) (lineIndentation : List Char)
    (info : CommandLineFlagInfo) {block : List Char} (positive : 0 < columns)
    (built : longFlagBlock describeOneFlag lineIndentation info = some block) :
    ∃ line, getLongFlagLine columns describeOneFlag lineIndentation info = some line ∧
      line.filter isVisible = block.filter isVisible ∧ '\n' ∉ line := by
  refine ⟨reflowNewlines columns.toNat (eliminateDoubledNewlines block), ?_, ?_,
    newline_not_mem_reflowNewlines _ _⟩
  · rw [getLongFlagLine, Option.bind_eq_bind, built, Option.some_bind, if_neg (by omega)]
  · rw [reflowNewlines_eq_reflowFrom, filter_isVisible_reflowFrom,
      filter_isVisible_eliminateDoubledNewlines]

theorem getLongFlagLine_keeps_visible_help :
    0 < (80 : Int) ∧
      longFlagBlock (fun _ => "    -help (show help) type: bool default: false\n".toList) []
          { name := "help".toList, type := "bool".toList, description := "show help".toList,
            defaultValue := "false".toList, filename := "/src/foo.cc".toList } =
        some " Details for '--help':\n    --help (show help)\n    type: bool\n    default: false\n    defined: /src/foo.cc".toList ∧
      ∃ line, getLongFlagLine 80 (fun _ => "    -help (show help) type: bool default: false\n".toList) []
          { name := "help".toList, type := "bool".toList, description := "show help".toList,
            defaultValue := "false".toList, filename := "/src/foo.cc".toList } = some line ∧
        line.filter isVisible =
          (" Details for '--help':\n    --help (show help)\n    type: bool\n    default: false\n    defined: /src/foo.cc".toList).filter isVisible ∧
        '\n' ∉ line := by
  have built : longFlagBlock (fun _ => "    -help (show help) type: bool default: false\n".toList) []
      { name := "help".toList, type := "bool".toList, description := "show help".toList,
        defaultValue := "false".toList, filename := "/src/foo.cc".toList } =
      some " Details for '--help':\n    --help (show help)\n    type: bool\n    default: false\n    defined: /src/foo.cc".toList := by
    decide
  exact ⟨by decide, built, getLongFlagLine_keeps_visible 80 _ _ _ (by decide) built⟩

set_option maxRecDepth 8000 in
/-- When the line break ending the heading falls on a row boundary, the
padding is `columns - 1` spaces, so the next line starts one column short of
a row.  At width 22 the heading ` Details for '--help':` fills the first row,
and the line `    --help (show help)` starts at index 43, not 44. -/
theorem getLongFlagLine_heading_fills_row :
    getLongFlagLine 22 (fun _ => "    -help (show help) type: bool default: false\n".toList) []
        { name := "help".toList, type := "bool".toList, description := "show help".toList,
          defaultValue := "false".toList, filename := "/src/foo.cc".toList } =
      some (" Details for '--help':".toList ++ List.replicate 21 ' ' ++
        "    --help (show help)     type: bool            default: false        defined: /src/foo.cc".toList) ∧
    longFlagBlock (fun _ => "    -help (show help) type: bool default: false\n".toList) []
        { name := "help".toList, type := "bool".toList, description := "show help".toList,
          defaultValue := "false".toList, filename := "/src/foo.cc".toList } =
      some " Details for '--help':\n    --help (show help)\n    type: bool\n    default: false\n    defined: /src/foo.cc".toList ∧
    (" Details for '--help':".toList ++ List.replicate 21 ' ').length % 22 = 21 := by
  have block : longFlagBlock (fun _ => "    -help (show help) type: bool default: false\n".toList) []
        { name := "help".toList, type := "bool".toList, description := "show help".toList,
          defaultValue := "false".toList, filename := "/src/foo.cc".toList } =
      some " Details for '--help':\n    --help (show help)\n    type: bool\n    default: false\n    defined: /src/foo.cc".toList := by
    decide
  refine ⟨?_, block, by decide⟩
  rw [getLongFlagLine, Option.bind_eq_bind, block, Option.some_bind,
    eliminateDoubledNewlines_of_find_eq_none (by decide), reflowNewlines_eq_reflowFrom]
  decide

/-! ## Short lines -/

theorem prefix_getShortFlagLine (columns : Int) (lineIndentation : List Char)
    (info : CommandLineFlagInfo) :
    lineIndentation ++ ("--".toList ++ info.name) <+: getShortFlagLine columns lineIndentation info := by
  simp only [getShortFlagLine, shortFlagPrefix, List.append_assoc]
  exact (List.prefix_append_right_inj _).mpr
    ((List.prefix_append_right_inj _).mpr (List.prefix_append _ _))

/-- With at least three columns left after the prefix, a short line keeps
the whole help text when it fits, and otherwise cuts it to fill the width
exactly, `...` included. -/
theorem getShortFlagLine_fills_width (columns : Int) (lineIndentation : List Char)
    (info : CommandLineFlagInfo) (room : 3 ≤ columns - (shortFlagPrefix lineIndentation info).length)
    (small : columns < 2 ^ 31) :
    (info.description.length ≤ columns - (shortFlagPrefix lineIndentation info).length →
      getShortFlagLine columns lineIndentation info =
        shortFlagPrefix lineIndentation info ++ info.description) ∧
    (columns - (shortFlagPrefix lineIndentation info).length < info.description.length →
      ((getShortFlagLine columns lineIndentation info).length : Int) = columns ∧
      ∃ kept, kept <+: info.description ∧ getShortFlagLine columns lineIndentation info =
        shortFlagPrefix lineIndentation info ++ kept ++ "...".toList) := by
  refine ⟨fun fits => ?_, fun long => ?_⟩
  · simp only [getShortFlagLine]
    rw [if_pos (by omega), if_neg (by omega)]
  · simp only [getShortFlagLine]
    rw [if_pos (by omega), if_pos long, toSizeT_of_nonneg (by omega) (by omega)]
    refine ⟨?_, _, List.take_prefix ((columns - (shortFlagPrefix lineIndentation info).length - 3).toNat)
      _, by simp only [substr, List.drop_zero, List.append_assoc]⟩
    simp only [substr, List.drop_zero, List.length_append, List.length_take]
    have : ("...".toList).length = 3 := rfl
    omega

theorem getShortFlagLine_fills_width_help :
    3 ≤ (20 : Int) -
        (shortFlagPrefix [] { name := "help".toList, description := "show help".toList }).length ∧
      (20 : Int) < 2 ^ 31 ∧
      (({ name := "help".toList, description := "show help".toList } : CommandLineFlagInfo).description.length ≤
          (20 : Int) - (shortFlagPrefix [] { name := "help".toList, description := "show help".toList }).length →
        getShortFlagLine 20 [] { name := "help".toList, description := "show help".toList } =
          shortFlagPrefix [] { name := "help".toList, description := "show help".toList } ++
            "show help".toList) ∧
      ((20 : Int) - (shortFlagPrefix [] { name := "help".toList, description := "show help".toList }).length <
          ({ name := "help".toList, description := "show help".toList } : CommandLineFlagInfo).description.length →
        ((getShortFlagLine 20 [] { name := "help".toList, description := "show help".toList }).length : Int) = 20 ∧
        ∃ kept, kept <+: "show help".toList ∧
          getShortFlagLine 20 [] { name := "help".toList, description := "show help".toList } =
            shortFlagPrefix [] { name := "help".toList, description := "show help".toList } ++ kept ++
              "...".toList) :=
  ⟨by decide, by decide, getShortFlagLine_fills_width 20 [] _ (by decide) (by decide)⟩

/-- With one or two columns left, `remainder - 3` is negative, `substr`
receives a huge length, and a help text longer than the room is copied whole,
followed by `...`. -/
theorem getShortFlagLine_of_narrow (columns : Int) (lineIndentation : List Char)
    (info : CommandLineFlagInfo)
    (narrow : 0 < columns - (shortFlagPrefix lineIndentation info).length ∧
      columns - (shortFlagPrefix lineIndentation info).length < 3)
    (long : columns - (shortFlagPrefix lineIndentation info).length < info.description.length)
    (fits : info.description.length < 2 ^ 63) :
    getShortFlagLine columns lineIndentation info =
      shortFlagPrefix lineIndentation info ++ info.description ++ "...".toList := by
  simp only [getShortFlagLine, if_pos narrow.1, if_pos long, substr, List.drop_zero,
    List.append_assoc]
  rw [List.take_of_length_le]
  rw [toSizeT]
  omega

/-- The inversion lemma of a short line: the prefix, then nothing, the whole
help text, or a cut of it closed by `...`. -/
theorem getShortFlagLine_cases (columns : Int) (lineIndentation : List Char)
    (info : CommandLineFlagInfo) :
    ∃ suffix, getShortFlagLine columns lineIndentation info =
        shortFlagPrefix lineIndentation info ++ suffix ∧
      (suffix = [] ∨ suffix = info.description ∨
        ∃ length, suffix = substr info.description 0 length ++ "...".toList) := by
  simp only [getShortFlagLine]
  split_ifs
  · exact ⟨_, rfl, .inr (.inr ⟨_, rfl⟩)⟩
  · exact ⟨_, rfl, .inr (.inl rfl)⟩
  · exact ⟨_, rfl, .inl rfl⟩

/-- Every character of a short line comes from the indentation, the name, the
default or the help text, or is one the format adds. -/
theorem mem_getShortFlagLine {columns : Int} {lineIndentation : List Char}
    {info : CommandLineFlagInfo} {c : Char}
    (member : c ∈ getShortFlagLine columns lineIndentation info) :
    c ∈ lineIndentation ∨ c ∈ info.name ∨ c ∈ info.defaultValue ∨ c ∈ info.description ∨
      c ∈ "-[]' .".toList := by
  have fixed : ∀ {text : List Char}, text ⊆ "-[]' .".toList → c ∈ text →
      c ∈ lineIndentation ∨ c ∈ info.name ∨ c ∈ info.defaultValue ∨ c ∈ info.description ∨
        c ∈ "-[]' .".toList := fun within inText => .inr (.inr (.inr (.inr (within inText))))
  have quoted : (if info.type = "string".toList then "'".toList else []) ⊆ "-[]' .".toList := by
    split <;> decide
  obtain ⟨suffix, lined, shape⟩ := getShortFlagLine_cases columns lineIndentation info
  simp only [lined, shortFlagPrefix, List.mem_append] at member
  rcases member with (((((((inIndent | dashes) | inName) | opening) | quote) | inDefault) |
    quote) | closing) | inSuffix
  · exact .inl inIndent
  · exact fixed (by decide) dashes
  · exact .inr (.inl inName)
  · exact fixed (by decide) opening
  · exact fixed quoted quote
  · exact .inr (.inr (.inl inDefault))
  · exact fixed quoted quote
  · exact fixed (by decide) closing
  · rcases shape with rfl | rfl | ⟨length, rfl⟩
    · cases inSuffix
    · exact .inr (.inr (.inr (.inl inSuffix)))
    · rcases List.mem_append.mp inSuffix with inCut | dots
      · exact .inr (.inr (.inr (.inl (List.mem_of_mem_take inCut))))
      · exact fixed (by decide) dots

set_option maxRecDepth 4000 in
/-- At the default width of 80, a string flag whose prefix takes 79 columns
gets its whole help text and `...`: a line of 111 characters. -/
theorem getShortFlagLine_one_column_left :
    (shortFlagPrefix []
        { name := "heap_profile_output_directory".toList, type := "string".toList,
          defaultValue := "/var/tmp/heap_profiles/collected_snapshots".toList,
          description := "Where to write heap profiles.".toList }).length = 79 ∧
      getShortFlagLine 80 []
        { name := "heap_profile_output_directory".toList, type := "string".toList,
          defaultValue := "/var/tmp/heap_profiles/collected_snapshots".toList,
          description := "Where to write heap profiles.".toList } =
        "--heap_profile_output_directory ['/var/tmp/heap_profiles/collected_snapshots'] Where to write heap profiles....".toList ∧
      (getShortFlagLine 80 []
        { name := "heap_profile_output_directory".toList, type := "string".toList,
          defaultValue := "/var/tmp/heap_profiles/collected_snapshots".toList,
          description := "Where to write heap profiles.".toList }).length = 111 := by
  refine ⟨by decide, ?_, ?_⟩ <;> rw [getShortFlagLine_of_narrow] <;> decide

/-- An entry of the `completions` vector, by what it renders. -/
inductive CompletionLine where
  | header (lineIndentation header : List Char)
  | underline (lineIndentation header : List Char)
  | flag (lineIndentation : List Char) (longOutputFormat : Bool) (flag : FlagPointer)
  | footer (lineIndentation footer : List Char)
  | remainingHidden
  | noUpdate
deriving DecidableEq, Repr

/-- The string the completion code pushes for each entry. -/
def CompletionLine.text (columns : Int) (describeOneFlag : CommandLineFlagInfo → List Char) :
    CompletionLine → Option (List Char)
  | .header lineIndentation headerText => some (lineIndentation ++ headerText)
  | .underline lineIndentation headerText =>
    some (lineIndentation ++ List.replicate headerText.length '-')
  | .flag lineIndentation longOutputFormat pointer =>
    if longOutputFormat then getLongFlagLine columns describeOneFlag lineIndentation pointer.info
    else some (getShortFlagLine columns lineIndentation pointer.info)
  | .footer lineIndentation footerText => some (lineIndentation ++ footerText)
  | .remainingHidden => some "~ (Remaining flags hidden) ~".toList
  | .noUpdate => some "~".toList

/-- The fields an entry copies into its text unchanged: the indentation, the
header or footer, and for a flag in the short format the flag's name, default
and help text.  A long line replaces the line breaks of what it copies. -/
def CompletionLine.copied : CompletionLine → List (List Char)
  | .header lineIndentation headerText => [lineIndentation, headerText]
  | .underline lineIndentation _ => [lineIndentation]
  | .flag lineIndentation longOutputFormat pointer =>
    if longOutputFormat then [lineIndentation]
    else [lineIndentation, pointer.info.name, pointer.info.defaultValue, pointer.info.description]
  | .footer lineIndentation footerText => [lineIndentation, footerText]
  | .remainingHidden | .noUpdate => []

/-- An entry whose copied fields hold no line break renders as one line. -/
theorem CompletionLine.newline_not_mem_text {columns : Int}
    {describeOneFlag : CommandLineFlagInfo → List Char} {line : CompletionLine} {text : List Char}
    (clean : ∀ field ∈ line.copied, '\n' ∉ field)
    (rendered : line.text columns describeOneFlag = some text) : '\n' ∉ text := by
  cases line with
  | header lineIndentation headerText | footer lineIndentation headerText =>
    cases rendered
    simpa [CompletionLine.copied] using clean
  | underline lineIndentation headerText =>
    cases rendered
    simp only [CompletionLine.copied, List.mem_singleton, forall_eq] at clean
    simp [clean, List.mem_replicate]
  | flag lineIndentation longOutputFormat pointer =>
    cases longOutputFormat with
    | true => exact newline_not_mem_getLongFlagLine rendered
    | false =>
      cases rendered
      simp only [CompletionLine.copied, Bool.false_eq_true, if_false, List.mem_cons,
        List.not_mem_nil, or_false, forall_eq_or_imp, forall_eq] at clean
      intro member
      rcases mem_getShortFlagLine member with inField | inField | inField | inField | fixedText
      · exact clean.1 inField
      · exact clean.2.1 inField
      · exact clean.2.2.1 inField
      · exact clean.2.2.2 inField
      · exact absurd fixedText (by decide)
  | remainingHidden | noUpdate =>
    cases rendered
    decide

/-- The flag an entry renders, if it is a flag line. -/
def CompletionLine.flag? : CompletionLine → Option FlagPointer
  | .flag _ _ pointer => some pointer
  | _ => none

end Completion
end Gflags
