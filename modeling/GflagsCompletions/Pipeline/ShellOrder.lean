import GflagsCompletions.Pipeline.PrintCompletions

namespace Gflags
namespace Completion

/-!
# The listing survives the shell's sort

Bash sorts the candidates byte-wise before it shows them, so the order of
the listing has to be readable from the texts alone.  The code arranges this
with indentation.  The first of `n` groups is indented by `n - 1` spaces and
each later group by one fewer, and a space sorts before every character a
group's entries start with.  Inside a group the header starts with `-*`, its
underline with `---`, a short flag line with `--` and the name, a long one
with a space, and the footer with `=`.  The closing sentinels start with `~`,
which sorts after all of them.

The order is fixed by a few leading characters of each entry, its `lead`.
The emission loop keeps an invariant: the entries written so far are in sort
order, apart from flag lines of one group, and all of them are indented more
deeply than the group to come.
-/

/-! ## Sorting at a character -/

/-- `earlier` sorts before `later` at a character: both start with `common`,
and the next character of `earlier` is the smaller one. -/
def SortsBefore (earlier later : List Char) : Prop :=
  ∃ common c d, c < d ∧ common ++ [c] <+: earlier ∧ common ++ [d] <+: later

theorem SortsBefore.lt {earlier later : List Char} (sorts : SortsBefore earlier later) :
    earlier < later := by
  obtain ⟨common, c, d, smaller, ⟨rest, rfl⟩, ⟨rest', rfl⟩⟩ := sorts
  show List.Lex (· < ·) _ _
  simpa only [List.append_assoc, List.singleton_append] using
    List.Lex.append_left _ (@List.Lex.rel _ _ c rest d rest' smaller) common

theorem SortsBefore.extend {earlier later earlier' later' : List Char}
    (sorts : SortsBefore earlier later) (left : earlier <+: earlier') (right : later <+: later') :
    SortsBefore earlier' later' :=
  let ⟨common, c, d, smaller, inEarlier, inLater⟩ := sorts
  ⟨common, c, d, smaller, inEarlier.trans left, inLater.trans right⟩

theorem sortsBefore_of_lt (common : List Char) {c d : Char} (rest rest' : List Char)
    (smaller : c < d) : SortsBefore (common ++ c :: rest) (common ++ d :: rest') :=
  ⟨common, c, d, smaller, ⟨rest, by simp⟩, ⟨rest', by simp⟩⟩

/-- More leading spaces sort first, against any character above a space. -/
theorem sortsBefore_spaces {deep shallow : Nat} (deeper : shallow < deep) (rest : List Char)
    {d : Char} (above : ' ' < d) (rest' : List Char) :
    SortsBefore (List.replicate deep ' ' ++ rest) (List.replicate shallow ' ' ++ d :: rest') := by
  obtain ⟨extra, rfl⟩ := Nat.exists_eq_add_of_lt deeper
  have split : List.replicate (shallow + extra + 1) ' ' ++ rest =
      List.replicate shallow ' ' ++ ' ' :: (List.replicate extra ' ' ++ rest) := by
    rw [Nat.add_assoc, List.replicate_add, List.replicate_succ, List.append_assoc,
      List.cons_append]
  rw [split]
  exact sortsBefore_of_lt _ _ _ above

/-! ## What each entry starts with -/

/-- Whether a name's first character is an identifier character; false for
the empty name. -/
def beginsWithIdentifierChar : List Char → Bool
  | c :: _ => isIdentifierChar c
  | [] => false

theorem dash_lt_of_isIdentifierChar {c : Char} (ident : isIdentifierChar c = true) : '-' < c := by
  simp only [isIdentifierChar, Char.isAlphanum, Char.isAlpha, Char.isUpper, Char.isLower, Char.isDigit,
    Bool.or_eq_true, Bool.and_eq_true, decide_eq_true_eq, beq_iff_eq] at ident
  rcases ident with ((⟨low, -⟩ | ⟨low, -⟩) | ⟨low, -⟩) | rfl
  · exact lt_of_lt_of_le (by decide : '-' < 'A') low
  · exact lt_of_lt_of_le (by decide : '-' < 'a') low
  · exact lt_of_lt_of_le (by decide : '-' < '0') low
  · decide

/-- The indentation an entry carries; the sentinels have none. -/
def CompletionLine.indentation : CompletionLine → List Char
  | .header lineIndentation _ | .underline lineIndentation _ | .flag lineIndentation _ _
  | .footer lineIndentation _ => lineIndentation
  | .remainingHidden | .noUpdate => []

/-- The characters after the indentation that fix an entry's place. -/
def CompletionLine.key : CompletionLine → List Char
  | .header _ _ => "-*".toList
  | .underline _ _ => "---".toList
  | .flag _ false pointer => "--".toList ++ pointer.info.name.take 1
  | .flag _ true _ => [' ']
  | .footer _ _ => ['=']
  | .remainingHidden | .noUpdate => ['~']

/-- The start of an entry's text as far as the sort looks at it. -/
def CompletionLine.lead (line : CompletionLine) : List Char :=
  line.indentation ++ line.key

/-- A header that starts with `-*` and has at least three characters, as
every header of the code has. -/
def HeaderShaped (headerText : List Char) : Prop :=
  headerText.take 2 = "-*".toList ∧ 3 ≤ headerText.length

/-- A footer that starts with `=`, as every footer of the code does. -/
def FooterShaped (footerText : List Char) : Prop :=
  footerText.take 1 = "=".toList

/-- An entry of a group: indented by spaces, with a shaped header or footer. -/
def CompletionLine.WellShaped : CompletionLine → Prop
  | .header lineIndentation headerText | .underline lineIndentation headerText =>
    (∀ c ∈ lineIndentation, c = ' ') ∧ HeaderShaped headerText
  | .flag lineIndentation _ _ => ∀ c ∈ lineIndentation, c = ' '
  | .footer lineIndentation footerText =>
    (∀ c ∈ lineIndentation, c = ' ') ∧ FooterShaped footerText
  | .remainingHidden | .noUpdate => False

/-- A flag line whose flag's name starts with an identifier character; any
other entry. -/
def CompletionLine.NamedByIdentifier : CompletionLine → Prop
  | .flag _ _ pointer => beginsWithIdentifierChar pointer.info.name = true
  | _ => True

/-- Every text `line` renders to starts with `lead`. -/
def CompletionLine.StartsWith (columns : Int) (describeOneFlag : CommandLineFlagInfo → List Char)
    (line : CompletionLine) (lead : List Char) : Prop :=
  ∀ text, line.text columns describeOneFlag = some text → lead <+: text

theorem CompletionLine.startsWith_lead (columns : Int)
    (describeOneFlag : CommandLineFlagInfo → List Char) {line : CompletionLine}
    (shaped : line.WellShaped) : line.StartsWith columns describeOneFlag line.lead := by
  intro text rendered
  cases line with
  | header lineIndentation headerText =>
    cases rendered
    refine (List.prefix_append_right_inj _).mpr ?_
    show "-*".toList <+: headerText
    exact shaped.2.1 ▸ List.take_prefix 2 headerText
  | underline lineIndentation headerText =>
    cases rendered
    have dashes : List.replicate headerText.length '-' =
        "---".toList ++ List.replicate (headerText.length - 3) '-' := by
      rw [show "---".toList = List.replicate 3 '-' from rfl, ← List.replicate_add]
      congr 1
      have := shaped.2.2
      omega
    exact (List.prefix_append_right_inj _).mpr (dashes ▸ List.prefix_append _ _)
  | flag lineIndentation longOutputFormat pointer =>
    cases longOutputFormat with
    | false =>
      cases rendered
      exact ((List.prefix_append_right_inj _).mpr ((List.prefix_append_right_inj _).mpr
        (List.take_prefix _ _))).trans (prefix_getShortFlagLine _ _ _)
    | true =>
      have noNewline : '\n' ∉ lineIndentation := fun member => by
        cases shaped '\n' member
      exact ((List.prefix_append_right_inj _).mpr ⟨"Details for '--".toList, rfl⟩).trans
        (prefix_getLongFlagLine rendered noNewline)
  | footer lineIndentation footerText =>
    cases rendered
    refine (List.prefix_append_right_inj _).mpr ?_
    show "=".toList <+: footerText
    exact shaped.2 ▸ List.take_prefix 1 footerText
  | remainingHidden => exact shaped.elim
  | noUpdate => exact shaped.elim

/-! ## The order inside one group -/

/-- Two entries the shell's sort may swap: flag lines of one group. -/
def CompletionLine.SameGroupFlags : CompletionLine → CompletionLine → Prop
  | .flag lineIndentation _ _, .flag lineIndentation' _ _ => lineIndentation = lineIndentation'
  | _, _ => False

/-- How an entry of the listing relates to a later one: flag lines of one
group, or, when both name their flags by identifiers, sorting first by their
leads. -/
def CompletionLine.LeadsBefore (earlier later : CompletionLine) : Prop :=
  earlier.SameGroupFlags later ∨
    (earlier.NamedByIdentifier → later.NamedByIdentifier → SortsBefore earlier.lead later.lead)

theorem SortsBefore.append_left (common : List Char) {earlier later : List Char}
    (sorts : SortsBefore earlier later) : SortsBefore (common ++ earlier) (common ++ later) :=
  let ⟨shared, c, d, smaller, inEarlier, inLater⟩ := sorts
  ⟨common ++ shared, c, d, smaller, by simpa using (List.prefix_append_right_inj common).mpr inEarlier,
    by simpa using (List.prefix_append_right_inj common).mpr inLater⟩

/-- Entries with one indentation are ordered by their keys. -/
theorem CompletionLine.leadsBefore_of_key {earlier later : CompletionLine}
    (sameIndentation : earlier.indentation = later.indentation)
    (keys : earlier.NamedByIdentifier → later.NamedByIdentifier → SortsBefore earlier.key later.key) :
    earlier.LeadsBefore later :=
  .inr fun named named' => by
    rw [CompletionLine.lead, CompletionLine.lead, sameIndentation]
    exact (keys named named').append_left _

theorem sortsBefore_cons {c d : Char} (smaller : c < d) (rest rest' : List Char) :
    SortsBefore (c :: rest) (d :: rest') :=
  sortsBefore_of_lt [] rest rest' smaller

/-- The entries `OutputSingleGroupWithLimit` appends for one group: the
header with its underline if written, some of the flags, and the footer if
written. -/
def groupEntries (lineIndentation header footer : List Char) (longOutputFormat headed footed : Bool)
    (flags : List FlagPointer) : List CompletionLine :=
  (if headed then [.header lineIndentation header, .underline lineIndentation header] else []) ++
    flags.map (.flag lineIndentation longOutputFormat) ++
    (if footed then [.footer lineIndentation footer] else [])

/-- The inversion lemma of a group's entries. -/
theorem mem_groupEntries {lineIndentation header footer : List Char}
    {longOutputFormat headed footed : Bool} {flags : List FlagPointer} {line : CompletionLine} :
    line ∈ groupEntries lineIndentation header footer longOutputFormat headed footed flags ↔
      (headed = true ∧ (line = .header lineIndentation header ∨
        line = .underline lineIndentation header)) ∨
      (∃ pointer ∈ flags, line = .flag lineIndentation longOutputFormat pointer) ∨
      (footed = true ∧ line = .footer lineIndentation footer) := by
  cases headed <;> cases footed <;> simp [groupEntries, eq_comm, or_assoc]

/-- The flag loop writes a first part of the group, one flag line each. -/
theorem outputFlagLines_written (lineIndentation : List Char) (longOutputFormat : Bool)
    (group : List FlagPointer) (state : EmissionState) :
    ∃ flags : List FlagPointer, flags <+: group ∧
      (outputFlagLines lineIndentation longOutputFormat group state).completions =
        state.completions ++ flags.map (.flag lineIndentation longOutputFormat) := by
  induction group generalizing state with
  | nil => exact ⟨[], List.prefix_refl _, by simp [outputFlagLines]⟩
  | cons flag rest ih =>
    unfold outputFlagLines
    split
    · obtain ⟨flags, leading, written⟩ := ih ⟨state.remainingLineLimit - 1,
        state.completionElementsOutput + 1,
        state.completions ++ [.flag lineIndentation longOutputFormat flag]⟩
      exact ⟨flag :: flags, List.cons_prefix_cons.mpr ⟨rfl, leading⟩, by simp [written]⟩
    · exact ⟨[], List.nil_prefix, by simp⟩

/-- `OutputSingleGroupWithLimit` appends the entries of one group: the header
only when there is one, a first part of the group's flags, and the footer only
when there is one. -/
theorem outputSingleGroupWithLimit_written (group : List FlagPointer)
    (lineIndentation header footer : List Char) (longOutputFormat : Bool) (state : EmissionState) :
    ∃ (headed footed : Bool) (flags : List FlagPointer), (headed = true → header ≠ []) ∧
      (footed = true → footer ≠ []) ∧ flags <+: group ∧
      (outputSingleGroupWithLimit group lineIndentation header footer longOutputFormat
        state).completions =
        state.completions ++
          groupEntries lineIndentation header footer longOutputFormat headed footed flags := by
  have nothing : state.completions = state.completions ++
      groupEntries lineIndentation header footer longOutputFormat false false [] := by
    simp [groupEntries]
  unfold outputSingleGroupWithLimit
  split
  · exact ⟨false, false, [], nofun, nofun, List.nil_prefix, nothing⟩
  split
  · exact ⟨false, false, [], nofun, nofun, List.nil_prefix, nothing⟩
  dsimp only
  generalize headedState : (if header ≠ [] then _ else state) = middle
  obtain ⟨flags, leading, written⟩ :=
    outputFlagLines_written lineIndentation longOutputFormat group middle
  have headedLines : middle.completions = state.completions ++
      (if header ≠ [] then [.header lineIndentation header, .underline lineIndentation header]
        else []) := by
    rw [← headedState]
    split <;> simp
  refine ⟨decide (header ≠ []), ?_⟩
  generalize outputFlagLines lineIndentation longOutputFormat group middle = after at written ⊢
  split
  · rename_i footed
    exact ⟨true, flags, by simp, fun _ => footed.1, leading, by
      simp [written, headedLines, groupEntries]⟩
  · exact ⟨false, flags, by simp, nofun, leading, by simp [written, headedLines, groupEntries]⟩

theorem outputSingleGroupWithLimit_entries (group : List FlagPointer)
    (lineIndentation header footer : List Char) (longOutputFormat : Bool) (state : EmissionState) :
    ∃ (headed footed : Bool) (flags : List FlagPointer), (headed = true → header ≠ []) ∧
      (footed = true → footer ≠ []) ∧
      (outputSingleGroupWithLimit group lineIndentation header footer longOutputFormat
        state).completions =
        state.completions ++
          groupEntries lineIndentation header footer longOutputFormat headed footed flags :=
  let ⟨headed, footed, flags, headedNonempty, footedNonempty, _, appended⟩ :=
    outputSingleGroupWithLimit_written group lineIndentation header footer longOutputFormat state
  ⟨headed, footed, flags, headedNonempty, footedNonempty, appended⟩

/-- The run lemma of provenance: the emission loop appends to the vector, and
each entry it appends is an entry of one of its groups, indented by spaces,
with a first part of the group's flags, and in the long format only if the
loop was started in it. -/
theorem emitGroups_appends (groups : List DisplayInfoGroup) :
    ∀ (indent : Nat) (longOutputFormat : Bool) (state : EmissionState),
      ∃ added, (emitGroups indent longOutputFormat groups state).completions =
          state.completions ++ added ∧
        ∀ line ∈ added, ∃ group ∈ groups, ∃ (spaces : Nat) (format headed footed : Bool)
          (flags : List FlagPointer), (format = true → longOutputFormat = true) ∧
          flags <+: group.group ∧ line ∈ groupEntries (List.replicate spaces ' ') group.header
            group.footer format headed footed flags := by
  induction groups with
  | nil => exact fun _ _ state => ⟨[], by simp [emitGroups], nofun⟩
  | cons group rest ih =>
    intro indent longOutputFormat state
    obtain ⟨headed, footed, flags, -, -, leading, appended⟩ := outputSingleGroupWithLimit_written
      group.group (List.replicate indent ' ') group.header group.footer longOutputFormat state
    obtain ⟨added, grown, fromRest⟩ := ih (indent - 1) false
      (outputSingleGroupWithLimit group.group (List.replicate indent ' ') group.header group.footer
        longOutputFormat state)
    refine ⟨groupEntries (List.replicate indent ' ') group.header group.footer longOutputFormat
      headed footed flags ++ added, by rw [emitGroups, grown, appended, List.append_assoc], ?_⟩
    intro line member
    rcases List.mem_append.mp member with first | later
    · exact ⟨group, List.mem_cons_self _ _, indent, longOutputFormat, headed, footed, flags, id,
        leading, first⟩
    · obtain ⟨other, inRest, spaces, format, headed', footed', flags', short, leading', entry⟩ :=
        fromRest line later
      exact ⟨other, List.mem_cons_of_mem _ inRest, spaces, format, headed', footed', flags',
        fun long => absurd (short long) Bool.false_ne_true, leading', entry⟩

/-- Inside one group: header before underline before the flags before the
footer.  A group written in the long format has no header. -/
theorem groupEntries_leadsBefore (lineIndentation header footer : List Char)
    (longOutputFormat headed footed : Bool) (flags : List FlagPointer)
    (headerless : longOutputFormat = true → headed = false) :
    (groupEntries lineIndentation header footer longOutputFormat headed footed flags).Pairwise
      CompletionLine.LeadsBefore := by
  have beforeFooter : ∀ line ∈ (if headed then [CompletionLine.header lineIndentation header,
      .underline lineIndentation header] else []) ++
        flags.map (CompletionLine.flag lineIndentation longOutputFormat),
      line.LeadsBefore (.footer lineIndentation footer) := by
    intro line member
    simp only [List.mem_append, List.mem_map] at member
    rcases member with inHeader | ⟨pointer, -, rfl⟩
    · split at inHeader
      · simp only [List.mem_cons, List.mem_singleton, List.not_mem_nil, or_false] at inHeader
        rcases inHeader with rfl | rfl <;>
          exact CompletionLine.leadsBefore_of_key rfl fun _ _ => sortsBefore_cons (by decide) _ _
      · cases inHeader
    · cases longOutputFormat <;>
        exact CompletionLine.leadsBefore_of_key rfl fun _ _ => sortsBefore_cons (by decide) _ _
  have headerFirst : headed = true → ∀ pointer : FlagPointer,
      (CompletionLine.header lineIndentation header).LeadsBefore
          (.flag lineIndentation longOutputFormat pointer) ∧
        (CompletionLine.underline lineIndentation header).LeadsBefore
          (.flag lineIndentation longOutputFormat pointer) := by
    intro isHeaded pointer
    have short : longOutputFormat = false :=
      Bool.eq_false_iff.mpr fun long => by simp [headerless long] at isHeaded
    subst short
    refine ⟨CompletionLine.leadsBefore_of_key rfl fun _ _ =>
      ⟨['-'], '*', '-', by decide, ⟨[], rfl⟩, ⟨pointer.info.name.take 1, rfl⟩⟩,
      CompletionLine.leadsBefore_of_key rfl fun _ named => ?_⟩
    obtain ⟨c, rest, named⟩ : ∃ c rest, pointer.info.name = c :: rest ∧ isIdentifierChar c = true := by
      revert named
      simp only [CompletionLine.NamedByIdentifier]
      cases pointer.info.name with
      | nil => nofun
      | cons c rest => exact fun ident => ⟨c, rest, rfl, ident⟩
    exact ⟨"--".toList, '-', c, dash_lt_of_isIdentifierChar named.2, ⟨[], rfl⟩,
      ⟨[], by simp [CompletionLine.key, named.1]⟩⟩
  unfold groupEntries
  refine List.pairwise_append.mpr ⟨List.pairwise_append.mpr ⟨?_, ?_, ?_⟩, ?_, ?_⟩
  · split
    · exact List.pairwise_pair.mpr (CompletionLine.leadsBefore_of_key rfl fun _ _ =>
        ⟨['-'], '*', '-', by decide, ⟨[], rfl⟩, ⟨['-'], rfl⟩⟩)
    · exact List.Pairwise.nil
  · exact List.pairwise_map.mpr (List.pairwise_of_forall fun _ _ => .inl rfl)
  · intro line inHeader other inFlags
    obtain ⟨pointer, -, rfl⟩ := List.mem_map.mp inFlags
    split at inHeader
    · rename_i isHeaded
      simp only [List.mem_cons, List.mem_singleton, List.not_mem_nil, or_false] at inHeader
      rcases inHeader with rfl | rfl
      · exact (headerFirst isHeaded pointer).1
      · exact (headerFirst isHeaded pointer).2
    · cases inHeader
  · split
    · exact List.pairwise_singleton _ _
    · exact List.Pairwise.nil
  · intro line member other inFooter
    split at inFooter
    · rw [List.mem_singleton.mp inFooter]
      exact beforeFooter line member
    · cases inFooter

/-! ## The emission loop keeps the order -/

/-- A group whose header is empty or shaped and whose footer is empty or
shaped. -/
def DisplayInfoGroup.WellShaped (group : DisplayInfoGroup) : Prop :=
  (group.header = [] ∨ HeaderShaped group.header) ∧ (group.footer = [] ∨ FooterShaped group.footer)

/-- The invariant of the emission loop before the group indented by `indent`
spaces: the entries so far are in sort order and well shaped, all are
indented more deeply, and none is written while the long format is due. -/
structure SortedSoFar (indent : Nat) (longOutputFormat : Bool) (completions : List CompletionLine) :
    Prop where
  ordered : completions.Pairwise CompletionLine.LeadsBefore
  shaped : ∀ line ∈ completions, line.WellShaped
  deeper : ∀ line ∈ completions, List.replicate (indent + 1) ' ' <+: line.lead
  fresh : longOutputFormat = true → completions = []

theorem groupEntries_shaped (indent : Nat) {group : DisplayInfoGroup} (shaped : group.WellShaped)
    (longOutputFormat : Bool) {headed footed : Bool} (flags : List FlagPointer)
    (headedNonempty : headed = true → group.header ≠ [])
    (footedNonempty : footed = true → group.footer ≠ []) :
    ∀ line ∈ groupEntries (List.replicate indent ' ') group.header group.footer longOutputFormat
        headed footed flags,
      line.WellShaped ∧ line.indentation = List.replicate indent ' ' ∧
        (longOutputFormat = false → ∃ d rest, line.key = d :: rest ∧ ' ' < d) := by
  have spaces : ∀ c ∈ List.replicate indent ' ', c = ' ' := fun _ => List.eq_of_mem_replicate
  intro line member
  rcases mem_groupEntries.mp member with ⟨isHeaded, inHeader⟩ | ⟨pointer, -, rfl⟩ | ⟨isFooted, rfl⟩
  · have headerShaped := shaped.1.resolve_left (headedNonempty isHeaded)
    rcases inHeader with rfl | rfl <;>
      exact ⟨⟨spaces, headerShaped⟩, rfl, fun _ => ⟨_, _, rfl, by decide⟩⟩
  · exact ⟨spaces, rfl, fun short => by subst short; exact ⟨_, _, rfl, by decide⟩⟩
  · exact ⟨⟨spaces, shaped.2.resolve_left (footedNonempty isFooted)⟩, rfl,
      fun _ => ⟨_, _, rfl, by decide⟩⟩

/-- The step lemma: one group, indented by `indent` spaces, keeps the entries
in sort order, and every entry is then indented by at least `indent`. -/
theorem outputSingleGroupWithLimit_sorted {indent : Nat} {longOutputFormat : Bool}
    {group : DisplayInfoGroup} {state : EmissionState} (shaped : group.WellShaped)
    (headerless : longOutputFormat = true → group.header = [])
    (sorted : SortedSoFar indent longOutputFormat state.completions) :
    let after := (outputSingleGroupWithLimit group.group (List.replicate indent ' ') group.header
      group.footer longOutputFormat state).completions
    after.Pairwise CompletionLine.LeadsBefore ∧ (∀ line ∈ after, line.WellShaped) ∧
      ∀ line ∈ after, List.replicate indent ' ' <+: line.lead := by
  obtain ⟨headed, footed, flags, headedNonempty, footedNonempty, appended⟩ :=
    outputSingleGroupWithLimit_entries group.group (List.replicate indent ' ') group.header
      group.footer longOutputFormat state
  have entries := groupEntries_shaped indent shaped longOutputFormat flags headedNonempty
    footedNonempty
  have oldDeeper : ∀ line ∈ state.completions, List.replicate indent ' ' <+: line.lead :=
    fun line member => by
      have deep := sorted.deeper line member
      rw [List.replicate_succ'] at deep
      exact (List.prefix_append _ _).trans deep
  dsimp only
  rw [appended]
  refine ⟨List.pairwise_append.mpr ⟨sorted.ordered, groupEntries_leadsBefore _ _ _ _ _ _ _
    fun long => Bool.eq_false_iff.mpr fun isHeaded => headedNonempty isHeaded (headerless long),
    fun old oldMember line member => .inr fun _ _ => ?_⟩, ?_, ?_⟩
  · cases longOutputFormat with
    | true => exact absurd (sorted.fresh rfl ▸ oldMember) (List.not_mem_nil _)
    | false =>
      obtain ⟨-, sameIndent, keyHead⟩ := entries line member
      obtain ⟨d, rest, keyed, above⟩ := keyHead rfl
      obtain ⟨rest', deep⟩ := sorted.deeper old oldMember
      rw [← deep, CompletionLine.lead, sameIndent, keyed]
      exact sortsBefore_spaces (Nat.lt_succ_self _) _ above _
  · intro line member
    rcases List.mem_append.mp member with old | new
    · exact sorted.shaped line old
    · exact (entries line new).1
  · intro line member
    rcases List.mem_append.mp member with old | new
    · exact oldDeeper line old
    · rw [CompletionLine.lead, (entries line new).2.1]
      exact List.prefix_append _ _

/-- The run lemma: the emission loop, from a fresh state and with no more
groups than indentation levels, writes its entries in sort order. -/
theorem emitGroups_sorted (groups : List DisplayInfoGroup) :
    ∀ (indent : Nat) (longOutputFormat : Bool) (state : EmissionState),
      groups.length ≤ indent + 1 → (∀ group ∈ groups, group.WellShaped) →
      (longOutputFormat = true → ∀ group ∈ groups.head?, group.header = []) →
      SortedSoFar indent longOutputFormat state.completions →
      (emitGroups indent longOutputFormat groups state).completions.Pairwise
          CompletionLine.LeadsBefore ∧
        ∀ line ∈ (emitGroups indent longOutputFormat groups state).completions, line.WellShaped := by
  induction groups with
  | nil => exact fun _ _ _ _ _ _ sorted => ⟨sorted.ordered, sorted.shaped⟩
  | cons group rest ih =>
    intro indent longOutputFormat state fits shaped headerless sorted
    have step := outputSingleGroupWithLimit_sorted (shaped group (List.mem_cons_self _ _))
      (fun long => headerless long group rfl) sorted
    rw [emitGroups]
    rcases rest with _ | ⟨next, rest⟩
    · exact ⟨step.1, step.2.1⟩
    · simp only [List.length_cons] at fits
      refine ih (indent - 1) false _ (by simp only [List.length_cons]; omega)
        (fun other member => shaped other (List.mem_cons_of_mem _ member)) nofun
        ⟨step.1, step.2.1, ?_, nofun⟩
      rw [Nat.sub_add_cancel (by omega)]
      exact step.2.2

/-! ## The groups of the listing -/

theorem candidateGroups_wellShaped (matchingFlags : List FlagPointer) (notable : NotableFlags) :
    ∀ group ∈ candidateGroups matchingFlags notable, group.WellShaped := by
  simp only [candidateGroups, List.mem_cons, List.mem_singleton, List.not_mem_nil, or_false]
  rintro group (rfl | rfl | rfl | rfl | rfl | rfl) <;>
    simp +decide [DisplayInfoGroup.WellShaped, HeaderShaped, FooterShaped, perfectMatchGroup,
      moduleGroup, packageGroup, mostCommonGroup, subpackageGroup, otherGroup]

theorem mem_candidateGroups_of_selected {matchingFlags : List FlagPointer}
    {options : CompletionOptions} {notable : NotableFlags} {group : DisplayInfoGroup}
    (member : group ∈
      (selectOutputGroups matchingFlags (maxDesiredLines options) notable).outputGroups) :
    group ∈ candidateGroups matchingFlags notable := by
  obtain ⟨chosen, within, selected⟩ := foldl_selectGroup_sublist (maxDesiredLines options)
    (candidateGroups matchingFlags notable) ⟨0, []⟩
  rw [selectOutputGroups_eq_foldl _ _ _ (maxDesiredLines_pos options), selected,
    List.nil_append] at member
  exact within.subset member

/-- With a perfect match, the first group selected is the perfect match's. -/
theorem selectOutputGroups_head (matchingFlags : List FlagPointer) (maxDesiredLines : Int)
    {notable : NotableFlags} (perfect : notable.perfectMatchFlag ≠ []) :
    (selectOutputGroups matchingFlags maxDesiredLines notable).outputGroups.head? =
      some (perfectMatchGroup notable) := by
  have extends_ : ∀ selection group, selection.outputGroups <+:
      (selectGroup maxDesiredLines selection group).outputGroups := fun selection group => by
    unfold selectGroup
    split
    · exact List.prefix_append _ _
    · exact List.prefix_refl _
  unfold selectOutputGroups
  dsimp only
  rw [if_pos perfect]
  obtain ⟨rest, whole⟩ := (((((extends_ _ _).trans (extends_ _ _)).trans (extends_ _ _)).trans
    (extends_ _ _)).trans (extends_ _ _))
  rw [← whole]
  rfl

/-- The emission pass of `FinalizeCompletionOutput` writes its entries in
sort order: the run lemma applied to the selected groups. -/
theorem emitOutputGroups_sorted (matchingFlags : List FlagPointer) (options : CompletionOptions)
    (notable : NotableFlags) :
    let emitted := (emitOutputGroups (maxDesiredLines options) (notable.perfectMatchFlag ≠ [])
      (selectOutputGroups matchingFlags (maxDesiredLines options) notable).outputGroups).completions
    emitted.Pairwise CompletionLine.LeadsBefore ∧ ∀ line ∈ emitted, line.WellShaped :=
  emitGroups_sorted _ _ _ _ (by omega)
    (fun group member => candidateGroups_wellShaped _ _ group (mem_candidateGroups_of_selected member))
    (fun perfect group first => by
      rw [selectOutputGroups_head _ _ (of_decide_eq_true perfect), Option.mem_def,
        Option.some.injEq] at first
      rw [← first]
      rfl)
    ⟨List.Pairwise.nil, nofun, nofun, fun _ => rfl⟩

/-! ## The listing -/

theorem CompletionLine.WellShaped.spaces {line : CompletionLine} (shaped : line.WellShaped) :
    ∀ c ∈ line.indentation, c = ' ' := by
  cases line with
  | header _ _ | underline _ _ | footer _ _ => exact shaped.1
  | flag _ _ _ => exact shaped
  | remainingHidden | noUpdate => exact shaped.elim

/-- Every entry of a group sorts before the sentinels. -/
theorem CompletionLine.sortsBefore_tilde {line : CompletionLine} (shaped : line.WellShaped) :
    SortsBefore line.lead ['~'] := by
  obtain ⟨k, rest, keyed, below⟩ : ∃ k rest, line.key = k :: rest ∧ k < '~' := by
    cases line with
    | flag _ longOutputFormat _ => cases longOutputFormat <;> exact ⟨_, _, rfl, by decide⟩
    | remainingHidden | noUpdate => exact shaped.elim
    | _ => exact ⟨_, _, rfl, by decide⟩
  rw [CompletionLine.lead]
  rcases indented : line.indentation with _ | ⟨c, indentation⟩
  · rw [List.nil_append, keyed]
    exact sortsBefore_cons below _ _
  · rw [shaped.spaces c (by rw [indented]; exact List.mem_cons_self _ _)]
    exact sortsBefore_cons (by decide) _ _

theorem CompletionLine.namedByIdentifier_of_emittedFlags {lines : List CompletionLine}
    (names : ∀ flag ∈ emittedFlags lines, beginsWithIdentifierChar flag.info.name = true) :
    ∀ line ∈ lines, line.NamedByIdentifier := by
  intro line member
  cases line with
  | flag _ _ pointer => exact names pointer (List.mem_filterMap.mpr ⟨_, member, rfl⟩)
  | _ => trivial

theorem CompletionLine.textBefore_of_sortsBefore (columns : Int)
    (describeOneFlag : CommandLineFlagInfo → List Char) {earlier later : CompletionLine}
    (shaped : earlier.WellShaped) (shaped' : later.WellShaped)
    (sorts : SortsBefore earlier.lead later.lead) (earlierText laterText : List Char)
    (rendered : earlier.text columns describeOneFlag = some earlierText)
    (rendered' : later.text columns describeOneFlag = some laterText) :
    earlierText < laterText :=
  (sorts.extend (CompletionLine.startsWith_lead _ _ shaped _ rendered)
    (CompletionLine.startsWith_lead _ _ shaped' _ rendered')).lt

/-- A listing comes through the shell's sort in its own order: each entry
sorts byte-wise strictly before every later one, except two flag lines of
one group, which the sort may exchange. -/
def SurvivesShellSort (columns : Int) (describeOneFlag : CommandLineFlagInfo → List Char)
    (completions : List CompletionLine) : Prop :=
  completions.Pairwise fun earlier later => earlier.SameGroupFlags later ∨
    ∀ earlierText laterText, earlier.text columns describeOneFlag = some earlierText →
      later.text columns describeOneFlag = some laterText → earlierText < laterText

theorem printFlagCompletionInfo_survivesShellSort (programInvocationShortName : List Char)
    (pathSeparator : Char) (allFlags : List CommandLineFlagInfo) (cursorWord : List Char)
    (completions : List CompletionLine) (columns : Int)
    (describeOneFlag : CommandLineFlagInfo → List Char)
    (identifierNames : ∀ flag ∈ emittedFlags completions,
      beginsWithIdentifierChar flag.info.name = true)
    (printed : printFlagCompletionInfo programInvocationShortName pathSeparator allFlags cursorWord =
      .listing completions) :
    SurvivesShellSort columns describeOneFlag completions := by
  have named := CompletionLine.namedByIdentifier_of_emittedFlags identifierNames
  have listed := printFlagCompletionInfo_eq_listing printed
  dsimp only at listed
  subst listed
  generalize canonicalizeCursorWordAndSearchOptions cursorWord {} = canonical at named ⊢
  have run := emitOutputGroups_sorted (findMatchingFlags allFlags canonical.2 canonical.1).1
    canonical.2 (categorizeAllMatchingFlags pathSeparator
      (findMatchingFlags allFlags canonical.2 canonical.1).1 canonical.1
      (tryFindModuleAndPackageDir programInvocationShortName pathSeparator allFlags).1
      (tryFindModuleAndPackageDir programInvocationShortName pathSeparator allFlags).2)
  generalize emitOutputGroups _ _ _ = emitted at named run ⊢
  unfold SurvivesShellSort
  refine List.pairwise_append.mpr ⟨run.1.imp_of_mem fun member member' leads => ?_,
    List.pairwise_singleton _ _, fun line member marker inMarker => .inr ?_⟩
  · rcases leads with same | sorts
    · exact .inl same
    · exact .inr (CompletionLine.textBefore_of_sortsBefore _ _ (run.2 _ member) (run.2 _ member')
        (sorts (named _ (List.mem_append_left _ member)) (named _ (List.mem_append_left _ member'))))
  · rw [List.mem_singleton.mp inMarker]
    intro lineText markerText rendered renderedMarker
    refine ((CompletionLine.sortsBefore_tilde (run.2 line member)).extend
      (CompletionLine.startsWith_lead _ _ (run.2 line member) _ rendered) ?_).lt
    split at renderedMarker <;> cases renderedMarker <;> exact ⟨_, rfl⟩

set_option maxRecDepth 4000 in
theorem printFlagCompletionInfo_survivesShellSort_perfect :
    (∀ flag ∈ emittedFlags [.flag [' '] true ⟨0, { name := "a".toList }⟩,
        .footer [' '] "==========".toList, .header [] "-* Other flags *-".toList,
        .underline [] "-* Other flags *-".toList, .flag [] false ⟨1, { name := "ab".toList }⟩,
        .noUpdate],
      beginsWithIdentifierChar flag.info.name = true) ∧
      printFlagCompletionInfo "foo".toList '/' [{ name := "a".toList }, { name := "ab".toList }]
          "a".toList =
        .listing [.flag [' '] true ⟨0, { name := "a".toList }⟩,
          .footer [' '] "==========".toList, .header [] "-* Other flags *-".toList,
          .underline [] "-* Other flags *-".toList, .flag [] false ⟨1, { name := "ab".toList }⟩,
          .noUpdate] ∧
      SurvivesShellSort 80
        (fun info => "    -".toList ++ info.name ++ " (help) type: bool default: false\n".toList)
        [.flag [' '] true ⟨0, { name := "a".toList }⟩,
          .footer [' '] "==========".toList, .header [] "-* Other flags *-".toList,
          .underline [] "-* Other flags *-".toList, .flag [] false ⟨1, { name := "ab".toList }⟩,
          .noUpdate] := by
  refine ⟨?names, ?printed,
    printFlagCompletionInfo_survivesShellSort _ _ _ _ _ _ _ ?names ?printed⟩
  case names => decide
  case printed =>
    rw [printFlagCompletionInfo, canonicalizeCursorWordAndSearchOptions_of_plain _ (by decide)
      (by decide) (by decide) (by decide)]
    decide

end Completion
end Gflags
