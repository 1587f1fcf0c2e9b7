import GflagsCompletions.Search.Matching

namespace Gflags
namespace Completion

open StdString

/-!
# Relevance: the binary's own file and the buckets

`TryFindModuleAndPackageDir` guesses which source file is the binary's own:
the first flag, in snapshot order, whose file name contains one of seven
patterns built from the program's short name.  Its directory is the
package.  `CategorizeAllMatchingFlags` then sorts each match into the first
bucket whose test it passes: exact name, module file, package directory,
sub-directory of the package.  `RetrieveUnusedFlags` collects the rest.

`PATH_SEPARATOR` and `ProgramInvocationShortName()` come from files that
are not part of the completion code; both are parameters here.  Every
bucket is a filter of the match set, so the buckets are disjoint parts of
it, and together with the unused flags they cover it.  A file under the
package directory is sorted by whether a separator follows the one that
ends the directory.
-/

/-- `PushNameWithSuffix`: the pattern `"/<short name><suffix>"`. -/
def pushNameWithSuffix (programInvocationShortName : List Char) (suffix : List Char) :
    List Char :=
  '/' :: (programInvocationShortName ++ suffix)

/-- The seven patterns `TryFindModuleAndPackageDir` pushes, in its order. -/
def moduleSuffixes (programInvocationShortName : List Char) : List (List Char) :=
  ["." , "-main.", "_main.", "-test.", "_test.", "-unittest.", "_unittest."].map
    fun suffix => pushNameWithSuffix programInvocationShortName suffix.toList

/-- `filename.substr(0, sep == npos ? 0 : sep)` with `sep` the last separator. -/
def packageDirOf (pathSeparator : Char) (filename : List Char) : List Char :=
  filename.take ((rfind filename pathSeparator).getD 0)

/-- The inner loop of `TryFindModuleAndPackageDir`, over the patterns for one
flag's file; `some` is its early `return`. -/
def matchModuleSuffixes (pathSeparator : Char) (filename : List Char) :
    List (List Char) → Option (List Char × List Char)
  | [] => none
  | suffix :: rest =>
    if (find filename suffix).isSome then some (filename, packageDirOf pathSeparator filename)
    else matchModuleSuffixes pathSeparator filename rest

/-- The outer loop of `TryFindModuleAndPackageDir`, over the snapshot. -/
def searchModule (pathSeparator : Char) (suffixes : List (List Char)) :
    List CommandLineFlagInfo → Option (List Char × List Char)
  | [] => none
  | flag :: rest =>
    match matchModuleSuffixes pathSeparator flag.filename suffixes with
    | some found => some found
    | none => searchModule pathSeparator suffixes rest

/-- `TryFindModuleAndPackageDir`: the module file and its directory, both
empty when no file name contains a pattern. -/
def tryFindModuleAndPackageDir (programInvocationShortName : List Char) (pathSeparator : Char)
    (allFlags : List CommandLineFlagInfo) : List Char × List Char :=
  (searchModule pathSeparator (moduleSuffixes programInvocationShortName) allFlags).getD ([], [])

/-- The buckets `CategorizeAllMatchingFlags` fills.  `most_common_flags` has no
source of members, so the categoriser never chooses it. -/
inductive Bucket where
  | perfectMatch
  | module
  | package
  | subpackage
deriving DecidableEq, Repr

/-- The body of the loop of `CategorizeAllMatchingFlags` for one match: its
bucket, or `none` when it is not notable. -/
def categorizeFlag (pathSeparator : Char) (searchToken module packageDir : List Char)
    (flag : CommandLineFlagInfo) : Option Bucket :=
  let pos := if packageDir ≠ [] then find flag.filename packageDir else none
  let slash := match pos with
    | some pos => findCharFrom flag.filename pathSeparator (pos + packageDir.length + 1)
    | none => none
  if flag.name = searchToken then some .perfectMatch
  else if module ≠ [] ∧ flag.filename = module then some .module
  else if packageDir ≠ [] ∧ pos.isSome ∧ slash.isNone then some .package
  else if packageDir ≠ [] ∧ pos.isSome ∧ slash.isSome then some .subpackage
  else none

namespace NotableFlags

/-- The buckets after the five `clear()` calls. -/
def empty : NotableFlags := ⟨[], [], [], [], []⟩

/-- `insert` into one bucket; matches arrive by increasing address. -/
def insert (notable : NotableFlags) (flag : FlagPointer) : Bucket → NotableFlags
  | .perfectMatch => { notable with perfectMatchFlag := notable.perfectMatchFlag ++ [flag] }
  | .module => { notable with moduleFlags := notable.moduleFlags ++ [flag] }
  | .package => { notable with packageFlags := notable.packageFlags ++ [flag] }
  | .subpackage => { notable with subpackageFlags := notable.subpackageFlags ++ [flag] }

/-- Membership in any named bucket: the test of `RetrieveUnusedFlags`. -/
def IsNotable (notable : NotableFlags) (flag : FlagPointer) : Prop :=
  flag ∈ notable.perfectMatchFlag ∨ flag ∈ notable.moduleFlags ∨ flag ∈ notable.packageFlags ∨
    flag ∈ notable.mostCommonFlags ∨ flag ∈ notable.subpackageFlags

instance (notable : NotableFlags) : DecidablePred notable.IsNotable :=
  fun _ => inferInstanceAs (Decidable (_ ∨ _))

end NotableFlags

/-- One iteration of the loop of `CategorizeAllMatchingFlags`. -/
def categorizeStep (pathSeparator : Char) (searchToken module packageDir : List Char)
    (notable : NotableFlags) (flag : FlagPointer) : NotableFlags :=
  match categorizeFlag pathSeparator searchToken module packageDir flag.info with
  | some bucket => notable.insert flag bucket
  | none => notable

/-- `CategorizeAllMatchingFlags`. -/
def categorizeAllMatchingFlags (pathSeparator : Char) (allMatches : List FlagPointer)
    (searchToken module packageDir : List Char) : NotableFlags :=
  allMatches.foldl (categorizeStep pathSeparator searchToken module packageDir) NotableFlags.empty

/-- `RetrieveUnusedFlags`: the matches in no named bucket. -/
def retrieveUnusedFlags (matchingFlags : List FlagPointer) (notable : NotableFlags) :
    List FlagPointer :=
  matchingFlags.filter fun flag => ¬ notable.IsNotable flag

/-! ## Every bucket is a filter of the match set -/

/-- The flags of `allMatches` that `categorizeFlag` sends to `bucket`. -/
def bucketOf (pathSeparator : Char) (allMatches : List FlagPointer)
    (searchToken module packageDir : List Char) (bucket : Bucket) : List FlagPointer :=
  allMatches.filter fun flag =>
    categorizeFlag pathSeparator searchToken module packageDir flag.info = some bucket

theorem foldl_categorizeStep (pathSeparator : Char) (searchToken module packageDir : List Char)
    (flags : List FlagPointer) (notable : NotableFlags) :
    flags.foldl (categorizeStep pathSeparator searchToken module packageDir) notable =
      ⟨notable.perfectMatchFlag ++
          bucketOf pathSeparator flags searchToken module packageDir .perfectMatch,
        notable.moduleFlags ++ bucketOf pathSeparator flags searchToken module packageDir .module,
        notable.packageFlags ++ bucketOf pathSeparator flags searchToken module packageDir .package,
        notable.mostCommonFlags,
        notable.subpackageFlags ++
          bucketOf pathSeparator flags searchToken module packageDir .subpackage⟩ := by
  induction flags generalizing notable with
  | nil => simp [bucketOf]
  | cons flag rest ih =>
    rw [List.foldl_cons, ih]
    cases bucket : categorizeFlag pathSeparator searchToken module packageDir flag.info with
    | none => simp [categorizeStep, bucketOf, List.filter_cons, bucket]
    | some chosen =>
      cases chosen <;> simp [categorizeStep, bucketOf, List.filter_cons, bucket, NotableFlags.insert]

theorem categorizeAllMatchingFlags_eq (pathSeparator : Char) (allMatches : List FlagPointer)
    (searchToken module packageDir : List Char) :
    categorizeAllMatchingFlags pathSeparator allMatches searchToken module packageDir =
      ⟨bucketOf pathSeparator allMatches searchToken module packageDir .perfectMatch,
        bucketOf pathSeparator allMatches searchToken module packageDir .module,
        bucketOf pathSeparator allMatches searchToken module packageDir .package,
        [],
        bucketOf pathSeparator allMatches searchToken module packageDir .subpackage⟩ := by
  simpa [NotableFlags.empty] using
    foldl_categorizeStep pathSeparator searchToken module packageDir allMatches NotableFlags.empty

/-- A match is in no named bucket exactly when the categoriser skips it. -/
theorem retrieveUnusedFlags_categorizeAllMatchingFlags (pathSeparator : Char)
    (allMatches : List FlagPointer) (searchToken module packageDir : List Char) :
    retrieveUnusedFlags allMatches
        (categorizeAllMatchingFlags pathSeparator allMatches searchToken module packageDir) =
      allMatches.filter fun flag =>
        categorizeFlag pathSeparator searchToken module packageDir flag.info = none := by
  rw [categorizeAllMatchingFlags_eq, retrieveUnusedFlags]
  refine List.filter_congr fun flag member => ?_
  cases bucket : categorizeFlag pathSeparator searchToken module packageDir flag.info with
  | none => simp [NotableFlags.IsNotable, bucketOf, bucket]
  | some chosen =>
    cases chosen <;> simp [NotableFlags.IsNotable, bucketOf, bucket, member]

/-- The fibres of a labelling over distinct labels share no element. -/
theorem nodup_flatten_fibres {α β : Type} [DecidableEq β] (label : α → β) {items : List α}
    (nodup : items.Nodup) {labels : List β} (distinct : labels.Nodup) :
    (labels.map fun chosen => items.filter fun item => label item = chosen).flatten.Nodup := by
  induction labels with
  | nil => exact List.nodup_nil
  | cons chosen rest ih =>
    obtain ⟨fresh, restDistinct⟩ := List.nodup_cons.mp distinct
    rw [List.map_cons, List.flatten_cons, List.nodup_append]
    refine ⟨nodup.filter _, ih restDistinct, fun item inFirst inRest => fresh ?_⟩
    obtain ⟨_, labelled⟩ := List.mem_filter.mp inFirst
    obtain ⟨fibre, inFibres, inFibre⟩ := List.mem_flatten.mp inRest
    obtain ⟨other, otherMember, rfl⟩ := List.mem_map.mp inFibres
    rw [← of_decide_eq_true labelled, of_decide_eq_true (List.mem_filter.mp inFibre).2]
    exact otherMember

/-! ## The module search is a first match over the snapshot -/

/-- The seven patterns, spelled out: a separator, the short name, and one of
the seven endings. -/
def modulePatterns (programInvocationShortName : List Char) : List (List Char) :=
  ["/".toList ++ programInvocationShortName ++ ".".toList,
    "/".toList ++ programInvocationShortName ++ "-main.".toList,
    "/".toList ++ programInvocationShortName ++ "_main.".toList,
    "/".toList ++ programInvocationShortName ++ "-test.".toList,
    "/".toList ++ programInvocationShortName ++ "_test.".toList,
    "/".toList ++ programInvocationShortName ++ "-unittest.".toList,
    "/".toList ++ programInvocationShortName ++ "_unittest.".toList]

/-- The part of a path before its last separator, empty when it has none. -/
def beforeLastSeparator (pathSeparator : Char) (path : List Char) : List Char :=
  ((path.reverse.dropWhile (· ≠ pathSeparator)).drop 1).reverse

/-- What the module search is for: the first flag, in snapshot order, whose
path contains one of the patterns, and the part of that path before its last
separator; both empty when no path contains a pattern. -/
def firstModuleMatch (programInvocationShortName : List Char) (pathSeparator : Char)
    (allFlags : List CommandLineFlagInfo) : List Char × List Char :=
  match allFlags.find? fun flag =>
      (modulePatterns programInvocationShortName).any fun pattern => pattern <:+: flag.filename with
  | some flag => (flag.filename, beforeLastSeparator pathSeparator flag.filename)
  | none => ([], [])

theorem dropWhile_reverse_of_not_mem {pathSeparator : Char} {path : List Char}
    (free : pathSeparator ∉ path) : path.reverse.dropWhile (· ≠ pathSeparator) = [] :=
  List.dropWhile_eq_nil_iff.mpr fun c member =>
    decide_eq_true fun same : c = pathSeparator => free (same ▸ List.mem_reverse.mp member)

theorem beforeLastSeparator_of_not_mem {pathSeparator : Char} {path : List Char}
    (free : pathSeparator ∉ path) : beforeLastSeparator pathSeparator path = [] := by
  rw [beforeLastSeparator, dropWhile_reverse_of_not_mem free]
  rfl

theorem beforeLastSeparator_append {pathSeparator : Char} (front : List Char) {rest : List Char}
    (free : pathSeparator ∉ rest) :
    beforeLastSeparator pathSeparator (front ++ pathSeparator :: rest) = front := by
  rw [beforeLastSeparator, List.reverse_append, List.reverse_cons, List.append_assoc,
    List.singleton_append, List.dropWhile_append, dropWhile_reverse_of_not_mem free]
  simp

theorem packageDirOf_eq_beforeLastSeparator (pathSeparator : Char) (path : List Char) :
    packageDirOf pathSeparator path = beforeLastSeparator pathSeparator path := by
  cases found : rfind path pathSeparator with
  | none =>
    rw [beforeLastSeparator_of_not_mem ((rfind_eq_none_iff _ _).mp found), packageDirOf, found]
    rfl
  | some i =>
    obtain ⟨rest, split, free⟩ := rfind_eq_some found
    rw [packageDirOf, found, Option.getD_some]
    conv_rhs => rw [split]
    rw [beforeLastSeparator_append _ free]

theorem matchModuleSuffixes_eq (pathSeparator : Char) (filename : List Char) :
    ∀ suffixes : List (List Char), matchModuleSuffixes pathSeparator filename suffixes =
      if suffixes.any fun suffix => suffix <:+: filename then
        some (filename, packageDirOf pathSeparator filename)
      else none
  | [] => rfl
  | suffix :: rest => by
    by_cases found : suffix <:+: filename
    · simp [matchModuleSuffixes, (find_isSome_iff _ _).mpr found, found]
    · rw [matchModuleSuffixes, if_neg (by rwa [find_isSome_iff]),
        matchModuleSuffixes_eq pathSeparator filename rest]
      simp [found]

theorem searchModule_eq (pathSeparator : Char) (suffixes : List (List Char)) :
    ∀ flags : List CommandLineFlagInfo, searchModule pathSeparator suffixes flags =
      (flags.find? fun flag => suffixes.any fun suffix => suffix <:+: flag.filename).map
        fun flag => (flag.filename, packageDirOf pathSeparator flag.filename)
  | [] => rfl
  | flag :: rest => by
    rw [searchModule, matchModuleSuffixes_eq]
    by_cases found : suffixes.any fun suffix => suffix <:+: flag.filename
    · simp [found]
    · simp only [found, if_false, Bool.false_eq_true]
      rw [searchModule_eq pathSeparator suffixes rest, List.find?_cons_of_neg _ (by simpa using found)]

theorem any_eq_of_perm {α : Type} {first second : List α} (same : first.Perm second)
    (p : α → Bool) : first.any p = second.any p := by
  rw [Bool.eq_iff_iff, List.any_eq_true, List.any_eq_true]
  exact ⟨fun ⟨x, member, holds⟩ => ⟨x, same.subset member, holds⟩,
    fun ⟨x, member, holds⟩ => ⟨x, same.symm.subset member, holds⟩⟩

theorem moduleSuffixes_eq_modulePatterns (programInvocationShortName : List Char) :
    moduleSuffixes programInvocationShortName = modulePatterns programInvocationShortName := rfl

theorem tryFindModuleAndPackageDir_first_match (programInvocationShortName : List Char)
    (pathSeparator : Char) (allFlags : List CommandLineFlagInfo) :
    tryFindModuleAndPackageDir programInvocationShortName pathSeparator allFlags =
        firstModuleMatch programInvocationShortName pathSeparator allFlags ∧
      ∀ patterns, patterns.Perm (moduleSuffixes programInvocationShortName) →
        (searchModule pathSeparator patterns allFlags).getD ([], []) =
          firstModuleMatch programInvocationShortName pathSeparator allFlags := by
  have reordered : ∀ patterns, patterns.Perm (moduleSuffixes programInvocationShortName) →
      (searchModule pathSeparator patterns allFlags).getD ([], []) =
        firstModuleMatch programInvocationShortName pathSeparator allFlags := by
    intro patterns same
    have sameTest : (fun flag : CommandLineFlagInfo => patterns.any fun suffix =>
        suffix <:+: flag.filename) = fun flag =>
          (modulePatterns programInvocationShortName).any fun pattern =>
            pattern <:+: flag.filename :=
      funext fun flag => by rw [any_eq_of_perm same, moduleSuffixes_eq_modulePatterns]
    rw [searchModule_eq, firstModuleMatch, sameTest]
    cases allFlags.find? _ <;> simp [packageDirOf_eq_beforeLastSeparator]
  exact ⟨reordered _ (List.Perm.refl _), reordered⟩

/-! ## The buckets and the unused flags partition the matches -/

theorem perm_flatten_fibres {α β : Type} [DecidableEq β] (label : α → β) :
    ∀ {labels : List β} (items : List α), labels.Nodup → (∀ item ∈ items, label item ∈ labels) →
      (labels.map fun chosen => items.filter fun item => label item = chosen).flatten.Perm items
  | [], items, _, covers => by
    cases items with
    | nil => exact List.Perm.nil
    | cons item _ => exact absurd (covers item (List.mem_cons_self _ _)) (List.not_mem_nil _)
  | chosen :: rest, items, distinct, covers => by
    obtain ⟨fresh, restDistinct⟩ := List.nodup_cons.mp distinct
    have others : (rest.map fun other => items.filter fun item => label item = other) =
        rest.map fun other => (items.filter fun item => label item ≠ chosen).filter
          fun item => label item = other := by
      refine List.map_congr_left fun other member => ?_
      have different : other ≠ chosen := fun same => fresh (same ▸ member)
      rw [List.filter_filter]
      refine List.filter_congr fun item _ => ?_
      by_cases labelled : label item = other <;> simp [labelled, different]
    rw [List.map_cons, List.flatten_cons, others]
    refine ((perm_flatten_fibres label _ restDistinct ?_).append_left _).trans ?_
    · intro item member
      obtain ⟨inItems, away⟩ := List.mem_filter.mp member
      exact (List.mem_cons.mp (covers item inItems)).resolve_left (by simpa using away)
    · simpa using List.filter_append_perm (fun item => decide (label item = chosen)) items

theorem categorizeFlag_eq_perfectMatch_iff (pathSeparator : Char)
    (searchToken module packageDir : List Char) (flag : CommandLineFlagInfo) :
    categorizeFlag pathSeparator searchToken module packageDir flag = some .perfectMatch ↔
      flag.name = searchToken := by
  by_cases named : flag.name = searchToken
  · simp [categorizeFlag, named]
  · simp only [categorizeFlag, if_neg named, named, iff_false]
    split_ifs <;> simp_all

theorem categorizeFlag_mem (pathSeparator : Char) (searchToken module packageDir : List Char)
    (flag : CommandLineFlagInfo) :
    categorizeFlag pathSeparator searchToken module packageDir flag ∈
      [some .perfectMatch, some .module, some .package, some .subpackage, none] := by
  cases categorizeFlag pathSeparator searchToken module packageDir flag with
  | none => simp
  | some bucket => cases bucket <;> simp

section Buckets

variable (pathSeparator : Char) (allMatches : List FlagPointer)
  (searchToken module packageDir : List Char)

theorem disjoint_bucketOf {first second : Bucket} (different : first ≠ second) :
    (bucketOf pathSeparator allMatches searchToken module packageDir first).Disjoint
      (bucketOf pathSeparator allMatches searchToken module packageDir second) :=
  fun _ inFirst inSecond => different (Option.some.inj
    ((of_decide_eq_true (List.mem_filter.mp inFirst).2).symm.trans
      (of_decide_eq_true (List.mem_filter.mp inSecond).2)))

/-- The perfect-match bucket holds the matches named exactly as the token. -/
theorem perfectMatchFlag_categorizeAllMatchingFlags :
    (categorizeAllMatchingFlags pathSeparator allMatches searchToken module packageDir).perfectMatchFlag =
      allMatches.filter fun flag => flag.info.name = searchToken := by
  rw [categorizeAllMatchingFlags_eq]
  exact List.filter_congr fun flag _ => by simp only [categorizeFlag_eq_perfectMatch_iff]

/-- The five buckets and the unused flags, glued, are the matches reordered. -/
theorem perm_categorizeAllMatchingFlags :
    let notable := categorizeAllMatchingFlags pathSeparator allMatches searchToken module packageDir
    [notable.perfectMatchFlag, notable.moduleFlags, notable.packageFlags, notable.mostCommonFlags,
      notable.subpackageFlags, retrieveUnusedFlags allMatches notable].flatten.Perm allMatches := by
  dsimp only
  rw [retrieveUnusedFlags_categorizeAllMatchingFlags, categorizeAllMatchingFlags_eq]
  simpa [bucketOf] using perm_flatten_fibres
    (fun flag : FlagPointer => categorizeFlag pathSeparator searchToken module packageDir flag.info)
    allMatches (by decide) fun flag _ => categorizeFlag_mem _ _ _ _ flag.info

end Buckets

/-- The buckets are disjoint filters of the matches, the commonly-used one is
empty, the perfect-match one holds the matches named as the token, the unused
flags are the matches in no bucket, and the six together partition the
matches. -/
theorem categorizeAllMatchingFlags_partitions (pathSeparator : Char)
    (allMatches : List FlagPointer) (searchToken module packageDir : List Char) :
    let notable := categorizeAllMatchingFlags pathSeparator allMatches searchToken module packageDir
    let buckets := [notable.perfectMatchFlag, notable.moduleFlags, notable.packageFlags,
      notable.mostCommonFlags, notable.subpackageFlags]
    buckets.Pairwise List.Disjoint ∧ (∀ bucket ∈ buckets, bucket.Sublist allMatches) ∧
      notable.mostCommonFlags = [] ∧
      notable.perfectMatchFlag = allMatches.filter (fun flag => flag.info.name = searchToken) ∧
      (∀ flag, flag ∈ retrieveUnusedFlags allMatches notable ↔
        flag ∈ allMatches ∧ ∀ bucket ∈ buckets, flag ∉ bucket) ∧
      (buckets ++ [retrieveUnusedFlags allMatches notable]).flatten.Perm allMatches := by
  have split := categorizeAllMatchingFlags_eq pathSeparator allMatches searchToken module packageDir
  refine ⟨?disjoint, ?within, by rw [split], perfectMatchFlag_categorizeAllMatchingFlags _ _ _ _ _,
    fun flag => by simp [retrieveUnusedFlags, NotableFlags.IsNotable],
    perm_categorizeAllMatchingFlags _ _ _ _ _⟩
  case disjoint =>
    simp only [split, List.pairwise_cons, List.mem_cons, List.mem_singleton, List.not_mem_nil,
      or_false, forall_eq_or_imp, forall_eq, List.Pairwise.nil, List.disjoint_nil_left,
      List.disjoint_nil_right, true_and, and_true, false_implies, implies_true]
    exact ⟨⟨disjoint_bucketOf _ _ _ _ _ nofun, disjoint_bucketOf _ _ _ _ _ nofun,
      disjoint_bucketOf _ _ _ _ _ nofun⟩, ⟨disjoint_bucketOf _ _ _ _ _ nofun,
      disjoint_bucketOf _ _ _ _ _ nofun⟩, disjoint_bucketOf _ _ _ _ _ nofun⟩
  case within =>
    simp only [split, List.mem_cons, List.mem_singleton, List.not_mem_nil, or_false]
    rintro bucket (rfl | rfl | rfl | rfl | rfl)
    all_goals first | exact List.filter_sublist _ | exact List.nil_sublist _

/-! ## The character after the package directory -/

/-- The separator search starts one character past the package directory and
never looks at that character.  Next to the module `/src/foo.cc`, whose
package is `/src`, the file `/srcfoo.cc` lies in `/` and `/srcx/bar.cc` in
`/srcx`, yet the first lands in the package bucket and the second in the
sub-package bucket. -/
theorem categorizeAllMatchingFlags_sibling_of_package :
    let allFlags : List CommandLineFlagInfo :=
      [{ name := "alpha".toList, filename := "/src/foo.cc".toList },
        { name := "beta".toList, filename := "/srcfoo.cc".toList },
        { name := "bravo".toList, filename := "/srcx/bar.cc".toList }]
    let notable := categorizeAllMatchingFlags '/' (findMatchingFlags allFlags {} "b".toList).1
      "b".toList "/src/foo.cc".toList "/src".toList
    tryFindModuleAndPackageDir "foo".toList '/' allFlags = ("/src/foo.cc".toList, "/src".toList) ∧
      notable.packageFlags.map (·.info.filename) = ["/srcfoo.cc".toList] ∧
      notable.subpackageFlags.map (·.info.filename) = ["/srcx/bar.cc".toList] ∧
      find "/srcfoo.cc".toList "/src".toList = some 0 ∧ "/srcfoo.cc".toList[4]? = some 'f' ∧
      find "/srcx/bar.cc".toList "/src".toList = some 0 ∧ "/srcx/bar.cc".toList[4]? = some 'x' := by
  decide

/-! ## Files under the package directory -/

/-- For a file under the package directory, the separator search starts
right after the separator that ends the directory: a file directly in it is
a package match, a file in a directory below it a sub-package match. -/
theorem categorizeFlag_of_packageDir (pathSeparator : Char)
    (searchToken module packageDir : List Char) (flag : CommandLineFlagInfo) (file : List Char)
    (named : flag.name ≠ searchToken) (notModule : flag.filename ≠ module)
    (nonempty : packageDir ≠ []) (inPackage : flag.filename = packageDir ++ pathSeparator :: file) :
    categorizeFlag pathSeparator searchToken module packageDir flag =
      some (if pathSeparator ∈ file then .subpackage else .package) := by
  have found : find flag.filename packageDir = some 0 :=
    (find_eq_zero_iff _ _).mpr (inPackage ▸ List.prefix_append _ _)
  have after : flag.filename.drop (packageDir.length + 1) = file := by
    rw [inPackage, ← List.drop_drop, List.drop_left]
    rfl
  have searched : findCharFrom flag.filename pathSeparator (packageDir.length + 1) = none ↔
      pathSeparator ∉ file := by
    rw [findCharFrom_eq_none_iff, after]
  unfold categorizeFlag
  simp only [ne_eq, nonempty, not_false_eq_true, if_true, found, if_neg named, notModule,
    and_false, if_false, true_and, Option.isSome_some]
  by_cases nested : pathSeparator ∈ file
  · obtain ⟨slash, isSlash⟩ := Option.ne_none_iff_exists'.mp (mt searched.mp (not_not.mpr nested))
    simp [isSlash, nested]
  · simp [searched.mpr nested, nested]

/-- A match under the package directory that is neither named as the token
nor in the module's file lands in the package bucket when its file lies
directly in the directory, and in the sub-package bucket when it lies below. -/
theorem categorizeAllMatchingFlags_of_packageDir (pathSeparator : Char)
    (allMatches : List FlagPointer) (searchToken module packageDir : List Char) {flag : FlagPointer}
    (file : List Char) (member : flag ∈ allMatches) (named : flag.info.name ≠ searchToken)
    (notModule : flag.info.filename ≠ module) (nonempty : packageDir ≠ [])
    (inPackage : flag.info.filename = packageDir ++ pathSeparator :: file) :
    (pathSeparator ∉ file → flag ∈
        (categorizeAllMatchingFlags pathSeparator allMatches searchToken module packageDir).packageFlags) ∧
      (pathSeparator ∈ file → flag ∈
        (categorizeAllMatchingFlags pathSeparator allMatches searchToken module
          packageDir).subpackageFlags) := by
  rw [categorizeAllMatchingFlags_eq]
  simp only [bucketOf, List.mem_filter, categorizeFlag_of_packageDir pathSeparator searchToken module
    packageDir flag.info file named notModule nonempty inPackage, member, true_and]
  exact ⟨fun direct => by simp [direct], fun nested => by simp [nested]⟩

theorem categorizeAllMatchingFlags_of_packageDir_bar :
    (⟨0, { name := "beta".toList, filename := "/src/bar.cc".toList }⟩ : FlagPointer) ∈ [(⟨0, { name := "beta".toList, filename := "/src/bar.cc".toList }⟩ : FlagPointer)] ∧
      "beta".toList ≠ "b".toList ∧ "/src/bar.cc".toList ≠ "/src/foo.cc".toList ∧
      "/src".toList ≠ [] ∧ "/src/bar.cc".toList = "/src".toList ++ '/' :: "bar.cc".toList ∧
      ('/' ∉ "bar.cc".toList → (⟨0, { name := "beta".toList, filename := "/src/bar.cc".toList }⟩ : FlagPointer) ∈
        (categorizeAllMatchingFlags '/' [(⟨0, { name := "beta".toList, filename := "/src/bar.cc".toList }⟩ : FlagPointer)] "b".toList "/src/foo.cc".toList
          "/src".toList).packageFlags) ∧
      ('/' ∈ "bar.cc".toList → (⟨0, { name := "beta".toList, filename := "/src/bar.cc".toList }⟩ : FlagPointer) ∈
        (categorizeAllMatchingFlags '/' [(⟨0, { name := "beta".toList, filename := "/src/bar.cc".toList }⟩ : FlagPointer)] "b".toList "/src/foo.cc".toList
          "/src".toList).subpackageFlags) :=
  ⟨List.mem_singleton_self _, by decide, by decide, by decide, rfl,
    categorizeAllMatchingFlags_of_packageDir '/' _ _ _ _ _ (List.mem_singleton_self _) (by decide)
      (by decide) (by decide) rfl⟩

end Completion
end Gflags
