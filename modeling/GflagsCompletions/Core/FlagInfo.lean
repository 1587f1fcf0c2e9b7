import GflagsCompletions.Core.StdString

namespace Gflags

/-!
# Registered flags, as the completion code reads them

`GetAllFlags` fills a vector of `CommandLineFlagInfo`, and the completion code
keeps sets of `const CommandLineFlagInfo*` into that vector.  A pointer is
modelled by the element's index together with the element: two flags with
equal fields at different places of the vector stay different, as the
pointers do.  A `std::set` of pointers iterates by address, that is by index,
and every loop of the completion code inserts into its sets in that order, so
a set is the list of its members by increasing index.
-/

/-- The fields of `CommandLineFlagInfo` read by the completion code or by
`DescribeOneFlag`.  `has_validator_fn` and `flag_ptr` are read by neither.
A field left out is an empty string, as a default-constructed `std::string`. -/
structure CommandLineFlagInfo where
  name : List Char := []
  type : List Char := []
  description : List Char := []
  currentValue : List Char := []
  defaultValue : List Char := []
  filename : List Char := []
  isDefault : Bool := true
deriving DecidableEq, Repr

/-- `const CommandLineFlagInfo*` into the snapshot vector.  The index is the
pointer's identity; `info` is what it points to. -/
structure FlagPointer where
  address : Nat
  info : CommandLineFlagInfo
deriving DecidableEq, Repr

/-- The pointers `&*it` to the snapshot's elements, the first at `address`. -/
def pointersFrom (address : Nat) : List CommandLineFlagInfo → List FlagPointer
  | [] => []
  | info :: rest => ⟨address, info⟩ :: pointersFrom (address + 1) rest

/-- The pointers into the vector `GetAllFlags` filled. -/
def snapshotPointers (allFlags : List CommandLineFlagInfo) : List FlagPointer :=
  pointersFrom 0 allFlags

namespace FlagPointer

theorem address_ge_of_mem {address : Nat} {flags : List CommandLineFlagInfo} {pointer : FlagPointer}
    (member : pointer ∈ pointersFrom address flags) : address ≤ pointer.address := by
  induction flags generalizing address with
  | nil => cases member
  | cons info rest ih =>
    rcases List.mem_cons.mp member with rfl | later
    · exact le_refl _
    · exact Nat.le_of_succ_le (ih later)

theorem nodup_pointersFrom (address : Nat) (flags : List CommandLineFlagInfo) :
    (pointersFrom address flags).Nodup := by
  induction flags generalizing address with
  | nil => exact List.nodup_nil
  | cons info rest ih =>
    refine List.nodup_cons.mpr ⟨fun member => ?_, ih (address + 1)⟩
    have later := address_ge_of_mem member
    dsimp only at later
    omega

@[simp] theorem map_info_pointersFrom (address : Nat) (flags : List CommandLineFlagInfo) :
    (pointersFrom address flags).map FlagPointer.info = flags := by
  induction flags generalizing address with
  | nil => rfl
  | cons info rest ih => simp [pointersFrom, ih]

theorem nodup_snapshotPointers (allFlags : List CommandLineFlagInfo) :
    (snapshotPointers allFlags).Nodup :=
  nodup_pointersFrom 0 allFlags

@[simp] theorem map_info_snapshotPointers (allFlags : List CommandLineFlagInfo) :
    (snapshotPointers allFlags).map FlagPointer.info = allFlags :=
  map_info_pointersFrom 0 allFlags

theorem info_mem_of_mem {allFlags : List CommandLineFlagInfo} {pointer : FlagPointer}
    (member : pointer ∈ snapshotPointers allFlags) : pointer.info ∈ allFlags := by
  rw [← map_info_snapshotPointers allFlags]
  exact List.mem_map_of_mem _ member

end FlagPointer

namespace Completion

/-- `CompletionOptions`; its constructor clears every switch. -/
structure CompletionOptions where
  flagNameSubstringSearch : Bool := false
  flagLocationSubstringSearch : Bool := false
  flagDescriptionSubstringSearch : Bool := false
  returnAllMatchingFlags : Bool := false
  forceNoUpdate : Bool := false
deriving DecidableEq, Repr

/-- `NotableFlags`: the relevance buckets, in precedence order. -/
structure NotableFlags where
  perfectMatchFlag : List FlagPointer
  moduleFlags : List FlagPointer
  packageFlags : List FlagPointer
  mostCommonFlags : List FlagPointer
  subpackageFlags : List FlagPointer
deriving DecidableEq, Repr

end Completion
end Gflags
