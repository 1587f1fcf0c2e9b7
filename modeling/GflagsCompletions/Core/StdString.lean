import Mathlib

namespace Gflags
namespace StdString

/-!
# The `std::string` operations of the completion code

Strings are lists of characters.  Each text the completion code handles
(flag names, paths, help texts, default values) arrives from a C string, so
it holds no NUL character and `c_str()` is the identity on it.  A search that
fails returns `none`, which stands for `string::npos`.  Positions are natural
numbers; the only place where the code hands a negative `int` to an unsigned
length is modelled where it happens, in `GetShortFlagLine`.
-/

/-- `haystack.find(needle)`: the first index at which `needle` occurs.  The
empty needle occurs at index zero. -/
def find : List Char → List Char → Option Nat
  | [], needle => if needle <+: [] then some 0 else none
  | c :: rest, needle => if needle <+: c :: rest then some 0 else (find rest needle).map (· + 1)

/-- `s.find(c, pos)` for a single character: the first index at or after
`pos` that holds `c`. -/
def findCharFrom (s : List Char) (c : Char) (pos : Nat) : Option Nat :=
  (find (s.drop pos) [c]).map (· + pos)

/-- `s.rfind(c)`: the last index that holds `c`. -/
def rfind : List Char → Char → Option Nat
  | [], _ => none
  | d :: rest, c =>
    match rfind rest c with
    | some i => some (i + 1)
    | none => if d = c then some 0 else none

/-- `s.substr(pos, count)`, for `pos ≤ s.size()`. -/
def substr (s : List Char) (pos count : Nat) : List Char :=
  (s.drop pos).take count

/-- `s.replace(pos, count, r)`, for `pos ≤ s.size()`. -/
def replace (s : List Char) (pos count : Nat) (r : List Char) : List Char :=
  s.take pos ++ r ++ s.drop (pos + count)

/-- `static_cast<size_t>(n)` for an `int`: reduction modulo `2^64`. -/
def toSizeT (n : Int) : Nat :=
  (n % 2 ^ 64).toNat

/-! ## Searching -/

theorem find_eq_zero_iff (haystack needle : List Char) :
    find haystack needle = some 0 ↔ needle <+: haystack := by
  cases haystack with
  | nil => by_cases found : needle <+: [] <;> simp [find, found]
  | cons c rest => by_cases found : needle <+: c :: rest <;> simp [find, found]

theorem find_isSome_iff (haystack needle : List Char) :
    (find haystack needle).isSome ↔ needle <:+: haystack := by
  induction haystack with
  | nil => by_cases found : needle <+: [] <;> simp_all [find, List.infix_nil]
  | cons c rest ih =>
    by_cases found : needle <+: c :: rest
    · simp [find, found, found.isInfix]
    · simp [find, found, ih, List.infix_cons_iff]

theorem find_eq_none_iff (haystack needle : List Char) :
    find haystack needle = none ↔ ¬ needle <:+: haystack := by
  rw [← find_isSome_iff, Option.not_isSome_iff_eq_none]

/-- A successful search reports an occurrence, and no earlier one. -/
theorem find_eq_some (haystack needle : List Char) (i : Nat)
    (found : find haystack needle = some i) :
    needle <+: haystack.drop i ∧ ∀ j < i, ¬ needle <+: haystack.drop j := by
  induction haystack generalizing i with
  | nil =>
    by_cases empty : needle <+: [] <;> simp only [find, empty, if_true, if_false] at found
    · cases found
      exact ⟨empty, by simp⟩
    · cases found
  | cons c rest ih =>
    by_cases here : needle <+: c :: rest
    · simp only [find, here, if_true, Option.some.injEq] at found
      subst i
      exact ⟨here, by simp⟩
    · simp only [find, here, if_false, Option.map_eq_some'] at found
      obtain ⟨k, later, rfl⟩ := found
      obtain ⟨occurs, first⟩ := ih k later
      refine ⟨by simpa using occurs, fun j before => ?_⟩
      cases j with
      | zero => simpa using here
      | succ j => simpa using first j (by omega)

theorem singleton_infix_iff (c : Char) (s : List Char) : [c] <:+: s ↔ c ∈ s := by
  refine ⟨fun occurs => List.singleton_sublist.mp occurs.sublist, fun member => ?_⟩
  obtain ⟨front, back, rfl⟩ := List.append_of_mem member
  exact ⟨front, back, by simp⟩

theorem findCharFrom_eq_none_iff (s : List Char) (c : Char) (pos : Nat) :
    findCharFrom s c pos = none ↔ c ∉ s.drop pos := by
  simp [findCharFrom, find_eq_none_iff, singleton_infix_iff]

theorem rfind_eq_none_iff (s : List Char) (c : Char) : rfind s c = none ↔ c ∉ s := by
  induction s with
  | nil => simp [rfind]
  | cons d rest ih =>
    cases later : rfind rest c with
    | some i =>
      have inRest : c ∈ rest := by simpa [later] using ih
      simp [rfind, later, inRest]
    | none =>
      have notInRest : c ∉ rest := ih.mp later
      by_cases here : d = c
      · simp [rfind, later, here]
      · simp [rfind, later, here, notInRest, Ne.symm here]

/-- A successful search from the back stops at the last occurrence. -/
theorem rfind_eq_some {s : List Char} {c : Char} {i : Nat} (found : rfind s c = some i) :
    ∃ rest, s = s.take i ++ c :: rest ∧ c ∉ rest := by
  induction s generalizing i with
  | nil => cases found
  | cons d s ih =>
    cases later : rfind s c with
    | some j =>
      simp only [rfind, later, Option.some.injEq] at found
      subst found
      obtain ⟨rest, split, free⟩ := ih later
      exact ⟨rest, by rw [List.take_succ_cons, List.cons_append, ← split], free⟩
    | none =>
      simp only [rfind, later] at found
      split at found
      · rename_i here
        cases found
        exact ⟨s, by simp [here], (rfind_eq_none_iff s c).mp later⟩
      · cases found

/-! ## Editing -/

@[simp] theorem length_replace (s : List Char) (pos count : Nat) (r : List Char)
    (inside : pos + count ≤ s.length) :
    (replace s pos count r).length = s.length - count + r.length := by
  simp only [replace, List.length_append, List.length_take, List.length_drop]
  omega

theorem toSizeT_of_nonneg {n : Int} (nonneg : 0 ≤ n) (small : n < 2 ^ 64) :
    toSizeT n = n.toNat := by
  rw [toSizeT, Int.emod_eq_of_lt nonneg small]

/-- A search for a string that starts with `c` cannot stop inside a leading
part free of `c`. -/
theorem find_ge_of_free_lead {haystack needle lead : List Char} {c : Char} {pos : Nat}
    (found : find haystack needle = some pos) (starts : needle.head? = some c)
    (leading : lead <+: haystack) (free : c ∉ lead) : lead.length ≤ pos := by
  obtain ⟨occurs, -⟩ := find_eq_some haystack needle pos found
  by_contra before
  obtain ⟨rest, rfl⟩ := leading
  obtain ⟨tail, rfl⟩ := List.head?_eq_some_iff.mp starts
  obtain ⟨more, same⟩ := occurs
  have atPos : (lead ++ rest)[pos]? = some c := by
    rw [← List.head?_drop, ← same]
    rfl
  rw [List.getElem?_append_left (by omega)] at atPos
  exact free (List.getElem?_mem atPos)

theorem prefix_replace {s lead r : List Char} {pos count : Nat}
    (leading : lead <+: s) (after : lead.length ≤ pos) : lead <+: replace s pos count r := by
  have : lead <+: s.take pos := (List.prefix_take_iff.mpr ⟨leading, after⟩)
  exact this.trans ((List.prefix_append _ r).trans (List.prefix_append _ _))

theorem find_singleton_eq_none {c : Char} {s : List Char} (free : c ∉ s) :
    find s [c] = none := by
  rwa [find_eq_none_iff, singleton_infix_iff]

theorem find_singleton_append {c : Char} {lead : List Char} (tail : List Char) (free : c ∉ lead) :
    find (lead ++ c :: tail) [c] = some lead.length := by
  induction lead with
  | nil => simp [find]
  | cons d lead ih =>
    have different : d ≠ c := fun same => free (same ▸ List.mem_cons_self _ _)
    have later : c ∉ lead := fun member => free (List.mem_cons_of_mem _ member)
    simp [find, different, Ne.symm different, ih later]

end StdString
end Gflags
