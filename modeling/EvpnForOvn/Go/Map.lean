import Mathlib.Data.List.AList
import Mathlib.Data.List.Sort
import Mathlib.Data.String.Basic

/-!
# Maps with string keys and sorted strings

Go maps as association lists without duplicate keys.  Their iteration order is
unspecified in Go; the modelled code only depends on it through `sort.Strings`
on the keys.
-/

namespace EvpnForOvn.Go

def sortStrings (texts : List String) : List String :=
  texts.insertionSort (· ≤ ·)

theorem sortStrings_perm (texts : List String) :
    (sortStrings texts).Perm texts :=
  List.perm_insertionSort _ texts

/-- Sorting identifies exactly the permutations of a list. -/
theorem sortStrings_eq_iff_perm {left right : List String} :
    sortStrings left = sortStrings right ↔ left.Perm right := by
  constructor
  · intro same
    have leftPerm := sortStrings_perm left
    rw [same] at leftPerm
    exact leftPerm.symm.trans (sortStrings_perm right)
  · intro permuted
    have sortedPerm : (sortStrings left).Perm (sortStrings right) :=
      (sortStrings_perm left).trans
        (permuted.trans (sortStrings_perm right).symm)
    exact sortedPerm.eq_of_pairwise'
      (List.pairwise_insertionSort _ left)
      (List.pairwise_insertionSort _ right)

/-- `map[string]V`. -/
structure GoMap (V : Type) where
  entries : AList (fun _ : String => V)
  deriving DecidableEq

namespace GoMap

variable {V : Type} {map : GoMap V} {key other : String} {value : V}

def empty : GoMap V := ⟨∅⟩

def get (map : GoMap V) (key : String) : Option V :=
  map.entries.lookup key

def set (map : GoMap V) (key : String) (value : V) : GoMap V :=
  ⟨map.entries.insert key value⟩

def delete (map : GoMap V) (key : String) : GoMap V :=
  ⟨map.entries.erase key⟩

/-- `len(m)`. -/
def size (map : GoMap V) : Nat :=
  (map.entries.keys).length

/-- The values in the order of an iteration. -/
def values (map : GoMap V) : List V :=
  map.entries.entries.map fun entry => entry.2

/-- The keys in the order of `sort.Strings`. -/
def sortedKeys (map : GoMap V) : List String :=
  sortStrings (map.entries.keys)

@[simp] theorem get_empty : (empty : GoMap V).get key = none :=
  AList.lookup_empty key

@[simp] theorem get_set_self : (map.set key value).get key = some value :=
  AList.lookup_insert map.entries

theorem get_set_of_ne (different : other ≠ key) :
    (map.set key value).get other = map.get other :=
  AList.lookup_insert_ne different

theorem get_set :
    (map.set key value).get other =
      if other = key then some value else map.get other := by
  by_cases same : other = key
  · rw [if_pos same, same, get_set_self]
  · rw [if_neg same, get_set_of_ne same]

/-- A map filled from a list has the last item with a key. -/
theorem get_foldl_set (keyOf : V → String) (items : List V) (start : GoMap V) :
    (items.foldl (fun map item => map.set (keyOf item) item) start).get key =
      (items.reverse.find? fun item => keyOf item == key).or
        (start.get key) := by
  induction items generalizing start with
  | nil => rfl
  | cons item rest induction =>
      rw [List.foldl_cons, induction, get_set, List.reverse_cons,
        List.find?_append, Option.or_assoc]
      by_cases same : key = keyOf item
      · rw [if_pos same, List.find?_cons_of_pos (by simp [same]),
          Option.some_or]
      · rw [if_neg same, List.find?_cons_of_neg (by simp [Ne.symm same]),
          List.find?_nil, Option.none_or]

theorem sortedKeys_set_empty :
    (empty.set key value : GoMap V).sortedKeys = [key] :=
  rfl

@[simp] theorem get_delete_self : (map.delete key).get key = none :=
  AList.lookup_erase key map.entries

theorem get_delete_of_ne (different : other ≠ key) :
    (map.delete key).get other = map.get other :=
  AList.lookup_erase_ne different

theorem get_delete :
    (map.delete key).get other =
      if other = key then none else map.get other := by
  by_cases same : other = key
  · rw [if_pos same, same, get_delete_self]
  · rw [if_neg same, get_delete_of_ne same]

theorem mem_sortedKeys :
    key ∈ map.sortedKeys ↔ (map.get key).isSome = true := by
  unfold sortedKeys sortStrings get
  rw [List.mem_insertionSort, ← AList.mem_keys, AList.lookup_isSome]

theorem nodup_sortedKeys (map : GoMap V) : map.sortedKeys.Nodup :=
  (sortStrings_perm (map.entries.keys)).nodup_iff.mpr (AList.keys_nodup map.entries)

theorem size_eq_length_sortedKeys (map : GoMap V) :
    map.size = map.sortedKeys.length :=
  (sortStrings_perm (map.entries.keys)).length_eq.symm

theorem get_eq_none_of_size_eq_zero (empty : map.size = 0) :
    map.get key = none := by
  rw [size_eq_length_sortedKeys, List.length_eq_zero_iff] at empty
  have absent : key ∉ map.sortedKeys := by simp [empty]
  rw [mem_sortedKeys] at absent
  simpa using absent

/-- A map whose keys are all in a map of the same size has all its keys. -/
theorem get_isSome_of_size_eq {W : Type} {left : GoMap V} {right : GoMap W}
    (subset : ∀ key, (left.get key).isSome = true →
      (right.get key).isSome = true)
    (same : left.size = right.size) :
    ∀ key, (right.get key).isSome = true →
      (left.get key).isSome = true := by
  intro key present
  have contained : left.sortedKeys ⊆ right.sortedKeys := by
    intro other member
    exact mem_sortedKeys.mpr (subset other (mem_sortedKeys.mp member))
  have permuted : left.sortedKeys.Perm right.sortedKeys := by
    apply (List.subperm_of_subset (nodup_sortedKeys left)
      contained).perm_of_length_le
    rw [← size_eq_length_sortedKeys, ← size_eq_length_sortedKeys, same]
  exact mem_sortedKeys.mp
    (permuted.mem_iff.mpr (mem_sortedKeys.mpr present))

end GoMap

end EvpnForOvn.Go
