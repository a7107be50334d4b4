import Mathlib.Data.List.Basic
import Mathlib.Data.List.DropRight
import Mathlib.Data.List.Forall2

/-!
# Text functions of the Go standard library

The modelled code compares, trims and decodes text.  These are the functions
of `strings` and `encoding/hex` it calls, on Lean strings.
-/

namespace EvpnForOvn.Go

/-- White space as `unicode.IsSpace` defines it. -/
def isSpace (character : Char) : Bool :=
  let code := character.toNat
  (9 ≤ code && code ≤ 13) || code == 0x20 || code == 0x85 || code == 0xA0 ||
    code == 0x1680 || (0x2000 ≤ code && code ≤ 0x200A) || code == 0x2028 ||
    code == 0x2029 || code == 0x202F || code == 0x205F || code == 0x3000

def trimSpace (text : String) : String :=
  String.ofList
    (((text.toList.dropWhile isSpace).reverse.dropWhile isSpace).reverse)

private theorem dropWhile_rdropWhile_dropWhile (passes : Char → Bool)
    (characters : List Char) :
    ((characters.dropWhile passes).rdropWhile passes).dropWhile passes =
      (characters.dropWhile passes).rdropWhile passes := by
  rw [List.dropWhile_eq_self_iff]
  intro positive
  have part := List.rdropWhile_prefix passes (characters.dropWhile passes)
  have longer : 0 < (characters.dropWhile passes).length :=
    positive.trans_le part.length_le
  rw [part.getElem positive]
  exact List.dropWhile_get_zero_not passes characters longer

theorem trimSpace_trimSpace (text : String) :
    trimSpace (trimSpace text) = trimSpace text := by
  have same : ∀ text, trimSpace text = String.ofList
      ((text.toList.dropWhile isSpace).rdropWhile isSpace) := fun _ => rfl
  rw [same (trimSpace text), same text, String.toList_ofList,
    dropWhile_rdropWhile_dropWhile, List.rdropWhile_idempotent]

/-- `strings.TrimSpace(text) == ""`. -/
def isBlank (text : String) : Bool :=
  trimSpace text == ""

/-- The value of one hexadecimal digit, in either case. -/
def hexDigit (character : Char) : Option Nat :=
  if '0' ≤ character && character ≤ '9' then some (character.toNat - 48)
  else if 'a' ≤ character && character ≤ 'f' then some (character.toNat - 87)
  else if 'A' ≤ character && character ≤ 'F' then some (character.toNat - 55)
  else none

/-- `[]byte`. -/
abbrev Bytes : Type := List UInt8

/-- The byte of two hexadecimal digits. -/
def hexByte (high low : Char) : Option UInt8 := do
  let highValue ← hexDigit high
  let lowValue ← hexDigit low
  return UInt8.ofNat (highValue * 16 + lowValue)

/-- `hex.DecodeString`, on the characters of the text. -/
def hexDecode : List Char → Option Bytes
  | [] => some []
  | [_] => none
  | high :: low :: rest => do
      let byte ← hexByte high low
      let tail ← hexDecode rest
      return byte :: tail

/-- `strings.ToLower` on the ASCII letters. -/
def toLowerASCII (text : String) : String :=
  String.ofList (text.toList.map fun character =>
    if 'A' ≤ character && character ≤ 'Z' then
      Char.ofNat (character.toNat + 32)
    else character)

/-- `strings.EqualFold` on texts of ASCII characters. -/
def equalFold (left right : String) : Bool :=
  toLowerASCII left == toLowerASCII right

/-- `strings.Contains`. -/
def containsText (text part : String) : Bool :=
  text.toList.tails.any fun rest => part.toList.isPrefixOf rest

/-- `strings.Split` at a character. -/
def split (separator : Char) (text : String) : List String :=
  (text.toList.splitOn separator).map String.ofList

/-- The words of a text, read from its end. -/
def gatherFields (character : Char) :
    List Char × List (List Char) → List Char × List (List Char)
  | (word, words) =>
      if isSpace character then
        ([], if word.isEmpty then words else word :: words)
      else (character :: word, words)

def fields (text : String) : List String :=
  let (word, words) := text.toList.foldr gatherFields ([], [])
  (if word.isEmpty then words else word :: words).map String.ofList

/-- `strings.Join` with a character. -/
def join (separator : Char) (texts : List String) : String :=
  String.ofList ([separator].intercalate (texts.map String.toList))

/-- The parts before and after the first separator, as `strings.SplitN` with
at most two parts returns them. -/
def cut (separator : Char) (text : String) : Option (String × String) :=
  match text.toList.dropWhile (· != separator) with
  | [] => none
  | _ :: rest => some
      (String.ofList (text.toList.takeWhile (· != separator)),
        String.ofList rest)

theorem split_join {separator : Char} {texts : List String}
    (nonempty : texts ≠ [])
    (plain : ∀ text ∈ texts, separator ∉ text.toList) :
    split separator (join separator texts) = texts := by
  unfold split join
  rw [String.toList_ofList, List.splitOn_intercalate]
  · rw [List.map_map]
    exact List.map_id'' (fun text => String.ofList_toList) texts
  · intro characters member
    obtain ⟨text, listed, rfl⟩ := List.mem_map.mp member
    exact plain text listed
  · simpa using nonempty

theorem join_split (separator : Char) (text : String) :
    join separator (split separator text) = text := by
  unfold split join
  rw [List.map_map]
  have same : String.toList ∘ String.ofList = id := by
    funext characters
    exact String.toList_ofList
  rw [same, List.map_id, List.intercalate_splitOn, String.ofList_toList]

theorem cut_eq_some {separator : Char} {left right text : String}
    (shape : text.toList = left.toList ++ separator :: right.toList)
    (plain : separator ∉ left.toList) :
    cut separator text = some (left, right) := by
  have passes : ∀ character ∈ left.toList,
      (character != separator) = true := by
    intro character member
    rw [bne_iff_ne]
    intro same
    exact plain (same ▸ member)
  unfold cut
  rw [shape, List.dropWhile_append_of_pos passes,
    List.takeWhile_append_of_pos passes]
  simp

/-- A text is its two parts around the separator. -/
theorem eq_of_cut_eq_some {separator : Char} {left right text : String}
    (found : cut separator text = some (left, right)) :
    text = left ++ String.singleton separator ++ right := by
  unfold cut at found
  split at found
  · cases found
  · rename_i head rest dropped
    cases found
    have first : head = separator := by
      have refused := List.head?_dropWhile_not (· != separator) text.toList
      rw [dropped] at refused
      simpa using refused
    have parts := List.takeWhile_append_dropWhile
      (p := (· != separator)) (l := text.toList)
    rw [dropped, first] at parts
    apply String.toList_injective
    simpa [String.toList_append] using parts.symm

/-- Corresponding texts contain the separator equally often. -/
def SameSeparators (separator : Char) : List String → List String → Prop :=
  List.Forall₂ fun left right =>
    left.toList.count separator = right.toList.count separator

theorem SameSeparators.refl (separator : Char) (texts : List String) :
    SameSeparators separator texts texts :=
  List.forall₂_same.mpr fun _ _ => rfl

private theorem counted_inj {separator : Char}
    {left right first second : List Char}
    (same : left ++ separator :: first = right ++ separator :: second)
    (counts : left.count separator = right.count separator) :
    left = right ∧ first = second := by
  induction left generalizing right with
  | nil =>
      cases right with
      | nil => exact ⟨rfl, (List.cons.inj same).2⟩
      | cons character rest =>
          obtain ⟨rfl, _⟩ := List.cons.inj same
          simp at counts
  | cons character rest induction =>
      cases right with
      | nil =>
          obtain ⟨rfl, _⟩ := List.cons.inj same
          simp at counts
      | cons other others =>
          obtain ⟨rfl, tails⟩ := List.cons.inj same
          have tailCounts : rest.count separator = others.count separator := by
            simpa [List.count_cons] using counts
          obtain ⟨rfl, rfl⟩ := induction tails tailCounts
          exact ⟨rfl, rfl⟩

private theorem intercalate_cons_cons {separator : Char}
    (first second : List Char) (rest : List (List Char)) :
    [separator].intercalate (first :: second :: rest) =
      first ++ separator :: [separator].intercalate (second :: rest) := by
  simp [List.intercalate]

/-- Texts with equally many separators are determined by their join. -/
theorem eq_of_join_eq {separator : Char} {left right : List String}
    (counts : SameSeparators separator left right)
    (same : join separator left = join separator right) : left = right := by
  have lists : [separator].intercalate (left.map String.toList) =
      [separator].intercalate (right.map String.toList) := by
    have characters := congrArg String.toList same
    simpa [join] using characters
  clear same
  induction counts with
  | nil => rfl
  | @cons first second lefts rights counted rest induction =>
      cases rest with
      | nil =>
          have same : first.toList = second.toList := by
            simpa [List.intercalate] using lists
          rw [String.toList_injective same]
      | @cons third fourth thirds fourths countedNext rest =>
          simp only [List.map_cons, intercalate_cons_cons] at lists
          obtain ⟨heads, tails⟩ := counted_inj lists counted
          rw [String.toList_injective heads]
          rw [induction tails]

end EvpnForOvn.Go
