import EvpnForOvn.Ownership.Journal

/-!
# UUIDs in their canonical text

An instance of the UUID library: sixteen bytes, written in lower case
hexadecimal in five groups, and read back from such a text only.
-/

namespace EvpnForOvn.Ownership

open Go

namespace CanonicalUuid

def digit (value : Nat) : Char :=
  if value < 10 then Char.ofNat (48 + value) else Char.ofNat (87 + value)

def hexText (byte : UInt8) : List Char :=
  [digit (byte.toNat / 16), digit (byte.toNat % 16)]

/-- The groups of four, two, two, two and six bytes. -/
def groups (bytes : Bytes) : List (List Char) :=
  [(bytes.take 4), (bytes.drop 4).take 2, (bytes.drop 6).take 2,
    (bytes.drop 8).take 2, bytes.drop 10].map fun group =>
      group.flatMap hexText

def text (bytes : Bytes) : String :=
  String.ofList (['-'].intercalate (groups bytes))

def parse (value : String) : Option { bytes : Bytes // bytes.length = 16 } :=
  let parts := value.toList.splitOn '-'
  if parts.map List.length = [8, 4, 4, 4, 12] then
    match hexDecode parts.flatten with
    | none => none
    | some bytes =>
        if sized : bytes.length = 16 then some ⟨bytes, sized⟩ else none
  else none

end CanonicalUuid

/-- The package with UUIDs in their canonical text. -/
def canonicalUuid : UuidPackage :=
  { UUID := { bytes : Bytes // bytes.length = 16 }
    equality := inferInstance
    zero := ⟨List.replicate 16 0, rfl⟩
    parse := CanonicalUuid.parse
    fromBytes := fun bytes =>
      if sized : bytes.length = 16 then some ⟨bytes, sized⟩ else none
    text := fun id => CanonicalUuid.text id.val }

end EvpnForOvn.Ownership
