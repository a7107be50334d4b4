import EvpnForOvn.Go.Text
import Mathlib.Data.Option.Basic

/-!
# Addresses of the Go standard library

Parsing and printing of hardware and IP addresses as `net` and `net/netip` do
it.  A parser returns `none` where the Go function returns an error; the
modelled code never looks at the text of these errors.
-/

namespace EvpnForOvn.Go

/-- One lower-case hexadecimal digit. -/
def hexCharacter (value : Nat) : Char :=
  if value < 10 then Char.ofNat (48 + value) else Char.ofNat (87 + value)

/-- The two hexadecimal digits of a byte. -/
def byteHex (byte : UInt8) : List Char :=
  [hexCharacter (byte.toNat / 16), hexCharacter (byte.toNat % 16)]

/-- `HardwareAddr.String`. -/
def macString (address : Bytes) : String :=
  String.ofList ([':'].intercalate (address.map byteHex))

def macPair : List Char → Option Bytes
  | [high, low] => (hexByte high low).map fun byte => [byte]
  | _ => none

def macQuad : List Char → Option Bytes
  | [first, second, third, fourth] => do
      let high ← hexByte first second
      let low ← hexByte third fourth
      return [high, low]
  | _ => none

/-- The groups of an address, if together they have an accepted length. -/
def macGroups (group : List Char → Option Bytes)
    (groups : List (List Char)) : Option Bytes := do
  let parsed ← groups.mapM group
  let address := parsed.flatten
  if address.length = 6 ∨ address.length = 8 ∨ address.length = 20 then
    return address
  else none

def parseMAC (text : String) : Option Bytes :=
  let characters := text.toList
  if characters.length < 14 then none
  else if characters[2]? = some ':' then
    macGroups macPair (characters.splitOn ':')
  else if characters[2]? = some '-' then
    macGroups macPair (characters.splitOn '-')
  else if characters[4]? = some '.' then
    macGroups macQuad (characters.splitOn '.')
  else none

/-- A valid `netip.Addr`: four bytes, or sixteen bytes with a zone. -/
inductive Addr where
  | v4 (bytes : Bytes)
  | v6 (bytes : Bytes) (zone : String)
  deriving DecidableEq, Repr

def decimalDigit (character : Char) : Option Nat :=
  if '0' ≤ character && character ≤ '9' then some (character.toNat - 48)
  else none

/-- One octet of a dotted address: no leading zero, at most 255. -/
def parseOctet (characters : List Char) : Option UInt8 := do
  let digits ← characters.mapM decimalDigit
  match digits with
  | [] => none
  | 0 :: _ :: _ => none
  | _ =>
      let value := digits.foldl (fun value digit => value * 10 + digit) 0
      if value ≤ 255 then some (UInt8.ofNat value) else none

def parseIPv4 (characters : List Char) : Option Bytes :=
  match characters.splitOn '.' with
  | [first, second, third, fourth] =>
      [first, second, third, fourth].mapM parseOctet
  | _ => none

/-- The loop of `parseIPv6`: at most `room` more groups. -/
def parseIPv6Groups : Nat → Bytes → Option Nat → List Char →
    Option (Bytes × Option Nat × List Char)
  | 0, parsed, ellipsis, rest => some (parsed, ellipsis, rest)
  | room + 1, parsed, ellipsis, rest =>
      let digits := rest.takeWhile fun character =>
        (hexDigit character).isSome
      let value := (digits.filterMap hexDigit).foldl
        (fun value digit => value * 16 + digit) 0
      let longer := parsed ++
        [UInt8.ofNat (value / 256), UInt8.ofNat (value % 256)]
      if digits.isEmpty || 4 < digits.length then none
      else
        match rest.drop digits.length with
        | [] => some (longer, ellipsis, [])
        | '.' :: _ =>
            if (ellipsis.isNone && parsed.length ≠ 12) ||
                16 < parsed.length + 4 then none
            else do
              let last ← parseIPv4 rest
              return (parsed ++ last, ellipsis, [])
        | ':' :: ':' :: more =>
            if ellipsis.isSome then none
            else if more.isEmpty then some (longer, some longer.length, [])
            else parseIPv6Groups room longer (some longer.length) more
        | [':'] => none
        | ':' :: more => parseIPv6Groups room longer ellipsis more
        | _ => none

/-- Fill the place of `::` with zeros. -/
def expandEllipsis : Bytes × Option Nat × List Char → Option Bytes
  | (parsed, ellipsis, rest) =>
      if !rest.isEmpty then none
      else if parsed.length < 16 then do
        let position ← ellipsis
        return parsed.take position ++
          List.replicate (16 - parsed.length) 0 ++ parsed.drop position
      else if ellipsis.isSome then none
      else some parsed

/-- `parseIPv6` without the zone. -/
def parseIPv6 : List Char → Option Bytes
  | [':', ':'] => some (List.replicate 16 0)
  | ':' :: ':' :: rest =>
      (parseIPv6Groups 8 [] (some 0) rest).bind expandEllipsis
  | rest => (parseIPv6Groups 8 [] none rest).bind expandEllipsis

def parseAddr (text : String) : Option Addr :=
  let characters := text.toList
  match characters.find? (fun character =>
      character == '.' || character == ':' || character == '%') with
  | some '.' => (parseIPv4 characters).map .v4
  | some ':' =>
      let zone := characters.dropWhile (· != '%')
      let address := characters.takeWhile (· != '%')
      match zone with
      | [] => (parseIPv6 address).map fun bytes => .v6 bytes ""
      | [_] => none
      | _ :: name =>
          (parseIPv6 address).map fun bytes => .v6 bytes (String.ofList name)
  | _ => none

/-- The dotted text of four bytes. -/
def dottedCharacters (bytes : Bytes) : List Char :=
  ['.'].intercalate (bytes.map fun byte => Nat.toDigits 10 byte.toNat)

def mappedBytes : Bytes :=
  List.replicate 10 0 ++ [255, 255]

/-- `Is4In6`: the bytes of an IPv4 address mapped into IPv6. -/
def is4In6 (bytes : Bytes) : Bool :=
  bytes.take 12 == mappedBytes

def groupsOf : Bytes → List Nat
  | high :: low :: rest => (high.toNat * 256 + low.toNat) :: groupsOf rest
  | _ => []

def zeroRun (groups : List Nat) : Nat :=
  (groups.takeWhile (· == 0)).length

/-- The first longest run of at least two zero groups, from `start` on. -/
def longestZeroRun : Nat → List Nat → Option (Nat × Nat) →
    Option (Nat × Nat)
  | _, [], best => best
  | start, groups@(_ :: rest), best =>
      let run := zeroRun groups
      let better := match best with
        | none => decide (2 ≤ run)
        | some (_, length) => decide (length < run)
      longestZeroRun (start + 1) rest
        (if better then some (start, run) else best)

def hexGroups (groups : List Nat) : List Char :=
  [':'].intercalate (groups.map (Nat.toDigits 16))

def ipv6Characters (bytes : Bytes) : List Char :=
  let groups := groupsOf bytes
  match longestZeroRun 0 groups none with
  | none => hexGroups groups
  | some (start, run) =>
      hexGroups (groups.take start) ++ [':', ':'] ++
        hexGroups (groups.drop (start + run))

/-- `Addr.String`. -/
def Addr.string : Addr → String
  | .v4 bytes => String.ofList (dottedCharacters bytes)
  | .v6 bytes zone =>
      let address :=
        if is4In6 bytes then
          "::ffff:".toList ++ dottedCharacters (bytes.drop 12)
        else ipv6Characters bytes
      String.ofList
        (address ++ if zone = "" then [] else '%' :: zone.toList)

def Addr.as16 : Addr → Bytes
  | .v4 bytes => mappedBytes ++ bytes
  | .v6 bytes _ => bytes

def Addr.bitLen : Addr → Nat
  | .v4 _ => 32
  | .v6 _ _ => 128

def Addr.zone : Addr → String
  | .v4 _ => ""
  | .v6 _ zone => zone

def Addr.is4 : Addr → Bool
  | .v4 _ => true
  | .v6 _ _ => false

/-- `net.ParseIP`: the sixteen bytes of an address without a zone. -/
def parseIP (text : String) : Option Bytes := do
  let address ← parseAddr text
  if address.zone = "" then some address.as16 else none

def to4 (ip : Bytes) : Option Bytes :=
  if ip.length = 4 then some ip
  else if ip.length = 16 ∧ is4In6 ip then some (ip.drop 12)
  else none

/-- `IP.String`, for the lengths 0, 4 and 16. -/
def ipString (ip : Bytes) : String :=
  if ip.isEmpty then "<nil>"
  else
    match to4 ip with
    | some bytes => (Addr.v4 bytes).string
    | none => (Addr.v6 ip "").string

/-- The address part of `net.ParseCIDR`. -/
def parseCIDR (text : String) : Option Bytes :=
  let characters := text.toList
  let address := String.ofList (characters.takeWhile (· != '/'))
  match characters.dropWhile (· != '/') with
  | [] => none
  | _ :: mask => do
      let parsed ← parseAddr address
      let digits ← mask.mapM decimalDigit
      let value := digits.foldl (fun value digit => value * 10 + digit) 0
      if parsed.zone ≠ "" ∨ digits = [] ∨ parsed.bitLen < value then none
      else some parsed.as16

/-- `net.IPNet`: an address with a mask of `ones` leading ones in `bits`
bits. -/
structure IPNet where
  ip : Bytes
  ones : Nat
  bits : Nat
  deriving DecidableEq, Repr

/-- `net.ParseCIDR` with the address itself in the network, as
`netlink.ParseIPNet` returns it. -/
def parseIPNet (text : String) : Option IPNet :=
  let characters := text.toList
  let address := String.ofList (characters.takeWhile (· != '/'))
  match characters.dropWhile (· != '/') with
  | [] => none
  | _ :: mask => do
      let parsed ← parseAddr address
      let digits ← mask.mapM decimalDigit
      let value := digits.foldl (fun value digit => value * 10 + digit) 0
      if parsed.zone ≠ "" ∨ digits = [] ∨ parsed.bitLen < value then none
      else some ⟨parsed.as16, value, parsed.bitLen⟩

/-- `IPNet.String`.  The mask of an IPv4 address may have 128 bits, of which
the last 32 count. -/
def IPNet.string (network : IPNet) : String :=
  let text (ip : Bytes) (ones : Nat) :=
    ipString ip ++ "/" ++ String.ofList (Nat.toDigits 10 ones)
  match to4 network.ip with
  | some bytes =>
      if network.bits = 32 then text bytes network.ones
      else if network.bits = 128 then text bytes (network.ones - 96)
      else "<nil>"
  | none =>
      if network.ip.length = 16 ∧ network.bits = 128 then
        text network.ip network.ones
      else "<nil>"

theorem parseCIDR_eq_map (text : String) :
    parseCIDR text = (parseIPNet text).map (·.ip) := by
  simp only [parseCIDR, parseIPNet]
  split
  · rfl
  · simp only [Option.map_bind, Option.bind_eq_bind]
    congr 1
    funext parsed
    simp only [Function.comp_apply, Option.map_bind]
    congr 1
    funext digits
    split
    · rfl
    · rfl

theorem isSome_of_mapM {α β : Type} {read : α → Option β} {item : α} :
    ∀ {items : List α} {values : List β}, items.mapM read = some values →
      item ∈ items → (read item).isSome = true := by
  intro items
  induction items with
  | nil => simp
  | cons head rest induction =>
      intro values readAll member
      rw [List.mapM_cons] at readAll
      obtain ⟨value, headRead, restRead⟩ := Option.bind_eq_some_iff.mp readAll
      obtain ⟨others, restRead, _⟩ := Option.bind_eq_some_iff.mp restRead
      rcases List.mem_cons.mp member with rfl | later
      · rw [headRead]
        rfl
      · exact induction restRead later

private theorem decimalDigit_of_parseOctet {characters : List Char}
    {octet : UInt8} {character : Char}
    (parsed : parseOctet characters = some octet)
    (member : character ∈ characters) :
    (decimalDigit character).isSome = true := by
  obtain ⟨digits, read, _⟩ := Option.bind_eq_some_iff.mp parsed
  exact isSome_of_mapM read member

/-- A dotted address consists of digits and dots. -/
theorem decimalDigit_of_parseIPv4 {characters : List Char} {bytes : Bytes}
    {character : Char} (parsed : parseIPv4 characters = some bytes)
    (member : character ∈ characters) (other : character ≠ '.') :
    (decimalDigit character).isSome = true := by
  unfold parseIPv4 at parsed
  split at parsed
  · rename_i first second third fourth split
    have joined : ['.'].intercalate (characters.splitOn '.') = characters :=
      List.intercalate_splitOn '.'
    have octets : ∀ group ∈ [first, second, third, fourth],
        character ∈ group → (decimalDigit character).isSome = true := by
      intro group listed inside
      obtain ⟨octet, read⟩ :=
        Option.isSome_iff_exists.mp (isSome_of_mapM parsed listed)
      exact decimalDigit_of_parseOctet read inside
    rw [← joined, split] at member
    simp [List.intercalate, List.intersperse, other] at member
    rcases member with inside | inside | inside | inside
    · exact octets first (by simp) inside
    · exact octets second (by simp) inside
    · exact octets third (by simp) inside
    · exact octets fourth (by simp) inside
  · cases parsed

end EvpnForOvn.Go
