import EvpnForOvn.Go.Net

/-!
# Printed addresses parse again

The text that `net.IP.String` prints for an address of sixteen bytes is read
back by `netip.ParseAddr`: as an IPv4 address when the bytes are a mapped one,
and as the IPv6 address otherwise.  The hard part is the text of an IPv6
address, in which the longest run of zero groups is left out.
-/

namespace EvpnForOvn.Go

theorem hexDigit_digitChar {digit : Nat} (small : digit < 16) :
    hexDigit digit.digitChar = some digit := by
  have all : ∀ digit ∈ List.range 16,
      hexDigit digit.digitChar = some digit := by decide
  exact all digit (List.mem_range.mpr small)

theorem hexDigit_of_mem_toDigits {number : Nat} {character : Char}
    (member : character ∈ Nat.toDigits 16 number) :
    (hexDigit character).isSome = true := by
  induction number using Nat.strongRecOn with
  | ind number induction =>
      rw [Nat.toDigits_eq_if (by decide)] at member
      split at member
      · rename_i small
        rw [List.mem_singleton.mp member, hexDigit_digitChar small]
        rfl
      · rename_i large
        rcases List.mem_append.mp member with earlier | last
        · exact induction _ (by omega) earlier
        · rw [List.mem_singleton.mp last,
            hexDigit_digitChar (Nat.mod_lt _ (by decide))]
          rfl

/-- The value of hexadecimal digits, as the parser computes it. -/
def hexValue (digits : List Char) : Nat :=
  (digits.filterMap hexDigit).foldl (fun value digit => value * 16 + digit) 0

theorem hexValue_toDigits (number : Nat) :
    hexValue (Nat.toDigits 16 number) = number := by
  induction number using Nat.strongRecOn with
  | ind number induction =>
      rw [Nat.toDigits_eq_if (by decide)]
      split
      · rename_i small
        unfold hexValue
        simp [hexDigit_digitChar small]
      · rename_i large
        have earlier := induction (number / 16) (by omega)
        have digit := hexDigit_digitChar (Nat.mod_lt number (by decide))
        unfold hexValue at earlier ⊢
        rw [List.filterMap_append, List.foldl_append, earlier]
        simp only [List.filterMap_cons, digit, List.filterMap_nil,
          List.foldl_cons, List.foldl_nil]
        omega

def groupBytes (group : Nat) : Bytes :=
  [UInt8.ofNat (group / 256), UInt8.ofNat (group % 256)]

def bytesOf (groups : List Nat) : Bytes :=
  groups.flatMap groupBytes

theorem length_bytesOf (groups : List Nat) :
    (bytesOf groups).length = 2 * groups.length := by
  induction groups with
  | nil => rfl
  | cons group rest induction =>
      simp only [bytesOf, List.flatMap_cons, List.length_append,
        List.length_cons] at induction ⊢
      rw [induction]
      simp only [groupBytes, List.length_cons, List.length_nil]
      omega

theorem bytesOf_append (first second : List Nat) :
    bytesOf (first ++ second) = bytesOf first ++ bytesOf second :=
  List.flatMap_append

theorem bytesOf_replicate_zero (count : Nat) :
    bytesOf (List.replicate count 0) = List.replicate (2 * count) 0 := by
  induction count with
  | zero => rfl
  | succ count induction =>
      have shape : bytesOf (List.replicate (count + 1) 0) =
          0 :: 0 :: bytesOf (List.replicate count 0) := rfl
      rw [shape, induction]
      rfl

theorem groupBytes_pair (high low : UInt8) :
    groupBytes (high.toNat * 256 + low.toNat) = [high, low] := by
  have highSmall := high.toNat_lt
  have lowSmall := low.toNat_lt
  have quotient : (high.toNat * 256 + low.toNat) / 256 = high.toNat := by
    omega
  have remainder : (high.toNat * 256 + low.toNat) % 256 = low.toNat := by
    omega
  unfold groupBytes
  rw [quotient, remainder, UInt8.ofNat_toNat, UInt8.ofNat_toNat]

theorem bytesOf_groupsOf : ∀ (bytes : Bytes), bytes.length % 2 = 0 →
    bytesOf (groupsOf bytes) = bytes
  | [], _ => rfl
  | [_], odd => by cases odd
  | high :: low :: rest, even => by
      have restEven : rest.length % 2 = 0 := by
        simp only [List.length_cons] at even
        omega
      have shape : bytesOf (groupsOf (high :: low :: rest)) =
          groupBytes (high.toNat * 256 + low.toNat) ++
            bytesOf (groupsOf rest) := rfl
      rw [shape, groupBytes_pair, bytesOf_groupsOf rest restEven]
      rfl

theorem length_groupsOf : ∀ (bytes : Bytes),
    (groupsOf bytes).length = bytes.length / 2
  | [] => rfl
  | [_] => by simp [groupsOf]
  | _ :: _ :: rest => by
      simp only [groupsOf, List.length_cons, length_groupsOf rest]
      omega

theorem lt_of_mem_groupsOf : ∀ {bytes : Bytes} {group : Nat},
    group ∈ groupsOf bytes → group < 65536
  | [], _, member => by cases member
  | [_], _, member => by cases member
  | high :: low :: rest, group, member => by
      rcases List.mem_cons.mp member with rfl | later
      · have highSmall := high.toNat_lt
        have lowSmall := low.toNat_lt
        omega
      · exact lt_of_mem_groupsOf later

theorem hexGroups_singleton (group : Nat) :
    hexGroups [group] = Nat.toDigits 16 group := by
  simp [hexGroups, List.intercalate]

theorem hexGroups_cons_cons (group next : Nat) (rest : List Nat) :
    hexGroups (group :: next :: rest) =
      Nat.toDigits 16 group ++ ':' :: hexGroups (next :: rest) := by
  simp [hexGroups, List.intercalate]

theorem not_colon_of_hexDigit {character : Char}
    (digit : (hexDigit character).isSome = true) : character ≠ ':' := by
  intro colon
  rw [colon] at digit
  exact absurd digit (by decide)

/-- The text of at least one group starts with a digit. -/
theorem hexGroups_cons_shape (group : Nat) (rest : List Nat) :
    ∃ first more, hexGroups (group :: rest) = first :: more ∧
      (hexDigit first).isSome = true := by
  cases digits : Nat.toDigits 16 group with
  | nil => exact absurd digits Nat.toDigits_ne_nil
  | cons first more =>
      have digit : (hexDigit first).isSome = true :=
        hexDigit_of_mem_toDigits (by rw [digits]; exact .head _)
      cases rest with
      | nil =>
          exact ⟨first, more, by rw [hexGroups_singleton, digits], digit⟩
      | cons next rest =>
          exact ⟨first, more ++ ':' :: hexGroups (next :: rest),
            by rw [hexGroups_cons_cons, digits]; rfl, digit⟩

theorem hexDigit_or_colon_of_mem_hexGroups {character : Char} :
    ∀ {groups : List Nat}, character ∈ hexGroups groups →
      (hexDigit character).isSome = true ∨ character = ':'
  | [], member => by simp [hexGroups, List.intercalate] at member
  | [group], member => by
      rw [hexGroups_singleton] at member
      exact .inl (hexDigit_of_mem_toDigits member)
  | group :: next :: rest, member => by
      rw [hexGroups_cons_cons] at member
      rcases List.mem_append.mp member with digit | later
      · exact .inl (hexDigit_of_mem_toDigits digit)
      · rcases List.mem_cons.mp later with colon | later
        · exact .inr colon
        · exact hexDigit_or_colon_of_mem_hexGroups later

section Loop

variable {room group : Nat} {parsed : Bytes} {ellipsis : Option Nat}

/-- The parser reads exactly the digits of a group. -/
theorem takeWhile_toDigits_append {rest : List Char}
    (ends : ∀ character ∈ rest.head?, (hexDigit character).isSome = false) :
    ((Nat.toDigits 16 group ++ rest).takeWhile fun character =>
      (hexDigit character).isSome) = Nat.toDigits 16 group := by
  rw [List.takeWhile_append_of_pos fun _ => hexDigit_of_mem_toDigits]
  cases rest with
  | nil => simp
  | cons first more =>
      have stops := ends first rfl
      simp [stops]

theorem takeWhile_toDigits_colon (rest : List Char) :
    ((Nat.toDigits 16 group ++ ':' :: rest).takeWhile fun character =>
      (hexDigit character).isSome) = Nat.toDigits 16 group := by
  apply takeWhile_toDigits_append
  intro character member
  cases member
  decide

/-- The digits of a group pass the checks of the parser. -/
theorem toDigits_accepted (small : group < 65536) :
    ((Nat.toDigits 16 group).isEmpty ||
      decide (4 < (Nat.toDigits 16 group).length)) = false := by
  have short : (Nat.toDigits 16 group).length ≤ 4 :=
    (Nat.length_toDigits_le_iff (by decide) (by decide)).mpr small
  have present : (Nat.toDigits 16 group).isEmpty = false := by
    rw [List.isEmpty_eq_false_iff]
    exact Nat.toDigits_ne_nil
  rw [present, Bool.false_or, decide_eq_false_iff_not]
  omega

theorem value_toDigits :
    ((Nat.toDigits 16 group).filterMap hexDigit).foldl
      (fun value digit => value * 16 + digit) 0 = group :=
  hexValue_toDigits group

theorem parseIPv6Groups_end (small : group < 65536) :
    parseIPv6Groups (room + 1) parsed ellipsis (Nat.toDigits 16 group) =
      some (parsed ++ groupBytes group, ellipsis, []) := by
  have digits : ((Nat.toDigits 16 group).takeWhile fun character =>
      (hexDigit character).isSome) = Nat.toDigits 16 group := by
    rw [List.takeWhile_eq_self_iff]
    exact fun _ => hexDigit_of_mem_toDigits
  rw [parseIPv6Groups]
  simp only [digits, toDigits_accepted small, value_toDigits,
    List.drop_length]
  rfl

theorem parseIPv6Groups_next (small : group < 65536) {first : Char}
    {more : List Char} (digit : first ≠ ':') :
    parseIPv6Groups (room + 1) parsed ellipsis
        (Nat.toDigits 16 group ++ ':' :: first :: more) =
      parseIPv6Groups room (parsed ++ groupBytes group) ellipsis
        (first :: more) := by
  rw [parseIPv6Groups]
  simp only [takeWhile_toDigits_colon, toDigits_accepted small,
    value_toDigits, List.drop_left]
  simp [digit, groupBytes]

theorem parseIPv6Groups_ellipsis (small : group < 65536) (more : List Char) :
    parseIPv6Groups (room + 1) parsed none
        (Nat.toDigits 16 group ++ ':' :: ':' :: more) =
      if more.isEmpty then
        some (parsed ++ groupBytes group,
          some (parsed ++ groupBytes group).length, [])
      else parseIPv6Groups room (parsed ++ groupBytes group)
        (some (parsed ++ groupBytes group).length) more := by
  rw [parseIPv6Groups]
  simp only [takeWhile_toDigits_colon, toDigits_accepted small,
    value_toDigits, List.drop_left]
  rfl

theorem parseIPv6Groups_hexGroups {groups : List Nat}
    (nonempty : groups ≠ []) (small : ∀ group ∈ groups, group < 65536)
    (fits : groups.length ≤ room) :
    parseIPv6Groups room parsed ellipsis (hexGroups groups) =
      some (parsed ++ bytesOf groups, ellipsis, []) := by
  induction groups generalizing room parsed with
  | nil => exact absurd rfl nonempty
  | cons group rest induction =>
      have groupSmall := small group (.head _)
      cases room with
      | zero => simp at fits
      | succ room =>
          cases rest with
          | nil =>
              rw [hexGroups_singleton, parseIPv6Groups_end groupSmall]
              simp [bytesOf]
          | cons next rest =>
              obtain ⟨first, more, shape, digit⟩ :=
                hexGroups_cons_shape next rest
              have later := @induction room (parsed ++ groupBytes group)
                (by simp) (fun other member => small other (.tail _ member))
                (Nat.le_of_succ_le_succ fits)
              rw [hexGroups_cons_cons, shape, parseIPv6Groups_next groupSmall
                (not_colon_of_hexDigit digit), ← shape, later]
              simp [bytesOf]

theorem parseIPv6Groups_hexGroups_ellipsis {groups : List Nat}
    (nonempty : groups ≠ []) (small : ∀ group ∈ groups, group < 65536)
    (fits : groups.length ≤ room) (more : List Char) :
    parseIPv6Groups room parsed none (hexGroups groups ++ ':' :: ':' :: more) =
      if more.isEmpty then
        some (parsed ++ bytesOf groups,
          some (parsed ++ bytesOf groups).length, [])
      else parseIPv6Groups (room - groups.length) (parsed ++ bytesOf groups)
        (some (parsed ++ bytesOf groups).length) more := by
  induction groups generalizing room parsed with
  | nil => exact absurd rfl nonempty
  | cons group rest induction =>
      have groupSmall := small group (.head _)
      cases room with
      | zero => simp at fits
      | succ room =>
          cases rest with
          | nil =>
              rw [hexGroups_singleton, parseIPv6Groups_ellipsis groupSmall]
              simp [bytesOf]
          | cons next rest =>
              obtain ⟨first, others, shape, digit⟩ :=
                hexGroups_cons_shape next rest
              have later := @induction room (parsed ++ groupBytes group)
                (by simp) (fun other member => small other (.tail _ member))
                (Nat.le_of_succ_le_succ fits)
              rw [hexGroups_cons_cons, List.append_assoc, List.cons_append,
                shape, List.cons_append, parseIPv6Groups_next groupSmall
                (not_colon_of_hexDigit digit), ← List.cons_append, ← shape,
                later]
              simp [bytesOf]

end Loop

theorem eq_replicate_zeroRun (groups : List Nat) :
    groups = List.replicate (zeroRun groups) 0 ++
      groups.drop (zeroRun groups) := by
  have zeros : groups.takeWhile (· == 0) =
      List.replicate (zeroRun groups) 0 := by
    apply List.eq_replicate_of_mem
    intro group member
    simpa using List.mem_takeWhile_imp member
  have dropped : groups.drop (zeroRun groups) =
      groups.dropWhile (· == 0) := by
    have split : groups.takeWhile (· == 0) ++ groups.dropWhile (· == 0) =
        groups := List.takeWhile_append_dropWhile
    calc
      groups.drop (zeroRun groups) =
          (groups.takeWhile (· == 0) ++ groups.dropWhile (· == 0)).drop
            (groups.takeWhile (· == 0)).length := by rw [split]; rfl
      _ = groups.dropWhile (· == 0) := List.drop_left
  rw [← zeros, dropped, List.takeWhile_append_dropWhile]

/-- The run found is the one passed along or a run of the groups. -/
theorem longestZeroRun_spec (start : Nat) (groups : List Nat)
    (best : Option (Nat × Nat)) :
    longestZeroRun start groups best = best ∨
      ∃ offset, longestZeroRun start groups best =
          some (start + offset, zeroRun (groups.drop offset)) ∧
        0 < zeroRun (groups.drop offset) := by
  induction groups generalizing start best with
  | nil => exact .inl rfl
  | cons group rest induction =>
      rw [longestZeroRun.eq_def]
      dsimp only
      rcases induction (start + 1) _ with kept | found
      · rw [kept]
        cases best with
        | none =>
            by_cases better : 2 ≤ zeroRun (group :: rest)
            · exact .inr ⟨0, by simp [better], by simp; omega⟩
            · exact .inl (by simp [better])
        | some other =>
            by_cases better : other.2 < zeroRun (group :: rest)
            · exact .inr ⟨0, by simp [better], by simp; omega⟩
            · exact .inl (by simp [better])
      · obtain ⟨offset, same, positive⟩ := found
        refine .inr ⟨offset + 1, ?_, positive⟩
        rw [same, List.drop_succ_cons]
        congr 2
        omega

/-- The groups around the run that the text leaves out. -/
theorem groups_around_run {groups : List Nat} {start run : Nat}
    (found : longestZeroRun 0 groups none = some (start, run)) :
    0 < run ∧ groups = groups.take start ++ List.replicate run 0 ++
      groups.drop (start + run) := by
  rcases longestZeroRun_spec 0 groups none with kept | run
  · rw [kept] at found
    cases found
  · obtain ⟨offset, same, positive⟩ := run
    rw [found] at same
    cases same
    refine ⟨positive, ?_⟩
    rw [Nat.zero_add, ← List.drop_drop, List.append_assoc,
      ← eq_replicate_zeroRun, List.take_append_drop]

theorem expandEllipsis_append {left right : Bytes} {zeros : Nat}
    (positive : 0 < zeros)
    (total : left.length + zeros + right.length = 16) :
    expandEllipsis (left ++ right, some left.length, []) =
      some (left ++ List.replicate zeros 0 ++ right) := by
  have short : (left ++ right).length < 16 := by
    rw [List.length_append]
    omega
  have gap : 16 - (left ++ right).length = zeros := by
    rw [List.length_append]
    omega
  unfold expandEllipsis
  simp only [List.isEmpty_nil, Bool.not_true, Bool.false_eq_true, if_false,
    if_pos short, gap, Option.bind_eq_bind, Option.bind_some, List.take_left,
    List.drop_left]
  rfl

theorem parseIPv6_of_digit {first : Char} {more : List Char}
    (digit : (hexDigit first).isSome = true) :
    parseIPv6 (first :: more) =
      (parseIPv6Groups 8 [] none (first :: more)).bind expandEllipsis := by
  have notColon := not_colon_of_hexDigit digit
  unfold parseIPv6
  split
  · simp_all
  · simp_all
  · rfl

theorem parseIPv6_hexGroups {groups : List Nat} (eight : groups.length = 8)
    (small : ∀ group ∈ groups, group < 65536) :
    parseIPv6 (hexGroups groups) = some (bytesOf groups) := by
  cases groups with
  | nil => cases eight
  | cons group rest =>
      obtain ⟨first, more, shape, digit⟩ := hexGroups_cons_shape group rest
      have parsed : parseIPv6Groups 8 [] none (hexGroups (group :: rest)) =
          some ([] ++ bytesOf (group :: rest), none, []) :=
        parseIPv6Groups_hexGroups (by simp) small eight.le
      have full : (bytesOf (group :: rest)).length = 16 := by
        rw [length_bytesOf, eight]
      rw [shape, parseIPv6_of_digit digit, ← shape, parsed]
      simp [expandEllipsis, full]

theorem parseIPv6_around {left right : List Nat} {run : Nat}
    (positive : 0 < run) (total : left.length + run + right.length = 8)
    (leftSmall : ∀ group ∈ left, group < 65536)
    (rightSmall : ∀ group ∈ right, group < 65536) :
    parseIPv6 (hexGroups left ++ ':' :: ':' :: hexGroups right) =
      some (bytesOf left ++ List.replicate (2 * run) 0 ++ bytesOf right) := by
  have expanded : expandEllipsis
      (bytesOf left ++ bytesOf right, some (bytesOf left).length, []) =
        some (bytesOf left ++ List.replicate (2 * run) 0 ++ bytesOf right) :=
    expandEllipsis_append (by omega)
      (by rw [length_bytesOf, length_bytesOf]; omega)
  cases left with
  | nil =>
      have start : hexGroups [] ++ ':' :: ':' :: hexGroups right =
          ':' :: ':' :: hexGroups right := rfl
      rw [start]
      cases right with
      | nil =>
          have all : run = 8 := by simpa using total
          rw [all]
          rfl
      | cons group rest =>
          obtain ⟨first, more, shape, _⟩ := hexGroups_cons_shape group rest
          have parsed : parseIPv6Groups 8 [] (some 0)
              (hexGroups (group :: rest)) =
                some ([] ++ bytesOf (group :: rest), some 0, []) :=
            parseIPv6Groups_hexGroups (by simp) rightSmall (by omega)
          rw [shape] at parsed ⊢
          rw [parseIPv6, parsed]
          · exact expanded
          · simp
  | cons group rest =>
      obtain ⟨first, more, shape, digit⟩ := hexGroups_cons_shape group rest
      have read : parseIPv6 (hexGroups (group :: rest) ++
            ':' :: ':' :: hexGroups right) =
          (parseIPv6Groups 8 [] none (hexGroups (group :: rest) ++
            ':' :: ':' :: hexGroups right)).bind expandEllipsis := by
        rw [shape]
        exact parseIPv6_of_digit digit
      rw [read, parseIPv6Groups_hexGroups_ellipsis (by simp) leftSmall
        (by omega)]
      cases right with
      | nil =>
          simpa [bytesOf, hexGroups, List.intercalate] using expanded
      | cons next others =>
          obtain ⟨second, later, tail, _⟩ := hexGroups_cons_shape next others
          have present : (hexGroups (next :: others)).isEmpty = false := by
            rw [tail]
            rfl
          rw [present, if_neg (by simp), parseIPv6Groups_hexGroups (by simp)
            rightSmall (by omega)]
          exact expanded

/-- The text of an IPv6 address is read back. -/
theorem parseIPv6_ipv6Characters {bytes : Bytes}
    (sixteen : bytes.length = 16) :
    parseIPv6 (ipv6Characters bytes) = some bytes := by
  have round : bytesOf (groupsOf bytes) = bytes :=
    bytesOf_groupsOf bytes (by rw [sixteen])
  have eight : (groupsOf bytes).length = 8 := by
    rw [length_groupsOf, sixteen]
  have small : ∀ group ∈ groupsOf bytes, group < 65536 :=
    fun _ => lt_of_mem_groupsOf
  unfold ipv6Characters
  dsimp only
  cases found : longestZeroRun 0 (groupsOf bytes) none with
  | none =>
      dsimp only
      rw [parseIPv6_hexGroups eight small, round]
  | some place =>
      obtain ⟨start, run⟩ := place
      obtain ⟨positive, around⟩ := groups_around_run found
      have total : ((groupsOf bytes).take start).length + run +
          ((groupsOf bytes).drop (start + run)).length = 8 := by
        have lengths := congrArg List.length around
        rw [eight, List.length_append, List.length_append,
          List.length_replicate] at lengths
        exact lengths.symm
      dsimp only
      rw [List.append_assoc]
      have read := parseIPv6_around positive total
        (fun group member => small group (List.mem_of_mem_take member))
        (fun group member => small group (List.mem_of_mem_drop member))
      rw [← bytesOf_replicate_zero, ← bytesOf_append, ← bytesOf_append,
        ← around, round] at read
      exact read

theorem parseOctet_toDigits (byte : UInt8) :
    parseOctet (Nat.toDigits 10 byte.toNat) = some byte := by
  have all : ∀ number < 256,
      parseOctet (Nat.toDigits 10 number) = some (UInt8.ofNat number) := by
    decide +kernel
  have read := all byte.toNat byte.toNat_lt
  rwa [UInt8.ofNat_toNat] at read

theorem parseIPv4_dottedCharacters {bytes : Bytes}
    (four : bytes.length = 4) :
    parseIPv4 (dottedCharacters bytes) = some bytes := by
  match bytes, four with
  | [first, second, third, fourth], _ =>
      have parts : (dottedCharacters [first, second, third, fourth]).splitOn
          '.' = [first, second, third, fourth].map fun byte =>
            Nat.toDigits 10 byte.toNat := by
        apply List.splitOn_intercalate
        · intro digits member dot
          obtain ⟨byte, _, rfl⟩ := List.mem_map.mp member
          have digit := Nat.isDigit_of_mem_toDigits (by decide) (by decide)
            dot
          exact absurd digit (by decide)
        · simp
      unfold parseIPv4
      rw [parts]
      simp [parseOctet_toDigits]

/-- A text whose only separators are `mark` is recognised by it. -/
theorem find_separator {characters : List Char} {mark : Char}
    (separator : mark = '.' ∨ mark = ':' ∨ mark = '%')
    (present : mark ∈ characters)
    (only : ∀ character ∈ characters, character = '.' ∨ character = ':' ∨
      character = '%' → character = mark) :
    characters.find? (fun character =>
      character == '.' || character == ':' || character == '%') =
        some mark := by
  have found : (characters.find? (fun character =>
      character == '.' || character == ':' || character == '%')).isSome := by
    rw [List.find?_isSome]
    refine ⟨mark, present, ?_⟩
    rcases separator with rfl | rfl | rfl
    all_goals decide
  obtain ⟨character, same⟩ := Option.isSome_iff_exists.mp found
  have accepted := List.find?_some same
  simp only [Bool.or_eq_true, beq_iff_eq, or_assoc] at accepted
  rw [same, only character (List.mem_of_find?_eq_some same) accepted]

theorem parseAddr_v4_string {bytes : Bytes} (four : bytes.length = 4) :
    parseAddr (Addr.v4 bytes).string = some (.v4 bytes) := by
  have read := parseIPv4_dottedCharacters four
  have found : (dottedCharacters bytes).find? (fun character =>
      character == '.' || character == ':' || character == '%') =
        some '.' := by
    apply find_separator (.inl rfl)
    · match bytes, four with
      | [first, second, third, fourth], _ =>
          simp [dottedCharacters, List.intercalate]
    · intro character member mark
      by_contra other
      have digit := decimalDigit_of_parseIPv4 read member other
      rcases mark with rfl | rfl | rfl
      all_goals revert digit; decide
  unfold parseAddr Addr.string
  dsimp only
  rw [String.toList_ofList, found]
  simp [read]

theorem hexDigit_or_colon_of_mem_ipv6Characters {bytes : Bytes}
    {character : Char} (member : character ∈ ipv6Characters bytes) :
    (hexDigit character).isSome = true ∨ character = ':' := by
  unfold ipv6Characters at member
  dsimp only at member
  split at member
  · exact hexDigit_or_colon_of_mem_hexGroups member
  · rcases List.mem_append.mp member with left | right
    · rcases List.mem_append.mp left with left | colons
      · exact hexDigit_or_colon_of_mem_hexGroups left
      · simp at colons
        exact .inr colons
    · exact hexDigit_or_colon_of_mem_hexGroups right

theorem colon_mem_ipv6Characters {bytes : Bytes}
    (sixteen : bytes.length = 16) : ':' ∈ ipv6Characters bytes := by
  unfold ipv6Characters
  dsimp only
  split
  · have eight : (groupsOf bytes).length = 8 := by
      rw [length_groupsOf, sixteen]
    match groupsOf bytes, eight with
    | first :: second :: rest, _ =>
        rw [hexGroups_cons_cons]
        simp
  · simp

theorem parseAddr_v6_string {bytes : Bytes} (sixteen : bytes.length = 16)
    (unmapped : is4In6 bytes = false) :
    parseAddr (Addr.v6 bytes "").string = some (.v6 bytes "") := by
  have shape : ∀ character ∈ ipv6Characters bytes,
      character ≠ '.' ∧ character ≠ '%' := by
    intro character member
    rcases hexDigit_or_colon_of_mem_ipv6Characters member with digit | colon
    · constructor
      all_goals
        intro same
        rw [same] at digit
        revert digit
        decide
    · rw [colon]
      decide
  have found : (ipv6Characters bytes).find? (fun character =>
      character == '.' || character == ':' || character == '%') =
        some ':' := by
    apply find_separator (.inr (.inl rfl)) (colon_mem_ipv6Characters sixteen)
    intro character member mark
    rcases mark with dot | colon | percent
    · exact absurd dot (shape character member).1
    · exact colon
    · exact absurd percent (shape character member).2
  have noZone : ∀ character ∈ ipv6Characters bytes,
      (character != '%') = true := by
    intro character member
    simpa using (shape character member).2
  unfold parseAddr Addr.string
  dsimp only
  rw [unmapped, String.toList_ofList]
  simp only [Bool.false_eq_true, if_false, if_true, List.append_nil, found,
    List.dropWhile_eq_nil_iff.mpr noZone,
    List.takeWhile_eq_self_iff.mpr noZone,
    parseIPv6_ipv6Characters sixteen]
  rfl

/-- The address that the text of sixteen bytes stands for. -/
def addrOf (ip : Bytes) : Addr :=
  match to4 ip with
  | some bytes => .v4 bytes
  | none => .v6 ip ""

theorem ipString_eq_string {ip : Bytes} (sixteen : ip.length = 16) :
    ipString ip = (addrOf ip).string := by
  have present : ip.isEmpty = false := by
    rw [List.isEmpty_eq_false_iff]
    intro none
    rw [none] at sixteen
    cases sixteen
  unfold ipString addrOf
  rw [present]
  cases to4 ip with
  | none => rfl
  | some bytes => rfl

/-- The printed text of an address is read back. -/
theorem parseAddr_ipString {ip : Bytes} (sixteen : ip.length = 16) :
    parseAddr (ipString ip) = some (addrOf ip) := by
  rw [ipString_eq_string sixteen]
  unfold addrOf to4
  rw [if_neg (by rw [sixteen]; decide)]
  by_cases mapped : is4In6 ip = true
  · rw [if_pos ⟨sixteen, mapped⟩]
    exact parseAddr_v4_string (by rw [List.length_drop, sixteen])
  · rw [if_neg (fun both => mapped both.2)]
    exact parseAddr_v6_string sixteen (by simpa using mapped)

theorem length_of_mapM {α β : Type} {read : α → Option β} :
    ∀ {items : List α} {values : List β}, items.mapM read = some values →
      values.length = items.length := by
  intro items
  induction items with
  | nil =>
      intro values readAll
      cases readAll
      rfl
  | cons head rest induction =>
      intro values readAll
      rw [List.mapM_cons] at readAll
      obtain ⟨value, _, tail⟩ := Option.bind_eq_some_iff.mp readAll
      obtain ⟨others, restRead, same⟩ := Option.bind_eq_some_iff.mp tail
      cases same
      simp [induction restRead]

theorem length_of_parseIPv4 {characters : List Char} {bytes : Bytes}
    (parsed : parseIPv4 characters = some bytes) : bytes.length = 4 := by
  unfold parseIPv4 at parsed
  split at parsed
  · exact length_of_mapM parsed
  · cases parsed

/-- The loop never reads more than sixteen bytes. -/
theorem length_of_parseIPv6Groups {room : Nat} {parsed : Bytes}
    {ellipsis : Option Nat} {characters : List Char}
    {result : Bytes × Option Nat × List Char}
    (fits : parsed.length + 2 * room ≤ 16)
    (read : parseIPv6Groups room parsed ellipsis characters = some result) :
    result.1.length ≤ 16 := by
  induction room generalizing parsed ellipsis characters with
  | zero =>
      cases read
      simpa using fits
  | succ room induction =>
      rw [parseIPv6Groups] at read
      have longer : ∀ value, (parsed ++ [UInt8.ofNat (value / 256),
          UInt8.ofNat (value % 256)]).length + 2 * room ≤ 16 := by
        intro value
        simp only [List.length_append, List.length_cons, List.length_nil]
        omega
      split at read
      · cases read
      · split at read
        · cases read
          exact le_trans (Nat.le_add_right _ _) (longer _)
        · split at read
          · cases read
          · rename_i room'
            obtain ⟨last, lastRead, same⟩ := Option.bind_eq_some_iff.mp read
            cases same
            have four := length_of_parseIPv4 lastRead
            simp only [Bool.or_eq_true, decide_eq_true_eq, not_or,
              Nat.not_lt] at room'
            rw [List.length_append, four]
            exact room'.2
        · split at read
          · cases read
          · split at read
            · cases read
              exact le_trans (Nat.le_add_right _ _) (longer _)
            · exact induction (longer _) read
        · cases read
        · exact induction (longer _) read
        · cases read

theorem length_of_expandEllipsis
    {result : Bytes × Option Nat × List Char} {bytes : Bytes}
    (short : result.1.length ≤ 16)
    (expanded : expandEllipsis result = some bytes) : bytes.length = 16 := by
  obtain ⟨parsed, ellipsis, rest⟩ := result
  simp only [expandEllipsis] at expanded
  split at expanded
  · cases expanded
  · split at expanded
    · obtain ⟨position, _, same⟩ := Option.bind_eq_some_iff.mp expanded
      cases same
      simp only [List.length_append, List.length_take, List.length_drop,
        List.length_replicate]
      omega
    · split at expanded
      · cases expanded
      · cases expanded
        dsimp only at short
        omega

theorem length_of_parseIPv6 {characters : List Char} {bytes : Bytes}
    (parsed : parseIPv6 characters = some bytes) : bytes.length = 16 := by
  unfold parseIPv6 at parsed
  split at parsed
  · cases parsed
    rfl
  all_goals
    obtain ⟨result, read, expanded⟩ := Option.bind_eq_some_iff.mp parsed
    exact length_of_expandEllipsis (length_of_parseIPv6Groups (by simp) read)
      expanded

theorem length_as16_of_parseAddr {text : String} {address : Addr}
    (parsed : parseAddr text = some address) : address.as16.length = 16 := by
  unfold parseAddr at parsed
  dsimp only at parsed
  split at parsed
  · obtain ⟨bytes, read, same⟩ := Option.map_eq_some_iff.mp parsed
    cases same
    simp [Addr.as16, mappedBytes, length_of_parseIPv4 read]
  · split at parsed
    · obtain ⟨bytes, read, same⟩ := Option.map_eq_some_iff.mp parsed
      cases same
      exact length_of_parseIPv6 read
    · cases parsed
    · obtain ⟨bytes, read, same⟩ := Option.map_eq_some_iff.mp parsed
      cases same
      exact length_of_parseIPv6 read
  · cases parsed

theorem length_of_parseIP {text : String} {ip : Bytes}
    (parsed : parseIP text = some ip) : ip.length = 16 := by
  obtain ⟨address, read, same⟩ := Option.bind_eq_some_iff.mp parsed
  split at same
  · cases same
    exact length_as16_of_parseAddr read
  · cases same

theorem length_of_parseCIDR {text : String} {ip : Bytes}
    (parsed : parseCIDR text = some ip) : ip.length = 16 := by
  unfold parseCIDR at parsed
  dsimp only at parsed
  split at parsed
  · cases parsed
  · obtain ⟨address, read, rest⟩ := Option.bind_eq_some_iff.mp parsed
    obtain ⟨digits, _, same⟩ := Option.bind_eq_some_iff.mp rest
    split at same
    · cases same
    · cases same
      exact length_as16_of_parseAddr read

end EvpnForOvn.Go
