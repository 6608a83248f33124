import KnxGateway.Peer.IpText
import KnxGateway.Proofs.Text.Digits
import KnxGateway.Text.Blank

set_option autoImplicit false

/-! # Addresses and their notation

The reader of addresses undoes their display, so that addresses with the same text are the same.
For IPv4 this is a matter of decimal numbers and points. The text of an IPv6 address shows its
groups with colons between, except for a run of zero groups that is left out. The reader finds the
groups in front of the run and those behind it, and puts back as many zeros as are missing from
eight groups, which are as many as were left out. -/

namespace KnxGateway

open Text

namespace Ip

/-! ## IPv4 -/

theorem length_decimal_le (n : UInt8) : (decimal n.toNat).length ≤ 3 :=
  (Nat.length_toDigits_le_iff (by decide) (by decide)).2 (Nat.lt_trans n.toNat_lt (by decide))

theorem readOctet_decimal (n : UInt8) {rest : List Char} (h : rest.takeWhile Char.isDigit = []) :
    readOctet (decimal n.toNat ++ rest) = some (n, rest) := by
  obtain ⟨htake, hdrop⟩ := takeWhile_append_of_stop
    (fun _ hc => isDigit_of_mem_decimal (n := n.toNat) hc) h
  have hvalue := ofDigitChars_decimal n.toNat
  have hlt := n.toNat_lt
  have hlength := length_decimal_le n
  have hzero : (decimal n.toNat).head? = some '0' → (decimal n.toNat).length ≤ 1 := by
    intro hhead
    have : n.toNat = 0 := Nat.eq_zero_of_not_pos fun hpos => head?_decimal_ne hpos hhead
    rw [this]
    decide
  simp only [readOctet, htake, hdrop, hvalue]
  rw [if_neg (by simpa [decimal_ne_nil] using hlength), if_neg (by simpa using hzero),
    if_neg (by omega)]
  simp

theorem readIpv4_display (ip : Ipv4) {rest : List Char} (h : rest.takeWhile Char.isDigit = []) :
    readIpv4 (ip.display ++ rest) = some (ip, rest) := by
  have hpoint : ∀ s : List Char, ('.' :: s).takeWhile Char.isDigit = [] := fun _ => rfl
  simp only [readIpv4, Ipv4.display, List.append_assoc, List.cons_append,
    readOctet_decimal _ (hpoint _), readOctet_decimal _ h, readSeparator, Option.bind_eq_bind,
    Option.bind_some, if_true]
  rfl

theorem readIpv4_display_end (ip : Ipv4) : readIpv4 ip.display = some (ip, []) := by
  have hread := readIpv4_display ip (List.takeWhile_nil (p := Char.isDigit))
  rwa [List.append_nil] at hread

/-- An IPv4 address has a point behind its first digits. -/
theorem readIpv4_eq_none {s : List Char} (h : (s.dropWhile Char.isDigit).head? ≠ some '.') :
    readIpv4 s = none := by
  have hoctet : ∀ found, readOctet s = some found → readSeparator '.' found.2 = none := by
    intro found hfound
    simp only [readOctet] at hfound
    split at hfound
    · cases hfound
    split at hfound
    · cases hfound
    split at hfound
    · cases hfound
    cases hfound
    cases hdrop : s.dropWhile Char.isDigit with
    | nil => rfl
    | cons c rest =>
      rw [hdrop] at h
      exact if_neg fun hc => h (congrArg some hc)
  cases hread : readOctet s with
  | none => simp [readIpv4, hread]
  | some found => simp [readIpv4, hread, hoctet found hread]

/-! ## Groups -/

/-- What may follow a group of an IPv6 address: nothing, or a colon. -/
def EndsGroup (rest : List Char) : Prop :=
  ∀ c ∈ rest.head?, c = ':'

/-- What may follow a run of groups: nothing, or the two colons where groups are left out. -/
def EndsRun (rest : List Char) : Prop :=
  rest = [] ∨ ∃ s, rest = ':' :: ':' :: s

theorem EndsRun.endsGroup {rest : List Char} (h : EndsRun rest) : EndsGroup rest := by
  rcases h with rfl | ⟨s, rfl⟩ <;> simp [EndsGroup]

theorem EndsGroup.takeWhile_eq_nil {rest : List Char} (h : EndsGroup rest) {p : Char → Bool}
    (hp : p ':' = false) : rest.takeWhile p = [] := by
  refine takeWhile_eq_nil_of_head? fun c hc => ?_
  rw [h c hc, hp]

theorem length_hexDigits_le (group : UInt16) : (hexDigits group.toNat).length ≤ 4 :=
  (Nat.length_toDigits_le_iff (by decide) (by decide)).2 group.toNat_lt

theorem readGroup_hexDigits (group : UInt16) {rest : List Char} (h : EndsGroup rest) :
    readGroup (hexDigits group.toNat ++ rest) = some (group, rest) := by
  obtain ⟨htake, hdrop⟩ := takeWhile_append_of_stop (p := fun c => (hexValue? c).isSome)
    (fun _ hc => isSome_hexValue?_of_mem (n := group.toNat) hc) (h.takeWhile_eq_nil rfl)
  have hlength := length_hexDigits_le group
  have hne : hexDigits group.toNat ≠ [] := Nat.toDigits_ne_nil
  simp only [readGroup, htake, hdrop, foldl_hexDigits]
  rw [if_neg (by simpa [hne] using hlength)]
  simp

/-- Where no point is in front of the first colon, no IPv4 address is. -/
theorem readIpv4_of_no_point {front rest : List Char} (hfront : ∀ c ∈ front, c ≠ '.')
    (h : EndsGroup rest) : readIpv4 (front ++ rest) = none := by
  refine readIpv4_eq_none ?_
  induction front with
  | nil =>
    have hdrop : rest.dropWhile Char.isDigit = rest :=
      (takeWhile_append_of_stop (List.forall_mem_nil _) (h.takeWhile_eq_nil rfl)).2
    rw [List.nil_append, hdrop]
    intro hhead
    exact absurd (h '.' hhead) (by decide)
  | cons c front ih =>
    rw [List.cons_append]
    by_cases hc : c.isDigit
    · rw [List.dropWhile_cons_of_pos hc]
      exact ih fun c hc => hfront c (List.mem_cons_of_mem _ hc)
    · rw [List.dropWhile_cons_of_neg hc]
      simpa using hfront c List.mem_cons_self

theorem readIpv4_hexDigits (n : Nat) {rest : List Char} (h : EndsGroup rest) :
    readIpv4 (hexDigits n ++ rest) = none := by
  refine readIpv4_of_no_point ?_ h
  rintro c hc rfl
  exact absurd (isSome_hexValue?_of_mem hc) (by decide)

/-- Groups that follow another, each behind a colon. -/
def followingGroups (groups : List UInt16) : List Char :=
  groups.flatMap fun group => ':' :: hexDigits group.toNat

theorem displayGroups_cons (group : UInt16) (groups : List UInt16) :
    Ipv6.displayGroups (group :: groups) = hexDigits group.toNat ++ followingGroups groups := by
  induction groups generalizing group with
  | nil => simp [Ipv6.displayGroups, followingGroups]
  | cons next groups ih =>
    have hnext := ih next
    simp only [Ipv6.displayGroups, List.map_cons] at hnext ⊢
    rw [List.intercalate_cons_cons, hnext]
    simp [followingGroups]

theorem mem_displayGroups {groups : List UInt16} {c : Char} (h : c ∈ Ipv6.displayGroups groups) :
    c = ':' ∨ ∃ n, c ∈ hexDigits n := by
  cases groups with
  | nil => cases h
  | cons group groups =>
    rw [displayGroups_cons] at h
    rcases List.mem_append.1 h with hfirst | hfollowing
    · exact Or.inr ⟨_, hfirst⟩
    · obtain ⟨next, -, hnext⟩ := List.mem_flatMap.1 hfollowing
      exact (List.mem_cons.1 hnext).imp_right fun hdigit => ⟨_, hdigit⟩

theorem endsGroup_followingGroups {rest : List Char} (h : EndsGroup rest) (groups : List UInt16) :
    EndsGroup (followingGroups groups ++ rest) := by
  cases groups with
  | nil => exact h
  | cons group groups => simp [followingGroups, EndsGroup]

section Steps

variable {first : Bool} {s behind rest : List Char} {group : UInt16}

theorem readGroups_of_group (hcolon : readColon first s = some behind)
    (hipv4 : readIpv4 behind = none) (hgroup : readGroup behind = some (group, rest))
    (room : Nat) {run : GroupRun} (hrun : readGroups false room rest = run) :
    readGroups first (room + 1) s = ⟨group :: run.groups, run.endsInIpv4, run.rest⟩ := by
  simp [readGroups, hcolon, hipv4, hgroup, hrun]

theorem readGroups_of_ipv4 (hcolon : readColon first s = some behind) {ip : Ipv4}
    (hipv4 : readIpv4 behind = some (ip, rest)) (room : Nat) :
    readGroups first (room + 2) s = ⟨ip.groups, true, rest⟩ := by
  simp [readGroups, hcolon, hipv4]

end Steps

theorem readGroups_of_endsRun {rest : List Char} (h : EndsRun rest) (first : Bool) (room : Nat) :
    readGroups first room rest = ⟨[], false, rest⟩ := by
  cases room with
  | zero => rfl
  | succ room =>
    have hgroup : (readColon first rest).bind readGroup = none := by
      rcases h with rfl | ⟨s, rfl⟩ <;> cases first <;> rfl
    have hipv4 : (readColon first rest).bind readIpv4 = none := by
      rcases h with rfl | ⟨s, rfl⟩ <;> cases first <;> rfl
    simp [readGroups, hgroup, hipv4]

theorem readGroups_followingGroups {rest : List Char} (h : EndsRun rest) {groups : List UInt16}
    {room : Nat} (hroom : groups.length ≤ room) :
    readGroups false room (followingGroups groups ++ rest) = ⟨groups, false, rest⟩ := by
  induction groups generalizing room with
  | nil => exact readGroups_of_endsRun h false room
  | cons group groups ih =>
    obtain ⟨room, rfl⟩ : ∃ more, room = more + 1 :=
      ⟨room - 1, by rw [List.length_cons] at hroom; omega⟩
    have hends := endsGroup_followingGroups h.endsGroup groups
    have hcolon : readColon false (followingGroups (group :: groups) ++ rest) =
        some (hexDigits group.toNat ++ (followingGroups groups ++ rest)) := by
      simp [readColon, readSeparator, followingGroups]
    exact readGroups_of_group hcolon (readIpv4_hexDigits _ hends) (readGroup_hexDigits _ hends)
      room (ih (Nat.le_of_succ_le_succ hroom))

/-- A run of groups is read up to its end, when there is room for it. -/
theorem readGroups_displayGroups {rest : List Char} (h : EndsRun rest) {groups : List UInt16}
    {room : Nat} (hroom : groups.length ≤ room) :
    readGroups true room (Ipv6.displayGroups groups ++ rest) = ⟨groups, false, rest⟩ := by
  cases groups with
  | nil => exact readGroups_of_endsRun h true room
  | cons group groups =>
    obtain ⟨room, rfl⟩ : ∃ more, room = more + 1 :=
      ⟨room - 1, by rw [List.length_cons] at hroom; omega⟩
    have hends := endsGroup_followingGroups h.endsGroup groups
    rw [displayGroups_cons, List.append_assoc]
    exact readGroups_of_group rfl (readIpv4_hexDigits _ hends) (readGroup_hexDigits _ hends)
      room (readGroups_followingGroups h (Nat.le_of_succ_le_succ hroom))

theorem readGroups_displayGroups_end {groups : List UInt16} {room : Nat}
    (hroom : groups.length ≤ room) :
    readGroups true room (Ipv6.displayGroups groups) = ⟨groups, false, []⟩ := by
  have hread := readGroups_displayGroups (Or.inl rfl) hroom
  rwa [List.append_nil] at hread

end Ip

/-- The groups that stand for an IPv4 address are those of that address. -/
theorem Ipv4.groups_ofGroups (high low : UInt16) : (ofGroups high low).groups = [high, low] := by
  have hhigh := high.toNat_lt
  have hlow := low.toNat_lt
  simp only [groups, ofGroups, List.cons.injEq, and_true, ← UInt16.toNat_inj]
  simp
  omega

/-! ## Zero groups that are left out -/

namespace Ipv6

theorem snd_longestZeros_le (groups : List UInt16) :
    (longestZeros groups).2 ≤ zerosFrom groups (longestZeros groups).1 := by
  unfold longestZeros
  generalize List.range groups.length = starts
  have hbest : ((0, 0) : Nat × Nat).2 ≤ zerosFrom groups ((0, 0) : Nat × Nat).1 := Nat.zero_le _
  generalize ((0, 0) : Nat × Nat) = best at hbest
  induction starts generalizing best with
  | nil => exact hbest
  | cons start starts ih =>
    rw [List.foldl_cons]
    refine ih _ ?_
    split
    · exact Nat.le_refl _
    · exact hbest

theorem takeWhile_zeros (groups : List UInt16) (start : Nat) :
    (groups.drop start).takeWhile (fun group => group == 0) <+: groups.drop start :=
  List.takeWhile_prefix _

theorem zerosFrom_le (groups : List UInt16) (start : Nat) :
    zerosFrom groups start ≤ groups.length - start := by
  rw [← List.length_drop]
  exact (takeWhile_zeros groups start).length_le

theorem add_zerosFrom_le {groups : List UInt16} {start : Nat} (h : 0 < zerosFrom groups start) :
    start + zerosFrom groups start ≤ groups.length := by
  have hle := zerosFrom_le groups start
  omega

/-- Groups that are left out of a run of zeros are put back as zeros. -/
theorem take_append_replicate_append_drop {groups : List UInt16} {start length : Nat}
    (h : length ≤ zerosFrom groups start) :
    groups.take start ++ List.replicate length 0 ++ groups.drop (start + length) = groups := by
  have hzeros : (groups.drop start).take length = List.replicate length 0 := by
    have hlength := Nat.le_trans h (zerosFrom_le groups start)
    rw [← List.length_drop] at hlength
    refine List.eq_replicate_iff.2 ⟨List.length_take_of_le hlength, fun group hgroup => ?_⟩
    have hmem := List.take_subset_take_left _ h hgroup
    rw [zerosFrom, ← List.prefix_iff_eq_take.1 (takeWhile_zeros groups start)] at hmem
    simpa using List.all_eq_true.1 List.all_takeWhile group hmem
  rw [← hzeros, List.append_assoc, ← List.drop_drop, List.take_append_drop,
    List.take_append_drop]

/-- An address that stands for an IPv4 address is the IPv6 shape of it. -/
theorem groups_of_toIpv4? {ip : Ipv6} {v4 : Ipv4} (h : ip.toIpv4? = some v4) :
    ip.groups = [0, 0, 0, 0, 0, 0xFFFF] ++ v4.groups := by
  unfold toIpv4? at h
  split at h
  · next high low hgroups =>
    cases h
    rw [hgroups, Ipv4.groups_ofGroups]
    rfl
  · cases h

/-- An address is shown as the IPv4 address that it stands for, or with digits and colons. -/
theorem display_cases (ip : Ipv6) :
    (∃ v4 : Ipv4, ip.display = "::ffff:".toList ++ v4.display) ∨
      ∀ c ∈ ip.display, c = ':' ∨ ∃ n, c ∈ hexDigits n := by
  unfold display
  split
  · next v4 _ => exact Or.inl ⟨v4, rfl⟩
  · refine Or.inr fun c hc => ?_
    dsimp only at hc
    split at hc
    · rcases List.mem_append.1 hc with hfront | htail
      · rcases List.mem_append.1 hfront with hhead | hcolons
        · exact Ip.mem_displayGroups hhead
        · exact Or.inl (by simpa using hcolons)
      · exact Ip.mem_displayGroups htail
    · exact Ip.mem_displayGroups hc

end Ipv6

/-! ## Reading what is shown -/

namespace Ip

theorem ofGroups?_groups (ip : Ipv6) : ofGroups? ip.groups = some ip := by
  rw [ofGroups?, dif_pos ip.length_groups]

/-- Zero groups are put in the place of those that are left out. -/
theorem readIpv6_of_leftOut {s behind rest : List Char} {head tail : List UInt16} {b : Bool}
    (hhead : readGroups true 8 s = ⟨head, false, ':' :: ':' :: behind⟩) (hlength : head.length < 8)
    (htail : readGroups true (7 - head.length) behind = ⟨tail, b, rest⟩) {ip : Ipv6}
    (hgroups : head ++ List.replicate (8 - head.length - tail.length) 0 ++ tail = ip.groups) :
    readIpv6 s = some (ip, rest) := by
  simp only [readIpv6, hhead]
  rw [if_neg (Nat.ne_of_lt hlength)]
  have hcolon : ∀ s : List Char, readSeparator ':' (':' :: s) = some s := fun _ => rfl
  simp only [hcolon, Bool.false_eq_true, if_false, Option.bind_eq_bind, Option.bind_some, htail,
    hgroups, ofGroups?_groups]
  rfl

/-- The last two groups may be shown as an IPv4 address. -/
theorem readIpv6_mapped {ip : Ipv6} {v4 : Ipv4} (h : ip.toIpv4? = some v4) :
    readIpv6 ("::ffff:".toList ++ v4.display) = some (ip, []) := by
  have hends : EndsGroup (':' :: v4.display) := by simp [EndsGroup]
  have hgroup := readGroup_hexDigits 0xFFFF hends
  have hipv4 := readIpv4_hexDigits (0xFFFF : UInt16).toNat hends
  rw [show hexDigits (0xFFFF : UInt16).toNat = "ffff".toList from by decide] at hgroup hipv4
  have hmapped : readGroups true 7 ("ffff:".toList ++ v4.display) =
      ⟨0xFFFF :: v4.groups, true, []⟩ :=
    readGroups_of_group rfl hipv4 hgroup 6
      (readGroups_of_ipv4 rfl (readIpv4_display_end v4) 4)
  refine readIpv6_of_leftOut (readGroups_of_endsRun (Or.inr ⟨_, rfl⟩) true 8)
    (by decide) hmapped ?_
  rw [Ipv6.groups_of_toIpv4? h]
  rfl

/-- Two colons stand for a run of zero groups. -/
theorem readIpv6_shortened (ip : Ipv6) {start length : Nat} (hpos : 0 < length)
    (hzeros : length ≤ Ipv6.zerosFrom ip.groups start) :
    readIpv6 (Ipv6.displayGroups (ip.groups.take start) ++ "::".toList ++
      Ipv6.displayGroups (ip.groups.drop (start + length))) = some (ip, []) := by
  have hroom := Ipv6.add_zerosFrom_le (Nat.lt_of_lt_of_le hpos hzeros)
  rw [ip.length_groups] at hroom
  have hhead : (ip.groups.take start).length = start := by
    rw [List.length_take, ip.length_groups]
    omega
  have htail : (ip.groups.drop (start + length)).length = 8 - (start + length) := by
    rw [List.length_drop, ip.length_groups]
  have hread : readGroups true (7 - (ip.groups.take start).length)
      (Ipv6.displayGroups (ip.groups.drop (start + length))) =
        ⟨ip.groups.drop (start + length), false, []⟩ :=
    readGroups_displayGroups_end (by omega)
  rw [List.append_assoc]
  refine readIpv6_of_leftOut (readGroups_displayGroups (Or.inr ⟨_, rfl⟩) (by omega))
    (by omega) hread ?_
  rw [hhead, htail, show 8 - start - (8 - (start + length)) = length from by omega]
  exact Ipv6.take_append_replicate_append_drop hzeros

theorem readIpv6_displayGroups (ip : Ipv6) :
    readIpv6 (Ipv6.displayGroups ip.groups) = some (ip, []) := by
  have hread := readGroups_displayGroups_end (Nat.le_of_eq ip.length_groups)
  simp [readIpv6, hread, ip.length_groups, ofGroups?_groups]

theorem readIpv6_display (ip : Ipv6) : readIpv6 ip.display = some (ip, []) := by
  unfold Ipv6.display
  cases hv4 : ip.toIpv4? with
  | some v4 => exact readIpv6_mapped hv4
  | none =>
    have hzeros := Ipv6.snd_longestZeros_le ip.groups
    cases hlongest : Ipv6.longestZeros ip.groups with
    | mk start length =>
    rw [hlongest] at hzeros
    dsimp only at hzeros ⊢
    split
    · exact readIpv6_shortened ip (by omega) hzeros
    · exact readIpv6_displayGroups ip

theorem readIpv4_display_v6 (ip : Ipv6) : readIpv4 ip.display = none := by
  rcases ip.display_cases with ⟨v4, hdisplay⟩ | hcharacters
  · have hends : EndsGroup ("::ffff:".toList ++ v4.display) := by simp [EndsGroup]
    rw [hdisplay, ← List.nil_append (_ ++ _)]
    exact readIpv4_of_no_point (List.forall_mem_nil _) hends
  · have hempty : EndsGroup [] := by simp [EndsGroup]
    rw [← List.append_nil ip.display]
    refine readIpv4_of_no_point ?_ hempty
    rintro c hc rfl
    rcases hcharacters '.' hc with hcolon | ⟨n, hdigit⟩
    · cases hcolon
    · exact absurd (isSome_hexValue?_of_mem hdigit) (by decide)

/-- The reader of addresses undoes their display. -/
theorem read?_display (ip : Ip) : read? ip.display = some ip := by
  cases ip with
  | v4 ip =>
    simp [read?, display, readIpv4_display_end, atEnd?]
  | v6 ip => simp [read?, display, readIpv4_display_v6, readIpv6_display, atEnd?]

/-- Addresses with the same text are the same. -/
theorem text_inj {x y : Ip} : x.text = y.text ↔ x = y := by
  refine ⟨fun h => ?_, congrArg text⟩
  have hdisplay : x.display = y.display := String.ofList_injective h
  have hread := read?_display x
  rw [hdisplay, read?_display] at hread
  exact (Option.some.inj hread).symm

/-! ## The characters of addresses -/

/-- Whether addresses are written with a character: a digit in base 16, a colon or a point. -/
def isNotation (c : Char) : Bool :=
  (hexValue? c).isSome || c == ':' || c == '.'

theorem isNotation_of_mem_hexDigits {n : Nat} {c : Char} (h : c ∈ hexDigits n) :
    isNotation c = true := by
  simp [isNotation, isSome_hexValue?_of_mem h]

theorem isNotation_of_mem_decimal {n : Nat} {c : Char} (h : c ∈ decimal n) :
    isNotation c = true := by
  have hdigit := isDigit_of_mem_decimal h
  simp only [Char.isDigit, Bool.and_eq_true, decide_eq_true_eq] at hdigit
  have hrange : '0' ≤ c ∧ c ≤ '9' := hdigit
  simp [isNotation, hexValue?, hrange]

theorem isNotation_of_mem_display_v4 {ip : Ipv4} {c : Char} (h : c ∈ ip.display) :
    isNotation c = true := by
  simp only [Ipv4.display, List.mem_append, List.mem_cons] at h
  rcases h with ((h | rfl | h) | rfl | h) | rfl | h <;>
    first | exact isNotation_of_mem_decimal h | rfl

theorem isNotation_of_mem_display {ip : Ip} {c : Char} (h : c ∈ ip.display) :
    isNotation c = true := by
  cases ip with
  | v4 ip => exact isNotation_of_mem_display_v4 h
  | v6 ip =>
    have h : c ∈ ip.display := h
    rcases ip.display_cases with ⟨v4, hdisplay⟩ | hcharacters
    · have hmark : "::ffff:".toList.all isNotation = true := by decide
      rw [hdisplay] at h
      rcases List.mem_append.1 h with hfront | haddress
      · exact List.all_eq_true.1 hmark c hfront
      · exact isNotation_of_mem_display_v4 haddress
    · rcases hcharacters c h with rfl | ⟨n, hdigit⟩
      · rfl
      · exact isNotation_of_mem_hexDigits hdigit

theorem toNat_of_isNotation {c : Char} (h : isNotation c = true) :
    46 ≤ c.toNat ∧ c.toNat ≤ 102 := by
  have hbounds : ∀ low high : Char, low ≤ c ∧ c ≤ high →
      46 ≤ low.toNat → high.toNat ≤ 102 → 46 ≤ c.toNat ∧ c.toNat ≤ 102 :=
    fun low high hc hlow hhigh => ⟨Nat.le_trans hlow hc.1, Nat.le_trans hc.2 hhigh⟩
  simp only [isNotation, Bool.or_eq_true, beq_iff_eq] at h
  rcases h with (hvalue | rfl) | rfl
  · unfold hexValue? at hvalue
    split at hvalue
    · next hc => exact hbounds _ _ hc (by decide) (by decide)
    split at hvalue
    · next hc => exact hbounds _ _ hc (by decide) (by decide)
    split at hvalue
    · next hc => exact hbounds _ _ hc (by decide) (by decide)
    · cases hvalue
  · decide
  · decide

theorem isBlank_of_isNotation {c : Char} (h : isNotation c = true) : isBlank c = false := by
  obtain ⟨hlow, hhigh⟩ := toNat_of_isNotation h
  exact isBlank_of_visible (by omega) (by omega)

theorem ne_comma_of_isNotation {c : Char} (h : isNotation c = true) : c ≠ ',' := by
  rintro rfl
  exact absurd h (by decide)

theorem display_ne_nil (ip : Ip) : ip.display ≠ [] := by
  intro h
  have hread := read?_display ip
  rw [h] at hread
  cases hread

end Ip

end KnxGateway
