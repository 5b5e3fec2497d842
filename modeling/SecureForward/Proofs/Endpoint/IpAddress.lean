import SecureForward.Endpoint.IpAddress
import SecureForward.Proofs.Text.Lower
import SecureForward.Proofs.Text.Split

/-!
# Network addresses in small letters

An address of version 6 stays one when its digits are written as small letters
(`isVersion6_lowered`), and so does its zone, which is left as it is. Such an address begins with a
hexadecimal digit or a colon, and is ASCII in front of its zone (`isAscii_of_isVersion6`). No
address of version 4 holds a colon.
-/

namespace SecureForward.IpAddress

open SecureForward.Text

/-- The text with small letters before its first percent sign. What follows, the zone of an address,
is left as it is. -/
def lowered (l : List Char) : List Char :=
  match cut '%' l with
  | (name, some zone) => name.map Char.toLower ++ '%' :: zone
  | (name, none) => name.map Char.toLower

/-! ## Small letters before a zone -/

/-- Without a zone the whole text is in small letters. -/
theorem lowered_of_not_mem {name : List Char} (h : '%' ∉ name) :
    lowered name = name.map Char.toLower := by
  unfold lowered
  rw [cut_eq_none_iff.2 ⟨h, rfl⟩]

/-- A zone is left as it is. -/
theorem lowered_append_zone {name : List Char} (h : '%' ∉ name) (zone : List Char) :
    lowered (name ++ '%' :: zone) = name.map Char.toLower ++ '%' :: zone := by
  unfold lowered
  rw [cut_eq_some_iff.2 ⟨h, rfl⟩]

/-- A text has no zone, or a first percent sign that one follows. -/
theorem name_or_zone (l : List Char) :
    '%' ∉ l ∨ ∃ name zone, '%' ∉ name ∧ l = name ++ '%' :: zone := by
  rcases h : cut '%' l with ⟨name, _ | zone⟩
  · exact .inl (cut_eq_none_iff.1 h).1
  · exact .inr ⟨name, zone, cut_eq_some_iff.1 h⟩

/-- A text without a percent sign has none in small letters. -/
theorem not_mem_map_toLower {name : List Char} (h : '%' ∉ name) : '%' ∉ name.map Char.toLower := by
  rwa [mem_map_toLower_iff rfl]

/-- Changing to small letters a second time changes nothing. -/
theorem lowered_lowered (l : List Char) : lowered (lowered l) = lowered l := by
  rcases name_or_zone l with h | ⟨name, zone, h, rfl⟩
  · rw [lowered_of_not_mem h, lowered_of_not_mem (not_mem_map_toLower h), map_toLower_map_toLower]
  · rw [lowered_append_zone h, lowered_append_zone (not_mem_map_toLower h), map_toLower_map_toLower]

/-- Changing to small letters neither adds nor removes a character that is no letter. -/
theorem mem_lowered_iff {c : Char} (hc : c.isAlpha = false) (l : List Char) :
    c ∈ lowered l ↔ c ∈ l := by
  rcases name_or_zone l with h | ⟨name, zone, h, rfl⟩
  · rw [lowered_of_not_mem h, mem_map_toLower_iff hc]
  · rw [lowered_append_zone h, List.mem_append, List.mem_append, mem_map_toLower_iff hc]

/-- The first character becomes a small letter. -/
theorem head?_lowered (c : Char) (l : List Char) : (lowered (c :: l)).head? = some c.toLower := by
  rcases name_or_zone (c :: l) with h | ⟨name, zone, h, hl⟩
  · rw [lowered_of_not_mem h]
    rfl
  · rw [hl, lowered_append_zone h]
    cases name with
    | nil =>
      obtain ⟨rfl, -⟩ := List.cons.inj hl
      rfl
    | cons x name =>
      obtain ⟨rfl, -⟩ := List.cons.inj hl
      rfl

/-- An ASCII text stays one. -/
theorem isAscii_lowered {l : List Char} (h : Utf8.IsAscii l) : Utf8.IsAscii (lowered l) := by
  rcases name_or_zone l with hname | ⟨name, zone, hname, rfl⟩
  · rw [lowered_of_not_mem hname]
    exact isAscii_map_toLower h
  · rw [lowered_append_zone hname]
    intro c hc
    rcases List.mem_append.1 hc with hc | hc
    · exact isAscii_map_toLower (fun x hx => h x (List.mem_append_left _ hx)) c hc
    · exact h c (List.mem_append_right _ hc)

/-! ## Parts of an address -/

/-- A hexadecimal digit may be a capital or a small letter. -/
theorem isHexDigit_toLower (c : Char) : isHexDigit c.toLower = isHexDigit c :=
  toLower_induction (P := fun c small => isHexDigit small = isHexDigit c) (fun _ => rfl)
    (by decide) c

/-- Digits have no small letters. -/
theorem map_toLower_of_digits {l : List Char} (h : l.all isAsciiDigit = true) :
    l.map Char.toLower = l := by
  have hdigit (c : Char) : isAsciiDigit c = true → c.toLower = c :=
    toLower_induction (P := fun c small => isAsciiDigit c = true → small = c) (fun _ _ => rfl)
      (by decide) c
  exact (List.map_congr_left fun c hc => hdigit c (List.all_eq_true.1 h c hc)).trans
    (List.map_id' l)

/-- One of the numbers of a version 4 address is one in small letters. -/
theorem isOctet_map_toLower (l : List Char) : isOctet (l.map Char.toLower) = isOctet l := by
  have hdigit (c : Char) : isAsciiDigit c.toLower = isAsciiDigit c :=
    toLower_induction (P := fun c small => isAsciiDigit small = isAsciiDigit c) (fun _ => rfl)
      (by decide) c
  have hall : (l.map Char.toLower).all isAsciiDigit = l.all isAsciiDigit := by
    rw [List.all_map]
    exact congrArg (List.all l) (funext hdigit)
  by_cases h : l.all isAsciiDigit = true
  · rw [map_toLower_of_digits h]
  · unfold isOctet
    rw [hall]
    simp [h]

/-- A separator that is no letter stays where it is. -/
theorem toLower_eq_iff {c : Char} (hc : c.isAlpha = false) (x : Char) :
    decide (x.toLower = c) = decide (x = c) := by
  have h := mem_map_toLower_iff hc [x]
  simp only [List.map_cons, List.map_nil, List.mem_singleton] at h
  exact decide_eq_decide.2 ⟨fun hx => (h.1 hx.symm).symm, fun hx => (h.2 hx.symm).symm⟩

/-- A version 4 address is one in small letters. -/
theorem isVersion4_map_toLower (l : List Char) :
    isVersion4 (l.map Char.toLower) = isVersion4 l := by
  unfold isVersion4
  rw [split_map (toLower_eq_iff rfl)]
  dsimp only
  rw [List.length_map, List.all_map]
  exact congrArg _ (congrArg (List.all _) (funext isOctet_map_toLower))

/-- A version 4 address consists of digits and full stops. -/
theorem digit_or_stop_of_isVersion4 {l : List Char} (h : isVersion4 l = true) :
    ∀ c ∈ l, c = '.' ∨ isAsciiDigit c = true := by
  intro c hc
  by_cases hstop : c = '.'
  · exact .inl hstop
  right
  obtain ⟨octet, hoctet, hmem⟩ := exists_mem_split hc (p := (· = '.')) (decide_eq_false hstop)
  unfold isVersion4 at h
  obtain ⟨-, hall⟩ := Bool.and_eq_true_iff.1 h
  have hfits := List.all_eq_true.1 hall octet hoctet
  unfold isOctet at hfits
  simp only [Bool.and_eq_true, List.all_eq_true] at hfits
  exact hfits.1.1.1.2 c hmem

/-- A version 4 address holds no colon. -/
theorem colon_not_mem_of_isVersion4 {l : List Char} (h : isVersion4 l = true) : ':' ∉ l := by
  intro hcolon
  rcases digit_or_stop_of_isVersion4 h ':' hcolon with heq | hdigit
  · cases heq
  · cases hdigit

/-! ## Groups -/

/-- A group is one in small letters. -/
theorem isGroup_map_toLower (l : List Char) : isGroup (l.map Char.toLower) = isGroup l := by
  unfold isGroup
  rw [List.length_map, List.all_map, List.isEmpty_map]
  exact congrArg _ (congrArg (List.all l) (funext isHexDigit_toLower))

/-- Groups that make an address make one in small letters. -/
theorem areGroups_map_toLower (groups : List (List Char)) :
    areGroups (groups.map (List.map Char.toLower)) = areGroups groups := by
  have hgroup : isGroup ∘ List.map Char.toLower = isGroup := funext isGroup_map_toLower
  have hempty : List.isEmpty ∘ List.map Char.toLower = (List.isEmpty : List Char → Bool) :=
    funext fun l => List.isEmpty_map
  have hcomplete : areComplete (groups.map (List.map Char.toLower)) = areComplete groups := by
    unfold areComplete
    rw [List.length_map, List.all_map, hgroup]
  have haround (high low : List (List Char)) :
      areAround (high.map (List.map Char.toLower)) (low.map (List.map Char.toLower)) =
          areAround high low := by
    have hside (side : List (List Char)) :
        (if side.map (List.map Char.toLower) = [[]] then [] else side.map (List.map Char.toLower)) =
          (if side = [[]] then [] else side).map (List.map Char.toLower) := by
      by_cases h : side = [[]]
      · rw [h]
        rfl
      · rw [if_neg h, if_neg]
        intro hmap
        obtain ⟨group, rfl, hgroup⟩ := List.map_eq_singleton_iff.1 hmap
        exact h (congrArg (fun l => [l]) (List.map_eq_nil_iff.1 hgroup))
    unfold areAround
    dsimp only
    rw [hside, hside, List.length_map, List.length_map, List.all_map, List.all_map, hgroup]
  unfold areGroups
  dsimp only
  rw [← List.map_tail, ← List.map_dropLast, List.findIdx?_map, hempty]
  cases groups.tail.dropLast.findIdx? List.isEmpty with
  | none => exact hcomplete
  | some index =>
    dsimp only
    rw [← List.map_take, ← List.map_drop, haround]

/-- The groups of a text in small letters. -/
theorem groups?_map_toLower (l : List Char) :
    groups? (l.map Char.toLower) = (groups? l).map (List.map (List.map Char.toLower)) := by
  unfold groups?
  rw [split_map (toLower_eq_iff rfl)]
  dsimp only
  rw [List.getLast?_map, List.length_map]
  cases (split (· = ':') l).getLast? with
  | none => rfl
  | some last =>
    have hstop : (last.map Char.toLower).contains '.' = last.contains '.' := by
      rw [Bool.eq_iff_iff, List.contains_iff_mem, List.contains_iff_mem, mem_map_toLower_iff rfl]
    dsimp only [Option.map_some]
    rw [hstop, isVersion4_map_toLower]
    split
    · rfl
    · split
      · split
        · simp [← List.map_dropLast]
        · rfl
      · rfl

/-- Of the groups that make an address each is empty or a group. -/
theorem isGroup_of_mem {groups : List (List Char)} (h : areGroups groups = true) :
    ∀ group ∈ groups, group = [] ∨ isGroup group = true := by
  intro group hgroup
  unfold areGroups at h
  dsimp only at h
  split at h
  · unfold areComplete at h
    exact .inr (List.all_eq_true.1 (Bool.and_eq_true_iff.1 h).2 group hgroup)
  · rename_i index hindex
    -- A side of the run that is left out is a single empty group, or it is made of groups.
    have hside {side : List (List Char)}
        (hside : (if side = [[]] then [] else side).all isGroup = true)
        (hmem : group ∈ side) : group = [] ∨ isGroup group = true := by
      by_cases hempty : side = [[]]
      · rw [hempty, List.mem_singleton] at hmem
        exact .inl hmem
      · rw [if_neg hempty] at hside
        exact .inr (List.all_eq_true.1 hside group hmem)
    unfold areAround at h
    simp only [Bool.and_eq_true] at h
    obtain ⟨⟨-, hhigh⟩, hlow⟩ := h
    obtain ⟨hlength, hempty, -⟩ := List.findIdx?_eq_some_iff_getElem.1 hindex
    have hinside : index + 1 < groups.length := by
      rw [List.length_dropLast, List.length_tail] at hlength
      omega
    have hmiddle : groups[index + 1] = [] := by
      rw [List.getElem_dropLast, List.getElem_tail] at hempty
      exact List.isEmpty_iff.1 hempty
    rw [← List.take_append_drop (index + 1) groups, List.drop_eq_getElem_cons hinside, hmiddle]
      at hgroup
    rcases List.mem_append.1 hgroup with hgroup | hgroup
    · exact hside hhigh hgroup
    · rcases List.mem_cons.1 hgroup with rfl | hgroup
      · exact .inl rfl
      · exact hside hlow hgroup

/-- Groups are the fields of a text between colons; in the place of the last field there are two
groups if it is an address of version 4. -/
theorem split_of_groups? {l : List Char} {groups : List (List Char)} (h : groups? l = some groups) :
    ∃ front last, front ≠ [] ∧ split (· = ':') l = front ++ [last] ∧
      (groups = front ++ [last] ∨ isVersion4 last = true ∧ groups = front ++ [['0'], ['0']]) := by
  unfold groups? at h
  dsimp only at h
  split at h
  · cases h
  · rename_i last hlast
    obtain ⟨front, hfront⟩ := List.getLast?_eq_some_iff.1 hlast
    rw [hfront, List.dropLast_concat] at h
    split at h
    · cases h
    · rename_i hlength
      have hne : front ≠ [] := by
        rintro rfl
        simp at hlength
      refine ⟨front, last, hne, hfront, ?_⟩
      split at h
      · split at h
        · rename_i hversion
          exact .inr ⟨hversion, (Option.some.inj h).symm⟩
        · cases h
      · exact .inl (Option.some.inj h).symm

/-- The first field of a text with groups is the first group. -/
theorem head?_groups? {l : List Char} {groups : List (List Char)} (h : groups? l = some groups) :
    groups.head? = (split (· = ':') l).head? := by
  obtain ⟨front, last, hne, hsplit, hgroups⟩ := split_of_groups? h
  obtain ⟨first, front, rfl⟩ := List.exists_cons_of_ne_nil hne
  rcases hgroups with rfl | ⟨-, rfl⟩
  · rw [hsplit]
  · rw [hsplit]
    rfl

/-- A version 6 address begins with a hexadecimal digit or a colon. -/
theorem head_of_isVersion6 {c : Char} {l : List Char} (h : isVersion6 (c :: l) = true) :
    c = ':' ∨ isHexDigit c = true := by
  by_cases hcolon : c = ':'
  · exact .inl hcolon
  right
  unfold isVersion6 at h
  rcases hcut : cut '%' (c :: l) with ⟨address, zone⟩
  rw [hcut] at h
  dsimp only at h
  obtain ⟨-, hgroups⟩ := Bool.and_eq_true_iff.1 h
  obtain ⟨groups, hsome, hfits⟩ := (Option.any_eq_true _ _).1 hgroups
  -- The first group is empty or has the first character.
  by_cases hpercent : c = '%'
  · rw [cut, if_pos hpercent] at hcut
    obtain rfl := (Prod.mk.inj hcut).1
    cases hsome
  · rw [cut, if_neg hpercent] at hcut
    obtain rfl := (Prod.mk.inj hcut).1
    have hhead := head?_groups? hsome
    obtain ⟨field, fields, hsplit⟩ :=
      List.exists_cons_of_ne_nil (split_ne_nil (· = ':') (cut '%' l).1)
    simp only [split, hcolon, decide_false, hsplit, List.head?_cons, Bool.false_eq_true, if_false]
      at hhead
    obtain ⟨rest, rfl⟩ := List.head?_eq_some_iff.1 hhead
    rcases isGroup_of_mem hfits _ List.mem_cons_self with hnil | hgroup
    · cases hnil
    · unfold isGroup at hgroup
      simp only [Bool.and_eq_true, List.all_eq_true] at hgroup
      exact hgroup.2 c List.mem_cons_self

/-- A hexadecimal digit is ASCII. -/
theorem lt_of_isHexDigit {c : Char} (h : isHexDigit c = true) : c.toNat < 0x80 := by
  unfold isHexDigit isAsciiDigit at h
  simp only [Bool.or_eq_true, Bool.and_eq_true, decide_eq_true_eq] at h
  rcases h with (⟨-, h⟩ | ⟨-, h⟩) | ⟨-, h⟩
  · exact Nat.lt_of_le_of_lt (show c.toNat ≤ 57 from h) (by decide)
  · exact Nat.lt_of_le_of_lt (show c.toNat ≤ 102 from h) (by decide)
  · exact Nat.lt_of_le_of_lt (show c.toNat ≤ 70 from h) (by decide)

/-- A group is ASCII. -/
theorem isAscii_of_isGroup {group : List Char} (h : isGroup group = true) : Utf8.IsAscii group := by
  unfold isGroup at h
  exact fun c hc => lt_of_isHexDigit (List.all_eq_true.1 (Bool.and_eq_true_iff.1 h).2 c hc)

/-- An address of version 4 is ASCII. -/
theorem isAscii_of_isVersion4 {l : List Char} (h : isVersion4 l = true) : Utf8.IsAscii l := by
  intro c hc
  rcases digit_or_stop_of_isVersion4 h c hc with rfl | hdigit
  · decide
  · exact lt_of_isHexDigit (by simp [isHexDigit, hdigit])

/-- What groups stand for is ASCII. -/
theorem isAscii_of_groups? {l : List Char} {groups : List (List Char)} (h : groups? l = some groups)
    (hfits : areGroups groups = true) : Utf8.IsAscii l := by
  have hgroup {group : List Char} (hmem : group ∈ groups) : Utf8.IsAscii group := by
    rcases isGroup_of_mem hfits group hmem with rfl | hgroup
    · exact fun c hc => by cases hc
    · exact isAscii_of_isGroup hgroup
  intro c hc
  by_cases hcolon : c = ':'
  · rw [hcolon]
    decide
  obtain ⟨field, hfield, hmem⟩ := exists_mem_split hc (p := (· = ':')) (decide_eq_false hcolon)
  obtain ⟨front, last, -, hsplit, rfl | ⟨hfour, rfl⟩⟩ := split_of_groups? h
  · exact hgroup (hsplit ▸ hfield) c hmem
  · rw [hsplit, List.mem_append, List.mem_singleton] at hfield
    rcases hfield with hfront | rfl
    · exact hgroup (List.mem_append_left _ hfront) c hmem
    · exact isAscii_of_isVersion4 hfour c hmem

/-- A version 6 address is ASCII, apart from its zone. -/
theorem isAscii_of_isVersion6 {l address : List Char} {zone : Option (List Char)}
    (h : isVersion6 l = true) (hcut : cut '%' l = (address, zone)) : Utf8.IsAscii address := by
  unfold isVersion6 at h
  rw [hcut] at h
  obtain ⟨groups, hgroups, hfits⟩ := (Option.any_eq_true _ _).1 (Bool.and_eq_true_iff.1 h).2
  exact isAscii_of_groups? hgroups hfits

/-- A version 6 address is one in small letters, with its zone as it is. -/
theorem isVersion6_lowered {l : List Char} (h : isVersion6 l = true) :
    isVersion6 (lowered l) = true := by
  have hslash : (lowered l).contains '/' = l.contains '/' := by
    rw [Bool.eq_iff_iff, List.contains_iff_mem, List.contains_iff_mem, mem_lowered_iff rfl]
  have hgroups (address : List Char) :
      (groups? (address.map Char.toLower)).any areGroups = (groups? address).any areGroups := by
    rw [groups?_map_toLower, Option.any_map]
    exact congrArg (Option.any · _) (funext areGroups_map_toLower)
  unfold isVersion6 at h ⊢
  rw [hslash]
  rcases name_or_zone l with hname | ⟨name, zone, hname, rfl⟩
  · rw [cut_eq_none_iff.2 ⟨hname, rfl⟩] at h
    rw [lowered_of_not_mem hname, cut_eq_none_iff.2 ⟨not_mem_map_toLower hname, rfl⟩]
    dsimp only at h ⊢
    rwa [hgroups]
  · rw [cut_eq_some_iff.2 ⟨hname, rfl⟩] at h
    rw [lowered_append_zone hname, cut_eq_some_iff.2 ⟨not_mem_map_toLower hname, rfl⟩]
    dsimp only at h ⊢
    rwa [hgroups]

end SecureForward.IpAddress
