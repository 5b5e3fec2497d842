import SecureForward.Endpoint.Uri
import SecureForward.Proofs.Endpoint.IpAddress

/-!
# The host of a URI as it is looked up

The host of a URI is looked up in small letters, apart from a zone (`shown`). What matters to the
authority that it came from does not change by this: it has the delimiters, the brackets and the
colons that it had (`mem_shown_iff`), and an address that may stand between brackets may stand there
as it is looked up (`checkBracketed_shown`). A host need not be ASCII for this. An address of
version 6 is, and of one of a later version the front is.
-/

namespace SecureForward.Uri

open SecureForward.Text
open Utf8 (IsAscii)

variable {u : Uri} {host name : List Char}

/-- A host in small letters. What follows a percent sign, the zone of an address, is left as it
is. -/
def shown (host : List Char) : List Char :=
  match cut '%' host with
  | (name, some zone) => lower name ++ '%' :: zone
  | (name, none) => lower name

/-- The host of a URI, if there is one, is looked up as it is shown. -/
theorem hostname_eq_shown (hne : u.hostInfo.host ≠ []) :
    u.hostname = some (shown u.hostInfo.host) := by
  unfold hostname shown
  dsimp only
  rw [if_neg (by simpa using hne)]
  rcases cut '%' u.hostInfo.host with ⟨name, _ | zone⟩
  · rfl
  · rfl

/-- Without a zone the whole host is in small letters. -/
theorem shown_of_not_mem (h : '%' ∉ name) : shown name = lower name := by
  unfold shown
  rw [cut_eq_none_iff.2 ⟨h, rfl⟩]

/-- A zone is left as it is. -/
theorem shown_append_zone (h : '%' ∉ name) (zone : List Char) :
    shown (name ++ '%' :: zone) = lower name ++ '%' :: zone := by
  unfold shown
  rw [cut_eq_some_iff.2 ⟨h, rfl⟩]

/-- A host that is ASCII before its zone is shown letter by letter. -/
theorem shown_of_isAscii (h : IsAscii (cut '%' host).1) : shown host = IpAddress.lowered host := by
  unfold shown IpAddress.lowered
  rcases hcut : cut '%' host with ⟨name, _ | zone⟩
  all_goals
    rw [hcut] at h
    dsimp only
    rw [lower_of_isAscii h]

/-- The host of an ASCII URI in small letters; a zone is left as it is. -/
theorem hostname_eq (hne : u.hostInfo.host ≠ []) (hascii : IsAscii u.hostInfo.host) :
    u.hostname = some (IpAddress.lowered u.hostInfo.host) := by
  rcases hcut : cut '%' u.hostInfo.host with ⟨name, zone⟩
  have hname : IsAscii name := fun c hc => hascii c ((mem_of_cut hcut).1 c hc)
  rw [hostname_eq_shown hne, shown_of_isAscii (by rwa [hcut])]

/-- Showing a host adds no character that is no small letter. -/
theorem mem_of_mem_shown {c : Char} (h : c ∈ shown host) (hc : mayBeSmall c.toNat = false) :
    c ∈ host := by
  rcases IpAddress.name_or_zone host with hname | ⟨name, zone, hname, rfl⟩
  · rw [shown_of_not_mem hname] at h
    exact mem_of_mem_lower h hc
  · rw [shown_append_zone hname] at h
    rcases List.mem_append.1 h with h | h
    · exact List.mem_append_left _ (mem_of_mem_lower h hc)
    · exact List.mem_append_right _ h

/-- A character that is its own small letter is shown. -/
theorem mem_shown_of_mem {c : Char} (h : c ∈ host) (hc : lowerChar c = [c]) : c ∈ shown host := by
  rcases IpAddress.name_or_zone host with hname | ⟨name, zone, hname, rfl⟩
  · rw [shown_of_not_mem hname]
    exact mem_lower_of_mem h hc
  · rw [shown_append_zone hname]
    rcases List.mem_append.1 h with h | h
    · exact List.mem_append_left _ (mem_lower_of_mem h hc)
    · exact List.mem_append_right _ h

/-- What cannot stand in an address: what separates the parts of a URI, tabs and line breaks. -/
def delimiters : List Char := ['/', '?', '#', '@', '\t', '\r', '\n']

/-- The signs of an authority are shown where they were, and nowhere else. -/
theorem mem_shown_iff {c : Char} (hc : c ∈ '[' :: ']' :: ':' :: delimiters) :
    c ∈ shown host ↔ c ∈ host := by
  have hsigns : (('[' :: ']' :: ':' :: delimiters).all fun c =>
      c.toNat < 0x80 && (c.toLower == c && !mayBeSmall c.toNat)) = true := by
    decide +kernel
  have hsign := List.all_eq_true.1 hsigns c hc
  simp only [Bool.and_eq_true, decide_eq_true_eq, beq_iff_eq, Bool.not_eq_true'] at hsign
  obtain ⟨hascii, hself, hsmall⟩ := hsign
  have hown : lowerChar c = [c] := (lowerChar_of_lt hascii).trans (congrArg (fun c => [c]) hself)
  exact ⟨fun h => mem_of_mem_shown h hsmall, fun h => mem_shown_of_mem h hown⟩

/-- ASCII text in front of a host is shown letter by letter, and something is shown of what follows
it. -/
theorem shown_append {a b : List Char} (hascii : IsAscii a) (hpercent : '%' ∉ a) (hne : b ≠ []) :
    ∃ b', b' ≠ [] ∧ shown (a ++ b) = a.map Char.toLower ++ b' := by
  rcases IpAddress.name_or_zone b with hname | ⟨name, zone, hname, rfl⟩
  · refine ⟨lowerAfter (a.reverse ++ []) b, lowerAfter_ne_nil hne _, ?_⟩
    rw [shown_of_not_mem (by simp [hpercent, hname])]
    exact lowerAfter_append hascii [] b
  · refine ⟨lowerAfter (a.reverse ++ []) name ++ '%' :: zone, by simp, ?_⟩
    have hlower : lower (a ++ name) = a.map Char.toLower ++ lowerAfter (a.reverse ++ []) name :=
      lowerAfter_append hascii [] name
    rw [← List.append_assoc, shown_append_zone (by simp [hpercent, hname]), hlower,
      List.append_assoc]

/-- A host is not shown as nothing. -/
theorem shown_ne_nil (h : host ≠ []) : shown host ≠ [] := by
  obtain ⟨rest, hne, heq⟩ := shown_append (a := []) (by simp [IsAscii]) List.not_mem_nil h
  intro hnil
  rw [List.nil_append] at heq
  rw [hnil] at heq
  exact hne heq.symm

/-! ## Between brackets -/

/-- What may stand between brackets: an address of a later version, or one of version 6. -/
theorem checkBracketed_eq_ok_iff :
    checkBracketed host = .ok () ↔ host.head? = some 'v' ∧ isFutureAddress host = true ∨
      host.head? ≠ some 'v' ∧ IpAddress.isVersion4 host = false ∧
        IpAddress.isVersion6 host = true := by
  unfold checkBracketed
  by_cases hv : host.head? = some 'v'
  · by_cases hfuture : isFutureAddress host = true
    · simp [hv, hfuture]
    · simp [hv, hfuture]
  · by_cases hfour : IpAddress.isVersion4 host = true
    · simp [hv, hfour]
    · by_cases hsix : IpAddress.isVersion6 host = true
      · simp [hv, hfour, hsix]
      · simp [hv, hfour, hsix]

/-- What an address of a later version looks like: a letter, hexadecimal digits, a full stop, and
something after it. -/
theorem isFutureAddress_eq_true_iff :
    isFutureAddress host = true ↔ ∃ first version rest, host = first :: version ++ '.' :: rest ∧
      '.' ∉ first :: version ∧ version ≠ [] ∧ (∀ c ∈ version, IpAddress.isHexDigit c = true) ∧
        rest ≠ [] := by
  unfold isFutureAddress
  constructor
  · intro h
    split at h
    · rename_i first version rest hcut
      obtain ⟨hstop, rfl⟩ := cut_eq_some_iff.1 hcut
      simp only [Bool.and_eq_true, Bool.not_eq_true', List.isEmpty_eq_false_iff,
        List.all_eq_true] at h
      obtain ⟨⟨hversion, hdigits⟩, hrest⟩ := h
      exact ⟨first, version, rest, rfl, hstop, hversion, hdigits, hrest⟩
    · cases h
  · rintro ⟨first, version, rest, rfl, hstop, hversion, hdigits, hrest⟩
    rw [cut_eq_some_iff.2 ⟨hstop, rfl⟩]
    simpa [hversion, hrest] using hdigits

/-- An address of a later version is shown as one. -/
theorem isFutureAddress_shown (hv : host.head? = some 'v') (h : isFutureAddress host = true) :
    isFutureAddress (shown host) = true ∧ (shown host).head? = some 'v' := by
  obtain ⟨first, version, rest, rfl, hstop, hversion, hdigits, hrest⟩ :=
    isFutureAddress_eq_true_iff.1 h
  obtain rfl := Option.some.inj hv
  -- The letter, the digits and the full stop are ASCII, whatever comes after them.
  have hfront : IsAscii ('v' :: version ++ ['.']) := by
    intro c hc
    simp only [List.cons_append, List.mem_cons, List.mem_append, List.not_mem_nil, or_false] at hc
    rcases hc with rfl | hc | rfl
    · decide
    · exact IpAddress.lt_of_isHexDigit (hdigits c hc)
    · decide
  have hpercent : '%' ∉ 'v' :: version ++ ['.'] := by
    simp only [List.cons_append, List.mem_cons, List.mem_append, List.not_mem_nil, or_false, not_or]
    exact ⟨by decide, fun hmem => absurd (hdigits '%' hmem) (by decide), by decide⟩
  obtain ⟨rest', hrest', hshown⟩ := shown_append hfront hpercent hrest
  have heq :
      shown ('v' :: version ++ '.' :: rest) = 'v' :: version.map Char.toLower ++ '.' :: rest' := by
    rw [List.append_cons, hshown]
    simp
  have hstop' : '.' ∉ 'v' :: version.map Char.toLower :=
    fun hmem => hstop ((mem_map_toLower_iff (c := '.') rfl ('v' :: version)).1 hmem)
  rw [heq]
  refine ⟨isFutureAddress_eq_true_iff.2
    ⟨'v', _, rest', rfl, hstop', by simpa using hversion, ?_, hrest'⟩, rfl⟩
  intro c hc
  obtain ⟨digit, hdigit, rfl⟩ := List.mem_map.1 hc
  exact (IpAddress.isHexDigit_toLower digit).trans (hdigits digit hdigit)

/-- An address of version 6 is shown as one. -/
theorem isVersion6_shown (h : IpAddress.isVersion6 host = true) :
    IpAddress.isVersion6 (shown host) = true ∧ (shown host).head? ≠ some 'v' := by
  have hascii : IsAscii (cut '%' host).1 := IpAddress.isAscii_of_isVersion6 h rfl
  rw [shown_of_isAscii hascii]
  refine ⟨IpAddress.isVersion6_lowered h, fun hv => ?_⟩
  cases host with
  | nil => cases hv
  | cons c rest =>
    -- Such an address begins with no letter beyond the hexadecimal digits.
    rw [IpAddress.head?_lowered] at hv
    have hv : c.toLower = 'v' := Option.some.inj hv
    rcases IpAddress.head_of_isVersion6 h with rfl | hdigit
    · cases hv
    · rw [← IpAddress.isHexDigit_toLower, hv] at hdigit
      cases hdigit

/-- A host with a colon that may stand between brackets may stand there as it is shown. -/
theorem checkBracketed_shown (h : checkBracketed host = .ok ()) (hcolon : ':' ∈ host) :
    checkBracketed (shown host) = .ok () := by
  rw [checkBracketed_eq_ok_iff] at h ⊢
  rcases h with ⟨hv, hfuture⟩ | ⟨-, -, hsix⟩
  · obtain ⟨hfuture', hv'⟩ := isFutureAddress_shown hv hfuture
    exact .inl ⟨hv', hfuture'⟩
  · obtain ⟨hsix', hv'⟩ := isVersion6_shown hsix
    refine .inr ⟨hv', Bool.eq_false_iff.2 fun hfour => ?_, hsix'⟩
    exact IpAddress.colon_not_mem_of_isVersion4 hfour ((mem_shown_iff (by decide)).2 hcolon)

end SecureForward.Uri
