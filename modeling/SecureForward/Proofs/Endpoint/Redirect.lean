import SecureForward.Endpoint.Target
import SecureForward.Proofs.Act
import SecureForward.Proofs.Endpoint.Address
import SecureForward.Proofs.Endpoint.Host
import SecureForward.Proofs.Endpoint.Uri

/-!
# Redirecting a URI

Redirecting replaces the host and the port of an authority and nothing else.
`WellFormed.withAddress` says that the parts stay well formed, so the new text is read back as these
parts, and `FitsAuthority.hostInfo_eq` that the host and the port are those that were written.
`redirect_changes_address` puts this together: only the address changes, and the last one counts.
-/

namespace SecureForward.Uri

open SecureForward.Text
open Utf8 (IsAscii)

variable {u : Uri} {host : List Char} {port : Nat}

/-- A delimiter ends the authority or the user information, or is left out wherever it stands. -/
theorem mem_delimiters_iff {c : Char} :
    c ∈ delimiters ↔ endsAuthority c = true ∨ c = '@' ∨ isBreak c = true := by
  unfold delimiters endsAuthority isBreak
  simp only [List.mem_cons, List.not_mem_nil, or_false, Bool.or_eq_true, beq_iff_eq]
  grind

/-- A host that a URI can be redirected to. -/
structure IsHost (host : List Char) : Prop where
  /-- There is a host. -/
  ne_nil : host ≠ []
  /-- It is ASCII. -/
  ascii : IsAscii host
  /-- It has no delimiters. -/
  plain : ∀ c ∈ delimiters, c ∉ host
  /-- It has no brackets of its own. -/
  unbracketed : '[' ∉ host ∧ ']' ∉ host
  /-- If it has a colon, it is an address that may stand between brackets. -/
  bracketed : ':' ∈ host → checkBracketed host = .ok ()

/-- A host that an authority can have. It may have characters beyond ASCII, and an opening bracket
if it is itself put in brackets because of a colon. -/
structure FitsAuthority (host : List Char) : Prop where
  /-- There is a host. -/
  ne_nil : host ≠ []
  /-- It has no delimiters. -/
  plain : ∀ c ∈ delimiters, c ∉ host
  /-- None of its characters turns into a delimiter. -/
  unhidden : ∀ c ∈ host, hidingCodes.contains c.toNat = false
  /-- It has no closing bracket. -/
  closing : ']' ∉ host
  /-- If it has an opening bracket, it has a colon, too. -/
  opening : '[' ∈ host → ':' ∈ host
  /-- If it has a colon, it is an address that may stand between brackets. -/
  bracketed : ':' ∈ host → checkBracketed host = .ok ()

/-- ASCII characters do not turn into delimiters. -/
theorem hidingCodes_of_lt {c : Char} (h : c.toNat < 0x80) : hidingCodes.contains c.toNat = false :=
  ascii_induction (P := fun c => hidingCodes.contains c.toNat = false) (by decide) h

/-- A host that a URI can be redirected to is one that an authority can have. -/
theorem IsHost.fits (h : IsHost host) : FitsAuthority host where
  ne_nil := h.ne_nil
  plain := h.plain
  unhidden c hc := hidingCodes_of_lt (h.ascii c hc)
  closing := h.unbracketed.2
  opening hopen := absurd hopen h.unbracketed.1
  bracketed := h.bracketed

/-- No host begins with a bracket. -/
theorem FitsAuthority.head_ne (h : FitsAuthority host) : host.head? ≠ some '[' := by
  intro hhead
  have hcolon := h.opening (List.mem_of_mem_head? hhead)
  obtain ⟨rest, rfl⟩ := List.head?_eq_some_iff.1 hhead
  rcases checkBracketed_eq_ok_iff.1 (h.bracketed hcolon) with ⟨hv, -⟩ | ⟨-, -, hsix⟩
  · cases hv
  · rcases IpAddress.head_of_isVersion6 hsix with heq | hdigit
    · cases heq
    · cases hdigit

/-! ## The address in an authority -/

/-- How an address is written whose host does not begin with a bracket. -/
theorem hostAndPort_eq (hhead : host.head? ≠ some '[') (port : Nat) :
    hostAndPort host port =
      (if ':' ∈ host then '[' :: (host ++ [']']) else host) ++ ':' :: Nat.toDigits 10 port := by
  have hdigits : (toString (port : Int)).toList = Nat.toDigits 10 port := String.toList_ofList
  unfold hostAndPort
  rw [hdigits]
  by_cases hcolon : ':' ∈ host
  · simp [hcolon, hhead]
  · simp [hcolon]

/-- An address whose host has a colon has brackets around the host. -/
theorem FitsAuthority.hostAndPort_of_colon (h : FitsAuthority host) (hcolon : ':' ∈ host)
    (port : Nat) :
    hostAndPort host port = [] ++ '[' :: (host ++ ']' :: ':' :: Nat.toDigits 10 port) := by
  rw [hostAndPort_eq h.head_ne, if_pos hcolon]
  simp

/-- An address whose host has no colon has none. -/
theorem FitsAuthority.hostAndPort_of_not_colon (h : FitsAuthority host) (hcolon : ':' ∉ host)
    (port : Nat) :
    hostAndPort host port = host ++ ':' :: Nat.toDigits 10 port := by
  rw [hostAndPort_eq h.head_ne, if_neg hcolon]

/-- A digit is ASCII, and neither a delimiter nor a bracket. -/
theorem plain_of_mem_toDigits {c : Char} (h : c ∈ Nat.toDigits 10 port) :
    (c ∉ delimiters ∧ c ≠ '[' ∧ c ≠ ']') ∧ c.toNat < 0x80 := by
  have hdigit := (Address.isAsciiDigit_of_mem_toDigits h).2
  unfold isAsciiDigit at hdigit
  rw [Bool.and_eq_true, decide_eq_true_eq, decide_eq_true_eq] at hdigit
  have hlow : 48 ≤ c.toNat := hdigit.1
  have hhigh : c.toNat ≤ 57 := hdigit.2
  have hcodes : ∀ x ∈ '[' :: ']' :: delimiters, x.toNat < 48 ∨ 57 < x.toNat := by simp [delimiters]
  have hnot : c ∉ '[' :: ']' :: delimiters := by
    intro hmem
    have hc := hcodes c hmem
    omega
  simp only [List.mem_cons, not_or] at hnot
  exact ⟨⟨hnot.2.2, hnot.1, hnot.2.1⟩, by omega⟩

/-- What stands in an address stands in the host, is one of its signs or a digit of the port. -/
theorem FitsAuthority.mem_hostAndPort (h : FitsAuthority host) {c : Char}
    (hc : c ∈ hostAndPort host port) :
    c ∈ host ∨ c ∈ ['[', ']', ':'] ∨ c ∈ Nat.toDigits 10 port := by
  by_cases hcolon : ':' ∈ host
  · rw [h.hostAndPort_of_colon hcolon] at hc
    simp only [List.nil_append, List.mem_cons, List.mem_append] at hc
    grind
  · rw [h.hostAndPort_of_not_colon hcolon] at hc
    simp only [List.mem_cons, List.mem_append] at hc
    grind

/-- An address has no delimiters, and nothing in it turns into one. -/
theorem FitsAuthority.plain_hostAndPort (h : FitsAuthority host) (port : Nat) :
    ∀ c ∈ hostAndPort host port, c ∉ delimiters ∧ hidingCodes.contains c.toNat = false := by
  have hsigns : ∀ c ∈ ['[', ']', ':'], c ∉ delimiters ∧ c.toNat < 0x80 := by simp [delimiters]
  intro c hc
  rcases h.mem_hostAndPort hc with hhost | hsign | hdigit
  · exact ⟨fun hmem => h.plain c hmem hhost, h.unhidden c hhost⟩
  · exact ⟨(hsigns c hsign).1, hidingCodes_of_lt (hsigns c hsign).2⟩
  · exact ⟨(plain_of_mem_toDigits hdigit).1.1, hidingCodes_of_lt (plain_of_mem_toDigits hdigit).2⟩

/-- An address has brackets if the host has a colon, and only then. -/
theorem FitsAuthority.bracket_mem_iff (h : FitsAuthority host) (port : Nat) :
    ('[' ∈ hostAndPort host port ↔ ':' ∈ host) ∧ (']' ∈ hostAndPort host port ↔ ':' ∈ host) := by
  have hdigits : '[' ∉ Nat.toDigits 10 port ∧ ']' ∉ Nat.toDigits 10 port :=
    ⟨fun hmem => (plain_of_mem_toDigits hmem).1.2.1 rfl,
      fun hmem => (plain_of_mem_toDigits hmem).1.2.2 rfl⟩
  by_cases hcolon : ':' ∈ host
  · rw [h.hostAndPort_of_colon hcolon]
    simp [hcolon]
  · have hopening : '[' ∉ host := fun hmem => hcolon (h.opening hmem)
    rw [h.hostAndPort_of_not_colon hcolon]
    simp [hcolon, hopening, h.closing, hdigits]

/-! ## Host and port -/

/-- An address is divided into the host and the digits of the port. -/
theorem FitsAuthority.hostInfo_eq (h : FitsAuthority host)
    (haddress : afterUserInfo u.authority = hostAndPort host port) :
    u.hostInfo = { host, port := Nat.toDigits 10 port } := by
  have hbracket := (h.bracket_mem_iff port).1
  unfold hostInfo
  rw [haddress]
  dsimp only
  by_cases hcolon : ':' ∈ host
  · rw [h.hostAndPort_of_colon hcolon, cut_eq_some_iff.2 ⟨List.not_mem_nil, rfl⟩]
    dsimp only
    rw [cut_eq_some_iff.2 ⟨h.closing, rfl⟩]
    rfl
  · rw [cut_eq_none_iff.2 ⟨fun hmem => hcolon (hbracket.1 hmem), rfl⟩]
    dsimp only
    rw [h.hostAndPort_of_not_colon hcolon, cut_eq_some_iff.2 ⟨hcolon, rfl⟩]
    rfl

/-- The digits of a port are read as the port. -/
theorem port_eq (hdigits : u.hostInfo.port = Nat.toDigits 10 port) (hport : port ≤ 65535) :
    u.port = .ok (some port) := by
  obtain ⟨hne, hall, hlimit, hvalue⟩ := Address.toDigits_of_port hport
  unfold Uri.port
  rw [hdigits]
  simp [hne, hall, hlimit, hvalue, hport]

/-! ## Another address in a URI -/

/-- The user information is what stands before the last at sign, and the address what stands after
it. -/
theorem authority_eq (u : Uri) :
    '@' ∉ afterUserInfo u.authority ∧
      (u.authority = afterUserInfo u.authority ∨
        u.authority = u.userInfo ++ '@' :: afterUserInfo u.authority) := by
  unfold userInfo beforeHost afterUserInfo
  rcases hcut : cutLast '@' u.authority with ⟨before, after⟩
  obtain ⟨hsign, hauthority⟩ := eq_append_of_cutLast hcut
  refine ⟨hsign, ?_⟩
  cases before with
  | none => exact .inl hauthority
  | some before => exact .inr (by simpa using hauthority)

/-- The address stands in the authority. -/
theorem mem_authority_of_mem_afterUserInfo {c : Char} (h : c ∈ afterUserInfo u.authority) :
    c ∈ u.authority := by
  rcases u.authority_eq.2 with hsame | hsplit
  · rwa [hsame]
  · rw [hsplit]
    exact List.mem_append_right _ (List.mem_cons_of_mem _ h)

/-- The user information stands in the authority. -/
theorem mem_authority_of_mem_userInfo {c : Char} (h : c ∈ u.userInfo) : c ∈ u.authority := by
  unfold userInfo beforeHost at h
  rcases hcut : cutLast '@' u.authority with ⟨before, after⟩
  rw [hcut] at h
  obtain ⟨-, hauthority⟩ := eq_append_of_cutLast hcut
  rw [hauthority]
  cases before with
  | none => cases h
  | some before => exact List.mem_append_left _ (List.mem_append_left _ h)

/-- A new address leaves the user information as it is, and takes the place of the old one. -/
theorem cutLast_withAddress {address : List Char} (h : '@' ∉ address) (info : List Char) :
    (cutLast '@' (if info.isEmpty then address else info ++ '@' :: address)).1.getD [] = info ∧
      (cutLast '@' (if info.isEmpty then address else info ++ '@' :: address)).2 = address := by
  cases info with
  | nil =>
    rw [List.isEmpty_nil, if_pos rfl, cutLast_of_not_mem h]
    exact ⟨rfl, rfl⟩
  | cons c info =>
    rw [if_neg (by simp), cutLast_append_cons h]
    exact ⟨rfl, rfl⟩

/-- An address has no at sign. -/
theorem FitsAuthority.at_not_mem (h : FitsAuthority host) (port : Nat) :
    '@' ∉ hostAndPort host port :=
  fun hmem => (h.plain_hostAndPort port '@' hmem).1 (by simp [delimiters])

/-- A new address leaves the user information as it is. -/
theorem FitsAuthority.userInfo_withAddress (h : FitsAuthority host) (u : Uri) (port : Nat) :
    (u.withAddress host port).userInfo = u.userInfo :=
  (cutLast_withAddress (h.at_not_mem port) u.userInfo).1

/-- A new address stands after the user information. -/
theorem FitsAuthority.afterUserInfo_withAddress (h : FitsAuthority host) (u : Uri) (port : Nat) :
    afterUserInfo (u.withAddress host port).authority = hostAndPort host port :=
  (cutLast_withAddress (h.at_not_mem port) u.userInfo).2

/-- The last of two addresses counts. -/
theorem FitsAuthority.withAddress_withAddress (h : FitsAuthority host) (u : Uri) (port : Nat)
    (host' : List Char) (port' : Int) :
    (u.withAddress host port).withAddress host' port' = u.withAddress host' port' := by
  have hinfo := h.userInfo_withAddress u port
  unfold withAddress at hinfo ⊢
  dsimp only at hinfo ⊢
  rw [hinfo]

/-- The last of two addresses that a URI is redirected to counts. -/
theorem IsHost.withAddress_withAddress (h : IsHost host) (u : Uri) (port : Nat) (host' : List Char)
    (port' : Int) :
    (u.withAddress host port).withAddress host' port' = u.withAddress host' port' :=
  h.fits.withAddress_withAddress u port host' port'

/-- What stands in an authority with a new address stands in the user information or in the address,
unless it is the sign between them. -/
theorem mem_authority_withAddress {c : Char} (h : c ∈ (u.withAddress host port).authority) :
    c ∈ u.userInfo ∨ c = '@' ∨ c ∈ hostAndPort host port := by
  unfold withAddress at h
  dsimp only at h
  split at h
  · exact .inr (.inr h)
  · simpa using h

/-- An authority passes if none of its characters stands for a delimiter. -/
theorem checkHidden_eq_ok_iff {authority : List Char} :
    checkHidden authority = .ok () ↔ ∀ c ∈ authority, hidingCodes.contains c.toNat = false := by
  unfold checkHidden
  split
  · rename_i h
    obtain ⟨c, hc, hhiding⟩ := List.any_eq_true.1 h
    constructor
    · intro h
      cases h
    · intro h
      rw [h c hc] at hhiding
      cases hhiding
  · rename_i h
    simpa using h

/-- A bracket that is not in the user information is not in an authority with a new address whose
host has no colon. -/
theorem FitsAuthority.not_mem_authority (h : FitsAuthority host) {c : Char}
    (hbracket : c = '[' ∨ c = ']')
    (hinfo : c ∉ u.userInfo) (hcolon : ':' ∉ host) (port : Nat) :
    c ∉ (u.withAddress host port).authority := by
  have haddress : c ∉ hostAndPort host port := by
    rcases hbracket with rfl | rfl
    · exact mt (h.bracket_mem_iff port).1.1 hcolon
    · exact mt (h.bracket_mem_iff port).2.1 hcolon
  intro hc
  rcases mem_authority_withAddress hc with hc | rfl | hc
  · exact hinfo hc
  · rcases hbracket with heq | heq
    · cases heq
    · cases heq
  · exact haddress hc

/-- Brackets are in order in an authority with a new address, if the host stands in brackets, or if
there are none in the user information. -/
theorem FitsAuthority.checkBrackets_withAddress (h : FitsAuthority host) (port : Nat)
    (hinfo : ':' ∈ host ∨ '[' ∉ u.userInfo ∧ ']' ∉ u.userInfo) :
    checkBrackets (u.withAddress host port).authority = .ok () := by
  have hbracket := h.bracket_mem_iff port
  have haddress := h.afterUserInfo_withAddress u port
  have hmem (c : Char) (hc : c ∈ hostAndPort host port) :
      c ∈ (u.withAddress host port).authority := by
    rw [← haddress] at hc
    exact mem_authority_of_mem_afterUserInfo hc
  unfold checkBrackets
  by_cases hcolon : ':' ∈ host
  · rw [List.contains_iff_mem.2 (hmem _ (hbracket.1.2 hcolon)),
      List.contains_iff_mem.2 (hmem _ (hbracket.2.2 hcolon))]
    dsimp only
    rw [haddress, h.hostAndPort_of_colon hcolon, cut_eq_some_iff.2 ⟨List.not_mem_nil, rfl⟩]
    dsimp only
    rw [cut_eq_some_iff.2 ⟨h.closing, rfl⟩]
    exact h.bracketed hcolon
  · obtain ⟨hopen, hclose⟩ := hinfo.resolve_left hcolon
    have hnone :
      '[' ∉ (u.withAddress host port).authority := h.not_mem_authority (by simp) hopen hcolon port
    have hnone' : ']' ∉ (u.withAddress host port).authority :=
      h.not_mem_authority (by simp) hclose hcolon port
    rw [Bool.eq_false_iff.2 (mt List.contains_iff_mem.1 hnone),
      Bool.eq_false_iff.2 (mt List.contains_iff_mem.1 hnone')]

/-- Parts can be told apart with another address, too. -/
theorem Legible.withAddress (h : u.Legible) (hhost : FitsAuthority host) (port : Nat) :
    (u.withAddress host port).Legible := by
  have haddress := hhost.plain_hostAndPort port
  have hcases (c : Char) (hc : c ∈ (u.withAddress host port).authority) :
      c ∈ u.authority ∨ c = '@' ∨ c ∈ hostAndPort host port :=
    (mem_authority_withAddress hc).imp_left mem_authority_of_mem_userInfo
  refine ⟨h.scheme, fun c hc => ?_, h.path_head, h.path, h.query, fun part hpart c hc => ?_⟩
  · rcases hcases c hc with hc | rfl | hc
    · exact h.authority c hc
    · rfl
    · exact Bool.eq_false_iff.2 fun hend => (haddress c hc).1 (mem_delimiters_iff.2 (.inl hend))
  · simp only [List.mem_cons, List.not_mem_nil, or_false] at hpart
    rcases hpart with rfl | hpart
    · rcases hcases c hc with hc | rfl | hc
      · exact h.unbroken u.authority (by simp) c hc
      · rfl
      · exact Bool.eq_false_iff.2 fun hbreak =>
          (haddress c hc).1 (mem_delimiters_iff.2 (.inr (.inr hbreak)))
    · have hkept : part = u.path ∨ part = u.query ∨ part = u.fragment := hpart
      exact h.unbroken part (by simp [hkept]) c hc

/-- Parts stay well formed with another address, if its host stands in brackets, or if there is no
bracket in the user information. -/
theorem WellFormed.withAddress (h : u.WellFormed) (hhost : FitsAuthority host)
    (hinfo : ':' ∈ host ∨ '[' ∉ u.userInfo ∧ ']' ∉ u.userInfo) (port : Nat) :
    (u.withAddress host port).WellFormed := by
  refine (h.legible.withAddress hhost port).wellFormed
    (hhost.checkBrackets_withAddress port hinfo) ?_
  refine checkHidden_eq_ok_iff.2 fun c hc => ?_
  rcases mem_authority_withAddress hc with hc | rfl | hc
  · exact checkHidden_eq_ok_iff.1 h.hidden c (mem_authority_of_mem_userInfo hc)
  · rfl
  · exact (hhost.plain_hostAndPort port c hc).2

/-! ## Redirecting -/

/-- Exactly the URIs with a scheme and a host are redirected. -/
theorem redirect_eq_ok_iff {text rewritten : String} {host : List Char} {port : Int} :
    redirect text host port = .ok rewritten ↔
      ∃ u, ofString text = .ok u ∧ u.scheme ≠ [] ∧ u.hostname ≠ none ∧
      .ofList (u.withAddress host port).toList = rewritten := by
  unfold redirect
  rcases ofString text with e | u
  · constructor
    · intro h
      cases h
    · rintro ⟨u, h, -⟩
      cases h
  · change (if (u.scheme.isEmpty || u.hostname.isNone) = true then Except.error _ else
      Except.ok (String.ofList (u.withAddress host port).toList)) = .ok rewritten ↔ _
    by_cases haccepted : u.scheme ≠ [] ∧ u.hostname ≠ none
    · rw [if_neg (by simpa [Option.isSome_iff_ne_none] using haccepted)]
      constructor
      · intro h
        exact ⟨u, rfl, haccepted.1, haccepted.2, Except.ok.inj h⟩
      · rintro ⟨u', hread, -, -, rfl⟩
        rw [Except.ok.inj hread]
    · rw [if_pos (by simpa [Classical.or_iff_not_imp_left] using haccepted)]
      constructor
      · intro h
        cases h
      · rintro ⟨u', hread, hscheme, hname, -⟩
        obtain rfl := Except.ok.inj hread
        exact absurd ⟨hscheme, hname⟩ haccepted

/-- A URI is read from a text as from its characters. -/
theorem ofString_eq_ok_iff {text : String} :
    ofString text = .ok u ↔ ofList text.toList = .ok u := by
  unfold ofString
  rcases ofList text.toList with e | u'
  · simp
  · simp

/-- A URI without an authority has no host. -/
theorem authority_ne_nil (h : u.hostname ≠ none) : u.authority ≠ [] := by
  intro hnil
  refine h ?_
  unfold hostname hostInfo
  rw [hnil]
  rfl

/-! ## A host that is kept -/

/-- The host stands in the address. -/
theorem mem_afterUserInfo_of_mem_host {c : Char} (h : c ∈ u.hostInfo.host) :
    c ∈ afterUserInfo u.authority := by
  unfold hostInfo at h
  dsimp only at h
  rcases hopen : cut '[' (afterUserInfo u.authority) with ⟨before, inside⟩
  rw [hopen] at h
  cases inside with
  | none =>
    dsimp only at h
    rcases hcolon : cut ':' (afterUserInfo u.authority) with ⟨host, port⟩
    rw [hcolon] at h
    exact (mem_of_cut hcolon).1 c h
  | some inside =>
    dsimp only at h
    rcases hclose : cut ']' inside with ⟨host, after⟩
    rw [hclose] at h
    exact (mem_of_cut hopen).2 c ((mem_of_cut hclose).1 c h)

/-- A host with a colon stands between brackets. -/
theorem opening_mem_of_colon (hcolon : ':' ∈ u.hostInfo.host) :
    '[' ∈ afterUserInfo u.authority := by
  unfold hostInfo at hcolon
  dsimp only at hcolon
  rcases hopen : cut '[' (afterUserInfo u.authority) with ⟨before, _ | inside⟩
  · rw [hopen] at hcolon
    dsimp only at hcolon
    rcases hcut : cut ':' (afterUserInfo u.authority) with ⟨host, port⟩
    rw [hcut] at hcolon
    exact absurd hcolon (eq_append_of_cut hcut).1
  · rw [(cut_eq_some_iff.1 hopen).2]
    simp

/-- A host with a colon stands between brackets, and was checked there. -/
theorem checkBracketed_of_colon (hbrackets : checkBrackets u.authority = .ok ())
    (hcolon : ':' ∈ u.hostInfo.host) : checkBracketed u.hostInfo.host = .ok () := by
  have hmem := opening_mem_of_colon hcolon
  unfold checkBrackets at hbrackets
  rw [List.contains_iff_mem.2 (mem_authority_of_mem_afterUserInfo hmem)] at hbrackets
  unfold hostInfo
  dsimp only at hbrackets ⊢
  rcases hopen : cut '[' (afterUserInfo u.authority) with ⟨before, _ | inside⟩
  · exact absurd hmem (cut_eq_none_iff.1 hopen).1
  · split at hbrackets
    · rename_i hfalse _
      cases hfalse
    · rw [hopen] at hbrackets
      dsimp only at hbrackets
      split at hbrackets
      · cases hbrackets
      · split at hbrackets
        · cases hbrackets
        · exact hbrackets
    · cases hbrackets

/-- A host between brackets has no closing bracket of its own. -/
theorem closing_not_mem_host (hopen : '[' ∈ afterUserInfo u.authority) : ']' ∉ u.hostInfo.host := by
  unfold hostInfo
  dsimp only
  rcases hcut : cut '[' (afterUserInfo u.authority) with ⟨before, _ | inside⟩
  · exact absurd hopen (cut_eq_none_iff.1 hcut).1
  · dsimp only
    rcases hclose : cut ']' inside with ⟨host, after⟩
    exact (eq_append_of_cut hclose).1

/-- A host that is looked up is shown. -/
theorem eq_shown_of_hostname {name : List Char} (h : u.hostname = some name) :
    u.hostInfo.host ≠ [] ∧ name = shown u.hostInfo.host := by
  have hne : u.hostInfo.host ≠ [] := by
    intro hnil
    unfold hostname at h
    simp [hnil] at h
  exact ⟨hne, (Option.some.inj ((hostname_eq_shown hne).symm.trans h)).symm⟩

/-- The host of a URI, as it is looked up, is one that an authority can have, if it has no closing
bracket, and no opening one unless it has a colon. -/
theorem WellFormed.fits_of_hostname (h : u.WellFormed) {name : List Char}
    (hname : u.hostname = some name)
    (hclosing : ']' ∉ name) (hopening : '[' ∈ name → ':' ∈ name) : FitsAuthority name := by
  obtain ⟨hne, rfl⟩ := eq_shown_of_hostname hname
  have hmem (c : Char) (hc : c ∈ u.hostInfo.host) : c ∈ u.authority :=
    mem_authority_of_mem_afterUserInfo (mem_afterUserInfo_of_mem_host hc)
  refine ⟨shown_ne_nil hne, ?_, ?_, hclosing, hopening, ?_⟩
  · -- The delimiters end the host or the authority, and the rest was not in the text at all.
    intro c hlist hc
    have hchost := (mem_shown_iff (by simp [hlist])).1 hc
    rcases mem_delimiters_iff.1 hlist with hend | rfl | hbreak
    · rw [h.authority c (hmem c hchost)] at hend
      cases hend
    · exact u.authority_eq.1 (mem_afterUserInfo_of_mem_host hchost)
    · rw [h.unbroken u.authority (by simp) c (hmem c hchost)] at hbreak
      cases hbreak
  · -- What turns into a delimiter is no small letter.
    intro c hc
    refine Bool.eq_false_iff.2 fun hhiding => ?_
    have hsmall : ∀ code ∈ hidingCodes, mayBeSmall code = false := by decide +kernel
    have hchost := mem_of_mem_shown hc (hsmall c.toNat (List.contains_iff_mem.1 hhiding))
    rw [checkHidden_eq_ok_iff.1 h.hidden c (hmem c hchost)] at hhiding
    cases hhiding
  · intro hcolon
    have hcolon' := (mem_shown_iff (by decide)).1 hcolon
    exact checkBracketed_shown (checkBracketed_of_colon h.brackets hcolon') hcolon'

/-- The host of an ASCII URI, as it is looked up, is one that the URI can be redirected to, unless
it has a bracket. -/
theorem isHost_of_hostname {text : String} {name : List Char} (hascii : IsAscii text.toList)
    (hread : ofString text = .ok u) (hscheme : u.scheme ≠ []) (hname : u.hostname = some name)
    (hbracket : '[' ∉ name ∧ ']' ∉ name) : IsHost name ∧ IpAddress.lowered name = name := by
  have hne : u.authority ≠ [] := authority_ne_nil (by simp [hname])
  have hlist := ofString_eq_ok_iff.1 hread
  have hwell := wellFormed_of_ofList hlist hscheme hne
  have hfits := hwell.fits_of_hostname hname hbracket.2 fun hopen => absurd hopen hbracket.1
  obtain ⟨hhost, -⟩ := eq_shown_of_hostname hname
  have hhostAscii : IsAscii u.hostInfo.host := by
    intro c hc
    have hauthority := mem_authority_of_mem_afterUserInfo (mem_afterUserInfo_of_mem_host hc)
    exact hascii c (mem_of_mem_authority hlist hscheme hne c hauthority)
  obtain rfl := Option.some.inj ((hostname_eq hhost hhostAscii).symm.trans hname)
  exact ⟨⟨hfits.ne_nil, IpAddress.isAscii_lowered hhostAscii, hfits.plain, hbracket,
    hfits.bracketed⟩, IpAddress.lowered_lowered _⟩

/-! ## Redirecting a whole URI -/

/-- What is read from a URI that was redirected: another host and port, and everything else as it
was. -/
structure Redirected (u u' : Uri) (host : List Char) (port : Nat) : Prop where
  /-- The scheme stays. -/
  scheme : u'.scheme = u.scheme
  /-- The user information stays. -/
  userInfo : u'.userInfo = u.userInfo
  /-- The path stays. -/
  path : u'.path = u.path
  /-- The query stays. -/
  query : u'.query = u.query
  /-- The fragment stays. -/
  fragment : u'.fragment = u.fragment
  /-- The host is the one that was given, in small letters up to a zone. -/
  hostname : u'.hostname = some (IpAddress.lowered host)
  /-- The port is the one that was given. -/
  port : u'.port = .ok (some port)

/-- A URI with another address is read back as that. -/
theorem redirected_of_ofString {text : String} (hread : ofString text = .ok u)
    (hscheme : u.scheme ≠ [])
    (hname : u.hostname ≠ none) (hinfo : '[' ∉ u.userInfo ∧ ']' ∉ u.userInfo) (hhost : IsHost host)
    (hport : port ≤ 65535) :
    ofString (.ofList (u.withAddress host port).toList) = .ok (u.withAddress host port) ∧
      Redirected u (u.withAddress host port) host port := by
  have hwell :=
    (wellFormed_of_ofList (ofString_eq_ok_iff.1 hread) hscheme (authority_ne_nil hname)).withAddress
    hhost.fits (.inr hinfo) port
  have hhostInfo := hhost.fits.hostInfo_eq (hhost.fits.afterUserInfo_withAddress u port)
  refine ⟨?_, rfl, hhost.fits.userInfo_withAddress u port, rfl, rfl, rfl, ?_,
    port_eq (congrArg HostInfo.port hhostInfo) hport⟩
  · rw [ofString_eq_ok_iff, String.toList_ofList]
    exact hwell.ofList_toList
  · have hwritten : (u.withAddress host port).hostInfo.host = host :=
      congrArg HostInfo.host hhostInfo
    rw [hostname_eq (by rw [hwritten]; exact hhost.ne_nil) (by rw [hwritten]; exact hhost.ascii),
      hwritten]

/-- How a target is redirected, step by step. -/
theorem redirect_target_eq (text : String) (keepsHost : Bool) (address : Address) :
    Target.redirect (.uri text keepsHost) address = (do
      let host ← Target.newHost text keepsHost address.host
      let rewritten ← redirect text host address.port
      if Decimal.isWritable address.port then .ok (.uri rewritten keepsHost)
      else .error (.integer .unwritable)) := by
  unfold Target.redirect
  dsimp only
  cases Decimal.isWritable address.port with
  | true => rfl
  | false => rfl

/-- A target is redirected exactly if there is a host for it, its URI is redirected to this host,
and the port can be written. -/
theorem redirect_target_eq_ok_iff {text : String} {keepsHost : Bool} {address : Address}
    {target : Target} :
    Target.redirect (.uri text keepsHost) address = .ok target ↔ ∃ host rewritten,
      Target.newHost text keepsHost address.host = .ok host ∧
        redirect text host address.port = .ok rewritten ∧
        Decimal.isWritable address.port = true ∧ target = .uri rewritten keepsHost := by
  rw [redirect_target_eq, bind_eq_ok_iff]
  constructor
  · rintro ⟨host, hnew, h⟩
    obtain ⟨rewritten, hredirect, h⟩ := bind_eq_ok_iff.1 h
    cases hport : Decimal.isWritable address.port with
    | true =>
      rw [hport, if_pos rfl] at h
      exact ⟨host, rewritten, hnew, hredirect, rfl, (Except.ok.inj h).symm⟩
    | false =>
      rw [hport] at h
      cases h
  · rintro ⟨host, rewritten, hnew, hredirect, hport, rfl⟩
    exact ⟨host, hnew, bind_eq_ok_iff.2 ⟨rewritten, hredirect, by rw [if_pos hport]⟩⟩

/-- A target of which the text is no URI cannot be redirected. -/
theorem redirect_target_of_error {text : String} {fault : Fault} (h : ofString text = .error fault)
    (keepsHost : Bool) (address : Address) :
    Target.redirect (.uri text keepsHost) address = .error fault := by
  rw [redirect_target_eq]
  unfold Target.newHost
  cases keepsHost with
  | false =>
    -- The text is read only when it is given another address.
    have hredirect : redirect text address.host.toList address.port = .error fault := by
      unfold redirect
      rw [h]
      rfl
    change (redirect text address.host.toList address.port >>= _) = _
    rw [hredirect]
    rfl
  | true =>
    rw [if_pos rfl, h]
    rfl

/-- The host that a URI is given: its own if it keeps it, else the new one. -/
def hostFor (u : Uri) (keepsHost : Bool) (host : String) : List Char :=
  if keepsHost then u.hostname.getD [] else host.toList

/-- As soon as the text is read, there is a host for it. -/
theorem newHost_of_ofString {text : String} (hread : ofString text = .ok u) (keepsHost : Bool)
    (host : String) :
    Target.newHost text keepsHost host = .ok (u.hostFor keepsHost host) := by
  cases keepsHost with
  | false => rfl
  | true =>
    change (ofString text >>= fun u => pure (u.hostname.getD [])) = _
    rw [hread]
    rfl

/-- A URI that keeps its host is given the host that is looked up. -/
theorem newHost_of_keepsHost {text : String} {name : List Char} (hread : ofString text = .ok u)
    (hname : u.hostname = some name) (host : String) :
    Target.newHost text true host = .ok name := by
  rw [newHost_of_ofString hread]
  change Except.ok (u.hostname.getD []) = _
  rw [hname]
  rfl

/-- A URI that keeps its host is redirected to this host. -/
theorem redirect_target_of_keepsHost {text rewritten : String} {name : List Char} {host : String}
    (hread : ofString text = .ok u) (hname : u.hostname = some name) (hport : port ≤ 65535)
    (h : redirect text name port = .ok rewritten) :
    Target.redirect (.uri text true) { host, port } = .ok (.uri rewritten true) :=
  redirect_target_eq_ok_iff.2
    ⟨name, rewritten, newHost_of_keepsHost hread hname host, h, Address.isWritable_of_port hport,
      rfl⟩

/-- Redirecting an ASCII URI changes its address and nothing else, and the last address counts. A
URI is accepted exactly if it has a scheme and a host. Then redirecting it to a host that can stand
in a URI gives a text that is read as the same scheme, user information, path, query and fragment
with the new host and port, and redirecting that text once more gives the same as redirecting the
URI itself. A URI that keeps its host is read with this host and the new port, unless the host has a
bracket. There must be no bracket in the user information. -/
theorem redirect_changes_address {text : String} (hascii : IsAscii text.toList)
    (hread : ofString text = .ok u) (hinfo : '[' ∉ u.userInfo ∧ ']' ∉ u.userInfo) :
    (∀ host port, (∃ rewritten, redirect text host port = .ok rewritten) ↔
        u.scheme ≠ [] ∧ u.hostname ≠ none) ∧
      (u.scheme ≠ [] → u.hostname ≠ none →
        ∀ host (port : Nat), IsHost host → port ≤ 65535 → ∃ rewritten u',
          redirect text host port = .ok rewritten ∧ ofString rewritten = .ok u' ∧
            Redirected u u' host port ∧
            ∀ host' port', ∃ last, redirect text host' port' = .ok last ∧
              redirect rewritten host' port' = .ok last) ∧
      (u.scheme ≠ [] → ∀ name, u.hostname = some name → '[' ∉ name ∧ ']' ∉ name →
        ∀ host (port : Nat), port ≤ 65535 → ∃ kept u',
          Target.redirect (.uri text true) { host, port } = .ok (.uri kept true) ∧
            ofString kept = .ok u' ∧ Redirected u u' name port ∧ u'.hostname = some name) := by
  refine ⟨fun host port => ⟨?_, ?_⟩, fun hscheme hname host port hhost hport => ?_,
    fun hscheme name hname hbracket host port hport => ?_⟩
  · rintro ⟨rewritten, h⟩
    obtain ⟨u', hread', hscheme, hname, -⟩ := redirect_eq_ok_iff.1 h
    obtain rfl := Except.ok.inj (hread.symm.trans hread')
    exact ⟨hscheme, hname⟩
  · rintro ⟨hscheme, hname⟩
    exact ⟨_, redirect_eq_ok_iff.2 ⟨u, hread, hscheme, hname, rfl⟩⟩
  · obtain ⟨hagain, hredirected⟩ := redirected_of_ofString hread hscheme hname hinfo hhost hport
    refine ⟨_, _, redirect_eq_ok_iff.2 ⟨u, hread, hscheme, hname, rfl⟩, hagain, hredirected,
      fun host' port' => ⟨_, redirect_eq_ok_iff.2 ⟨u, hread, hscheme, hname, rfl⟩,
        redirect_eq_ok_iff.2 ⟨_, hagain, hscheme, ?_, ?_⟩⟩⟩
    · rw [hredirected.hostname]
      simp
    · rw [hhost.withAddress_withAddress]
  · obtain ⟨hhost, hsmall⟩ := isHost_of_hostname hascii hread hscheme hname hbracket
    have hsome : u.hostname ≠ none := by simp [hname]
    obtain ⟨hagain, hredirected⟩ := redirected_of_ofString hread hscheme hsome hinfo hhost hport
    refine ⟨_, _, redirect_target_of_keepsHost hread hname hport
      (redirect_eq_ok_iff.2 ⟨u, hread, hscheme, hsome, rfl⟩), hagain, hredirected, ?_⟩
    rw [hredirected.hostname, hsmall]

/-- The parts of a URI with a zone, several at signs and repeated delimiters. -/
def trialUri : Uri :=
  { scheme := "bolt+s".toList, authority := "neo:p@ss@[FE80::A%En0]:7687".toList,
    path := "/a//b".toList,
    query := "c=1?d".toList, fragment := "e".toList }

/-- These are the parts of a text. -/
theorem ofString_trial :
    ofString "bolt+s://neo:p@ss@[FE80::A%En0]:7687/a//b?c=1?d#e" = .ok trialUri :=
  ofString_eq_ok_iff.2 (by rfl)

/-- A URI in which an address of version 6 with a zone is replaced by another one. It is read with
the new host and port, redirecting it once more forgets them, and if it keeps its host, then that of
the first text. -/
theorem redirect_changes_address_trial :
    let text := "bolt+s://neo:p@ss@[FE80::A%En0]:7687/a//b?c=1?d#e"
    let rewritten := "bolt+s://neo:p@ss@[2001:DB8::7%Up]:50000/a//b?c=1?d#e"
    redirect text "2001:DB8::7%Up".toList 50000 = .ok rewritten ∧
      (∃ u', ofString rewritten = .ok u' ∧ u'.userInfo = "neo:p@ss".toList ∧
        u'.hostname = some "2001:db8::7%Up".toList ∧ u'.port = .ok (some 50000)) ∧
      (∃ last, redirect text "db".toList 1 = .ok last ∧
        redirect rewritten "db".toList 1 = .ok last) ∧
      ∃ kept u', Target.redirect (.uri text true)
        { host := "localhost", port := 50000 } = .ok (.uri kept true) ∧
        ofString kept = .ok u' ∧ u'.hostname = some "fe80::a%En0".toList := by
  intro text rewritten
  obtain ⟨-, hchanged, hkept⟩ :=
    redirect_changes_address (Utf8.isAscii_of_all (by decide)) ofString_trial (by decide)
  have hhost : IsHost "2001:DB8::7%Up".toList :=
    ⟨by decide, Utf8.isAscii_of_all (by decide), by simp [delimiters], by decide, fun _ => by rfl⟩
  have hredirect : redirect text "2001:DB8::7%Up".toList (50000 : Nat) = .ok rewritten :=
    redirect_eq_ok_iff.2 ⟨trialUri, ofString_trial, by decide, by decide, by decide⟩
  obtain ⟨_, u', hrewritten, hread, hredirected, hlast⟩ :=
    hchanged (by decide) (by decide) _ 50000 hhost (by decide)
  obtain rfl := Except.ok.inj (hredirect.symm.trans hrewritten)
  obtain ⟨kept, u'', hkeptRedirect, hkeptRead, -, hkeptName⟩ :=
    hkept (by decide) _ rfl (by decide) "localhost" 50000 (by decide)
  exact ⟨hredirect, ⟨u', hread, hredirected.userInfo, hredirected.hostname, hredirected.port⟩,
    hlast _ _, ⟨kept, u'', hkeptRedirect, hkeptRead, hkeptName⟩⟩

/-- A host with a colon that is no address is put between brackets all the same, and then the new
text is no URI. -/
theorem unreadable_of_colon :
    let host := "a:b".toList
    host ≠ [] ∧ IsAscii host ∧ (∀ c ∈ delimiters, c ∉ host) ∧ ('[' ∉ host ∧ ']' ∉ host) ∧
      redirect "bolt://db:7687" host 1 = .ok "bolt://[a:b]:1" ∧ ¬∃ u,
        ofString "bolt://[a:b]:1" = .ok u := by
  refine ⟨by decide, Utf8.isAscii_of_all (by decide), by simp [delimiters], by decide, by rfl, ?_⟩
  rintro ⟨u, hread⟩
  have hrefused : ofString "bolt://[a:b]:1" = .error (.uri (.notAnAddress "a:b".toList)) := by rfl
  cases hrefused.symm.trans hread

end SecureForward.Uri
