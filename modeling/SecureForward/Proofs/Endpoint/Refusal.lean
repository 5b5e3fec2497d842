import SecureForward.Proofs.Endpoint.Redirect

/-!
# Endpoints that cannot be redirected

A URI without a scheme or a host is refused as an invalid endpoint. A text that cannot even be
divided into the parts of a URI is not: what the reader finds wrong with it comes out as it is, and
so does a port of too many digits. `Astray` lists these cases, and `redirected_or_refused` says that
there are no others, that none of them is a refusal, and that the endpoint stays as it was in all of
them.

The reader looks at the authority only. `Disordered` says what can be wrong with its brackets, and
`ofString_eq_error_iff` that, apart from a character that stands for a delimiter, nothing else can
be wrong with a text. From this `redirects_target` tells apart how redirecting ends.
-/

namespace SecureForward

open Act (run)

/-- An endpoint is replaced by what redirecting it gives, or stays as it was. -/
theorem Target.run_override (address : Address) (target : Target) :
    run (Target.override address) target =
      match target.redirect address with
      | .ok redirected => (.ok (), redirected)
      | .error fault => (.error fault, target) := by
  unfold Target.override
  rw [Act.run_bind, Act.run_get]
  dsimp only
  rw [Act.run_bind, Act.run_ofExcept]
  cases target.redirect address with
  | ok redirected => rfl
  | error fault => rfl

namespace Uri

open SecureForward.Text

variable {authority host : List Char} {e : Error} {text : String} {fault : Fault} {u : Uri}

/-! ## Brackets out of order -/

/-- A host that may not stand between brackets, and what is said of it. -/
inductive Unfit (host : List Char) : Error → Prop where
  /-- It announces an address of a later version and is none. -/
  | future (announced : host.head? = some 'v') (address : isFutureAddress host = false) :
    Unfit host .invalidFutureAddress
  /-- It is an address of version 4. -/
  | version4 (unannounced : host.head? ≠ some 'v') (address : IpAddress.isVersion4 host = true) :
    Unfit host .bracketedVersion4
  /-- It is no address. -/
  | other (unannounced : host.head? ≠ some 'v') (version4 : IpAddress.isVersion4 host = false)
      (version6 : IpAddress.isVersion6 host = false) : Unfit host (.notAnAddress host)

/-- What may stand behind a host: nothing, or a colon and a port. -/
def IsPortPart (rest : List Char) : Prop :=
  rest = [] ∨ rest.head? = some ':'

/-- The host that is taken to stand between the brackets of an authority. A bracket in the user
information counts as one of them. -/
inductive Bracketed (authority host : List Char) : Prop where
  /-- The host has both brackets. -/
  | closed {rest : List Char} (address : afterUserInfo authority = '[' :: (host ++ ']' :: rest))
      (inside : ']' ∉ host) (port : IsPortPart rest)
  /-- The closing bracket stands in the user information, so the host does not end before the
  authority does. -/
  | unclosed (address : afterUserInfo authority = '[' :: host) (inside : ']' ∉ host)
  /-- The opening bracket stands in the user information, so the host begins with the address. -/
  | unopened {rest : List Char} (opening : '[' ∉ afterUserInfo authority)
      (address : afterUserInfo authority = host ++ rest) (colon : ':' ∉ host)
      (port : IsPortPart rest)

/-- The brackets of an authority are out of order, and what is said of it. -/
inductive Disordered (authority : List Char) : Error → Prop where
  /-- There are brackets of one kind only. -/
  | unpaired (h : ¬('[' ∈ authority ↔ ']' ∈ authority)) : Disordered authority .misplacedBracket
  /-- Something stands between the user information and the first bracket. -/
  | before {front rest : List Char} (closing : ']' ∈ authority)
      (address : afterUserInfo authority = front ++ '[' :: rest) (first : '[' ∉ front)
      (front_ne : front ≠ []) :
    Disordered authority .misplacedBracket
  /-- Something else than a port stands behind the second bracket. -/
  | behind {inside rest : List Char}
      (address : afterUserInfo authority = '[' :: (inside ++ ']' :: rest))
      (first : ']' ∉ inside) (port : ¬IsPortPart rest) : Disordered authority .misplacedBracket
  /-- The host between them may not stand there. -/
  | unfit {host : List Char} {e : Error} (paired : '[' ∈ authority ∧ ']' ∈ authority)
      (bracketed : Bracketed authority host) (h : Unfit host e) : Disordered authority e

/-- A host is refused between brackets exactly if it may not stand there. -/
theorem checkBracketed_eq_error_iff : checkBracketed host = .error e ↔ Unfit host e := by
  unfold checkBracketed
  constructor
  · intro h
    split_ifs at h with hv hfuture hfour hsix
    · obtain rfl := Except.error.inj h
      exact .future hv (Bool.eq_false_iff.2 hfuture)
    · obtain rfl := Except.error.inj h
      exact .version4 hv hfour
    · obtain rfl := Except.error.inj h
      exact .other hv (Bool.eq_false_iff.2 hfour) (Bool.eq_false_iff.2 hsix)
  · intro h
    cases h with
    | future hv hfuture => rw [if_pos hv, hfuture, if_neg Bool.false_ne_true]
    | version4 hv hfour => rw [if_neg hv, if_pos hfour]
    | other hv hfour hsix =>
      rw [if_neg hv, hfour, hsix, if_neg Bool.false_ne_true, if_neg Bool.false_ne_true]

/-- What stands in the address stands in the authority. -/
theorem mem_of_mem_afterUserInfo {c : Char} (h : c ∈ afterUserInfo authority) : c ∈ authority :=
  mem_authority_of_mem_afterUserInfo
    (u := { scheme := [], authority, path := [], query := [], fragment := [] }) h

/-- Whether something else than a port stands behind a host can be told by its first character. -/
theorem isPortPart_iff {rest : List Char} :
    IsPortPart rest ↔ (!rest.isEmpty && rest.head? != some ':') = false := by
  unfold IsPortPart
  cases rest with
  | nil => simp
  | cons c rest => simp

/-- The host that begins an address is followed by a port, if by anything. -/
theorem exists_of_cut_colon (address : List Char) :
    ∃ rest, address = (cut ':' address).1 ++ rest ∧ ':' ∉ (cut ':' address).1 ∧
      IsPortPart rest := by
  rcases hcut : cut ':' address with ⟨host, port⟩
  obtain ⟨hcolon, haddress⟩ := eq_append_of_cut hcut
  refine ⟨_, haddress, hcolon, ?_⟩
  cases port with
  | none => exact .inl rfl
  | some port => exact .inr rfl

/-- What is followed by a port, if by anything, is what is in front of the first colon. -/
theorem cut_colon_fst {rest : List Char} (hcolon : ':' ∉ host) (hport : IsPortPart rest) :
    (cut ':' (host ++ rest)).1 = host := by
  rcases hport with rfl | hport
  · rw [List.append_nil, cut_eq_none_iff.2 ⟨hcolon, rfl⟩]
  · obtain ⟨port, rfl⟩ := List.head?_eq_some_iff.1 hport
    rw [cut_eq_some_iff.2 ⟨hcolon, rfl⟩]

/-- If brackets of one kind only stand in an authority, they are misplaced. -/
theorem checkBrackets_of_unpaired (h : ¬('[' ∈ authority ↔ ']' ∈ authority)) :
    checkBrackets authority = .error .misplacedBracket := by
  unfold checkBrackets
  by_cases hopen : '[' ∈ authority
  · have hclose : ']' ∉ authority := fun hclose => h ⟨fun _ => hclose, fun _ => hopen⟩
    rw [List.contains_iff_mem.2 hopen, show authority.contains ']' = false by simpa using hclose]
  · have hclose : ']' ∈ authority := by
      by_contra hclose
      exact h ⟨fun hmem => absurd hmem hopen, fun hmem => absurd hmem hclose⟩
    rw [List.contains_iff_mem.2 hclose, show authority.contains '[' = false by simpa using hopen]

/-- If brackets of both kinds stand in an authority, it matters where they stand in the address. -/
theorem checkBrackets_of_paired (hopen : '[' ∈ authority) (hclose : ']' ∈ authority) :
    checkBrackets authority =
      match cut '[' (afterUserInfo authority) with
      | (before, some inside) =>
        if !before.isEmpty then .error .misplacedBracket
        else if (cut ']' inside).2.any fun port => !port.isEmpty && port.head? != some ':' then
          .error .misplacedBracket
        else checkBracketed (cut ']' inside).1
      | (_, none) => checkBracketed (cut ':' (afterUserInfo authority)).1 := by
  have hopening : authority.contains '[' = true := List.contains_iff_mem.2 hopen
  have hclosing : authority.contains ']' = true := List.contains_iff_mem.2 hclose
  unfold checkBrackets
  generalize authority.contains '[' = opening at hopening ⊢
  generalize authority.contains ']' = closing at hclosing ⊢
  subst hopening hclosing
  rfl

/-- If the address begins with a bracket, it matters what stands behind the second one. -/
theorem checkBrackets_of_first {inside : List Char} (hclose : ']' ∈ authority)
    (haddress : afterUserInfo authority = '[' :: inside) :
    checkBrackets authority =
      if (cut ']' inside).2.any fun port => !port.isEmpty && port.head? != some ':' then
        .error .misplacedBracket
      else checkBracketed (cut ']' inside).1 := by
  have hopen : '[' ∈ authority := mem_of_mem_afterUserInfo (by simp [haddress])
  have hcut : cut '[' ('[' :: inside) = ([], some inside) :=
    cut_eq_some_iff.2 ⟨List.not_mem_nil, rfl⟩
  rw [checkBrackets_of_paired hopen hclose, haddress, hcut]
  rfl

/-- The host that is taken to stand between brackets is the one that is checked. -/
theorem Bracketed.checkBrackets_eq (h : Bracketed authority host) (hopen : '[' ∈ authority)
    (hclose : ']' ∈ authority) : checkBrackets authority = checkBracketed host := by
  cases h with
  | closed haddress hinside hport =>
    rw [checkBrackets_of_first hclose haddress, cut_eq_some_iff.2 ⟨hinside, rfl⟩]
    dsimp only
    rw [Option.any_some, isPortPart_iff.1 hport, if_neg Bool.false_ne_true]
  | unclosed haddress hinside =>
    rw [checkBrackets_of_first hclose haddress, cut_eq_none_iff.2 ⟨hinside, rfl⟩]
    rfl
  | unopened hnone haddress hcolon hport =>
    rw [checkBrackets_of_paired hopen hclose, cut_eq_none_iff.2 ⟨hnone, rfl⟩]
    dsimp only
    rw [haddress, cut_colon_fst hcolon hport]

/-- Something in front of the first bracket is out of order. -/
theorem checkBrackets_of_before {front rest : List Char} (hclose : ']' ∈ authority)
    (haddress : afterUserInfo authority = front ++ '[' :: rest)
      (hfirst : '[' ∉ front) (hfront : front ≠ []) :
    checkBrackets authority = .error .misplacedBracket := by
  have hopen : '[' ∈ authority := mem_of_mem_afterUserInfo (by simp [haddress])
  rw [checkBrackets_of_paired hopen hclose, haddress, cut_eq_some_iff.2 ⟨hfirst, rfl⟩]
  dsimp only
  rw [if_pos (by simpa using hfront)]

/-- Something else than a port behind the second bracket is out of order. -/
theorem checkBrackets_of_behind {inside rest : List Char}
    (haddress : afterUserInfo authority = '[' :: (inside ++ ']' :: rest)) (hinside : ']' ∉ inside)
    (hport : ¬IsPortPart rest) : checkBrackets authority = .error .misplacedBracket := by
  have hclose : ']' ∈ authority := mem_of_mem_afterUserInfo (by simp [haddress])
  rw [checkBrackets_of_first hclose haddress, cut_eq_some_iff.2 ⟨hinside, rfl⟩]
  dsimp only
  rw [Option.any_some, if_pos (Bool.eq_true_of_not_eq_false (mt isPortPart_iff.2 hport))]

/-- What the brackets of an authority with brackets of both kinds are: around a host, or out of
order. -/
theorem bracketed_or_misplaced (hclose : ']' ∈ authority) :
    (∃ host, Bracketed authority host) ∨ Disordered authority .misplacedBracket := by
  rcases hfirst : cut '[' (afterUserInfo authority) with ⟨before, _ | inside⟩
  · -- The opening bracket is not in the address, so it has to be in the user information.
    obtain ⟨hnone, -⟩ := cut_eq_none_iff.1 hfirst
    obtain ⟨rest, haddress, hcolon, hport⟩ := exists_of_cut_colon (afterUserInfo authority)
    exact .inl ⟨_, .unopened hnone haddress hcolon hport⟩
  obtain ⟨hbefore, haddress⟩ := cut_eq_some_iff.1 hfirst
  by_cases hfront : before = []
  · subst hfront
    rcases hsecond : cut ']' inside with ⟨host, _ | rest⟩
    · -- Here it is the closing bracket that is not in the address.
      obtain ⟨hnone, rfl⟩ := cut_eq_none_iff.1 hsecond
      exact .inl ⟨_, .unclosed haddress hnone⟩
    · obtain ⟨hhost, rfl⟩ := cut_eq_some_iff.1 hsecond
      by_cases hport : IsPortPart rest
      · exact .inl ⟨_, .closed haddress hhost hport⟩
      · exact .inr (.behind haddress hhost hport)
  · exact .inr (.before hclose haddress hbefore hfront)

/-- Brackets that are out of order are refused, with what is said of it. -/
theorem Disordered.checkBrackets_eq (h : Disordered authority e) :
    checkBrackets authority = .error e := by
  cases h with
  | unpaired h => exact checkBrackets_of_unpaired h
  | before hclose haddress hfirst hfront =>
    exact checkBrackets_of_before hclose haddress hfirst hfront
  | behind haddress hinside hport => exact checkBrackets_of_behind haddress hinside hport
  | unfit hpaired hbracketed hunfit =>
    rw [hbracketed.checkBrackets_eq hpaired.1 hpaired.2]
    exact checkBracketed_eq_error_iff.2 hunfit

/-- The brackets of an authority are refused exactly if they are out of order. -/
theorem checkBrackets_eq_error_iff :
    checkBrackets authority = .error e ↔ Disordered authority e := by
  refine ⟨fun h => ?_, Disordered.checkBrackets_eq⟩
  by_cases hpair : '[' ∈ authority ↔ ']' ∈ authority
  · by_cases hopen : '[' ∈ authority
    · have hclose : ']' ∈ authority := hpair.1 hopen
      rcases bracketed_or_misplaced hclose with ⟨host, hbracketed⟩ | hdisordered
      · rw [hbracketed.checkBrackets_eq hopen hclose] at h
        exact .unfit ⟨hopen, hclose⟩ hbracketed (checkBracketed_eq_error_iff.1 h)
      · obtain rfl := Except.error.inj (hdisordered.checkBrackets_eq.symm.trans h)
        exact hdisordered
    · -- Without brackets nothing is checked.
      have hclose : ']' ∉ authority := mt hpair.2 hopen
      unfold checkBrackets at h
      rw [show authority.contains '[' = false by simpa using hopen,
        show authority.contains ']' = false by simpa using hclose] at h
      cases h
  · obtain rfl := Except.error.inj ((checkBrackets_of_unpaired hpair).symm.trans h)
    exact .unpaired hpair

/-! ## Texts that are no URI -/

/-- The characters that stand in a text where a URI has its authority. -/
def authorityIn (text : String) : List Char :=
  (takeAuthority (takeScheme (clean text.toList)).2).1

/-- A text with this authority is no URI, for the reason that is given. -/
inductive Unreadable (authority : List Char) : Error → Prop where
  /-- Brackets are out of order. -/
  | brackets {e : Error} (h : Disordered authority e) : Unreadable authority e
  /-- A character stands for a delimiter. -/
  | hidden {c : Char} (ordered : ∀ e, ¬Disordered authority e) (mem : c ∈ authority)
      (delimiter : c.toNat ∈ hidingCodes) : Unreadable authority (.hiddenDelimiter authority)

/-- Brackets are in order exactly if nothing is out of order. -/
theorem checkBrackets_eq_ok_iff :
    checkBrackets authority = .ok () ↔ ∀ e, ¬Disordered authority e := by
  constructor
  · intro h e hdisordered
    cases h.symm.trans hdisordered.checkBrackets_eq
  · intro h
    rcases hcheck : checkBrackets authority with e | _
    · exact absurd (checkBrackets_eq_error_iff.1 hcheck) (h e)
    · rfl

/-- An authority is refused exactly for a character that stands for a delimiter. -/
theorem checkHidden_eq_error_iff :
    checkHidden authority = .error e ↔
      (∃ c ∈ authority, c.toNat ∈ hidingCodes) ∧ e = .hiddenDelimiter authority := by
  have hany : (authority.any fun c => hidingCodes.contains c.toNat) = true ↔
      ∃ c ∈ authority, c.toNat ∈ hidingCodes := by simp
  unfold checkHidden
  by_cases h : ∃ c ∈ authority, c.toNat ∈ hidingCodes
  · rw [if_pos (hany.2 h)]
    constructor
    · intro heq
      exact ⟨h, (Except.error.inj heq).symm⟩
    · rintro ⟨-, rfl⟩
      rfl
  · rw [if_neg (mt hany.1 h)]
    constructor
    · intro heq
      cases heq
    · rintro ⟨hmem, -⟩
      exact absurd hmem h

/-- Reading a text fails exactly if one of the two checks of its authority does. -/
theorem ofList_eq_error_iff {l : List Char} :
    ofList l = .error e ↔
      let authority := (takeAuthority (takeScheme (clean l)).2).1
      checkBrackets authority = .error e ∨ checkBrackets authority = .ok () ∧
        checkHidden authority = .error e := by
  unfold ofList
  rcases takeScheme (clean l) with ⟨scheme, rest⟩
  dsimp only
  rcases takeAuthority rest with ⟨authority, tail⟩
  dsimp only
  rcases checkBrackets authority with e' | _
  · change Except.error e' = .error e ↔ _
    simp
  · rcases checkHidden authority with e' | _
    · change Except.error e' = .error e ↔ _
      simp
    · constructor
      · intro h
        cases h
      · rintro (h | ⟨-, h⟩)
        · cases h
        · cases h

/-- A text is no URI exactly for one of the reasons that its authority gives. -/
theorem ofString_eq_error_iff :
    ofString text = .error fault ↔ ∃ e, fault = .uri e ∧ Unreadable (authorityIn text) e := by
  have hlist (e : Error) : ofList text.toList = .error e ↔ Unreadable (authorityIn text) e := by
    rw [ofList_eq_error_iff]
    change checkBrackets (authorityIn text) = _ ∨ checkBrackets (authorityIn text) = _ ∧
      checkHidden (authorityIn text) = _ ↔ _
    rw [checkBrackets_eq_error_iff, checkBrackets_eq_ok_iff, checkHidden_eq_error_iff]
    constructor
    · rintro (h | ⟨hordered, ⟨c, hmem, hhiding⟩, rfl⟩)
      · exact .brackets h
      · exact .hidden hordered hmem hhiding
    · intro h
      cases h with
      | brackets h => exact .inl h
      | hidden hordered hmem hhiding => exact .inr ⟨hordered, ⟨_, hmem, hhiding⟩, rfl⟩
  unfold ofString
  rcases hread : ofList text.toList with e | u
  · dsimp only
    constructor
    · intro h
      exact ⟨e, (Except.error.inj h).symm, (hlist e).1 hread⟩
    · rintro ⟨e', rfl, h⟩
      rw [Except.error.inj (hread.symm.trans ((hlist e').2 h))]
  · constructor
    · intro h
      cases h
    · rintro ⟨e, -, h⟩
      cases hread.symm.trans ((hlist e).2 h)

/-! ## Redirecting -/

/-- A URI that can be redirected: it has a scheme and a host. -/
structure Complete (u : Uri) : Prop where
  /-- It has a scheme. -/
  scheme : u.scheme ≠ []
  /-- It has a host. -/
  host : u.hostname ≠ none

/-- What goes wrong with redirecting an endpoint with a URI although nothing refuses it. -/
inductive Astray (text : String) (port : Int) : Fault → Prop where
  /-- The text is no URI. -/
  | unreadable {e : Error} (h : Unreadable (authorityIn text) e) : Astray text port (.uri e)
  /-- The text is a URI that can be redirected, but the port has too many digits to be written. -/
  | unwritable {u : Uri} (read : ofString text = .ok u) (complete : u.Complete)
      (port_unwritable : Decimal.isWritable port = false) : Astray text port (.integer .unwritable)

/-- What redirecting an endpoint with a URI ends with. -/
inductive Redirects (text : String) (keepsHost : Bool) (address : Address) :
    Except Fault Target → Prop where
  /-- The URI is given another host and port. -/
  | rewritten {u : Uri} (read : ofString text = .ok u) (complete : u.Complete)
      (port_writable : Decimal.isWritable address.port = true) :
    Redirects text keepsHost address
      (.ok (.uri (.ofList (u.withAddress (u.hostFor keepsHost address.host) address.port).toList)
        keepsHost))
  /-- The URI has no scheme or no host and is refused. -/
  | refused {u : Uri} (read : ofString text = .ok u) (incomplete : ¬u.Complete) :
    Redirects text keepsHost address (.error (.refusal (.invalidUri text)))
  /-- Something else goes wrong. -/
  | astray {fault : Fault} (h : Astray text address.port fault) :
    Redirects text keepsHost address (.error fault)

/-- A URI without a scheme or a host is refused, whatever the new host is. -/
theorem redirect_of_incomplete (hread : ofString text = .ok u) (h : ¬u.Complete) (host : List Char)
    (port : Int) :
    redirect text host port = .error (.refusal (.invalidUri text)) := by
  have hmissing : (u.scheme.isEmpty || u.hostname.isNone) = true := by
    by_contra hnone
    rw [Bool.not_eq_true, Bool.or_eq_false_iff, List.isEmpty_eq_false_iff,
      Option.isNone_eq_false_iff, Option.isSome_iff_ne_none] at hnone
    exact h ⟨hnone.1, hnone.2⟩
  unfold redirect
  rw [hread]
  change (if _ then Except.error _ else Except.ok _) = _
  rw [if_pos hmissing]

/-- A URI with a scheme and a host is given the new address, unless the port cannot be written. -/
theorem redirect_target_of_complete (hread : ofString text = .ok u) (h : u.Complete)
    (keepsHost : Bool) (address : Address) :
    Target.redirect (.uri text keepsHost) address =
      if Decimal.isWritable address.port then
        .ok (.uri (.ofList (u.withAddress (u.hostFor keepsHost address.host) address.port).toList)
          keepsHost)
      else .error (.integer .unwritable) := by
  have hredirect : redirect text (u.hostFor keepsHost address.host) address.port = .ok _ :=
    redirect_eq_ok_iff.2 ⟨u, hread, h.scheme, h.host, rfl⟩
  rw [redirect_target_eq, newHost_of_ofString hread]
  change (redirect text (u.hostFor keepsHost address.host) address.port >>= _) = _
  rw [hredirect]
  rfl

/-- A URI without a scheme or a host is refused before the port is written. -/
theorem redirect_target_of_incomplete (hread : ofString text = .ok u) (h : ¬u.Complete)
    (keepsHost : Bool) (address : Address) :
    Target.redirect (.uri text keepsHost) address = .error (.refusal (.invalidUri text)) := by
  rw [redirect_target_eq, newHost_of_ofString hread]
  change (redirect text (u.hostFor keepsHost address.host) address.port >>= _) = _
  rw [redirect_of_incomplete hread h]
  rfl

/-- Redirecting ends in one of these ways. -/
theorem redirects_target (text : String) (keepsHost : Bool) (address : Address) :
    Redirects text keepsHost address (Target.redirect (.uri text keepsHost) address) := by
  rcases hread : ofString text with fault | u
  · obtain ⟨e, rfl, hunreadable⟩ := ofString_eq_error_iff.1 hread
    rw [redirect_target_of_error hread]
    exact .astray (.unreadable hunreadable)
  by_cases hcomplete : u.Complete
  · rw [redirect_target_of_complete hread hcomplete]
    by_cases hport : Decimal.isWritable address.port = true
    · rw [if_pos hport]
      exact .rewritten hread hcomplete hport
    · rw [if_neg hport]
      exact .astray (.unwritable hread hcomplete (Bool.eq_false_iff.2 hport))
  · rw [redirect_target_of_incomplete hread hcomplete]
    exact .refused hread hcomplete

/-- What goes wrong otherwise is no refusal. -/
theorem Astray.label?_eq_none {port : Int} (h : Astray text port fault) : fault.label? = none := by
  cases h with
  | unreadable => rfl
  | unwritable => rfl

/-- If something else goes wrong, redirecting ends with it. -/
theorem Astray.redirect_target {address : Address} (h : Astray text address.port fault)
    (keepsHost : Bool) :
    Target.redirect (.uri text keepsHost) address = .error fault := by
  cases h with
  | unreadable h =>
    exact redirect_target_of_error (ofString_eq_error_iff.2 ⟨_, rfl, h⟩) keepsHost address
  | unwritable hread hcomplete hport =>
    rw [redirect_target_of_complete hread hcomplete, hport, if_neg Bool.false_ne_true]

/-- An endpoint with a URI is redirected, refused, or goes astray. It is given the new address if
its text is read as a URI with a scheme and a host, and refused as an invalid endpoint if one of
them is missing. It fails in another way, and not with a refusal, exactly if the text is no URI or
the port cannot be written. Unless it is redirected, the endpoint stays as it was. -/
theorem redirected_or_refused (text : String) (keepsHost : Bool) (address : Address) :
    let before : Target := .uri text keepsHost
    let ending := run (Target.override address) before
    ((∃ u, ofString text = .ok u ∧
        (u.Complete ∧ ending = (.ok (),
            .uri (.ofList (u.withAddress (u.hostFor keepsHost address.host) address.port).toList)
              keepsHost) ∨
          ¬u.Complete ∧ ending = (.error (.refusal (.invalidUri text)), before))) ∨
        ∃ fault, Astray text address.port fault ∧ ending = (.error fault, before)) ∧
      (Fault.refusal (.invalidUri text)).label? = some (.configuration, "invalid-endpoint") ∧
      ∀ fault, Astray text address.port fault →
        ending = (.error fault, before) ∧ fault.label? = none := by
  intro before ending
  have hending : ending = _ := Target.run_override address before
  refine ⟨?_, rfl, fun fault h => ?_⟩
  · have hways := redirects_target text keepsHost address
    generalize hredirect : Target.redirect (.uri text keepsHost) address = outcome at hways
    rw [hending, hredirect]
    cases hways with
    | rewritten hread hcomplete hport => exact .inl ⟨_, hread, .inl ⟨hcomplete, rfl⟩⟩
    | refused hread hincomplete => exact .inl ⟨_, hread, .inr ⟨hincomplete, rfl⟩⟩
    | astray h => exact .inr ⟨_, h, rfl⟩
  · rw [hending, h.redirect_target keepsHost]
    exact ⟨rfl, h.label?_eq_none⟩

/-- A sign that contains a slash once it is normalised makes the text no URI. The endpoint stays as
it was, and the error does not tell that it is invalid. -/
theorem redirected_or_refused_trial :
    run (Target.override { host := "localhost", port := 50000 })
      (.uri "bolt://db℀example:7687" true) =
        (.error (.uri (.hiddenDelimiter "db℀example:7687".toList)),
          .uri "bolt://db℀example:7687" true) ∧
      (Fault.uri (.hiddenDelimiter "db℀example:7687".toList)).label? = none := by
  have hauthority : authorityIn "bolt://db℀example:7687" = "db℀example:7687".toList := by rfl
  have hordered : ∀ e, ¬Disordered "db℀example:7687".toList e := checkBrackets_eq_ok_iff.1 rfl
  have hunreadable : Unreadable (authorityIn "bolt://db℀example:7687")
      (.hiddenDelimiter "db℀example:7687".toList) := by
    rw [hauthority]
    exact .hidden (c := '℀') hordered (by decide) (by decide)
  exact (redirected_or_refused "bolt://db℀example:7687"
    true { host := "localhost", port := 50000 }).2.2 _
    (.unreadable hunreadable)

/-- A host that lacks its closing bracket strays, whether it is kept or replaced. -/
theorem missing_bracket_strays :
    ∃ fault : Fault, fault.label? = none ∧ ∀ keepsHost,
      run (Target.override { host := "localhost", port := 50000 })
        (.uri "bolt://[::1:7687" keepsHost) =
        (.error fault, .uri "bolt://[::1:7687" keepsHost) :=
  ⟨.uri .misplacedBracket, rfl, Bool.forall_bool.2 ⟨by rfl, by rfl⟩⟩

end Uri

end SecureForward
