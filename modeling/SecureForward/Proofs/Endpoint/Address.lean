import SecureForward.Endpoint.Address
import SecureForward.Proofs.Decimal.Integer
import Mathlib.Tactic.Ring
import Mathlib.Tactic.SplitIfs

/-!
# Reading and writing addresses

`Writes` says which texts write which address: a host alone, or a host, a colon and at most 4300
digits of a port. Reading accepts these texts and no others (`parse_eq_ok_iff_writes`). Whatever is
read is a plain address (`isPlain_of_parse`): a host that is not empty, holds no colon and does not
begin with a blank, and a port that can be connected to. A plain address is written so that reading
gives it back (`parse_toString`).

What stands behind the colon is read on its own, by `readPort`, so that a text needs to be cut only
once: it has no host (`parse_of_hostless`), no colon (`parse_of_bare`), or both a host and a colon
(`parse_of_colon`).
-/

namespace SecureForward.Address

open SecureForward.Text

/-! ## What reading does -/

/-- The port in the digits behind a colon, or the error of a text with these digits. -/
def readPort (text : String) (digits : List Char) : Except Error Nat :=
  if digits.isEmpty || !digits.all isAsciiDigit then .error (.invalidPort (.ofList digits) text)
  else if Decimal.digitLimit < digits.length then .error (.portTooLong digits.length)
  else
    let n := Nat.ofDigitChars 10 digits 0
    if n < 1 || 65535 < n then .error (.portOutOfRange n text) else .ok n

/-- A text with nothing in front of its first colon has no host. -/
theorem parse_of_hostless {port : Int} {text : String} {digits? : Option (List Char)}
    (h : cut ':' (trim text.toList) = ([], digits?)) :
    parse port text = .error (.missingHost text) := by
  unfold parse
  rw [h]
  rfl

/-- A text without a colon is a host. -/
theorem parse_of_bare {port : Int} {text : String} (hne : trim text.toList ≠ [])
    (hcolon : ':' ∉ trim text.toList) :
    parse port text = .ok { host := .ofList (trim text.toList), port } := by
  have hcut : cut ':' (trim text.toList) = (trim text.toList, none) :=
    cut_eq_none_iff.2 ⟨hcolon, rfl⟩
  unfold parse
  rw [hcut]
  dsimp only
  rw [if_neg (by simpa using hne)]

/-- Behind a host and a colon, the port is read. -/
theorem parse_of_colon {port : Int} {text : String} {host digits : List Char}
    (htrim : trim text.toList = host ++ ':' :: digits) (hne : host ≠ []) (hcolon : ':' ∉ host) :
    parse port text =
      (readPort text digits).map fun n : Nat => { host := .ofList host, port := n } := by
  have hcut : cut ':' (trim text.toList) = (host, some digits) :=
    cut_eq_some_iff.2 ⟨hcolon, htrim⟩
  unfold parse readPort
  rw [hcut]
  dsimp only
  rw [if_neg (by simpa using hne)]
  split_ifs <;> rfl

/-- What reading a text ends with, by what stands around its first colon. -/
inductive Read (port : Int) (text : String) : Except Error Address → Prop where
  /-- There is no host. -/
  | hostless : Read port text (.error (.missingHost text))
  /-- There is a host alone. -/
  | bare (host_ne : trim text.toList ≠ []) (colon_not_mem : ':' ∉ trim text.toList) :
    Read port text (.ok { host := .ofList (trim text.toList), port })
  /-- There is a host, and a colon behind it. -/
  | withPort {host digits : List Char} (trim_eq : trim text.toList = host ++ ':' :: digits)
      (host_ne : host ≠ []) (colon_not_mem : ':' ∉ host) :
    Read port text ((readPort text digits).map fun n : Nat => { host := .ofList host, port := n })

/-- Reading ends in one of these ways. -/
theorem read_parse (port : Int) (text : String) : Read port text (parse port text) := by
  rcases hcut : cut ':' (trim text.toList) with ⟨host, digits?⟩
  by_cases hne : host = []
  · subst hne
    rw [parse_of_hostless hcut]
    exact .hostless
  cases digits? with
  | none =>
    obtain ⟨hcolon, rfl⟩ := cut_eq_none_iff.1 hcut
    rw [parse_of_bare hne hcolon]
    exact .bare hne hcolon
  | some digits =>
    obtain ⟨hcolon, htrim⟩ := cut_eq_some_iff.1 hcut
    rw [parse_of_colon htrim hne hcolon]
    exact .withPort htrim hne hcolon

/-! ## What a text writes -/

/-- The number that digits write in base ten: each counts as many tenfolds as digits follow it. -/
def decimalValue : List Char → Nat
  | [] => 0
  | c :: digits => (c.toNat - '0'.toNat) * 10 ^ digits.length + decimalValue digits

/-- A text without blanks at its ends writes an address; an address whose port is not written has
the port `port`. -/
inductive Writes (port : Int) : List Char → Address → Prop where
  /-- A host alone. -/
  | bare {host : List Char} (host_ne : host ≠ []) (colon_not_mem : ':' ∉ host) :
    Writes port host { host := .ofList host, port }
  /-- A host and a port, with a colon between them. -/
  | withPort {host digits : List Char} (host_ne : host ≠ []) (colon_not_mem : ':' ∉ host)
      (digits_ne : digits ≠ []) (ascii : ∀ c ∈ digits, '0' ≤ c ∧ c ≤ '9')
      (length_le : digits.length ≤ 4300) (one_le : 1 ≤ decimalValue digits)
      (le_last : decimalValue digits ≤ 65535) :
    Writes port (host ++ ':' :: digits) { host := .ofList host, port := decimalValue digits }

/-- Digits that are read one after the other, each making ten of what was there, are worth their
decimal value. -/
theorem ofDigitChars_eq_decimalValue (digits : List Char) (init : Nat) :
    Nat.ofDigitChars 10 digits init = init * 10 ^ digits.length + decimalValue digits := by
  induction digits generalizing init with
  | nil => simp [decimalValue]
  | cons c digits ih =>
    calc Nat.ofDigitChars 10 (c :: digits) init
        = (10 * init + (c.toNat - '0'.toNat)) * 10 ^ digits.length + decimalValue digits := by
          rw [Nat.ofDigitChars_cons, ih]
      _ = init * 10 ^ (digits.length + 1) +
            ((c.toNat - '0'.toNat) * 10 ^ digits.length + decimalValue digits) := by ring
      _ = init * 10 ^ (c :: digits).length + decimalValue (c :: digits) := rfl

/-- The characters that a port is written with are the digits from `0` to `9`. -/
theorem isAsciiDigit_eq_true_iff {c : Char} : isAsciiDigit c = true ↔ '0' ≤ c ∧ c ≤ '9' := by
  simp [isAsciiDigit]

/-- A port is read from digits that are there, are not too many, and have a decimal value that is a
port. -/
theorem readPort_eq_ok_iff {text : String} {digits : List Char} {n : Nat} :
    readPort text digits = .ok n ↔
      digits ≠ [] ∧ (∀ c ∈ digits, '0' ≤ c ∧ c ≤ '9') ∧ digits.length ≤ 4300 ∧
        n = decimalValue digits ∧ 1 ≤ n ∧ n ≤ 65535 := by
  have hvalue : Nat.ofDigitChars 10 digits 0 = decimalValue digits := by
    rw [ofDigitChars_eq_decimalValue, Nat.zero_mul, Nat.zero_add]
  have hall : digits.all isAsciiDigit = true ↔ ∀ c ∈ digits, '0' ≤ c ∧ c ≤ '9' := by
    rw [List.all_eq_true]
    exact forall₂_congr fun c _ => isAsciiDigit_eq_true_iff
  unfold readPort Decimal.digitLimit
  rw [hvalue]
  dsimp only
  constructor
  · intro h
    split_ifs at h with hdigits hlength hrange
    cases h
    simp only [Bool.or_eq_true, not_or, List.isEmpty_iff, Bool.not_eq_true', Bool.not_eq_false,
      decide_eq_true_eq] at hdigits hrange
    exact ⟨hdigits.1, hall.1 hdigits.2, by omega, rfl, by omega, by omega⟩
  · rintro ⟨hne, hdigits, hlength, rfl, hlow, hhigh⟩
    rw [if_neg (by simp [hne, hall.2 hdigits]), if_neg (by omega), if_neg]
    rw [Bool.or_eq_true, decide_eq_true_eq, decide_eq_true_eq]
    omega

/-- Reading accepts the texts that write an address, and gives the address that they write. -/
theorem parse_eq_ok_iff_writes {port : Int} {text : String} {a : Address} :
    parse port text = .ok a ↔ Writes port (trim text.toList) a := by
  constructor
  · intro h
    have hread := read_parse port text
    rw [h] at hread
    generalize houtcome : Except.ok a = outcome at hread
    cases hread with
    | hostless => cases houtcome
    | bare hne hcolon =>
      obtain rfl := Except.ok.inj houtcome
      exact .bare hne hcolon
    | @withPort host digits htrim hne hcolon =>
      rcases hport : readPort text digits with e | n
      · rw [hport] at houtcome
        cases houtcome
      · rw [hport] at houtcome
        obtain rfl := Except.ok.inj houtcome
        obtain ⟨hdigits, hascii, hlength, rfl, hlow, hhigh⟩ := readPort_eq_ok_iff.1 hport
        rw [htrim]
        exact .withPort hne hcolon hdigits hascii hlength hlow hhigh
  · intro h
    generalize htrim : trim text.toList = l at h
    cases h with
    | bare hne hcolon =>
      subst htrim
      exact parse_of_bare hne hcolon
    | @withPort host digits hne hcolon hdigits hascii hlength hlow hhigh =>
      have hport : readPort text digits = .ok (decimalValue digits) :=
        readPort_eq_ok_iff.2 ⟨hdigits, hascii, hlength, rfl, hlow, hhigh⟩
      rw [parse_of_colon htrim hne hcolon, hport]
      rfl

/-! ## Plain addresses -/

/-- An address of the kind that is read from a text. -/
structure IsPlain (a : Address) : Prop where
  /-- There is a host. -/
  host_ne : a.host ≠ ""
  /-- The host holds no colon. -/
  colon_not_mem : ':' ∉ a.host.toList
  /-- The host does not begin with a blank. -/
  head : ∀ c, a.host.toList.head? = some c → isBlank c = false
  /-- The port is not below 1. -/
  one_le : 1 ≤ a.port
  /-- The port is not above 65535. -/
  le_last : a.port ≤ 65535

/-- What is read as an address is a plain one, if the port for texts without one is a port. -/
theorem isPlain_of_parse {port : Int} {text : String} {a : Address} (hlow : 1 ≤ port)
    (hhigh : port ≤ 65535) (h : parse port text = .ok a) : a.IsPlain := by
  have hhead : ∀ c, (trim text.toList).head? = some c → isBlank c = false := fun c => head?_strip
  have hwrites := parse_eq_ok_iff_writes.1 h
  generalize trim text.toList = l at hhead hwrites
  cases hwrites with
  | bare hne hcolon =>
    exact ⟨by simpa using hne, by simpa using hcolon, by simpa using hhead, hlow, hhigh⟩
  | @withPort host digits hne hcolon hdigits hascii hlength hlow hhigh =>
    have hhost : ∀ c, host.head? = some c → isBlank c = false := by
      intro c hc
      refine hhead c ?_
      rw [List.head?_append, hc]
      rfl
    refine ⟨by simpa using hne, by simpa using hcolon, by simpa using hhost, ?_, ?_⟩
    · show 1 ≤ ((decimalValue digits : Nat) : Int)
      omega
    · show ((decimalValue digits : Nat) : Int) ≤ 65535
      omega

/-- The text has a host and a port of this many digits, which are too many to be read. -/
def HasLongPort (text : String) (count : Nat) : Prop :=
  ∃ host digits, trim text.toList = host ++ ':' :: digits ∧ host ≠ [] ∧ ':' ∉ host ∧
    (∀ c ∈ digits, isAsciiDigit c = true) ∧ digits.length = count ∧ Decimal.digitLimit < count

/-- Digits are too many to be read as a port exactly if there are more than 4300 of them and nothing
else. -/
theorem readPort_eq_portTooLong_iff {text : String} {digits : List Char} {count : Nat} :
    readPort text digits = .error (.portTooLong count) ↔
      (∀ c ∈ digits, isAsciiDigit c = true) ∧ digits.length = count ∧
        Decimal.digitLimit < count := by
  unfold readPort
  constructor
  · intro h
    dsimp only at h
    split_ifs at h with hdigits hlength hrange
    · cases h
    · obtain rfl := Error.portTooLong.inj (Except.error.inj h)
      exact ⟨by simp_all, rfl, hlength⟩
    · cases h
  · rintro ⟨hdigits, rfl, hlength⟩
    have hne : digits ≠ [] := by
      rintro rfl
      exact absurd hlength (Nat.not_lt_zero _)
    have hall : digits.all isAsciiDigit = true := List.all_eq_true.2 hdigits
    rw [if_neg (by simp [hne, hall]), if_pos hlength]

/-- An address is not read for the length of its port exactly if the port is that long. -/
theorem parse_eq_portTooLong_iff {port : Int} {text : String} {count : Nat} :
    parse port text = .error (.portTooLong count) ↔ HasLongPort text count := by
  constructor
  · intro h
    have hread := read_parse port text
    rw [h] at hread
    generalize houtcome : Except.error (Error.portTooLong count) = outcome at hread
    cases hread with
    | hostless => cases houtcome
    | bare => cases houtcome
    | @withPort host digits htrim hne hcolon =>
      rcases hport : readPort text digits with e | n
      · rw [hport] at houtcome
        obtain rfl := Except.error.inj houtcome
        obtain ⟨hdigits, hlength, hlimit⟩ := readPort_eq_portTooLong_iff.1 hport
        exact ⟨host, digits, htrim, hne, hcolon, hdigits, hlength, hlimit⟩
      · rw [hport] at houtcome
        cases houtcome
  · rintro ⟨host, digits, htrim, hne, hcolon, hdigits, hlength, hlimit⟩
    rw [parse_of_colon htrim hne hcolon, readPort_eq_portTooLong_iff.2 ⟨hdigits, hlength, hlimit⟩]
    rfl

/-! ## What no port is written with -/

/-- A character that a whole number may be written with elsewhere, but no port; and the colon, of
which there is one. -/
inductive IsForeign : Char → Prop where
  /-- A sign. -/
  | plus : IsForeign '+'
  /-- A sign. -/
  | minus : IsForeign '-'
  /-- An underscore between digits. -/
  | underscore : IsForeign '_'
  /-- A second colon. -/
  | colon : IsForeign ':'
  /-- A blank inside the text. -/
  | blank {c : Char} (h : isBlank c = true) : IsForeign c
  /-- A digit of another script. -/
  | digit {c : Char} {n : Nat} (h : digitValue? c = some n) (beyond : 0x7f < c.toNat) : IsForeign c

/-- Such a character is none of the digits from `0` to `9`. -/
theorem IsForeign.not_digit {c : Char} (h : IsForeign c) : ¬('0' ≤ c ∧ c ≤ '9') := by
  cases h with
  | plus => decide
  | minus => decide
  | underscore => decide
  | colon => decide
  | blank hblank =>
    rintro ⟨hlow, hhigh⟩
    have hzero : 48 ≤ c.toNat := hlow
    have hnine : c.toNat ≤ 57 := hhigh
    have hvisible : isBlank c = false := IsVisible.isBlank_eq_false ⟨by omega, by omega⟩
    rw [hblank] at hvisible
    cases hvisible
  | digit hvalue hbeyond =>
    rintro ⟨-, hhigh⟩
    have hnine : c.toNat ≤ 57 := hhigh
    omega

/-- A port with a foreign character in it is refused, unless the host is missed first. -/
theorem parse_of_foreign {text : String} {host rest : List Char} {c : Char}
    (htrim : trim text.toList = host ++ ':' :: rest) (hcolon : ':' ∉ host) (hc : c ∈ rest)
    (hforeign : IsForeign c) (port : Int) :
    parse port text =
      .error (if host = [] then .missingHost text else .invalidPort (.ofList rest) text) := by
  by_cases hne : host = []
  · subst hne
    have hcut : cut ':' (trim text.toList) = ([], some rest) := cut_eq_some_iff.2 ⟨hcolon, htrim⟩
    rw [parse_of_hostless hcut, if_pos rfl]
  · have hall : rest.all isAsciiDigit = false := by
      rw [List.all_eq_false]
      exact ⟨c, hc, fun h => hforeign.not_digit (isAsciiDigit_eq_true_iff.1 h)⟩
    have hport : readPort text rest = .error (.invalidPort (.ofList rest) text) := by
      unfold readPort
      rw [if_pos (by simp [hall])]
    rw [parse_of_colon htrim hne hcolon, hport, if_neg hne]
    rfl

/-! ## Reading what was written -/

/-- An address is written as its host, a colon and the digits of its port. -/
theorem toList_toString (host : String) (n : Nat) :
    (toString (Address.mk host n)).toList = host.toList ++ ':' :: Nat.toDigits 10 n := by
  have hport : (toString (n : Int)).toList = Nat.toDigits 10 n := String.toList_ofList
  change (host ++ ":" ++ toString (n : Int)).toList = _
  rw [String.toList_append, String.toList_append, hport, List.append_assoc]
  rfl

/-- The digits that a number is written with are not blank, and are read as digits. -/
theorem isAsciiDigit_of_mem_toDigits {n : Nat} {c : Char} (hc : c ∈ Nat.toDigits 10 n) :
    isBlank c = false ∧ isAsciiDigit c = true := by
  have hdigit := Decimal.isPlainDigit_of_mem_toDigits hc
  exact ⟨hdigit.isBlank_eq_false, isAsciiDigit_eq_true_iff.2 hdigit⟩

/-- The digits that a port is written with: there are some, all of them are digits, they are not too
many to be read, and they are read as the port. -/
theorem toDigits_of_port {n : Nat} (h : n ≤ 65535) :
    Nat.toDigits 10 n ≠ [] ∧ (Nat.toDigits 10 n).all isAsciiDigit = true ∧
      ¬Decimal.digitLimit < (Nat.toDigits 10 n).length ∧
      Nat.ofDigitChars 10 (Nat.toDigits 10 n) 0 = n := by
  have hlength : (Nat.toDigits 10 n).length ≤ 5 := by
    rw [Nat.length_toDigits_le_iff (by omega) (by omega)]
    omega
  refine ⟨Nat.toDigits_ne_nil, ?_, ?_, Nat.ofDigitChars_toDigits (by omega) (by omega)⟩
  · exact List.all_eq_true.2 fun c hc => (isAsciiDigit_of_mem_toDigits hc).2
  · unfold Decimal.digitLimit
    omega

/-- A port can be written. -/
theorem isWritable_of_port {n : Nat} (h : n ≤ 65535) : Decimal.isWritable n = true := by
  obtain ⟨-, -, hlimit, -⟩ := toDigits_of_port h
  unfold Decimal.isWritable
  rw [Int.natAbs_natCast]
  exact decide_eq_true (Nat.le_of_not_lt hlimit)

/-- A plain address is read back as it was written, whatever the port for texts without one. -/
theorem parse_toString {a : Address} (h : a.IsPlain) (port : Int) :
    parse port (toString a) = .ok a := by
  obtain ⟨host, number⟩ := a
  obtain ⟨hne, hcolon, hhead, hlow, hhigh⟩ := h
  dsimp only at hne hcolon hhead hlow hhigh
  obtain ⟨n, rfl⟩ := Int.eq_ofNat_of_zero_le (show 0 ≤ number by omega)
  have hhost : host.toList ≠ [] := by simpa using hne
  obtain ⟨hdigits, hall, hlimit, hvalue⟩ := toDigits_of_port (show n ≤ 65535 by omega)
  have htrim : trim (toString (Address.mk host n)).toList =
      host.toList ++ ':' :: Nat.toDigits 10 n := by
    rw [toList_toString]
    refine strip_eq_self (fun c hc => ?_) fun c hc => ?_
    · obtain ⟨first, rest, hsplit⟩ := List.exists_cons_of_ne_nil hhost
      rw [hsplit, List.cons_append] at hc
      exact hhead c (by rw [hsplit]; exact hc)
    · have hlast : (Nat.toDigits 10 n).getLast? = some c := by
        rw [List.getLast?_append, List.getLast?_cons, Option.some_or] at hc
        rwa [List.getLast?_eq_some_getLast hdigits] at hc ⊢
      exact (isAsciiDigit_of_mem_toDigits (List.mem_of_getLast? hlast)).1
  unfold parse
  rw [htrim, cut_eq_some_iff.2 ⟨hcolon, rfl⟩]
  have hrange : ¬n < 1 ∧ ¬65535 < n := by omega
  simp only [List.isEmpty_iff, hhost, hdigits, hall, hlimit, hvalue, hrange, if_false, decide_false,
    Bool.not_true, Bool.or_false, Bool.false_eq_true, String.ofList_toList]

/-- Reading accepts exactly the texts that write an address and gives this address, whatever the
port for texts without one. So a plain address is read back from its text, and where a sign, an
underscore, a blank, a digit of another script or a second colon stands behind the first colon, the
text is refused. -/
theorem parse_accepts_exactly (port : Int) :
    (∀ text a, parse port text = .ok a ↔ Writes port (trim text.toList) a) ∧
      (∀ a : Address, a.IsPlain → parse port (toString a) = .ok a) ∧
      ∀ text host rest c, trim text.toList = host ++ ':' :: rest → ':' ∉ host → c ∈ rest →
        IsForeign c → parse port text =
          .error (if host = [] then .missingHost text else .invalidPort (.ofList rest) text) :=
  ⟨fun _ _ => parse_eq_ok_iff_writes, fun _ h => parse_toString h port,
    fun _ _ _ _ htrim hcolon hc hforeign => parse_of_foreign htrim hcolon hc hforeign port⟩

/-- Blanks around an address and zeros in front of its port do not matter; a plain address is read
back; and an underscore in a port is refused. -/
theorem parse_accepts_exactly_trial :
    parse 22 "\tgate :0022\n" = .ok ⟨"gate ", 22⟩ ∧
      (Address.mk "gate" 2022).IsPlain ∧
      parse 22 (toString (Address.mk "gate" 2022)) = .ok (Address.mk "gate" 2022) ∧
      IsForeign '_' ∧ parse 22 "gate:2_2" = .error (.invalidPort "2_2" "gate:2_2") := by
  obtain ⟨haccepts, hplain, hrefuses⟩ := parse_accepts_exactly 22
  have hhead : ∀ c, "gate".toList.head? = some c → isBlank c = false := by
    intro c hc
    obtain rfl : 'g' = c := by simpa using hc
    decide
  have hgate : (Address.mk "gate" 2022).IsPlain :=
    ⟨by decide, by decide, hhead, by decide, by decide⟩
  have hascii : ∀ c ∈ "0022".toList, '0' ≤ c ∧ c ≤ '9' := fun c hc =>
    isAsciiDigit_eq_true_iff.1
      (List.all_eq_true.1 (show "0022".toList.all isAsciiDigit = true by decide) c hc)
  refine ⟨?_, hgate, hplain _ hgate, .underscore, ?_⟩
  · exact (haccepts "\tgate :0022\n" _).2
      (@Writes.withPort 22 "gate ".toList "0022".toList (by decide) (by decide) (by decide) hascii
        (by decide) (by decide) (by decide))
  · exact hrefuses "gate:2_2" "gate".toList "2_2".toList '_' (by decide) (by decide) (by decide)
      .underscore

end SecureForward.Address
