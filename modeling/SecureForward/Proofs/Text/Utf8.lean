import SecureForward.Text.Utf8

/-!
# Decoding bytes with text behind them

Decoding goes from the front and looks no further than the character at hand, so bytes that can be
decoded are decoded in the same way when others follow (`decodeFrom_append_eq_ok_iff`). ASCII text
is decoded to itself, which is all that is ever appended to a file here. Bytes that arrive in chunks
are decoded as if they came at once, if they can be decoded at all
(`decodeStream_error_eq_none_iff`).
-/

namespace SecureForward.Text.Utf8

/-- The characters of ASCII. -/
def IsAscii (l : List Char) : Prop :=
  ∀ c ∈ l, c.toNat < 0x80

/-- Whether a text is ASCII can be told by looking at its characters. -/
theorem isAscii_of_all {l : List Char} (h : (l.all fun c => c.toNat < 0x80) = true) :
    IsAscii l := by
  intro c hc
  simpa using List.all_eq_true.1 h c hc

/-- ASCII text behind ASCII text is ASCII text. -/
theorem IsAscii.append {l m : List Char} (hl : IsAscii l) (hm : IsAscii m) : IsAscii (l ++ m) :=
  List.forall_mem_append.2 ⟨hl, hm⟩

/-- A character is read from bytes of its own, whatever follows them. -/
theorem exists_of_decodeChar {lead : UInt8} {rest after : Bytes} {c : Char}
    (h : decodeChar lead rest = .ok (c, after)) :
    ∃ used, rest = used ++ after ∧ ∀ more, decodeChar lead (used ++ more) = .ok (c, more) := by
  unfold decodeChar at h ⊢
  -- The lead byte fixes how many bytes are looked at.
  generalize width? lead = width at h ⊢
  split at h
  · cases h
  · cases h
    exact ⟨[], rfl, fun _ => rfl⟩
  · rcases rest with _ | ⟨b, rest⟩
    · cases h
    · exact ⟨[b], by grind, by grind⟩
  · rcases rest with _ | ⟨b, _ | ⟨d, rest⟩⟩
    · cases h
    · grind
    · exact ⟨[b, d], by grind, by grind⟩
  · rcases rest with _ | ⟨b, _ | ⟨d, _ | ⟨e, rest⟩⟩⟩
    · cases h
    · grind
    · grind
    · exact ⟨[b, d, e], by grind, by grind⟩

/-- Bytes that are no character are none either when more bytes follow, unless they only lack
some. -/
theorem decodeChar_append_of_error {lead : UInt8} {rest : Bytes} {count : Nat} {flaw : Flaw}
    (h : decodeChar lead rest = .error (count, flaw)) (hflaw : flaw ≠ .unexpectedEnd)
    (more : Bytes) :
    decodeChar lead (rest ++ more) = .error (count, flaw) := by
  unfold decodeChar at h ⊢
  generalize width? lead = width at h ⊢
  split at h
  · exact h
  · cases h
  · rcases rest with _ | ⟨b, rest⟩ <;> grind
  · rcases rest with _ | ⟨b, _ | ⟨d, rest⟩⟩ <;> grind
  · rcases rest with _ | ⟨b, _ | ⟨d, _ | ⟨e, rest⟩⟩⟩ <;> grind

/-- Decoding takes one character after the other. -/
theorem decodeFrom_cons {lead : UInt8} {rest after : Bytes} {c : Char}
    (h : decodeChar lead rest = .ok (c, after)) (start : Nat) :
    decodeFrom start (lead :: rest) =
      (decodeFrom (start + (rest.length + 1 - after.length)) after).map (c :: ·) := by
  rw [decodeFrom]
  split
  · rename_i hchar
    cases h.symm.trans hchar
  · rename_i hchar
    cases h.symm.trans hchar
    cases decodeFrom (start + (rest.length + 1 - after.length)) after <;> rfl

/-- Bytes that begin with a character are decodable only if those behind it are. -/
theorem decodeFrom_cons_eq_ok {start : Nat} {lead : UInt8} {rest : Bytes} {l : List Char}
    (h : decodeFrom start (lead :: rest) = .ok l) :
    ∃ c after tail, decodeChar lead rest = .ok (c, after) ∧ l = c :: tail ∧
      decodeFrom (start + (rest.length + 1 - after.length)) after = .ok tail := by
  rcases hchar : decodeChar lead rest with ⟨count, flaw⟩ | ⟨c, after⟩
  · rw [decodeFrom] at h
    split at h
    · cases h
    · rename_i hchar'
      cases hchar.symm.trans hchar'
  · rw [decodeFrom_cons hchar] at h
    rcases htail : decodeFrom (start + (rest.length + 1 - after.length)) after with e | tail
    · rw [htail] at h
      cases h
    · rw [htail] at h
      exact ⟨c, after, tail, rfl, (Except.ok.inj h).symm, htail⟩

/-- Bytes are decoded in the same way wherever they stand. -/
theorem decodeFrom_of_decodeFrom {bytes : Bytes} {start : Nat} {l : List Char}
    (h : decodeFrom start bytes = .ok l) (start' : Nat) : decodeFrom start' bytes = .ok l := by
  -- The induction is on the length: the bytes behind a character are not a tail of one byte.
  induction hlen : bytes.length using Nat.strongRecOn generalizing bytes start start' l with
  | _ n ih =>
    cases bytes with
    | nil =>
      rw [decodeFrom] at h ⊢
      exact h
    | cons lead rest =>
      obtain ⟨c, after, tail, hchar, rfl, htail⟩ := decodeFrom_cons_eq_ok h
      have hlength := length_of_decodeChar hchar
      rw [List.length_cons] at hlen
      rw [decodeFrom_cons hchar, ih after.length (by omega) htail _ rfl]
      rfl

/-- Behind bytes that can be decoded, the others are decoded on their own. -/
theorem decodeFrom_append_eq_ok_iff {bytes more : Bytes} {start : Nat} {l m : List Char}
    (h : decodeFrom start bytes = .ok l) :
    decodeFrom start (bytes ++ more) = .ok m ↔ ∃ m', decode more = .ok m' ∧ m = l ++ m' := by
  induction hlen : bytes.length using Nat.strongRecOn generalizing bytes start l m with
  | _ n ih =>
    cases bytes with
    | nil =>
      rw [decodeFrom] at h
      cases h
      refine ⟨fun hmore => ⟨m, decodeFrom_of_decodeFrom hmore 0, rfl⟩, ?_⟩
      rintro ⟨m', hmore, rfl⟩
      exact decodeFrom_of_decodeFrom hmore start
    | cons lead rest =>
      obtain ⟨c, after, tail, hchar, rfl, htail⟩ := decodeFrom_cons_eq_ok h
      have hlength := length_of_decodeChar hchar
      obtain ⟨used, rfl, hused⟩ := exists_of_decodeChar hchar
      have hstart : start + ((used ++ (after ++ more)).length + 1 - (after ++ more).length) =
          start + ((used ++ after).length + 1 - after.length) := by
        simp only [List.length_append]
        omega
      rw [List.length_cons] at hlen
      rw [List.cons_append, List.append_assoc, decodeFrom_cons (hused (after ++ more)), hstart]
      rcases hrest : decodeFrom (start + ((used ++ after).length + 1 - after.length))
          (after ++ more) with e | l
      · refine iff_of_false (by simp [Except.map]) ?_
        rintro ⟨m', hmore, -⟩
        cases hrest.symm.trans ((ih after.length (by omega) htail rfl).2 ⟨m', hmore, rfl⟩)
      · obtain ⟨m', hmore, rfl⟩ := (ih after.length (by omega) htail rfl).1 hrest
        simp [Except.map, hmore, eq_comm]

/-- ASCII text is decoded to itself, wherever it stands. -/
theorem decodeFrom_encode {l : List Char} (hl : IsAscii l) (start : Nat) :
    decodeFrom start (encode l) = .ok l := by
  induction l generalizing start with
  | nil =>
    change decodeFrom start [] = _
    rw [decodeFrom]
  | cons c l ih =>
    have hc : c.toNat < 0x80 := hl c (by simp)
    have hencode : encode (c :: l) = UInt8.ofNat c.toNat :: encode l := by
      simp [encode, encodeChar, hc]
    have hnat : (UInt8.ofNat c.toNat).toNat = c.toNat := by simp; omega
    have hchar : decodeChar (UInt8.ofNat c.toNat) (encode l) = .ok (c, encode l) := by
      have hwidth : width? (UInt8.ofNat c.toNat) = some 1 := by
        unfold width?
        rw [if_pos]
        rw [UInt8.lt_iff_toNat_lt, hnat]
        exact hc
      unfold decodeChar
      rw [hwidth]
      simp only [hnat, Char.ofNat_toNat]
    rw [hencode, decodeFrom_cons hchar, ih fun c hc => hl c (by simp [hc])]
    rfl

/-- ASCII text behind bytes that can be decoded is decoded behind their text. -/
theorem decode_append_encode {bytes : Bytes} {l m : List Char} (h : decode bytes = .ok l)
    (hm : IsAscii m) : decode (bytes ++ encode m) = .ok (l ++ m) :=
  (decodeFrom_append_eq_ok_iff h).2 ⟨m, decodeFrom_encode hm 0, rfl⟩

/-- ASCII text has one byte for each character. -/
theorem encode_eq_map {l : List Char} (hl : IsAscii l) :
    encode l = l.map fun c => UInt8.ofNat c.toNat := by
  induction l with
  | nil => rfl
  | cons c l ih =>
    obtain ⟨hc, hrest⟩ := List.forall_mem_cons.1 hl
    rw [List.map_cons, ← ih hrest]
    simp [encode, encodeChar, hc]

/-- A part of ASCII text behind bytes that can be decoded leaves them decodable. -/
theorem decode_append_take {bytes : Bytes} {l m : List Char} (h : decode bytes = .ok l)
    (hm : IsAscii m) (n : Nat) : decode (bytes ++ (encode m).take n) = .ok (l ++ m.take n) := by
  have hpart : IsAscii (m.take n) := fun c hc => hm c (List.mem_of_mem_take hc)
  rw [encode_eq_map hm, ← List.map_take, ← encode_eq_map hpart]
  exact decode_append_encode h hpart

/-! ## Bytes in chunks -/

/-- In front of the bytes that an error is about stands what can be decoded. -/
theorem exists_of_decodeFrom_error {bytes : Bytes} {start : Nat} {e : DecodeError}
    (h : decodeFrom start bytes = .error e) :
    ∃ front lead rest l, bytes = front ++ lead :: rest ∧ e.start = start + front.length ∧
      decode front = .ok l ∧ decodeChar lead rest = .error (e.count, e.flaw) := by
  induction hlen : bytes.length using Nat.strongRecOn generalizing bytes start with
  | _ n ih =>
    cases bytes with
    | nil =>
      rw [decodeFrom] at h
      cases h
    | cons lead rest =>
      rcases hchar : decodeChar lead rest with ⟨count, flaw⟩ | ⟨c, after⟩
      · rw [decodeFrom] at h
        split at h
        · rename_i hchar'
          cases hchar.symm.trans hchar'
          cases h
          exact ⟨[], lead, rest, [], rfl, rfl, by rw [decode, decodeFrom], hchar⟩
        · rename_i hchar'
          cases hchar.symm.trans hchar'
      · have hlength := length_of_decodeChar hchar
        rw [List.length_cons] at hlen
        rw [decodeFrom_cons hchar] at h
        rcases hafter : decodeFrom (start + (rest.length + 1 - after.length)) after with e' | tail
        · rw [hafter] at h
          cases h
          obtain ⟨front, lead', rest', l, rfl, hstart, hfront, hflaw⟩ :=
            ih after.length (by omega) hafter rfl
          obtain ⟨used, rfl, hused⟩ := exists_of_decodeChar hchar
          refine ⟨lead :: (used ++ front), lead', rest', c :: l, by simp, ?_, ?_, hflaw⟩
          · rw [hstart]
            simp only [List.length_cons, List.length_append]
            omega
          · rw [decode, decodeFrom_cons (hused front), decodeFrom_of_decodeFrom hfront]
            rfl
        · rw [hafter] at h
          cases h

/-- Bytes that begin with no character cannot be decoded. -/
theorem decode_ne_ok_of_decodeChar {lead : UInt8} {rest : Bytes} {reason : Nat × Flaw}
    (h : decodeChar lead rest = .error reason) (l : List Char) : decode (lead :: rest) ≠ .ok l := by
  intro hdecode
  obtain ⟨c, after, tail, hchar, -⟩ := decodeFrom_cons_eq_ok hdecode
  cases h.symm.trans hchar

/-- Bytes that only begin a character are no text. -/
def Waits (held : Bytes) : Prop :=
  ∀ l, decode held = .ok l → held = []

/-- What is decoded of bytes that may go on stands in front of what waits for more, so that whatever
comes next is decoded behind it. -/
theorem of_decodeOpen_ok {bytes held : Bytes} {l : List Char}
    (h : decodeOpen bytes = .ok (l, held)) :
    Waits held ∧ ∀ more m, decode (bytes ++ more) = .ok m ↔
      ∃ m', decode (held ++ more) = .ok m' ∧ m = l ++ m' := by
  unfold decodeOpen at h
  rcases hdecode : decode bytes with e | l'
  · rw [hdecode] at h
    dsimp only at h
    split at h
    · obtain ⟨front, lead, rest, l', rfl, hstart, hfront, hchar⟩ :=
        exists_of_decodeFrom_error hdecode
      rw [hstart, Nat.zero_add, List.drop_left, List.take_left, hfront] at h
      obtain ⟨rfl, rfl⟩ := Prod.mk.inj (Except.ok.inj h)
      refine ⟨fun l hl => absurd hl (decode_ne_ok_of_decodeChar hchar l), fun more m => ?_⟩
      rw [List.append_assoc]
      exact decodeFrom_append_eq_ok_iff hfront
    · cases h
  · rw [hdecode] at h
    obtain ⟨rfl, rfl⟩ := Prod.mk.inj (Except.ok.inj h)
    exact ⟨fun _ _ => rfl, fun more m => decodeFrom_append_eq_ok_iff hdecode⟩

/-- Bytes that are refused although they may go on are no text, whatever comes next. -/
theorem of_decodeOpen_error {bytes : Bytes} {e : DecodeError} (h : decodeOpen bytes = .error e)
    (more : Bytes) (m : List Char) : decode (bytes ++ more) ≠ .ok m := by
  unfold decodeOpen at h
  rcases hdecode : decode bytes with e' | l'
  · rw [hdecode] at h
    dsimp only at h
    split at h
    · cases h
    · rename_i hwaits
      cases h
      obtain ⟨front, lead, rest, l, rfl, -, hfront, hchar⟩ := exists_of_decodeFrom_error hdecode
      have hflaw : e.flaw ≠ .unexpectedEnd := fun hflaw => hwaits (by simp [hflaw])
      intro hmore
      rw [List.append_assoc] at hmore
      obtain ⟨m', hrest, -⟩ := (decodeFrom_append_eq_ok_iff hfront).1 hmore
      exact decode_ne_ok_of_decodeChar (decodeChar_append_of_error hchar hflaw more) m' hrest
  · rw [hdecode] at h
    cases h

/-- Chunks arrive without an error exactly when all of them can be decoded at once, and bring the
decoded text. -/
theorem decodeChunks_error_eq_none_iff {held : Bytes} (hheld : Waits held) {chunks : List Bytes}
    {l : List Char} :
    (decodeChunks held chunks).error = none ∧ (decodeChunks held chunks).text = l ↔
      decode (held ++ chunks.flatten) = .ok l := by
  induction chunks generalizing held l with
  | nil =>
    rw [decodeChunks, List.flatten_nil, List.append_nil]
    cases decode held <;> simp
  | cons chunk chunks ih =>
    rw [decodeChunks, List.flatten_cons, ← List.append_assoc]
    rcases hopen : decodeOpen (held ++ chunk) with e | ⟨front, held'⟩
    · exact iff_of_false (by simp) (of_decodeOpen_error hopen _ _)
    · obtain ⟨hwaits, hmore⟩ := of_decodeOpen_ok hopen
      rw [hmore]
      constructor
      · rintro ⟨herror, rfl⟩
        exact ⟨_, (ih hwaits).1 ⟨herror, rfl⟩, rfl⟩
      · rintro ⟨m, hm, rfl⟩
        obtain ⟨herror, htext⟩ := (ih hwaits).2 hm
        exact ⟨herror, congrArg (front ++ ·) htext⟩

/-- The chunks of bytes are these bytes. -/
theorem flatten_chunks (bytes : Bytes) : (chunks bytes).flatten = bytes := by
  have htake (n : Nat) : ((List.range n).map fun i =>
      (bytes.drop (i * chunkSize)).take chunkSize).flatten = bytes.take (n * chunkSize) := by
    induction n with
    | zero => simp
    | succ n ih =>
      rw [List.range_succ, List.map_append, List.flatten_append, ih, Nat.succ_mul, List.take_add]
      simp
  unfold chunks
  rw [htake, List.take_of_length_le]
  have hdivide := @Nat.lt_div_mul_add bytes.length chunkSize (by decide)
  rw [Nat.succ_mul]
  exact Nat.le_of_lt hdivide

/-- Bytes arrive without an error exactly when they can be decoded, and bring the decoded text. -/
theorem decodeStream_error_eq_none_iff {bytes : Bytes} {l : List Char} :
    (decodeStream bytes).error = none ∧ (decodeStream bytes).text = l ↔ decode bytes = .ok l := by
  have hchunks := @decodeChunks_error_eq_none_iff [] (fun _ _ => rfl) (chunks bytes) l
  rwa [List.nil_append, flatten_chunks] at hchunks

end SecureForward.Text.Utf8
