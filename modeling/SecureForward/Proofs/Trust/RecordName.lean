import SecureForward.Proofs.Encoding.Base64
import SecureForward.Proofs.Text.Split
import SecureForward.Proofs.Trust.Store

/-!
# Hashed names

A hashed name is a visible word whatever name it hides, so a name cannot bring further fields or
lines with it. Its salt is read back (`salt_hashed`), hence it denotes the name that it was made
from (`denotes_hashed`), and it is not yet recorded where that name denotes nothing
(`hashed_not_mem`).
-/

namespace SecureForward

namespace RecordName

open SecureForward.Text (IsVisible split)
open SecureForward.Text.Utf8 (Bytes)

/-- A hashed name begins like one. -/
theorem isHashed_hashed (s : Bytes) (name : String) : isHashed (hashed s name) = true := by
  unfold isHashed hashed
  rw [String.toList_ofList, List.isPrefixOf_iff_prefix, List.append_assoc]
  exact List.prefix_append ..

/-- A hashed name consists of visible characters of ASCII, and no comma is among them. -/
theorem visible_of_mem_hashed {s : Bytes} {name : String} {c : Char}
    (h : c ∈ (hashed s name).toList) : IsVisible c ∧ c ≠ ',' := by
  have hmark {c : Char} (hc : c ∈ mark) : IsVisible c ∧ c ≠ ',' := by
    have hcomma : ',' ∉ mark := by decide
    refine ⟨Text.visible_of_all (by decide) c hc, ?_⟩
    rintro rfl
    exact hcomma hc
  have hencoded {bytes : Bytes} (h : c ∈ Base64.encode bytes) : IsVisible c ∧ c ≠ ',' :=
    ⟨(Base64.visible_of_mem_encode h).1, (Base64.visible_of_mem_encode h).2.2⟩
  unfold hashed at h
  rw [String.toList_ofList, List.mem_append, List.mem_append, List.mem_cons] at h
  rcases h with (h | h) | rfl | h
  · exact hmark h
  · exact hencoded h
  · exact hmark (by decide)
  · exact hencoded h

/-- The salt is read back from a hashed name. -/
theorem salt_hashed (s : Bytes) (name : String) : salt (hashed s name) = .ok s := by
  have hbar (bytes : Bytes) : split (· = '|') (Base64.encode bytes) = [Base64.encode bytes] :=
    Text.split_of_forall fun c hc => decide_eq_false (Base64.visible_of_mem_encode hc).2.1
  have hfields : split (· = '|') (hashed s name).toList =
      [[], ['1'], Base64.encode s, Base64.encode (digest s name)] := by
    unfold hashed
    rw [String.toList_ofList, Text.split_append_cons (by simp), hbar]
    change split _ ([] ++ '|' :: (['1'] ++ '|' :: Base64.encode s)) ++ _ = _
    rw [Text.split_append_cons (by simp), Text.split_append_cons (by simp), hbar]
    rfl
  unfold salt
  rw [hfields]
  simp only [List.getD_cons_succ, List.getD_cons_zero, Base64.decode_encode]

/-- What a salt of the right length makes of a name is its hashed form. -/
theorem eq_hashed_of_hash {s : Bytes} {name recorded : String} (h : hash s name = .ok recorded) :
    recorded = hashed s name := by
  unfold hash at h
  split at h
  · exact (Except.ok.inj h).symm
  · cases h

/-- A hashed name denotes the name that it was made from. -/
theorem denotes_hashed {s : Bytes} {name recorded : String} (hname : isHashed name = false)
    (hhash : hash s name = .ok recorded) : denotes recorded name = .ok true := by
  have hrecorded := eq_hashed_of_hash hhash
  have hmarked : isHashed recorded = true := hrecorded ▸ isHashed_hashed s name
  have hne : recorded ≠ name := by
    rintro rfl
    rw [hname] at hmarked
    cases hmarked
  have hsalt : salt recorded = .ok s := hrecorded ▸ salt_hashed s name
  unfold denotes
  rw [if_neg hne, if_pos (by simp [hmarked, hname]), hsalt]
  change (hash s name >>= fun form => _) = _
  rw [hhash]
  change Except.ok (recorded == recorded) = _
  rw [BEq.rfl]

/-- A name that begins like a hashed one is denoted by itself only. -/
theorem denotes_of_isHashed {recorded name : String} (hname : isHashed name = true)
    (hne : recorded ≠ name) : denotes recorded name = .ok false := by
  unfold denotes
  rw [if_neg hne, if_neg (by simp [hname])]

end RecordName

namespace TrustStore

open RecordName (denotes hash isHashed)
open SecureForward.Text.Utf8 (Bytes)

/-- A host is denoted by none of the names exactly when each of them denotes something else. -/
theorem anyDenotes_eq_false_iff {host : String} {names : List String} :
    anyDenotes host names = .ok false ↔ ∀ name ∈ names, denotes name host = .ok false := by
  induction names with
  | nil => simp [anyDenotes]
  | cons name names ih =>
    rw [List.forall_mem_cons, ← ih, anyDenotes]
    rcases denotes name host with e | _ | _
    · constructor
      · intro h
        cases h
      · rintro ⟨h, -⟩
        cases h
    · exact ⟨fun h => ⟨rfl, h⟩, fun h => h.2⟩
    · constructor
      · intro h
        cases h
      · rintro ⟨h, -⟩
        cases h

/-- What denotes a host without an entry is not recorded. -/
theorem not_mem_of_denotes {store : TrustStore} {host recorded : String}
    (hlookup : store.lookup host = .ok []) (hdenotes : denotes recorded host = .ok true) :
    ∀ entry ∈ store.entries, recorded ∉ entry.names := by
  intro entry hentry hmem
  have hnone := anyDenotes_eq_false_iff.1 (lookup_eq_nil_iff.1 hlookup entry hentry) recorded hmem
  rw [hdenotes] at hnone
  cases hnone

/-- The hashed name of a host without an entry is not recorded. -/
theorem hashed_not_mem {store : TrustStore} {host recorded : String} {s : Bytes}
    (hhost : isHashed host = false) (hlookup : store.lookup host = .ok [])
    (hhash : hash s host = .ok recorded) : ∀ entry ∈ store.entries, recorded ∉ entry.names :=
  not_mem_of_denotes hlookup (RecordName.denotes_hashed hhost hhash)

/-- A name that begins like a hashed one and is not recorded has no entry. -/
theorem lookup_of_not_mem {store : TrustStore} {name : String} (hname : isHashed name = true)
    (hmem : ∀ entry ∈ store.entries, name ∉ entry.names) : store.lookup name = .ok [] := by
  refine lookup_eq_nil_iff.2 fun entry hentry => anyDenotes_eq_false_iff.2 fun recorded hrecorded =>
    ?_
  refine RecordName.denotes_of_isHashed hname ?_
  rintro rfl
  exact hmem entry hentry hrecorded

/-- A key is recorded behind all entries under a name that none of them has. -/
theorem insert_of_not_mem {store : TrustStore} {name : String} (key : HostKey)
    (hmem : ∀ entry ∈ store.entries, name ∉ entry.names) :
    store.insert name key = { entries := store.entries ++ [{ names := [name], key }] } := by
  have hreplace (entries : List Entry) (h : ∀ entry ∈ entries, name ∉ entry.names) :
      replaceIn name key entries = none := by
    induction entries with
    | nil => rfl
    | cons entry entries ih =>
      rw [List.forall_mem_cons] at h
      rw [replaceIn, if_neg (by simp [h.1]), ih h.2]
      rfl
  unfold insert
  rw [hreplace store.entries hmem]

end TrustStore

end SecureForward
