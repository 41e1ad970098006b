import LedgerLogin.Proofs.Bytes.Digits
import LedgerLogin.Proofs.LoginData.Decoding
import LedgerLogin.Proofs.Payload.Fields
import LedgerLogin.Proofs.StringMap.Entries

/-!
# Passwords that are read back

The data that a password carries is read back from it (`ofPassword_encode`). The only data that
no password carries has a negative expiry, and nothing is lost on the way: an absent protocol or
expiry stays absent, and the entries of the extra data come back in their order, which is the one
that the map has them in.
-/

namespace LedgerLogin

namespace LoginData

open Payload Wire

/-! ## Entries of the extra data -/

theorem run_entryFormat_field {field : Nat} {text : String} {a b : String × String}
    (hfield : 0 < field ∧ field < 2 ^ 29) (hlen : (utf8 text).length < 2 ^ 64)
    (happly : applyEntry a (.delimited field (utf8 text)) = some b) (rest : Bytes) :
    Reader.run entryFormat ⟨[], a⟩ (delimitedField field (utf8 text) ++ rest) =
      Reader.run entryFormat ⟨[], b⟩ rest :=
  Reader.run_field (delimitedField_spells hfield.1 hfield.2 hlen) (by decide) (by simp) (by simp)
    happly rest

theorem entryOf?_encodeEntry (e : String × String) (h : (encodeEntry e).length < 2 ^ 64) :
    entryOf? (encodeEntry e) = some e := by
  obtain ⟨key, value⟩ := e
  have hempty : ∀ text : String, text.isEmpty = true → "" = text := by
    intro text htext
    exact (String.isEmpty_iff.1 htext).symm
  have hutf8 : ∀ text, ofUtf8? (utf8 text) = some text := fun text => ofUtf8?_eq_some.2 rfl
  simp only [encodeEntry, List.length_append] at h
  -- An empty part is not written, and reading starts with empty parts.
  have hkey : ∀ rest, Reader.run entryFormat ⟨[], ("", "")⟩
      ((if key.isEmpty then [] else delimitedField 1 (utf8 key)) ++ rest) =
      Reader.run entryFormat ⟨[], (key, "")⟩ rest := by
    refine Reader.run_optional (fun hk => by rw [← hempty key hk]) fun hk => ?_
    rw [if_neg hk] at h
    have hlen := length_le_delimitedField 1 (utf8 key)
    exact run_entryFormat_field (by omega) (by omega) (by simp [applyEntry, hutf8])
  have hvalue : ∀ rest, Reader.run entryFormat ⟨[], (key, "")⟩
      ((if value.isEmpty then [] else delimitedField 2 (utf8 value)) ++ rest) =
      Reader.run entryFormat ⟨[], (key, value)⟩ rest := by
    refine Reader.run_optional (fun hv => by rw [← hempty value hv]) fun hv => ?_
    rw [if_neg hv] at h
    have hlen := length_le_delimitedField 2 (utf8 value)
    exact run_entryFormat_field (by omega) (by omega) (by simp [applyEntry, hutf8])
  have hrun : Reader.run entryFormat ⟨[], ("", "")⟩ (encodeEntry (key, value)) =
      some ⟨[], (key, value)⟩ := by
    rw [← List.append_nil (encodeEntry (key, value)), encodeEntry, List.append_assoc, hkey, hvalue,
      Reader.run_nil]
  unfold entryOf? read?
  simp only [hrun, bind, Option.bind_some, List.isEmpty_nil, if_true]

/-! ## The fields of the data -/

/-- What the fields of the data come to. -/
def contentOf (d : LoginData) : Content where
  signature := if d.signature.isEmpty then none else some d.signature
  expiry := d.expiry.map fun e => e.toInt.toNat
  extra := d.extra
  protocol := d.protocol.map Protocol.code

theorem run_format_field {c c' : Content} {bs : Bytes} {t : Wire.Token}
    (hspells : Spells [3] bs t) (hstart : ∀ n, t ≠ .startGroup n) (hend : ∀ n, t ≠ .endGroup n)
    (happly : apply c t = some c') (rest : Bytes) :
    Reader.run format ⟨[], c⟩ (bs ++ rest) = Reader.run format ⟨[], c'⟩ rest :=
  Reader.run_field hspells (by decide) hstart hend happly rest

theorem run_signature (signature : Bytes) (c : Content) (hc : c.signature = none)
    (hlen : signature.length < 2 ^ 64) (rest : Bytes) :
    Reader.run format ⟨[], c⟩
        ((if signature.isEmpty then [] else [delimitedField 1 signature]).flatten ++ rest) =
      Reader.run format
        ⟨[], { c with signature := if signature.isEmpty then none else some signature }⟩ rest := by
  split
  · rw [← hc]
    rfl
  · simp only [List.flatten_cons, List.flatten_nil, List.append_nil]
    exact run_format_field (delimitedField_spells (by decide) (by decide) hlen) (by simp) (by simp)
      rfl rest

theorem run_expiry (expiry : Option Int64) (c : Content) (hc : c.expiry = none) (rest : Bytes) :
    Reader.run format ⟨[], c⟩
        ((expiry.toList.map fun e => varintField 2 e.toInt.toNat).flatten ++ rest) =
      Reader.run format ⟨[], { c with expiry := expiry.map fun e => e.toInt.toNat }⟩ rest := by
  cases expiry with
  | none =>
    rw [Option.map_none, ← hc]
    rfl
  | some e =>
    have hle := e.toInt_le
    have hmax : Int64.maxValue.toInt = 2 ^ 63 - 1 := by decide
    simp only [Option.toList_some, List.map_cons, List.map_nil, List.flatten_cons,
      List.flatten_nil, List.append_nil, Option.map_some]
    exact run_format_field (varintField_spells (by decide) (by decide) (by decide) (by omega))
      (by simp) (by simp) rfl rest

theorem run_extra (entries : List (String × String)) (c : Content) (rest : Bytes)
    (hlen : ∀ e ∈ entries, (encodeEntry e).length < 2 ^ 64) :
    Reader.run format ⟨[], c⟩
        ((entries.map fun e => delimitedField 3 (encodeEntry e)).flatten ++ rest) =
      Reader.run format
        ⟨[], { c with extra := entries.foldl (fun m e => m.insert e.1 e.2) c.extra }⟩ rest := by
  induction entries generalizing c with
  | nil => rfl
  | cons e entries ih =>
    have he := hlen e List.mem_cons_self
    have happly : apply c (.delimited 3 (encodeEntry e)) =
        some { c with extra := c.extra.insert e.1 e.2 } := by
      simp [apply, entryOf?_encodeEntry e he]
    rw [List.map_cons, List.flatten_cons, List.append_assoc,
      run_format_field (delimitedField_spells (by decide) (by decide) he) (by simp) (by simp) happly,
      ih _ fun x hx => hlen x (List.mem_cons_of_mem e hx)]
    rfl

theorem run_protocol (protocol : Option Protocol) (c : Content) (hc : c.protocol = none)
    (rest : Bytes) :
    Reader.run format ⟨[], c⟩
        ((protocol.toList.map fun p => varintField 4 p.code.toNat).flatten ++ rest) =
      Reader.run format ⟨[], { c with protocol := protocol.map Protocol.code }⟩ rest := by
  cases protocol with
  | none =>
    rw [Option.map_none, ← hc]
    rfl
  | some p =>
    have hcode : p.code.toNat < 2 ^ 64 ∧ lowInt32 p.code.toNat = p.code := by
      cases p <;> decide
    simp only [Option.toList_some, List.map_cons, List.map_nil, List.flatten_cons,
      List.flatten_nil, List.append_nil, Option.map_some]
    exact run_format_field (varintField_spells (by decide) (by decide) (by decide) hcode.1)
      (by simp) (by simp) (by simp [apply, hcode.2]) rest

theorem length_le_of_mem_fields {d : LoginData} {bs : Bytes} (h : bs ∈ d.fields) :
    bs.length ≤ d.fields.flatten.length :=
  (List.sublist_flatten_of_mem h).length_le

/-- Data fits the wire if what stands behind a length in it has a length of 64 bits: its signature
and each entry of its extra data. -/
def Fits (d : LoginData) : Prop :=
  d.signature.length < 2 ^ 64 ∧ ∀ e ∈ d.extra.entries, (encodeEntry e).length < 2 ^ 64

/-- Data fits if its message does, because no part is longer than the whole. -/
theorem fits_of_length_lt {d : LoginData} (hsize : d.fields.flatten.length < 2 ^ 64) : d.Fits := by
  constructor
  · by_cases hempty : d.signature.isEmpty = true
    · rw [List.isEmpty_iff.1 hempty]
      decide
    · have hmem : delimitedField 1 d.signature ∈ d.fields := by simp [fields, hempty]
      have hle := length_le_of_mem_fields hmem
      have hlen := length_le_delimitedField 1 d.signature
      omega
  · intro e he
    have hmem : delimitedField 3 (encodeEntry e) ∈ d.fields := by
      simp only [fields, List.mem_append, List.mem_map]
      exact .inl (.inr ⟨e, he, rfl⟩)
    have hle := length_le_of_mem_fields hmem
    have hlen := length_le_delimitedField 3 (encodeEntry e)
    omega

theorem content?_fields {d : LoginData} (hfits : d.Fits) :
    content? d.fields.flatten = some (contentOf d) := by
  have hrun : Reader.run format ⟨[], {}⟩ d.fields.flatten = some ⟨[], contentOf d⟩ := by
    rw [← List.append_nil d.fields.flatten]
    simp only [fields, List.flatten_append, List.append_assoc]
    rw [run_signature _ _ rfl hfits.1, run_expiry _ _ rfl, run_extra _ _ _ hfits.2,
      run_protocol _ _ rfl, Reader.run_nil]
    simp only [contentOf, StringMap.foldl_entries]
  unfold content? read?
  simp only [hrun, bind, Option.bind_some, List.isEmpty_nil, if_true]

/-- The checks find nothing wrong with what can be written. -/
theorem ofContent_contentOf {d : LoginData} (hexpiry : ∀ e, d.expiry = some e → 0 ≤ e.toInt) :
    ofContent (contentOf d) = .ok d := by
  refine ofContent_eq_ok.2 ⟨?_, ?_, rfl, ?_⟩
  · cases hp : d.protocol with
    | none =>
      simp only [contentOf, hp]
      rfl
    | some p =>
      simp only [contentOf, hp]
      cases p <;> rfl
  · cases he : d.expiry with
    | none =>
      simp only [contentOf, he]
      rfl
    | some e =>
      have htime : readExpiry e.toInt.toNat = .ok e := by
        rw [readExpiry_eq_ok, Int.toNat_of_nonneg (hexpiry e he)]
      simp only [contentOf, he, Option.map_some, Option.mapM_some, htime]
      rfl
  · simp only [contentOf]
    split
    · rename_i hempty
      rw [List.isEmpty_iff.1 hempty]
      rfl
    · rfl

theorem encode_of_nonneg {d : LoginData} (hexpiry : ∀ e, d.expiry = some e → 0 ≤ e.toInt) :
    d.encode = .ok d.fields.flatten := by
  unfold encode
  cases he : d.expiry with
  | none => rfl
  | some e =>
    have hneg : ¬ e < 0 := by
      rw [Int64.lt_iff_toInt_lt]
      exact Int.not_lt.2 (hexpiry e he)
    simp only [if_neg hneg]

theorem toPassword_of_nonneg {d : LoginData} (hexpiry : ∀ e, d.expiry = some e → 0 ≤ e.toInt) :
    d.toPassword = .ok (Base64.encode d.fields.flatten) := by
  rw [toPassword, encode_of_nonneg hexpiry]
  rfl

theorem toPassword_of_neg {d : LoginData} {e : Int64} (he : d.expiry = some e)
    (hneg : e.toInt < 0) : d.toPassword = .error (.negativeExpiry e) := by
  have hlt : e < 0 := Int64.lt_iff_toInt_lt.2 hneg
  unfold toPassword encode
  simp only [he, if_pos hlt]
  rfl

theorem ofPassword_encode_of_fits {d : LoginData}
    (hexpiry : ∀ e, d.expiry = some e → 0 ≤ e.toInt) (hfits : d.Fits) :
    ofPassword (Base64.encode d.fields.flatten) = .ok d :=
  ofPassword_eq_ok.2
    ⟨_, _, Base64.decode?_encode _, content?_fields hfits, ofContent_contentOf hexpiry⟩

/-- The data that a password carries is read back from it. -/
theorem ofPassword_encode {d : LoginData} (hexpiry : ∀ e, d.expiry = some e → 0 ≤ e.toInt)
    (hsize : d.fields.flatten.length < 2 ^ 64) :
    ofPassword (Base64.encode d.fields.flatten) = .ok d :=
  ofPassword_encode_of_fits hexpiry (fits_of_length_lt hsize)

end LoginData

end LedgerLogin
