import LedgerLogin.Credentials
import LedgerLogin.Proofs.Bytes.Canonical
import LedgerLogin.Proofs.LoginData.RoundTrip
import LedgerLogin.Proofs.Payload.Shortest

/-!
# Passwords lose nothing

Data without a negative expiry has a password, which is read back as that data just if the data fits
the wire (`ofPassword_toPassword_iff`). Data that is read always fits (`fits_of_ofPassword`): the
length of each part stood before it, and what counts of an entry is written no longer than it was
read. So a password that is accepted can be written anew and is read as the same data again, though
it may become another text; the text itself is the only one of its bytes.
-/

namespace LedgerLogin

namespace LoginData

open Payload Wire

/-! ## What is read fits -/

def entryPart (field : Nat) (text : String) : Bytes :=
  if text.isEmpty then [] else delimitedField field (utf8 text)

theorem encodeEntry_eq (e : String × String) :
    encodeEntry e = entryPart 1 e.1 ++ entryPart 2 e.2 := rfl

theorem length_entryPart_le (field : Nat) (text : String) :
    (entryPart field text).length ≤ (delimitedField field (utf8 text)).length := by
  unfold entryPart
  split
  · exact Nat.zero_le _
  · exact Nat.le_refl _

/-- A field of an entry puts nothing into it that would be longer than the field. -/
theorem length_encodeEntry_apply {a b : String × String} {t : Wire.Token} {delimited : List Nat}
    {bs rest : Bytes} (hnext : next? delimited bs = some (t, rest))
    (happly : applyEntry a t = some b) :
    (encodeEntry b).length + rest.length ≤ (encodeEntry a).length + bs.length := by
  have hskip := length_next hnext
  unfold applyEntry at happly
  split at happly
  · obtain ⟨key, hkey, rfl⟩ := Option.map_eq_some_iff.1 happly
    have hfield := (length_delimitedField_le (by decide) hnext).2
    rw [ofUtf8?_eq_some.1 hkey] at hfield
    have hpart := length_entryPart_le 1 key
    simp only [encodeEntry_eq, List.length_append]
    omega
  · obtain ⟨value, hvalue, rfl⟩ := Option.map_eq_some_iff.1 happly
    have hfield := (length_delimitedField_le (by decide) hnext).2
    rw [ofUtf8?_eq_some.1 hvalue] at hfield
    have hpart := length_entryPart_le 2 value
    simp only [encodeEntry_eq, List.length_append]
    omega
  · split at happly
    · cases happly
    · cases happly
      omega

theorem length_encodeEntry_le {bs : Bytes} {e : String × String} (h : entryOf? bs = some e) :
    (encodeEntry e).length ≤ bs.length := by
  have hle := read?_invariant (P := fun e rest => (encodeEntry e).length + rest.length ≤ bs.length)
    (fun hnext happly hbound => by
      have hstep := length_encodeEntry_apply hnext happly
      omega)
    (fun hnext hbound => by
      have hstep := length_next hnext
      omega)
    h (Nat.le_of_eq (Nat.zero_add _))
  exact hle

/-- Content whose parts have lengths of 64 bits. -/
def ContentFits (c : Content) : Prop :=
  (∀ signature, c.signature = some signature → signature.length < 2 ^ 64) ∧
    ∀ e ∈ c.extra.entries, (encodeEntry e).length < 2 ^ 64

theorem contentFits_apply {a b : Content} {t : Wire.Token} {delimited : List Nat}
    {bs rest : Bytes} (hnext : next? delimited bs = some (t, rest))
    (happly : Payload.apply a t = some b) (h : ContentFits a) : ContentFits b := by
  unfold Payload.apply at happly
  split at happly
  · cases happly
    refine ⟨?_, h.2⟩
    intro signature hsignature
    cases hsignature
    exact (length_delimitedField_le (by decide) hnext).1
  · cases happly
    exact h
  · obtain ⟨e, he, rfl⟩ := Option.map_eq_some_iff.1 happly
    refine ⟨h.1, ?_⟩
    intro x hx
    rcases mem_insertEntry hx with rfl | hx
    · have hle := length_encodeEntry_le he
      have hlt := (length_delimitedField_le (by decide) hnext).1
      exact Nat.lt_of_le_of_lt hle hlt
    · exact h.2 x hx
  · cases happly
    exact h
  · split at happly
    · cases happly
    · cases happly
      exact h

theorem contentFits_of_content? {bs : Bytes} {c : Content} (h : content? bs = some c) :
    ContentFits c := by
  have hempty : ContentFits {} := by
    constructor
    · intro signature hsignature
      cases hsignature
    · intro e he
      cases he
  exact read?_invariant (P := fun c _ => ContentFits c)
    (fun hnext happly hfits => contentFits_apply hnext happly hfits) (fun _ hfits => hfits) h hempty

theorem fits_of_ofPassword {password : String} {d : LoginData} (h : ofPassword password = .ok d) :
    d.Fits := by
  obtain ⟨bs, c, -, hc, hd⟩ := ofPassword_eq_ok.1 h
  obtain ⟨-, -, hextra, hsignature⟩ := ofContent_eq_ok.1 hd
  have hfits := contentFits_of_content? hc
  refine ⟨?_, hextra ▸ hfits.2⟩
  rw [hsignature]
  cases hs : c.signature with
  | none => exact Nat.two_pow_pos 64
  | some signature => exact hfits.1 signature hs

/-! ## Writing and reading -/

theorem encode_eq_error_iff {d : LoginData} {error : PasswordError} :
    d.encode = .error error ↔ ∃ e, d.expiry = some e ∧ e < 0 ∧ error = .negativeExpiry e := by
  unfold encode
  cases he : d.expiry with
  | none => simp
  | some e =>
    by_cases hneg : e < 0
    · simp [hneg, eq_comm]
    · simp [hneg]

theorem toPassword_eq_error_iff {d : LoginData} {error : PasswordError} :
    d.toPassword = .error error ↔ d.encode = .error error := by
  unfold toPassword
  cases d.encode with
  | error e => simp [Except.map]
  | ok bs => simp [Except.map]

theorem toPassword_eq_ok_iff {d : LoginData} {password : String} :
    d.toPassword = .ok password ↔ (∀ e, d.expiry = some e → 0 ≤ e.toInt) ∧
      password = Base64.encode d.fields.flatten := by
  constructor
  · intro h
    have hexpiry : ∀ e, d.expiry = some e → 0 ≤ e.toInt := by
      intro e he
      by_contra hneg
      rw [toPassword_of_neg he (Int.not_le.1 hneg)] at h
      cases h
    rw [toPassword_of_nonneg hexpiry] at h
    exact ⟨hexpiry, (Except.ok.inj h).symm⟩
  · rintro ⟨hexpiry, rfl⟩
    exact toPassword_of_nonneg hexpiry

theorem ofPassword_toPassword_iff {d : LoginData} {password : String}
    (h : d.toPassword = .ok password) : ofPassword password = .ok d ↔ d.Fits := by
  obtain ⟨hexpiry, rfl⟩ := toPassword_eq_ok_iff.1 h
  exact ⟨fits_of_ofPassword, ofPassword_encode_of_fits hexpiry⟩

theorem exists_toPassword_of_ofPassword {password : String} {d : LoginData}
    (h : ofPassword password = .ok d) :
    ∃ again, d.toPassword = .ok again ∧ ofPassword again = .ok d := by
  have hexpiry : ∀ e, d.expiry = some e → 0 ≤ e.toInt := fun e => ofPassword_expiry h
  have hagain := toPassword_of_nonneg hexpiry
  exact ⟨_, hagain, (ofPassword_toPassword_iff hagain).2 (fits_of_ofPassword h)⟩

theorem exists_bytes_of_ofPassword {password : String} {d : LoginData}
    (h : ofPassword password = .ok d) :
    ∃ bs, decode bs = .ok d ∧ password = Base64.encode bs ∧
      ∀ text, Base64.decode? text = some bs ↔ text = password := by
  obtain ⟨bs, c, hbs, hc, hd⟩ := ofPassword_eq_ok.1 h
  have htext := Base64.decode?_eq_some_iff.1 hbs
  refine ⟨bs, ?_, htext, ?_⟩
  · simp only [decode, hc, hd]
  · intro text
    rw [htext]
    exact Base64.decode?_eq_some_iff

/-- Passwords lose nothing. Only a negative expiry cannot be written. All other data is read back
from its password if it fits the wire, which it does if its message has fewer than `2 ^ 64` bytes;
so different data has different passwords. A text that is accepted is the one text of its bytes, and
its data has no negative expiry, can be written, and is read back then. -/
theorem password_lossless :
    (∀ (d : LoginData) (error : PasswordError),
      (d.encode = .error error ↔
        ∃ e, d.expiry = some e ∧ e < 0 ∧ error = .negativeExpiry e) ∧
      (d.toPassword = .error error ↔
        ∃ e, d.expiry = some e ∧ e < 0 ∧ error = .negativeExpiry e)) ∧
    (∀ (d : LoginData) (password : String), d.toPassword = .ok password →
      (ofPassword password = .ok d ↔ d.Fits)) ∧
    (∀ d : LoginData, d.fields.flatten.length < 2 ^ 64 → d.Fits) ∧
    (∀ (d₁ d₂ : LoginData) (password : String), d₁.Fits → d₂.Fits →
      d₁.toPassword = .ok password → d₂.toPassword = .ok password → d₁ = d₂) ∧
    (∀ (c : Credentials) (password : String), c.toPassword = .ok password → c.data.Fits →
      Credentials.ofPassword c.name c.app password = .ok c ∧
        ∀ other : Credentials, other.loadPassword password = .ok { other with data := c.data }) ∧
    (∀ (password : String) (d : LoginData), ofPassword password = .ok d →
      (∃ bs, decode bs = .ok d ∧ password = Base64.encode bs ∧
        ∀ text, Base64.decode? text = some bs ↔ text = password) ∧
      (∀ e, d.expiry = some e → 0 ≤ e.toInt ∧ e.toInt < 2 ^ 63) ∧
      ∃ again, d.toPassword = .ok again ∧ ofPassword again = .ok d) := by
  refine ⟨?_, ?_, ?_, ?_, ?_, ?_⟩
  · intro d error
    exact ⟨encode_eq_error_iff, toPassword_eq_error_iff.trans encode_eq_error_iff⟩
  · intro d password h
    exact ofPassword_toPassword_iff h
  · intro d hsize
    exact fits_of_length_lt hsize
  · intro d₁ d₂ password hfits₁ hfits₂ h₁ h₂
    have hread₁ := (ofPassword_toPassword_iff h₁).2 hfits₁
    have hread₂ := (ofPassword_toPassword_iff h₂).2 hfits₂
    rw [hread₁] at hread₂
    exact Except.ok.inj hread₂
  · intro c password h hfits
    have hread : ofPassword password = .ok c.data := (ofPassword_toPassword_iff h).2 hfits
    constructor
    · rw [Credentials.ofPassword, hread]
      rfl
    · intro other
      rw [Credentials.loadPassword, hread]
      rfl
  · intro password d h
    refine ⟨exists_bytes_of_ofPassword h, ?_, exists_toPassword_of_ofPassword h⟩
    intro e he
    have hmax : Int64.maxValue.toInt = 2 ^ 63 - 1 := by decide
    have hle := e.toInt_le
    exact ⟨ofPassword_expiry h he, by omega⟩

end LoginData

end LedgerLogin
