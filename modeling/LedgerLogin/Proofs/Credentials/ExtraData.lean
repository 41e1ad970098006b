import LedgerLogin.Proofs.Bytes.Order
import LedgerLogin.Proofs.Commitment.Binding
import LedgerLogin.Proofs.StringMap.Override

/-!
# Extra data counts by its association

The extra data of credentials is changed by inserting and erasing entries and by replacing or
erasing all of them. What counts in the end is which value each key is left with, and not how it got
there: credentials that are left with the same values are the same, and so are their commitments and
their passwords (`Credentials.edit_canonical`). The hash and the payload list the entries in one
order, which is that of the bytes of the keys.
-/

namespace LedgerLogin

inductive ExtraEdit where
  /-- A key gets a value, in place of any other. -/
  | insert (key value : String)
  | erase (key : String)
  /-- All values are replaced; of two entries with one key the later counts. -/
  | replaceAll (entries : List (String × String))
  | eraseAll
  deriving DecidableEq, Repr

namespace ExtraEdit

def apply (c : Credentials) : ExtraEdit → Credentials
  | insert key value => (c.addExtra key value).2
  | erase key => (c.removeExtra key).2
  | replaceAll entries => c.setExtra entries
  | eraseAll => c.clearExtra

/-- The values that keys have after a change. -/
def associate (value? : String → Option String) : ExtraEdit → String → Option String
  | insert key value, k => if k = key then some value else value? k
  | erase key, k => if k = key then none else value? k
  | replaceAll entries, k => entries.reverse.lookup k
  | eraseAll, _ => none

/-- The values that keys are left with by changes one after the other. -/
def leaves (value? : String → Option String) (edits : List ExtraEdit) : String → Option String :=
  edits.foldl associate value?

end ExtraEdit

namespace Credentials

def edit (c : Credentials) (edits : List ExtraEdit) : Credentials := edits.foldl ExtraEdit.apply c

/-! ## One change, and all of them -/

theorem get?_extra_apply (c : Credentials) (e : ExtraEdit) :
    (e.apply c).extra.get? = e.associate c.extra.get? := by
  funext k
  cases e with
  | insert key value => exact StringMap.get?_insert c.extra key value k
  | erase key => exact StringMap.get?_erase c.extra key k
  | replaceAll entries => exact StringMap.get?_ofList entries k
  | eraseAll => rfl

theorem clearExtra_apply (c : Credentials) (e : ExtraEdit) :
    (e.apply c).clearExtra = c.clearExtra := by
  cases e <;> rfl

theorem get?_extra_edit (c : Credentials) (edits : List ExtraEdit) :
    (c.edit edits).extra.get? = ExtraEdit.leaves c.extra.get? edits := by
  induction edits generalizing c with
  | nil => rfl
  | cons e edits ih =>
    calc ((e.apply c).edit edits).extra.get?
        = ExtraEdit.leaves (e.apply c).extra.get? edits := ih (e.apply c)
      _ = ExtraEdit.leaves c.extra.get? (e :: edits) := by
        rw [get?_extra_apply]
        rfl

theorem clearExtra_edit (c : Credentials) (edits : List ExtraEdit) :
    (c.edit edits).clearExtra = c.clearExtra := by
  induction edits generalizing c with
  | nil => rfl
  | cons e edits ih =>
    calc ((e.apply c).edit edits).clearExtra = (e.apply c).clearExtra := ih (e.apply c)
      _ = c.clearExtra := clearExtra_apply c e

theorem agree_of_clearExtra {c₁ c₂ : Credentials} (h : c₁.clearExtra = c₂.clearExtra) :
    c₁.name = c₂.name ∧ c₁.app = c₂.app ∧ c₁.data.protocol = c₂.data.protocol ∧
      c₁.expiry = c₂.expiry ∧ c₁.signature = c₂.signature := by
  simp only [clearExtra, mk.injEq, LoginData.mk.injEq] at h
  obtain ⟨hname, happ, hprotocol, hexpiry, -, hsignature⟩ := h
  exact ⟨hname, happ, hprotocol, hexpiry, hsignature⟩

theorem eq_of_clearExtra {c₁ c₂ : Credentials} (hrest : c₁.clearExtra = c₂.clearExtra)
    (hextra : c₁.extra = c₂.extra) : c₁ = c₂ :=
  calc c₁ = { c₁.clearExtra with data.extra := c₁.extra } := rfl
    _ = { c₂.clearExtra with data.extra := c₂.extra } := by rw [hrest, hextra]
    _ = c₂ := rfl

/-- Changes that leave the same values leave the same credentials. -/
theorem edit_eq_of_leaves {c₁ c₂ : Credentials} {edits₁ edits₂ : List ExtraEdit}
    (hrest : c₁.clearExtra = c₂.clearExtra)
    (hleft : ∀ k, ExtraEdit.leaves c₁.extra.get? edits₁ k = ExtraEdit.leaves c₂.extra.get? edits₂ k) :
    c₁.edit edits₁ = c₂.edit edits₂ := by
  refine eq_of_clearExtra ?_ (StringMap.ext_get? fun k => ?_)
  · rw [clearExtra_edit, clearExtra_edit, hrest]
  · rw [get?_extra_edit, get?_extra_edit, hleft]

end Credentials

/-! ## The order of the entries -/

def AscendingByBytes (entries : List (String × String)) : Prop :=
  entries.Pairwise fun a b => utf8 a.1 < utf8 b.1

theorem ascendingByBytes_iff {entries : List (String × String)} :
    AscendingByBytes entries ↔ Ascending entries := by
  simp only [AscendingByBytes, Ascending, utf8_lt_iff]

/-- Entries in the order of their keys are those of the map with the same values. -/
theorem StringMap.entries_eq_of_lookup {m : StringMap String} {entries : List (String × String)}
    (h : AscendingByBytes entries) (hvalues : ∀ k, entries.lookup k = m.get? k) :
    m.entries = entries :=
  (eq_of_lookup (ascendingByBytes_iff.1 h) m.ascending hvalues).symm

theorem Commitment.body_of_entries {c : Credentials} {entries : List (String × String)}
    (h : c.extra.entries = entries) (domain : SigningDomain) :
    (Commitment.ofCredentials domain c).body =
      keccak256 (hashText challengeType ++ hashText c.name ++ hashText c.app ++
        intWord (committedExpiry c.expiry) ++
        (keccak256 (entries.flatMap fun e => (keccak256 (entryPreimage e)).toList)).toList) := by
  rw [← h]
  rfl

theorem LoginData.encode_of_entries {d : LoginData} {entries : List (String × String)}
    {payload : Bytes} (h : d.extra.entries = entries) (hpayload : d.encode = .ok payload) :
    payload =
      ((if d.signature.isEmpty then [] else [Wire.delimitedField 1 d.signature]) ++
        (d.expiry.toList.map fun e => Wire.varintField 2 e.toInt.toNat) ++
        (entries.map fun e => Wire.delimitedField 3 (LoginData.encodeEntry e)) ++
        (d.protocol.toList.map fun p => Wire.varintField 4 p.code.toNat)).flatten := by
  have hfields : payload = d.fields.flatten := by
    unfold LoginData.encode at hpayload
    split at hpayload
    · split at hpayload
      · cases hpayload
      · exact (Except.ok.inj hpayload).symm
    · exact (Except.ok.inj hpayload).symm
  rw [hfields, LoginData.fields, h]

/-- Changes of the extra data leave each key with the value that was meant for it last, and the
entries in the order of the bytes of the keys, each key once. Any list of entries in this order with
these values is what the body of the commitment hashes and what the payload lists, one by one.
Inserting and erasing give the value that the key was left with.

Credentials that agree otherwise and are left with the same values by other changes are equal; under
every domain they have the same body and the same digest, and they have the same payload and the
same password. -/
theorem Credentials.edit_canonical (c : Credentials) (edits : List ExtraEdit) :
    (∀ k, (c.edit edits).extra.get? k = ExtraEdit.leaves c.extra.get? edits k) ∧
    AscendingByBytes (c.edit edits).extra.entries ∧
    ((c.edit edits).extra.entries.map Prod.fst).Nodup ∧
    (∀ entries, AscendingByBytes entries →
      (∀ k, entries.lookup k = ExtraEdit.leaves c.extra.get? edits k) →
      (∀ domain, (Commitment.ofCredentials domain (c.edit edits)).body =
        keccak256 (Commitment.hashText Commitment.challengeType ++ Commitment.hashText c.name ++
          Commitment.hashText c.app ++ Commitment.intWord (Commitment.committedExpiry c.expiry) ++
          (keccak256 (entries.flatMap fun e =>
            (keccak256 (Commitment.entryPreimage e)).toList)).toList)) ∧
      ∀ payload, (c.edit edits).data.encode = .ok payload → payload =
        ((if c.signature.isEmpty then [] else [Wire.delimitedField 1 c.signature]) ++
          (c.expiry.toList.map fun e => Wire.varintField 2 e.toInt.toNat) ++
          (entries.map fun e => Wire.delimitedField 3 (LoginData.encodeEntry e)) ++
          (c.data.protocol.toList.map fun p => Wire.varintField 4 p.code.toNat)).flatten) ∧
    (∀ key value,
      ((c.edit edits).addExtra key value).1 = ExtraEdit.leaves c.extra.get? edits key ∧
      ((c.edit edits).removeExtra key).1 = ExtraEdit.leaves c.extra.get? edits key) ∧
    ∀ (c' : Credentials) (edits' : List ExtraEdit), c'.clearExtra = c.clearExtra →
      (∀ k, ExtraEdit.leaves c'.extra.get? edits' k = ExtraEdit.leaves c.extra.get? edits k) →
      c'.edit edits' = c.edit edits ∧
      (∀ domain, (Commitment.ofCredentials domain (c'.edit edits')).body =
          (Commitment.ofCredentials domain (c.edit edits)).body ∧
        (Commitment.ofCredentials domain (c'.edit edits')).digest =
          (Commitment.ofCredentials domain (c.edit edits)).digest) ∧
      (c'.edit edits').data.encode = (c.edit edits).data.encode ∧
      (c'.edit edits').toPassword = (c.edit edits).toPassword := by
  have hvalues := congrFun (c.get?_extra_edit edits)
  obtain ⟨hname, happ, hprotocol, hexpiry, hsignature⟩ :=
    agree_of_clearExtra (c.clearExtra_edit edits)
  refine ⟨hvalues, ?_, (c.edit edits).extra.ascending.nodup_keys, ?_, ?_, ?_⟩
  · exact ascendingByBytes_iff.2 (c.edit edits).extra.ascending
  · intro entries hascending hlookup
    have hentries : (c.edit edits).extra.entries = entries :=
      StringMap.entries_eq_of_lookup hascending fun k => (hlookup k).trans (hvalues k).symm
    constructor
    · intro domain
      rw [Commitment.body_of_entries hentries, hname, happ, hexpiry]
    · intro payload hpayload
      rw [← hprotocol, ← hexpiry, ← hsignature]
      exact LoginData.encode_of_entries hentries hpayload
  · intro key value
    exact ⟨hvalues key, hvalues key⟩
  · intro c' edits' hagree hleft
    have hsame : c'.edit edits' = c.edit edits := edit_eq_of_leaves hagree hleft
    rw [hsame]
    exact ⟨rfl, fun _ => ⟨rfl, rfl⟩, rfl, rfl⟩

/-- Entries set one by one, one of them twice and one erased again, and the same entries set at once
after others: the passwords are the same. -/
theorem Credentials.edit_canonical_two_routes :
    let bare : Credentials := ⟨"domob", "app/example", {}⟩
    let oneByOne := [.insert "z" "1", .insert "é" "x", .insert "é" "2", .insert "c" "3", .erase "c"]
    let atOnce := [.replaceAll [("z", "0"), ("é", "2"), ("z", "1")]]
    (bare.addExtra "a" "9").2.clearExtra = bare.clearExtra ∧
      (∀ k, ExtraEdit.leaves (bare.addExtra "a" "9").2.extra.get? atOnce k =
        ExtraEdit.leaves bare.extra.get? oneByOne k) ∧
      ((bare.addExtra "a" "9").2.edit atOnce).toPassword = (bare.edit oneByOne).toPassword := by
  intro bare oneByOne atOnce
  have hleft : ∀ k, ExtraEdit.leaves (bare.addExtra "a" "9").2.extra.get? atOnce k =
      ExtraEdit.leaves bare.extra.get? oneByOne k := by
    intro k
    have hempty : bare.extra.get? k = none := rfl
    by_cases hz : k = "z"
    · subst hz
      decide
    by_cases he : k = "é"
    · subst he
      decide
    by_cases hc : k = "c" <;>
      simp [ExtraEdit.leaves, ExtraEdit.associate, oneByOne, atOnce,
        StringMap.lookup_cons_eq_ite, hz, he, hc, hempty]
  exact ⟨rfl, hleft, ((bare.edit_canonical oneByOne).2.2.2.2.2 _ atOnce rfl hleft).2.2.2⟩

end LedgerLogin
