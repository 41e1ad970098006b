import LedgerLogin.Commitment
import LedgerLogin.Proofs.Hash.Collision
import LedgerLogin.Proofs.LoginData.Decoding

/-!
# What a digest binds

A digest is four levels of hashing over the content of credentials. Every level is read back: the
words of a preimage have fixed widths, the hashes of the entries of the extra data stand one after
the other in 32 bytes each, and the entries are listed in the one order that their keys allow. The
only way for two digests to be equal without the same domain and content is a collision among the
byte strings that were hashed for them.

The main statement is `digest_binds_domain_and_content`. The expiry is bound up to absence, which
is committed to as minus one; a password cannot carry a negative expiry (`ofPassword_expiry`), so
that for decoded credentials the expiry is bound as well.
-/

namespace LedgerLogin

namespace Commitment

/-! ## Words of a preimage -/

theorem uintWord_inj {m n : UInt64} (h : uintWord m = uintWord n) : m = n := by
  have hlt : ∀ x : UInt64, x.toNat < Nat.pow 256 32 := fun x =>
    Nat.lt_of_lt_of_le x.toNat_lt (by decide)
  exact UInt64.toNat_inj.1 (bigEndian_inj (hlt m) (hlt n) h)

theorem intWord_inj {i j : Int64} (h : intWord i = intWord j) : i = j := by
  obtain ⟨-, hd⟩ := List.append_inj h (by simp)
  have hlt : ∀ x : UInt64, x.toNat < Nat.pow 256 8 := fun x => x.toNat_lt
  have hu := UInt64.toNat_inj.1 (bigEndian_inj (hlt _) (hlt _) hd)
  cases i
  cases j
  simp only at hu
  rw [hu]

theorem addressWord_inj {a b : Address} (h : addressWord a = addressWord b) : a = b := by
  obtain ⟨-, hb⟩ := List.append_inj h (by simp)
  have := Vector.toList_inj.1 hb
  cases a
  cases b
  simp only at this
  rw [this]

@[simp] theorem length_hashText (s : String) : (hashText s).length = 32 := by simp [hashText]

@[simp] theorem length_uintWord (n : UInt64) : (uintWord n).length = 32 := by simp [uintWord]

@[simp] theorem length_intWord (i : Int64) : (intWord i).length = 32 := by simp [intWord]

@[simp] theorem length_addressWord (a : Address) : (addressWord a).length = 32 := by
  simp [addressWord]

/-! ## Preimages -/

theorem headerPreimage_inj {d₁ d₂ : SigningDomain} (h : headerPreimage d₁ = headerPreimage d₂) :
    d₁ = d₂ := by
  unfold headerPreimage at h
  obtain ⟨h, hcontract⟩ := List.append_inj h (by simp)
  obtain ⟨-, hchain⟩ := List.append_inj h (by simp)
  have e₁ := uintWord_inj hchain
  have e₂ := addressWord_inj hcontract
  cases d₁
  cases d₂
  simp only at e₁ e₂
  rw [e₁, e₂]

/-- Hashes that stand one after the other are told apart by their common length. -/
theorem eq_of_flatMap_hash_eq {α : Type} (f : α → Word) : ∀ {xs ys : List α},
    (∀ x ∈ xs, ∀ y ∈ ys, f x = f y → x = y) →
    (xs.flatMap fun x => (f x).toList) = (ys.flatMap fun y => (f y).toList) → xs = ys
  | [], [], _, _ => rfl
  | [], y :: ys, _, h => by
    -- Of two lists one cannot be longer: every hash adds 32 bytes.
    have hl := congrArg List.length h
    simp only [List.flatMap_nil, List.flatMap_cons, List.length_append, List.length_nil,
      Vector.length_toList] at hl
    omega
  | x :: xs, [], _, h => by
    have hl := congrArg List.length h
    simp only [List.flatMap_nil, List.flatMap_cons, List.length_append, List.length_nil,
      Vector.length_toList] at hl
    omega
  | x :: xs, y :: ys, hf, h => by
    simp only [List.flatMap_cons] at h
    obtain ⟨hhead, htail⟩ := List.append_inj h (by simp)
    have hxy := hf x List.mem_cons_self y List.mem_cons_self (Vector.toList_inj.1 hhead)
    have hrest := eq_of_flatMap_hash_eq f
      (fun a ha b hb => hf a (List.mem_cons_of_mem x ha) b (List.mem_cons_of_mem y hb)) htail
    rw [hxy, hrest]

/-- Credentials that a commitment does not tell apart: an absent expiry is as good as minus one,
and the protocol and the signature do not count. -/
structure SameContent (c₁ c₂ : Credentials) : Prop where
  name : c₁.name = c₂.name
  app : c₁.app = c₂.app
  expiry : committedExpiry c₁.expiry = committedExpiry c₂.expiry
  extra : c₁.extra = c₂.extra

/-- The byte strings that are hashed for an entry of the extra data. -/
def hashedForEntry (e : String × String) : List Bytes :=
  [entryPreimage e, utf8 extraType, utf8 e.1, utf8 e.2]

def hashedForBody (c : Credentials) : List Bytes :=
  [bodyPreimage c, utf8 challengeType, utf8 c.name, utf8 c.app, extraPreimage c.extra]
    ++ c.extra.entries.flatMap hashedForEntry

def hashedForHeader (d : SigningDomain) : List Bytes :=
  [headerPreimage d, utf8 domainType, utf8 domainName, utf8 domainVersion]

/-- The byte strings that are hashed for the digest of credentials under a domain. -/
def hashed (d : SigningDomain) (c : Credentials) : List Bytes :=
  (ofCredentials d c).preimage :: (hashedForHeader d ++ hashedForBody c)

/-! ## The levels of hashing -/

section
variable {hashes : List Bytes} (hc : ¬ Collision hashes)
include hc

theorem entry_eq_of_hash_eq {e₁ e₂ : String × String} (h₁ : hashedForEntry e₁ ⊆ hashes)
    (h₂ : hashedForEntry e₂ ⊆ hashes)
    (h : keccak256 (entryPreimage e₁) = keccak256 (entryPreimage e₂)) : e₁ = e₂ := by
  have hp := eq_of_keccak256_eq hc (h₁ (by simp [hashedForEntry]))
    (h₂ (by simp [hashedForEntry])) h
  obtain ⟨hp, hvalue⟩ := List.append_inj hp (by simp)
  obtain ⟨-, hkey⟩ := List.append_inj hp (by simp)
  have e₁' := eq_of_keccak256_utf8_eq hc (h₁ (by simp [hashedForEntry]))
    (h₂ (by simp [hashedForEntry])) hkey
  have e₂' := eq_of_keccak256_utf8_eq hc (h₁ (by simp [hashedForEntry]))
    (h₂ (by simp [hashedForEntry])) hvalue
  exact Prod.ext e₁' e₂'

theorem extra_eq_of_preimage_eq {m₁ m₂ : StringMap String}
    (h₁ : m₁.entries.flatMap hashedForEntry ⊆ hashes)
    (h₂ : m₂.entries.flatMap hashedForEntry ⊆ hashes)
    (h : extraPreimage m₁ = extraPreimage m₂) : m₁ = m₂ := by
  refine StringMap.ext (eq_of_flatMap_hash_eq (fun e => keccak256 (entryPreimage e)) ?_ h)
  intro x hx y hy
  refine entry_eq_of_hash_eq hc (fun b hb => h₁ ?_) (fun b hb => h₂ ?_)
  · exact List.mem_flatMap.2 ⟨x, hx, hb⟩
  · exact List.mem_flatMap.2 ⟨y, hy, hb⟩

theorem header_eq_iff {d₁ d₂ : SigningDomain} {c₁ c₂ : Credentials}
    (h₁ : hashedForHeader d₁ ⊆ hashes) (h₂ : hashedForHeader d₂ ⊆ hashes) :
    (ofCredentials d₁ c₁).header = (ofCredentials d₂ c₂).header ↔ d₁ = d₂ := by
  constructor
  · intro h
    exact headerPreimage_inj (eq_of_keccak256_eq hc (h₁ (by simp [hashedForHeader]))
      (h₂ (by simp [hashedForHeader])) h)
  · intro h
    rw [h]
    rfl

theorem content_of_body_eq {c₁ c₂ : Credentials} (h₁ : hashedForBody c₁ ⊆ hashes)
    (h₂ : hashedForBody c₂ ⊆ hashes)
    (h : keccak256 (bodyPreimage c₁) = keccak256 (bodyPreimage c₂)) : SameContent c₁ c₂ := by
  have hp := eq_of_keccak256_eq hc (h₁ (by simp [hashedForBody])) (h₂ (by simp [hashedForBody])) h
  -- Every part has 32 bytes, so the parts come off from the end one by one.
  obtain ⟨hp, hextra⟩ := List.append_inj hp (by simp)
  obtain ⟨hp, hexpiry⟩ := List.append_inj hp (by simp)
  obtain ⟨hp, happ⟩ := List.append_inj hp (by simp)
  obtain ⟨-, hname⟩ := List.append_inj hp (by simp)
  have hpre := eq_of_keccak256_eq hc (h₁ (by simp [hashedForBody]))
    (h₂ (by simp [hashedForBody])) (Vector.toList_inj.1 hextra)
  exact {
    name := eq_of_keccak256_utf8_eq hc (h₁ (by simp [hashedForBody]))
      (h₂ (by simp [hashedForBody])) hname
    app := eq_of_keccak256_utf8_eq hc (h₁ (by simp [hashedForBody]))
      (h₂ (by simp [hashedForBody])) happ
    expiry := intWord_inj hexpiry
    extra := extra_eq_of_preimage_eq hc
      (fun b hb => h₁ (List.mem_append_right _ hb)) (fun b hb => h₂ (List.mem_append_right _ hb))
      hpre }

end

theorem bodyPreimage_eq_of_sameContent {c₁ c₂ : Credentials} (h : SameContent c₁ c₂) :
    bodyPreimage c₁ = bodyPreimage c₂ := by
  unfold bodyPreimage
  rw [h.name, h.app, h.expiry, h.extra]

theorem body_eq_iff {hashes : List Bytes} (hc : ¬ Collision hashes) {d₁ d₂ : SigningDomain}
    {c₁ c₂ : Credentials} (h₁ : hashedForBody c₁ ⊆ hashes) (h₂ : hashedForBody c₂ ⊆ hashes) :
    (ofCredentials d₁ c₁).body = (ofCredentials d₂ c₂).body ↔ SameContent c₁ c₂ := by
  constructor
  · exact content_of_body_eq hc h₁ h₂
  · intro h
    exact congrArg keccak256 (bodyPreimage_eq_of_sameContent h)

/-- The two hashes are read back from the bytes that are signed. -/
theorem preimage_inj {m₁ m₂ : Commitment} (hv : m₁.version = m₂.version)
    (h : m₁.preimage = m₂.preimage) : m₁ = m₂ := by
  obtain ⟨v₁, header₁, body₁⟩ := m₁
  obtain ⟨v₂, header₂, body₂⟩ := m₂
  simp only [preimage, List.cons_append, List.cons.injEq, true_and] at h
  obtain ⟨hheader, hbody⟩ := List.append_inj h.2 (by simp)
  simp only at hv
  rw [hv, Vector.toList_inj.1 hheader, Vector.toList_inj.1 hbody]

theorem digest_eq_of_sameContent {d₁ d₂ : SigningDomain} {c₁ c₂ : Credentials} (hd : d₁ = d₂)
    (hcontent : SameContent c₁ c₂) :
    (ofCredentials d₁ c₁).digest = (ofCredentials d₂ c₂).digest := by
  have hbody : (ofCredentials d₁ c₁).body = (ofCredentials d₂ c₂).body :=
    congrArg keccak256 (bodyPreimage_eq_of_sameContent hcontent)
  unfold digest preimage
  rw [hbody, hd]
  rfl

theorem digest_eq_iff {hashes : List Bytes} (hc : ¬ Collision hashes) {d₁ d₂ : SigningDomain}
    {c₁ c₂ : Credentials} (h₁ : hashed d₁ c₁ ⊆ hashes) (h₂ : hashed d₂ c₂ ⊆ hashes) :
    (ofCredentials d₁ c₁).digest = (ofCredentials d₂ c₂).digest ↔
      d₁ = d₂ ∧ SameContent c₁ c₂ := by
  have hheader : (ofCredentials d₁ c₁).header = (ofCredentials d₂ c₂).header ↔ d₁ = d₂ :=
    header_eq_iff hc (fun b hb => h₁ (List.mem_cons_of_mem _ (List.mem_append_left _ hb)))
    (fun b hb => h₂ (List.mem_cons_of_mem _ (List.mem_append_left _ hb)))
  have hbody : (ofCredentials d₁ c₁).body = (ofCredentials d₂ c₂).body ↔ SameContent c₁ c₂ :=
    body_eq_iff hc (fun b hb => h₁ (List.mem_cons_of_mem _ (List.mem_append_right _ hb)))
    (fun b hb => h₂ (List.mem_cons_of_mem _ (List.mem_append_right _ hb)))
  constructor
  · intro h
    have hp := eq_of_keccak256_eq hc (h₁ List.mem_cons_self) (h₂ List.mem_cons_self) h
    have hm : ofCredentials d₁ c₁ = ofCredentials d₂ c₂ := preimage_inj rfl hp
    exact ⟨hheader.1 (congrArg header hm), hbody.1 (congrArg body hm)⟩
  · intro hsame
    obtain ⟨hd, hcontent⟩ := hsame
    exact digest_eq_of_sameContent hd hcontent

theorem ofPassword_expiry {name app password : String} {c : Credentials} {e : Int64}
    (h : Credentials.ofPassword name app password = .ok c) (he : c.expiry = some e) :
    0 ≤ e.toInt := by
  unfold Credentials.ofPassword at h
  cases hd : LoginData.ofPassword password with
  | error x => rw [hd] at h; cases h
  | ok data =>
    rw [hd] at h
    cases h
    exact LoginData.ofPassword_expiry hd he

/-- Where no expiry is negative, an absent expiry is told apart from every other. -/
theorem expiry_eq_of_committedExpiry_eq {e₁ e₂ : Option Int64}
    (h₁ : ∀ e, e₁ = some e → 0 ≤ e.toInt) (h₂ : ∀ e, e₂ = some e → 0 ≤ e.toInt)
    (h : committedExpiry e₁ = committedExpiry e₂) : e₁ = e₂ := by
  -- Absence is committed to as minus one.
  have hneg : ¬ 0 ≤ (-1 : Int64).toInt := by decide
  cases e₁ with
  | none =>
    cases e₂ with
    | none => rfl
    | some e =>
      have he : (-1 : Int64) = e := h
      exact absurd (he ▸ h₂ e rfl) hneg
  | some e =>
    cases e₂ with
    | none =>
      have he : e = (-1 : Int64) := h
      exact absurd (he ▸ h₁ e rfl) hneg
    | some f => exact congrArg some h

theorem sameContent_iff_of_expiry {c₁ c₂ : Credentials}
    (h₁ : ∀ e, c₁.expiry = some e → 0 ≤ e.toInt) (h₂ : ∀ e, c₂.expiry = some e → 0 ≤ e.toInt) :
    SameContent c₁ c₂ ↔ c₁.name = c₂.name ∧ c₁.app = c₂.app ∧ c₁.expiry = c₂.expiry ∧
      c₁.extra = c₂.extra := by
  constructor
  · intro h
    exact ⟨h.name, h.app, expiry_eq_of_committedExpiry_eq h₁ h₂ h.expiry, h.extra⟩
  · intro hsame
    obtain ⟨hname, happ, hexpiry, hextra⟩ := hsame
    exact ⟨hname, happ, congrArg committedExpiry hexpiry, hextra⟩

/-- The digest binds the domain and the content of credentials. Without a collision among the byte
strings that are hashed for two digests, these are equal exactly if the domains are and the
contents too, the header being that of the domain and the body that of the content. Equal domains
and contents give equal digests in any case. And for credentials that come from passwords, equal
content is equal name, application, expiry and extra data. -/
theorem digest_binds_domain_and_content (d₁ d₂ : SigningDomain) (c₁ c₂ : Credentials) :
    (Collision (hashed d₁ c₁ ++ hashed d₂ c₂) ∨
      (((ofCredentials d₁ c₁).digest = (ofCredentials d₂ c₂).digest ↔
          d₁ = d₂ ∧ SameContent c₁ c₂) ∧
        ((ofCredentials d₁ c₁).header = (ofCredentials d₂ c₂).header ↔ d₁ = d₂) ∧
        ((ofCredentials d₁ c₁).body = (ofCredentials d₂ c₂).body ↔ SameContent c₁ c₂))) ∧
    (d₁ = d₂ → (ofCredentials d₁ c₁).header = (ofCredentials d₂ c₂).header) ∧
    (SameContent c₁ c₂ → (ofCredentials d₁ c₁).body = (ofCredentials d₂ c₂).body) ∧
    (d₁ = d₂ → SameContent c₁ c₂ →
      (ofCredentials d₁ c₁).digest = (ofCredentials d₂ c₂).digest) ∧
    (∀ p₁ p₂, Credentials.ofPassword c₁.name c₁.app p₁ = .ok c₁ →
      Credentials.ofPassword c₂.name c₂.app p₂ = .ok c₂ →
      Collision (hashed d₁ c₁ ++ hashed d₂ c₂) ∨
        ((ofCredentials d₁ c₁).digest = (ofCredentials d₂ c₂).digest ↔
          d₁ = d₂ ∧ c₁.name = c₂.name ∧ c₁.app = c₂.app ∧ c₁.expiry = c₂.expiry ∧
            c₁.extra = c₂.extra)) := by
  have h₁ : hashed d₁ c₁ ⊆ hashed d₁ c₁ ++ hashed d₂ c₂ := List.subset_append_left _ _
  have h₂ : hashed d₂ c₂ ⊆ hashed d₁ c₁ ++ hashed d₂ c₂ := List.subset_append_right _ _
  refine ⟨?_, ?_, ?_, digest_eq_of_sameContent, ?_⟩
  · by_cases hc : Collision (hashed d₁ c₁ ++ hashed d₂ c₂)
    · exact .inl hc
    · refine .inr ⟨digest_eq_iff hc h₁ h₂, header_eq_iff hc ?_ ?_, body_eq_iff hc ?_ ?_⟩
      · exact fun b hb => h₁ (List.mem_cons_of_mem _ (List.mem_append_left _ hb))
      · exact fun b hb => h₂ (List.mem_cons_of_mem _ (List.mem_append_left _ hb))
      · exact fun b hb => h₁ (List.mem_cons_of_mem _ (List.mem_append_right _ hb))
      · exact fun b hb => h₂ (List.mem_cons_of_mem _ (List.mem_append_right _ hb))
  · intro h
    rw [h]
    rfl
  · intro h
    exact congrArg keccak256 (bodyPreimage_eq_of_sameContent h)
  · intro p₁ p₂ hp₁ hp₂
    by_cases hc : Collision (hashed d₁ c₁ ++ hashed d₂ c₂)
    · exact .inl hc
    · refine .inr ((digest_eq_iff hc h₁ h₂).trans (and_congr_right fun _ => ?_))
      exact sameContent_iff_of_expiry (fun e => ofPassword_expiry hp₁)
        (fun e => ofPassword_expiry hp₂)

end Commitment

end LedgerLogin
