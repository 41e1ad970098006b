import LedgerLogin.Proofs.Ledger.Events

/-!
# Decisions by the history of a ledger

The resolver asks a ledger for what it holds. `verifyPassword_by_history` says what its decision
comes to in terms of what has happened on the ledger: a login is valid exactly if its password is a
current one for the delegation contract, the name has been registered, and the signer may log in by
what the history says.

Two things that a hash could do are set apart. Two names of the history could have one token, and
would then share an account. And the address of the signer could be the zero address, which
stands for no approval.
-/

namespace LedgerLogin

theorem Credentials.ofPassword_eq_ok {name app password : String} {c : Credentials} :
    Credentials.ofPassword name app password = .ok c ↔
      ∃ data, LoginData.ofPassword password = .ok data ∧ c = ⟨name, app, data⟩ := by
  unfold Credentials.ofPassword
  cases LoginData.ofPassword password with
  | error e => simp [Except.map]
  | ok data => simp [Except.map, eq_comm]

theorem Credentials.ofPassword_of_data {password : String} {data : LoginData}
    (h : LoginData.ofPassword password = .ok data) (name app : String) :
    Credentials.ofPassword name app password = .ok ⟨name, app, data⟩ :=
  Credentials.ofPassword_eq_ok.2 ⟨data, h, rfl⟩

theorem Credentials.isExpiredAt_eq_false {c : Credentials} {now : Int64} :
    c.isExpiredAt now = false ↔ ∀ e, c.expiry = some e → now ≤ e := by
  unfold isExpiredAt
  cases c.expiry with
  | none => simp
  | some e => simp [Int64.not_lt]

theorem Credentials.protocol_eq_delegation {c : Credentials} :
    c.protocol = .delegation ↔ c.data.protocol = some .delegation := by
  unfold protocol
  cases c.data.protocol with
  | none => simp
  | some p => simp

namespace Ledger

/-- What a history says of a signer who is somebody is what its ledger holds of them. -/
theorem replay_authorizes_iff (domain : SigningDomain) {h : History} {name : String}
    (hname : ∀ n ∈ h.names, playerToken n = playerToken name → n = name) {signer : Address}
    (hsigner : signer ≠ Address.zero) (app : String) (now : Int64) :
    ((({ domain } : Ledger).replay h).accounts (playerToken name)).isSome ∧
        (({ domain } : Ledger).replay h).Authorizes name app now signer ↔
      h.Registered name ∧ h.Authorizes name app now signer := by
  have hd := replay_accounts domain hname
  unfold Authorizes
  rw [replay_delegates]
  cases ha : (({ domain } : Ledger).replay h).accounts (playerToken name) with
  | none =>
    rw [ha] at hd
    have hr : ¬ h.Registered name := hd
    simp [hr]
  | some a =>
    rw [ha] at hd
    obtain ⟨hr, howns, happr⟩ := hd
    have hop : (({ domain } : Ledger).replay h).operators a.owner signer = true ↔
        ∃ owner, h.Owns name owner ∧ h.Operates owner signer := by
      rw [replay_operators]
      constructor
      · exact fun h' => ⟨a.owner, (howns _).2 rfl, h'⟩
      · intro hoperates
        obtain ⟨owner, ho, h'⟩ := hoperates
        rw [(howns owner).1 ho]
        exact h'
    simp only [Option.isSome_some, true_and, hr, Option.some.injEq, exists_eq_left', Admits, hop,
      ← howns signer, ← happr signer hsigner, History.Authorizes, or_assoc]

end Ledger

/-- The decision on a password by a ledger with a history. It is always given, whatever has
happened. And unless two names of the history have colliding tokens or the signature is one of the
zero address, it is `valid` exactly if the password holds current data for the delegation contract,
the name has been registered, a signer is recovered from the signature of the commitment, and the
history says that this signer may log in. -/
theorem Resolver.verifyPassword_by_history (domain ledgerDomain : SigningDomain) (h : History)
    (name app password : String) (now : Int64) :
    ∃ d, (verifyPassword domain name app password now).run.run
        (({ domain := ledgerDomain } : Ledger).replay h).answer = .ok d ∧
      (d.valid = true ↔ d.state = .valid) ∧
      (Collision ((name :: h.names).map Ledger.tokenPreimage) ∨
        (∃ data, LoginData.ofPassword password = .ok data ∧
          Resolver.signer domain ⟨name, app, data⟩ = .ok Address.zero) ∨
        (d.state = .valid ↔
          ∃ data signer, LoginData.ofPassword password = .ok data ∧
            data.protocol = some .delegation ∧
            (∀ expiry, data.expiry = some expiry → now ≤ expiry) ∧
            h.Registered name ∧
            Signature.recover (Commitment.ofCredentials domain ⟨name, app, data⟩).digest
              data.signature = .ok signer ∧
            h.Authorizes name app now signer)) := by
  refine ⟨_, run_verifyPassword (Ledger.replay_failure _ h) domain name app password now, ?_, ?_⟩
  · split <;> simp [Decision.ofCredentials, Decision.bare]
  by_cases hc : Collision ((name :: h.names).map Ledger.tokenPreimage)
  · exact .inl hc
  have hname : ∀ n ∈ h.names, Ledger.playerToken n = Ledger.playerToken name → n = name :=
    fun n hn => Ledger.eq_of_playerToken_eq hc (List.mem_cons_of_mem _ hn) List.mem_cons_self
  by_cases hz : ∃ data, LoginData.ofPassword password = .ok data ∧
      Resolver.signer domain ⟨name, app, data⟩ = .ok Address.zero
  · exact .inr (.inl hz)
  refine .inr (.inr ?_)
  cases hp : LoginData.ofPassword password with
  | error e => simp [Credentials.ofPassword, hp, Except.map, Decision.bare]
  | ok data =>
    have hcred := Credentials.ofPassword_of_data hp name app
    have hsigner : ∀ {signer}, Resolver.signer domain ⟨name, app, data⟩ = .ok signer →
        signer ≠ Address.zero := fun hs e => hz ⟨data, hp, e ▸ hs⟩
    rw [hcred]
    simp only [Decision.ofCredentials, Ledger.verdict_eq_valid,
      Credentials.protocol_eq_delegation, Credentials.isExpiredAt_eq_false]
    constructor
    · intro hledger
      obtain ⟨hproto, hexp, hacc, signer, hs, hauth⟩ := hledger
      obtain ⟨hr, ha⟩ :=
        (Ledger.replay_authorizes_iff _ hname (hsigner hs) app now).1 ⟨hacc, hauth⟩
      exact ⟨data, signer, rfl, hproto, hexp, hr, hs, ha⟩
    · intro hhistory
      obtain ⟨data', signer, he, hproto, hexp, hr, hs, ha⟩ := hhistory
      cases he
      obtain ⟨hacc, hauth⟩ :=
        (Ledger.replay_authorizes_iff ledgerDomain hname (hsigner hs) app now).2 ⟨hr, ha⟩
      exact ⟨hproto, hexp, hacc, signer, hs, hauth⟩

end LedgerLogin
