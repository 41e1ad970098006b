import LedgerLogin.LoginData
import LedgerLogin.Proofs.Outcome

/-!
# What decoded data is

The data of a message is its content with the protocol and the expiry checked. `ofContent_eq_ok`
takes a successful check apart, and `ofPassword_expiry` says what it means for the time: decoded
data never has a negative expiry.
-/

namespace LedgerLogin

namespace LoginData

theorem readExpiry_eq_ok {n : Nat} {time : Int64} :
    readExpiry n = .ok time ↔ time.toInt = n := by
  unfold readExpiry
  split
  · rename_i t ht
    rw [Except.ok.injEq]
    constructor
    · intro h
      rw [← h]
      exact int64?_eq_some.1 ht
    · intro h
      exact Option.some.inj (ht.symm.trans (int64?_eq_some.2 h))
  · rename_i hn
    constructor
    · intro h
      simp at h
    · intro h
      rw [int64?_eq_some.2 h] at hn
      simp at hn

theorem ofContent_eq_ok {c : Payload.Content} {data : LoginData} :
    ofContent c = .ok data ↔ c.protocol.mapM readProtocol = .ok data.protocol ∧
      c.expiry.mapM readExpiry = .ok data.expiry ∧ data.extra = c.extra ∧
      data.signature = c.signature.getD [] := by
  simp only [ofContent, bind_eq_ok]
  constructor
  · intro hchecks
    obtain ⟨protocol, hp, expiry, he, h⟩ := hchecks
    cases h
    exact ⟨hp, he, rfl, rfl⟩
  · intro hchecks
    obtain ⟨hp, he, hx, hs⟩ := hchecks
    refine ⟨data.protocol, hp, data.expiry, he, ?_⟩
    rw [← hx, ← hs]
    rfl

theorem ofPassword_eq_ok {password : String} {data : LoginData} :
    ofPassword password = .ok data ↔ ∃ bs c, Base64.decode? password = some bs ∧
      Payload.content? bs = some c ∧ ofContent c = .ok data := by
  unfold ofPassword decode
  constructor
  · intro h
    split at h
    · rename_i bs hbs
      split at h
      · rename_i c hc
        exact ⟨bs, c, hbs, hc, h⟩
      · simp at h
    · simp at h
  · intro hread
    obtain ⟨bs, c, hbs, hc, h⟩ := hread
    simp only [hbs, hc, h]

theorem ofPassword_expiry {password : String} {data : LoginData} {e : Int64}
    (h : ofPassword password = .ok data) (he : data.expiry = some e) : 0 ≤ e.toInt := by
  obtain ⟨_, c, _, _, hc⟩ := ofPassword_eq_ok.1 h
  have hx := (ofContent_eq_ok.1 hc).2.1
  rw [he] at hx
  cases hn : c.expiry with
  | none => rw [hn] at hx; cases hx
  | some n =>
    rw [hn] at hx
    cases hr : readExpiry n with
    | error x => rw [Option.mapM_some, hr] at hx; cases hx
    | ok time =>
      rw [Option.mapM_some, hr] at hx
      cases hx
      rw [readExpiry_eq_ok.1 hr]
      exact Int.natCast_nonneg n

end LoginData

end LedgerLogin
