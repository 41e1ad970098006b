import LedgerLogin.Proofs.Resolver.AmidEvents
import Mathlib.Data.Int.LeastGreatest

/-!
# Decisions decay with time

On a ledger that stays as it is, time can only take permission away: credentials expire, and so do
delegations. A password that is decided at two times has at the later one the decision of the
earlier one, or it has expired, or it was valid and its signer has lost the delegation
(`Ledger.verdict_cases_of_le`). So there is a last time at which it is valid, if there is any
(`Resolver.verifyPassword_decays`).

Times before the epoch are asked about as the epoch, which keeps their order.
-/

namespace LedgerLogin

/-! ## What time takes away -/

theorem Credentials.isExpiredAt_of_le {c : Credentials} {now later : Int64} (h : now ≤ later)
    (hexp : c.isExpiredAt now = true) : c.isExpiredAt later = true := by
  unfold isExpiredAt at hexp ⊢
  cases he : c.expiry with
  | none =>
    rw [he] at hexp
    cases hexp
  | some e =>
    rw [he] at hexp
    have hlt : e < now := by simpa using hexp
    simpa using Int64.lt_of_lt_of_le hlt h

theorem Resolver.contractTime_le {now later : Int64} (h : now ≤ later) :
    contractTime now ≤ contractTime later := by
  have htime : ∀ t : Int64, (contractTime t).toNat = t.toInt.toNat := by
    intro t
    refine UInt64.toNat_ofNat_of_lt' ?_
    have hlt := t.toInt_lt
    show t.toInt.toNat < 18446744073709551616
    omega
  rw [UInt64.le_iff_toNat_le, htime, htime]
  exact Int.toNat_le_toNat (Int64.le_iff_toInt_le.1 h)

namespace Ledger

variable {l : Ledger} {name app : String} {signer : Address} {domain : SigningDomain}
  {c : Credentials} {now later : Int64}

theorem Delegates.of_le {path : List String} {time time' : UInt64} (h : time ≤ time')
    (hdelegates : l.Delegates name path signer time') : l.Delegates name path signer time := by
  obtain ⟨g, hg, hns, hname, hoperator, hpath, hexpiry⟩ := hdelegates
  exact ⟨g, hg, hns, hname, hoperator, hpath, fun e he => UInt64.le_trans h (hexpiry e he)⟩

/-- Who may log in later may log in before. -/
theorem Authorizes.of_le (h : now ≤ later) (hauth : l.Authorizes name app later signer) :
    l.Authorizes name app now signer := by
  rcases hauth with haccount | hdelegates
  · exact .inl haccount
  · exact .inr (hdelegates.of_le (Resolver.contractTime_le h))

/-- What becomes of a verdict with time: it stays as it is, or the credentials have expired, or the
signer has lost the permission. -/
theorem verdict_cases_of_le (h : now ≤ later) :
    l.verdict domain c later = l.verdict domain c now ∨
      l.verdict domain c later = .expired ∨
      (l.verdict domain c now = .valid ∧ l.verdict domain c later = .invalidSignature) := by
  unfold verdict
  by_cases hprotocol : c.protocol ≠ .delegation
  · simp only [if_pos hprotocol, true_or]
  by_cases hlater : c.isExpiredAt later = true
  · simp only [if_neg hprotocol, if_pos hlater, true_or, or_true]
  -- What is not expired later is not expired before.
  have hnow : ¬ c.isExpiredAt now = true := fun hexp => hlater (Credentials.isExpiredAt_of_le h hexp)
  simp only [if_neg hprotocol, if_neg hlater, if_neg hnow]
  by_cases haccount : l.accounts (playerToken c.name) = none
  · simp only [if_pos haccount, true_or]
  simp only [if_neg haccount]
  cases Resolver.signer domain c with
  | error e => exact .inl rfl
  | ok s =>
    by_cases hauth : l.Authorizes c.name c.app later s
    · simp only [if_pos hauth, if_pos (hauth.of_le h), true_or]
    by_cases hbefore : l.Authorizes c.name c.app now s
    · exact .inr (.inr ⟨if_pos hbefore, if_neg hauth⟩)
    · simp only [if_neg hauth, if_neg hbefore, true_or]

theorem verdict_of_not_authorizes (hprotocol : c.protocol = .delegation)
    (hexp : c.isExpiredAt now = false) (hname : (l.accounts (playerToken c.name)).isSome)
    (hsigner : Resolver.signer domain c = .ok signer)
    (hauth : ¬ l.Authorizes c.name c.app now signer) :
    l.verdict domain c now = .invalidSignature := by
  have haccount : ¬ l.accounts (playerToken c.name) = none := Option.isSome_iff_ne_none.1 hname
  unfold verdict
  rw [if_neg (not_not.2 hprotocol), if_neg (by simp [hexp]), if_neg haccount, hsigner]
  exact if_neg hauth

theorem verdict_ne_malformed : l.verdict domain c now ≠ .malformed := by
  unfold verdict
  split
  · decide
  split
  · decide
  split
  · decide
  split
  · decide
  split
  · decide
  · decide

end Ledger

/-! ## Decisions at two times -/

/-- What two decisions on one password have to do with each other, if one is earlier. -/
structure Decision.Decays (earlier later : Decision) : Prop where
  valid : later.state = .valid → earlier.state = .valid
  expired : earlier.state = .expired → later.state = .expired
  invalidSignature : earlier.state = .invalidSignature →
    later.state = .invalidSignature ∨ later.state = .expired
  invalidData : earlier.state = .invalidData → later.state = .invalidData ∨ later.state = .expired
  malformed : earlier.state = .malformed ↔ later.state = .malformed
  expiry : earlier.expiry = later.expiry
  extra : earlier.extra = later.extra

theorem Decision.Decays.refl (d : Decision) : d.Decays d :=
  ⟨id, id, .inl, .inl, .rfl, rfl, rfl⟩

theorem Decision.decays_ofCredentials {state state' : State} (c : Credentials)
    (hcases : state' = state ∨ state' = .expired ∨ (state = .valid ∧ state' = .invalidSignature))
    (hread : state ≠ .malformed) : (ofCredentials state c).Decays (ofCredentials state' c) := by
  rcases hcases with rfl | rfl | ⟨rfl, rfl⟩
  · exact .refl _
  · exact ⟨nofun, fun _ => rfl, fun _ => .inr rfl, fun _ => .inr rfl, iff_of_false hread nofun, rfl,
      rfl⟩
  · exact ⟨fun _ => rfl, nofun, fun _ => .inl rfl, nofun, iff_of_false hread nofun, rfl, rfl⟩

/-- Times before which something is so if it is so at them have a last one, if there are any. -/
theorem exists_cutoff {p : Int64 → Prop} (h : ∀ now later, now ≤ later → p later → p now) :
    (∀ now, ¬ p now) ∨ ∃ cutoff, ∀ now, p now ↔ now ≤ cutoff := by
  by_cases hsome : ∃ now, p now
  · obtain ⟨now, hnow⟩ := hsome
    have hbounded : ∃ b : Int, ∀ i, (∃ t : Int64, t.toInt = i ∧ p t) → i ≤ b := by
      refine ⟨Int64.maxValue.toInt, ?_⟩
      rintro i ⟨t, rfl, -⟩
      exact t.toInt_le
    obtain ⟨i, ⟨cutoff, rfl, hcutoff⟩, hlast⟩ :=
      Int.exists_greatest_of_bdd hbounded ⟨now.toInt, now, rfl, hnow⟩
    refine .inr ⟨cutoff, fun t => ⟨fun ht => ?_, fun hle => h t cutoff hle hcutoff⟩⟩
    exact Int64.le_iff_toInt_le.2 (hlast t.toInt ⟨t, rfl, ht⟩)
  · exact .inl fun now hnow => hsome ⟨now, hnow⟩

/-- On a ledger that works, a password is decided at every time, and the decision only decays: what
is valid was valid before, what has expired stays so, and a denial becomes no other one than that
the password has expired. The expiry and the extra data are the same at all times. Either the
password is never valid, or it is valid up to some time and no more after it. -/
theorem Resolver.verifyPassword_decays {l : Ledger} (hl : l.failure = none) (domain : SigningDomain)
    (name app password : String) :
    (∀ now later : Int64, now ≤ later → ∃ d d',
      (verifyPassword domain name app password now).run.run l.answer = .ok d ∧
      (verifyPassword domain name app password later).run.run l.answer = .ok d' ∧
      (d.valid = true ↔ d.state = .valid) ∧ (d'.valid = true ↔ d'.state = .valid) ∧
      d.Decays d') ∧
    ((∀ now d, (verifyPassword domain name app password now).run.run l.answer = .ok d →
        d.state ≠ .valid) ∨
      ∃ cutoff, ∀ now d,
        (verifyPassword domain name app password now).run.run l.answer = .ok d →
          (d.state = .valid ↔ now ≤ cutoff)) := by
  simp only [run_verifyPassword hl]
  cases Credentials.ofPassword name app password with
  | error e =>
    have hflag : (Decision.bare .malformed).valid = true ↔
        (Decision.bare .malformed).state = .valid := by decide
    refine ⟨?_, .inl ?_⟩
    · intro now later _
      exact ⟨_, _, rfl, rfl, hflag, hflag, .refl _⟩
    · intro now d hd
      cases hd
      exact fun hstate => nomatch hstate
  | ok c =>
    have hdecays : ∀ now later : Int64, now ≤ later →
        (Decision.ofCredentials (l.verdict domain c now) c).Decays
          (Decision.ofCredentials (l.verdict domain c later) c) := fun now later h =>
      Decision.decays_ofCredentials c (Ledger.verdict_cases_of_le h) Ledger.verdict_ne_malformed
    refine ⟨?_, ?_⟩
    · intro now later h
      exact ⟨_, _, rfl, rfl, decide_eq_true_iff, decide_eq_true_iff, hdecays now later h⟩
    · have hdown : ∀ now later : Int64, now ≤ later →
          l.verdict domain c later = .valid → l.verdict domain c now = .valid :=
        fun now later h => (hdecays now later h).valid
      rcases exists_cutoff hdown with hnever | ⟨cutoff, hcutoff⟩
      · refine .inl fun now d hd => ?_
        cases hd
        exact hnever now
      · refine .inr ⟨cutoff, fun now d hd => ?_⟩
        cases hd
        exact hcutoff now

/-- A delegation up to the time 100 lets its holder log in before the epoch too, and no more at the
time 101. -/
theorem Resolver.verifyPassword_decays_delegation :
    let key : SecretKey := ⟨1, by decide, by decide⟩
    let domain : SigningDomain := ⟨137, Address.zero⟩
    let l := ({ domain } : Ledger).replay
      [.register "domob" ⟨Vector.replicate 20 0x11⟩,
        .grant "domob" ["g", "id"] key.address (some 100)]
    l.failure = none ∧ (-5 : Int64) ≤ 101 ∧ ∃ password d d',
      (verifyPassword domain "domob" "app" password (-5)).run.run l.answer = .ok d ∧
      (verifyPassword domain "domob" "app" password 101).run.run l.answer = .ok d' ∧
      d.state = .valid ∧ d'.state = .invalidSignature ∧ d.Decays d' := by
  intro key domain l
  have hl : l.failure = none := rfl
  have hle : (-5 : Int64) ≤ 101 := by decide
  obtain ⟨password, data, hpassword, hprotocol, hexpiry, hsigner⟩ :=
    SignedPassword.exists_lasting_password key domain "domob" "app"
  have hname : l.accounts (Ledger.playerToken "domob") =
      some { owner := ⟨Vector.replicate 20 0x11⟩ } := if_pos rfl
  have hgrants : l.grants = [⟨"p", "domob", ["g", "id"], key.address, some 100⟩] := rfl
  have hbyte : key.address.bytes.get 0 = 0x7e := SecretKey.address_one
  generalize key.address = signer at hsigner hgrants hbyte
  have hregistered : (l.accounts (Ledger.playerToken "domob")).isSome := by
    rw [hname]
    rfl
  have hdelegation : (⟨"domob", "app", data⟩ : Credentials).protocol = .delegation :=
    Credentials.protocol_eq_delegation.2 hprotocol
  have hlasting : ∀ now, (⟨"domob", "app", data⟩ : Credentials).isExpiredAt now = false := by
    refine fun now => Credentials.isExpiredAt_eq_false.2 fun e he => ?_
    cases hexpiry.symm.trans he
  have hcovered : ["g", "id"] <+: accessPath "app" := ⟨["xidauth", "app"], rfl⟩
  have hheld : l.Authorizes "domob" "app" (-5) signer := by
    refine .inr ⟨_, hgrants ▸ List.mem_singleton_self _, rfl, rfl, rfl, hcovered, ?_⟩
    intro e he
    cases he
    decide
  -- At the time 101 neither the account nor the delegation speaks for the signer.
  have hlost : ¬ l.Authorizes "domob" "app" 101 signer := by
    rintro (⟨a, ha, hadmits⟩ | ⟨g, hg, -, -, -, -, hexpires⟩)
    · rw [hname] at ha
      cases ha
      rcases hadmits with howner | happroved | hoperator
      · rw [← howner] at hbyte
        exact absurd hbyte (by decide)
      · rw [← happroved] at hbyte
        exact absurd hbyte (by decide)
      · cases hoperator
    · rw [hgrants, List.mem_singleton] at hg
      subst hg
      exact absurd (hexpires 100 rfl) (by decide)
  have hrun : ∀ now, (verifyPassword domain "domob" "app" password now).run.run l.answer =
      .ok (Decision.ofCredentials (l.verdict domain ⟨"domob", "app", data⟩ now)
        ⟨"domob", "app", data⟩) := by
    intro now
    rw [run_verifyPassword hl, Credentials.ofPassword_of_data hpassword]
  obtain ⟨hdecays, -⟩ := Resolver.verifyPassword_decays hl domain "domob" "app" password
  obtain ⟨d, d', hd, hd', -, -, hrelated⟩ := hdecays (-5) 101 hle
  have hstate : d.state = .valid := by
    rw [Except.ok.inj (hd.symm.trans (hrun (-5)))]
    exact Ledger.verdict_eq_valid.2
      ⟨hdelegation, hlasting (-5), hregistered, signer, hsigner, hheld⟩
  have hstate' : d'.state = .invalidSignature := by
    rw [Except.ok.inj (hd'.symm.trans (hrun 101))]
    exact Ledger.verdict_of_not_authorizes hdelegation (hlasting 101) hregistered hsigner hlost
  exact ⟨hl, hle, password, d, d', hd, hd', hstate, hstate', hrelated⟩

end LedgerLogin
