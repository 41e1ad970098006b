import LedgerLogin.Proofs.Ledger.Authority
import LedgerLogin.Proofs.Ledger.Interleaving
import LedgerLogin.Proofs.Resolver.FromHistory
import LedgerLogin.Proofs.SignedPassword.Signer

/-!
# Decisions while the ledger changes

The resolver reads up to six times and takes no snapshot. If it decides that a login is valid, then
the signer was authorized by one of the ledgers that there were between its first read and its
last; or else between its last two reads the owner handed the name over and approved the signer for
everything they own only then (`verifyPassword_amid`). The second can happen:
`verifyPassword_amid_handsOver` is a run in which no ledger authorizes the signer.
-/

namespace LedgerLogin

namespace Resolver

variable {c : Credentials} {signer : Address} {now : Int64} {l : Ledger} {gaps : List History}
  {ledgers : List Ledger}

/-- The last two reads. Nothing that they give is held by a ledger between them only if the name is
handed over. -/
theorem operator_amid (h : ((LedgerRead.owner (Ledger.playerToken c.name)).ask >>= fun owner =>
      (LedgerRead.approvedForAll owner signer).ask).run.runAmid l gaps = (.ok true, ledgers)) :
    (∃ m ∈ ledgers, m.Authorizes c.name c.app now signer) ∨
      (l.replay (gaps.headD [])).HandsOver c.name signer (gaps.getD 1 []) := by
  obtain ⟨owner, rest, howner, hrest, rfl⟩ := LedgerRead.runAmid_ask_bind h
  clear h
  generalize l.replay (gaps.headD []) = l₁ at howner hrest ⊢
  rw [← bind_pure (LedgerRead.ask _)] at hrest
  obtain ⟨approved, last, happroved, hlast, rfl⟩ := LedgerRead.runAmid_ask_bind hrest
  clear hrest
  rw [show gaps.getD 1 [] = gaps.tail.headD [] by rw [headD_eq_getD, getD_tail]]
  generalize gaps.tail.headD [] = gap at happroved hlast ⊢
  cases hlast
  -- Either a ledger of the last gap has both at once, or the owner that was read is none later on.
  by_cases hsome : ∃ m ∈ l₁.passing gap ++ [l₁.replay gap], ∃ a,
      m.accounts (Ledger.playerToken c.name) = some a ∧ m.operators a.owner signer = true
  · obtain ⟨m, hm, a, ha, hop⟩ := hsome
    exact .inl ⟨m, List.mem_append_right _ hm, .inl ⟨a, ha, .inr (.inr hop)⟩⟩
  · cases ha : l₁.accounts (Ledger.playerToken c.name) with
    | none => simp [Ledger.lookup, ha] at howner
    | some a =>
      have howner' : a.owner = owner := by simpa [Ledger.lookup, ha] using howner
      have hend : (l₁.replay gap).operators a.owner signer = true := by
        rw [howner']
        exact Except.ok.inj happroved
      refine .inr (Ledger.handsOver_of_replay ha hend fun m hm b hb => ?_)
      rw [← Bool.not_eq_true]
      exact fun hop => hsome ⟨m, hm, b, hb, hop⟩

/-- The last check, run amid events on a ledger that has the name. -/
theorem isAuthorized_amid (hname : (l.accounts (Ledger.playerToken c.name)).isSome)
    (h : (isAuthorized c (Ledger.playerToken c.name) signer now).run.runAmid l gaps =
      (.ok true, ledgers)) :
    (∃ m ∈ ledgers, m.Authorizes c.name c.app now signer) ∨
      (l.replay (gaps.take 3).flatten).HandsOver c.name signer (gaps.getD 3 []) := by
  -- A read that lets the signer in is true of the ledger that answered it.
  unfold isAuthorized at h
  obtain ⟨access, rest, haccess, hrest, rfl⟩ := LedgerRead.runAmid_ask_bind h
  clear h
  have hself := congrArg Prod.snd hrest ▸ Inquiry.self_mem_runAmid _ _ _
  rw [Ledger.replay_take_succ]
  replace hname := Ledger.isSome_accounts_replay hname (gaps.headD [])
  generalize l.replay (gaps.headD []) = l₁ at haccess hrest hself hname ⊢
  cases access with
  | true =>
    have hauth : l₁.Authorizes c.name c.app now signer := by
      rcases Ledger.hasAccess_iff.1 (Except.ok.inj haccess) with ⟨a, ha, howner⟩ | hdel
      · exact .inl ⟨a, ha, .inl howner⟩
      · exact .inr hdel
    exact .inl ⟨l₁, List.mem_append_right _ hself, hauth⟩
  | false =>
    simp only [Bool.false_eq_true, if_false] at hrest
    obtain ⟨approved, rest', happroved, hrest', rfl⟩ := LedgerRead.runAmid_ask_bind hrest
    clear hrest
    have hself' := congrArg Prod.snd hrest' ▸ Inquiry.self_mem_runAmid _ _ _
    rw [Ledger.replay_take_succ]
    replace hname := Ledger.isSome_accounts_replay hname (gaps.tail.headD [])
    generalize l₁.replay (gaps.tail.headD []) = l₂ at happroved hrest' hself' hname ⊢
    by_cases hsigner : approved = signer
    · obtain ⟨a, ha⟩ := Option.isSome_iff_exists.1 hname
      have happ : a.approved = signer := by
        rw [← hsigner]
        simpa [Ledger.lookup, ha] using happroved
      refine .inl ⟨l₂, ?_, .inl ⟨a, ha, .inr (.inl happ)⟩⟩
      exact List.mem_append_right _ (List.mem_append_right _ hself')
    · rw [if_neg hsigner] at hrest'
      rcases operator_amid hrest' with ⟨m, hm, hauth⟩ | hover
      · refine .inl ⟨m, ?_, hauth⟩
        exact List.mem_append_right _ (List.mem_append_right _ hm)
      · refine .inr ?_
        rw [Ledger.replay_take_succ, List.take_zero, ← getD_tail, ← getD_tail]
        exact hover

/-- The checks, run amid events: if they find credentials valid, the signer was authorized, or the
name handed over between the last two reads. -/
theorem resolve_amid {domain : SigningDomain}
    (h : (resolve domain c now).run.runAmid l gaps = (.ok .valid, ledgers)) :
    ∃ s, Resolver.signer domain c = .ok s ∧
      ((∃ m ∈ ledgers, m.Authorizes c.name c.app now s) ∨
        (l.replay (gaps.take 5).flatten).HandsOver c.name s (gaps.getD 5 [])) := by
  unfold resolve at h
  split at h
  · cases h
  split at h
  · cases h
  obtain ⟨token, rest, htoken, hrest, rfl⟩ := LedgerRead.runAmid_ask_bind h
  clear h
  have htoken' : token = Ledger.playerToken c.name := (Except.ok.inj htoken).symm
  subst htoken'
  rw [Ledger.replay_take_succ]
  generalize l.replay (gaps.headD []) = l₁ at hrest ⊢
  obtain ⟨found, rest', hfound, hrest', rfl⟩ := LedgerRead.runAmid_ask_bind hrest
  clear hrest
  rw [Ledger.replay_take_succ]
  generalize l₁.replay (gaps.tail.headD []) = l₂ at hfound hrest' ⊢
  have hname : (l₂.accounts (Ledger.playerToken c.name)).isSome = found := Except.ok.inj hfound
  cases found with
  | false => cases hrest'
  | true =>
    simp only [Bool.not_true, Bool.false_eq_true, if_false] at hrest'
    cases hs : Resolver.signer domain c with
    | error e =>
      rw [hs] at hrest'
      cases hrest'
    | ok s =>
      rw [hs] at hrest'
      obtain ⟨authorized, hrun, hstate⟩ := Inquiry.runAmid_bind_pure
        (g := fun b => if b then Decision.State.valid else .invalidSignature)
        (fun b => by cases b <;> rfl) hrest'
      cases authorized with
      | false => cases hstate
      | true =>
        refine ⟨s, rfl, ?_⟩
        rcases isAuthorized_amid hname hrun with ⟨m, hm, hauth⟩ | hover
        · exact .inl ⟨m, List.mem_append_right _ (List.mem_append_right _ hm), hauth⟩
        · refine .inr ?_
          rw [← getD_tail, ← getD_tail]
          exact hover

end Resolver

/-- A login that is found valid while the ledger changes carries the signature of someone who was
authorized by one of the ledgers between the first read and the last; or the owner that was read
lost the name before the last read and approved the signer for everything they own only after. -/
theorem Resolver.verifyPassword_amid {domain : SigningDomain} {name app password : String}
    {now : Int64} {l : Ledger} {gaps : List History} {d : Decision} {ledgers : List Ledger}
    (h : (verifyPassword domain name app password now).run.runAmid l ([] :: gaps) =
      (.ok d, ledgers)) (hvalid : d.valid = true) :
    ∃ data s, LoginData.ofPassword password = .ok data ∧
      Signature.recover (Commitment.ofCredentials domain ⟨name, app, data⟩).digest
        data.signature = .ok s ∧
      ((∃ m ∈ ledgers, m.Authorizes name app now s) ∨
        (l.replay (gaps.take 4).flatten).HandsOver name s (gaps.getD 4 [])) := by
  unfold verifyPassword at h
  cases hc : Credentials.ofPassword name app password with
  | error e =>
    rw [hc] at h
    cases h
    cases hvalid
  | ok c =>
    rw [hc] at h
    obtain ⟨data, hdata, rfl⟩ := Credentials.ofPassword_eq_ok.1 hc
    obtain ⟨state, hrun, hstate⟩ := Inquiry.runAmid_bind_pure (fun _ => rfl) h
    have hstate' : state = .valid := by
      subst hstate
      simpa [Decision.ofCredentials] using hvalid
    subst hstate'
    obtain ⟨s, hs, hauth⟩ := resolve_amid hrun
    exact ⟨data, s, hdata, hs, by simpa using hauth⟩

/-- A password is found valid if its signer is given the name after its token has been read, also if
they approve someone for it before access is asked for. -/
theorem Resolver.verifyPassword_received {c : Credentials} {domain : SigningDomain}
    {name app password : String} {signer : Address} {now : Int64} {l : Ledger} {a : Account}
    (hcred : Credentials.ofPassword name app password = .ok c) (hproto : c.protocol = .delegation)
    (hexp : c.isExpiredAt now = false) (hsigner : Resolver.signer domain c = .ok signer)
    (hl : l.failure = none) (ha : l.accounts (Ledger.playerToken c.name) = some a)
    (operator : Address) :
    (verifyPassword domain name app password now).run.runAmid l
        [[], [.transfer c.name signer], [.approve c.name operator]] =
      (.ok (Decision.ofCredentials .valid c), [l, l.apply (.transfer c.name signer),
        (l.apply (.transfer c.name signer)).apply (.approve c.name operator)]) := by
  have hmoved : (l.apply (.transfer c.name signer)).accounts (Ledger.playerToken c.name) =
      some { owner := signer } := by
    simp [Ledger.apply, Ledger.setAccount, ha]
  generalize hl₁ : l.apply (.transfer c.name signer) = l₁ at hmoved ⊢
  have happroved : (l₁.apply (.approve c.name operator)).accounts (Ledger.playerToken c.name) =
      some { owner := signer, approved := operator } := by
    simp [Ledger.apply, Ledger.setAccount, hmoved]
  generalize hl₂ : l₁.apply (.approve c.name operator) = l₂ at happroved ⊢
  have hfirst : l.replay [.transfer c.name signer] = l₁ := hl₁
  have hsecond : l₁.replay [.approve c.name operator] = l₂ := hl₂
  have hworks₁ : l₁.failure = none := hl₁ ▸ hl
  have hworks₂ : l₂.failure = none := hl₂ ▸ hworks₁
  have hexists : (l₁.accounts (Ledger.playerToken c.name)).isSome = true := by
    rw [hmoved]
    rfl
  have haccess : l₂.hasAccess playerNamespace c.name (accessPath c.app) signer
      (contractTime now) = true :=
    Ledger.hasAccess_iff.2 (.inl ⟨_, happroved, rfl⟩)
  have hauth : (isAuthorized c (Ledger.playerToken c.name) signer now).run.runAmid l₁
      [[.approve c.name operator]] = (.ok true, [l₁, l₂]) := by
    rw [← hsecond] at hworks₂ haccess ⊢
    unfold isAuthorized
    exact LedgerRead.runAmid_ask_bind_of_lookup hworks₂ (congrArg Except.ok haccess) rfl
  have hresolve : (resolve domain c now).run.runAmid l
      [[], [.transfer c.name signer], [.approve c.name operator]] = (.ok .valid, [l, l₁, l₂]) := by
    unfold resolve
    rw [if_neg (not_not.2 hproto), if_neg (by simp [hexp])]
    refine LedgerRead.runAmid_ask_bind_quiet hl (x := Ledger.playerToken c.name) rfl ?_
    rw [← hfirst] at hworks₁ hexists hauth ⊢
    refine LedgerRead.runAmid_ask_bind_of_lookup hworks₁ (congrArg Except.ok hexists) ?_
    rw [hsigner]
    exact Inquiry.runAmid_bind_of_ok hauth rfl
  unfold verifyPassword
  rw [hcred]
  exact Inquiry.runAmid_bind_of_ok hresolve rfl

/-- The signer is given the name after its token has been read, and approves someone for it after it
has been found to exist. -/
theorem Resolver.verifyPassword_amid_owner :
    let key : SecretKey := ⟨1, by decide, by decide⟩
    let domain : SigningDomain := ⟨137, Address.zero⟩
    let l := ({ domain } : Ledger).replay [.register "domob" ⟨Vector.replicate 20 0x11⟩]
    let gaps : List History := [[.transfer "domob" key.address],
      [.approve "domob" ⟨Vector.replicate 20 0x22⟩]]
    ∃ password d ledgers,
      (verifyPassword domain "domob" "app" password 7).run.runAmid l ([] :: gaps) =
        (.ok d, ledgers) ∧
      d.valid = true ∧ ledgers.length = 3 ∧
      ∃ data s, LoginData.ofPassword password = .ok data ∧
        Signature.recover (Commitment.ofCredentials domain ⟨"domob", "app", data⟩).digest
          data.signature = .ok s ∧
        ((∃ m ∈ ledgers, m.Authorizes "domob" "app" 7 s) ∨
          (l.replay (gaps.take 4).flatten).HandsOver "domob" s (gaps.getD 4 [])) := by
  intro key domain l gaps
  obtain ⟨password, signature, hpassword, hsigner⟩ :=
    SignedPassword.exists_password key domain "domob" "app"
  have hname : l.accounts (Ledger.playerToken "domob") =
      some { owner := ⟨Vector.replicate 20 0x11⟩ } :=
    if_pos rfl
  have hcred := Credentials.ofPassword_of_data hpassword "domob" "app"
  have hrun := verifyPassword_received hcred rfl (rfl : Credentials.isExpiredAt _ 7 = false)
    hsigner (rfl : l.failure = none) hname ⟨Vector.replicate 20 0x22⟩
  exact ⟨password, _, _, hrun, rfl, rfl, Resolver.verifyPassword_amid hrun rfl⟩

namespace Resolver

/-! ## A handover -/

/-- Events in which the owner of a name lets it go and only then approves someone for everything
that they own. -/
def handingOver (name : String) (owner buyer signer : Address) : History :=
  [.transfer name buyer, .setApprovalForAll owner signer true]

section
variable {c : Credentials} {domain : SigningDomain} {buyer signer : Address} {now : Int64}
  {l : Ledger} {a : Account}

/-- Someone who is not authorized is found to be, if the name is handed over before the last
read. -/
theorem isAuthorized_handingOver (hl : l.failure = none)
    (ha : l.accounts (Ledger.playerToken c.name) = some a)
    (hnot : ¬ l.Authorizes c.name c.app now signer) :
    (isAuthorized c (Ledger.playerToken c.name) signer now).run.runAmid l
        [[], [], [], handingOver c.name a.owner buyer signer] =
      (.ok true, l.passing (handingOver c.name a.owner buyer signer) ++
        [l.replay (handingOver c.name a.owner buyer signer)]) := by
  obtain ⟨hadmits, hdelegates⟩ := not_or.1 hnot
  have hadmits' : ¬ l.Admits a signer := fun h => hadmits ⟨a, ha, h⟩
  obtain ⟨howner, hrest⟩ := not_or.1 hadmits'
  obtain ⟨happroved, -⟩ := not_or.1 hrest
  have haccess : l.hasAccess playerNamespace c.name (accessPath c.app) signer (contractTime now) =
      false := by
    rw [← Bool.not_eq_true, Ledger.hasAccess_iff]
    intro hgiven
    rcases hgiven with ⟨b, hb, howns⟩ | hdel
    · rw [ha] at hb
      cases hb
      exact howner howns
    · exact hdelegates hdel
  have hlast : (l.replay (handingOver c.name a.owner buyer signer)).operators a.owner signer =
      true := if_pos ⟨rfl, rfl⟩
  unfold isAuthorized
  refine LedgerRead.runAmid_ask_bind_quiet hl (congrArg Except.ok haccess) ?_
  rw [if_neg Bool.false_ne_true]
  refine LedgerRead.runAmid_ask_bind_quiet hl (x := a.approved) ?_ ?_
  · simp [Ledger.lookup, ha]
  rw [if_neg happroved]
  refine LedgerRead.runAmid_ask_bind_quiet hl (x := a.owner) ?_ ?_
  · simp [Ledger.lookup, ha]
  rw [← bind_pure (LedgerRead.ask _)]
  exact LedgerRead.runAmid_ask_bind_of_lookup hl (congrArg Except.ok hlast) rfl

theorem verifyPassword_handingOver {name app password : String}
    (hcred : Credentials.ofPassword name app password = .ok c) (hproto : c.protocol = .delegation)
    (hexp : c.isExpiredAt now = false) (hsigner : Resolver.signer domain c = .ok signer)
    (hl : l.failure = none) (ha : l.accounts (Ledger.playerToken c.name) = some a)
    (hnot : ¬ l.Authorizes c.name c.app now signer) :
    (verifyPassword domain name app password now).run.runAmid l
        [[], [], [], [], [], handingOver c.name a.owner buyer signer] =
      (.ok (Decision.ofCredentials .valid c),
        l.passing (handingOver c.name a.owner buyer signer) ++
          [l.replay (handingOver c.name a.owner buyer signer)]) := by
  have hname : (l.accounts (Ledger.playerToken c.name)).isSome = true := by
    rw [ha]
    rfl
  have hresolve : (resolve domain c now).run.runAmid l
      [[], [], [], [], [], handingOver c.name a.owner buyer signer] =
        (.ok .valid, l.passing (handingOver c.name a.owner buyer signer) ++
          [l.replay (handingOver c.name a.owner buyer signer)]) := by
    unfold resolve
    rw [if_neg (not_not.2 hproto), if_neg (by simp [hexp])]
    refine LedgerRead.runAmid_ask_bind_quiet hl (x := Ledger.playerToken c.name) rfl ?_
    refine LedgerRead.runAmid_ask_bind_quiet hl (congrArg Except.ok hname) ?_
    rw [hsigner]
    exact Inquiry.runAmid_bind_of_ok (isAuthorized_handingOver hl ha hnot) rfl
  unfold verifyPassword
  rw [hcred]
  exact Inquiry.runAmid_bind_of_ok hresolve rfl

/-- No ledger of the handover authorizes the approved one, if neither the ledger at the start nor
the buyer does. -/
theorem not_authorizes_handingOver {name app : String}
    (ha : l.accounts (Ledger.playerToken name) = some a)
    (hnot : ¬ l.Authorizes name app now signer) (hzero : signer ≠ Address.zero)
    (hbuyer : buyer ≠ signer) (hother : buyer ≠ a.owner) (hop : l.operators buyer signer = false) :
    ∀ m ∈ l.passing (handingOver name a.owner buyer signer) ++
        [l.replay (handingOver name a.owner buyer signer)],
      ¬ m.Authorizes name app now signer := by
  have hmoved : (l.apply (.transfer name buyer)).accounts (Ledger.playerToken name) =
      some { owner := buyer } := by
    simp [Ledger.apply, Ledger.setAccount, ha]
  have hafter : ∀ m : Ledger, m.accounts = (l.apply (.transfer name buyer)).accounts →
      m.operators buyer signer = false → m.grants = l.grants →
      ¬ m.Authorizes name app now signer := by
    intro m hm hmop hgrants h
    rcases h with ⟨b, hb, hadmits⟩ | ⟨g, hg, hcovers⟩
    · rw [hm, hmoved] at hb
      cases hb
      rcases hadmits with howner | happroved | hoperator
      · exact hbuyer howner
      · exact hzero happroved.symm
      · rw [hmop] at hoperator
        cases hoperator
    · exact hnot (.inr ⟨g, hgrants ▸ hg, hcovers⟩)
  intro m hm
  simp only [handingOver, Ledger.passing, Ledger.replay, List.foldl_cons, List.foldl_nil,
    List.cons_append, List.nil_append, List.mem_cons, List.not_mem_nil, or_false] at hm
  rcases hm with rfl | rfl | rfl
  · exact hnot
  · exact hafter _ rfl hop rfl
  · have hlater : ((l.apply (.transfer name buyer)).apply
        (.setApprovalForAll a.owner signer true)).operators buyer signer = false := by
      simp only [Ledger.apply, hother, false_and, if_false]
      exact hop
    exact hafter _ rfl hlater rfl

end

end Resolver

theorem SecretKey.address_one :
    (⟨1, by decide, by decide⟩ : SecretKey).address.bytes.get 0 = 0x7e := by
  decide +kernel

/-- A login is found valid that no ledger from the first read to the last authorizes: the owner is
read, then lets the name go, and approves the signer for everything that they own only then. -/
theorem Resolver.verifyPassword_amid_handsOver :
    let domain : SigningDomain := ⟨137, Address.zero⟩
    let owner : Address := ⟨Vector.replicate 20 0x11⟩
    let buyer : Address := ⟨Vector.replicate 20 0x22⟩
    let l := ({ domain } : Ledger).replay [.register "domob" owner]
    ∃ password data s d ledgers,
      LoginData.ofPassword password = .ok data ∧
      Signature.recover (Commitment.ofCredentials domain ⟨"domob", "app", data⟩).digest
        data.signature = .ok s ∧
      (verifyPassword domain "domob" "app" password 7).run.runAmid l
        [[], [], [], [], [], [.transfer "domob" buyer, .setApprovalForAll owner s true]] =
          (.ok d, ledgers) ∧
      d.valid = true ∧ ∀ m ∈ ledgers, ¬ m.Authorizes "domob" "app" 7 s := by
  intro domain owner buyer l
  obtain ⟨password, signature, hpassword, hsigner⟩ :=
    SignedPassword.exists_password ⟨1, by decide, by decide⟩ domain "domob" "app"
  have hbyte := SecretKey.address_one
  generalize (⟨1, by decide, by decide⟩ : SecretKey).address = s at hsigner hbyte
  have hne : ∀ {b : UInt8}, b ≠ 0x7e → s ≠ ⟨Vector.replicate 20 b⟩ := by
    intro b hb h
    subst h
    exact hb hbyte
  have hname : l.accounts (Ledger.playerToken "domob") = some { owner } := if_pos rfl
  have hnot : ¬ l.Authorizes "domob" "app" 7 s := by
    intro h
    rcases h with ⟨a, ha, hadmits⟩ | ⟨g, hg, -⟩
    · rw [hname] at ha
      cases ha
      rcases hadmits with howner | happroved | hoperator
      · exact hne (by decide) howner.symm
      · exact hne (by decide) happroved.symm
      · cases hoperator
    · cases hg
  have hcred := Credentials.ofPassword_of_data hpassword "domob" "app"
  refine ⟨password, _, s, _, _, hpassword, hsigner,
    verifyPassword_handingOver hcred rfl rfl hsigner rfl hname hnot, rfl, ?_⟩
  exact not_authorizes_handingOver hname hnot (hne (by decide)) (hne (by decide)).symm
    (by decide) rfl

end LedgerLogin
