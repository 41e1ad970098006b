import LedgerLogin.Ledger.History
import LedgerLogin.Resolver
import Mathlib.Tactic.Tauto

/-!
# Who may log in with a name

`Ledger.Authorizes` says who may log in with a name by what a ledger holds: the owner, the address
that is approved for the name, whoever is approved for everything that the owner owns, and whoever
holds a delegation that covers the application. `Resolver.run_resolve` says that on a ledger that
works and stays as it is, resolving credentials always ends in a decision, namely in the verdict
that the checks give in their order, and `Ledger.verdict_eq_valid` that the verdict is favourable
exactly for a signer who is authorized.
-/

namespace LedgerLogin

namespace Ledger

/-- Whether a delegation on a ledger covers a path at a time. -/
def Delegates (l : Ledger) (name : String) (path : List String) (operator : Address)
    (time : UInt64) : Prop :=
  ∃ g ∈ l.grants, g.ns = playerNamespace ∧ g.name = name ∧ g.operator = operator ∧
    g.path <+: path ∧ ∀ expiry, g.expiry = some expiry → time ≤ expiry

/-- Whether an account lets someone log in: its owner, the address that is approved for it, and
whoever is approved for all that its owner owns. -/
def Admits (l : Ledger) (a : Account) (signer : Address) : Prop :=
  a.owner = signer ∨ a.approved = signer ∨ l.operators a.owner signer = true

def Authorizes (l : Ledger) (name app : String) (now : Int64) (signer : Address) : Prop :=
  (∃ a, l.accounts (playerToken name) = some a ∧ l.Admits a signer) ∨
    l.Delegates name (accessPath app) signer (Resolver.contractTime now)

theorem covers_iff {g : Grant} {ns name : String} {path : List String} {operator : Address}
    {time : UInt64} : g.covers ns name path operator time = true ↔
      g.ns = ns ∧ g.name = name ∧ g.operator = operator ∧ g.path <+: path ∧
        ∀ expiry, g.expiry = some expiry → time ≤ expiry := by
  simp only [Grant.covers, Bool.and_eq_true, decide_eq_true_eq, List.isPrefixOf_iff_prefix]
  cases g.expiry with
  | none => simp [and_assoc]
  | some e => simp [and_assoc]

theorem any_covers_iff {l : Ledger} {name : String} {path : List String} {operator : Address}
    {time : UInt64} : l.grants.any (·.covers playerNamespace name path operator time) = true ↔
      l.Delegates name path operator time := by
  simp only [List.any_eq_true, covers_iff]
  rfl

instance (l : Ledger) (name : String) (path : List String) (operator : Address) (time : UInt64) :
    Decidable (l.Delegates name path operator time) :=
  decidable_of_iff _ any_covers_iff

instance (l : Ledger) (a : Account) (signer : Address) : Decidable (l.Admits a signer) :=
  inferInstanceAs (Decidable (_ ∨ _ ∨ _))

instance (l : Ledger) (name app : String) (now : Int64) (signer : Address) :
    Decidable (l.Authorizes name app now signer) :=
  inferInstanceAs (Decidable ((∃ a ∈ l.accounts (playerToken name), l.Admits a signer) ∨ _))

/-- The contract's answer on access: owners have it, and those to whom it is delegated. -/
theorem hasAccess_iff {l : Ledger} {name : String} {path : List String} {operator : Address}
    {time : UInt64} : l.hasAccess playerNamespace name path operator time = true ↔
      (∃ a, l.accounts (playerToken name) = some a ∧ a.owner = operator) ∨
        l.Delegates name path operator time := by
  simp only [hasAccess, Bool.or_eq_true, any_covers_iff, Option.any_eq_true, decide_eq_true_eq]
  rfl

/-- The state of the decision on credentials by what a ledger holds. -/
def verdict (l : Ledger) (domain : SigningDomain) (c : Credentials) (now : Int64) :
    Decision.State :=
  if c.protocol ≠ .delegation then .invalidData
  else if c.isExpiredAt now then .expired
  else if l.accounts (playerToken c.name) = none then .invalidData
  else match Resolver.signer domain c with
    | .error _ => .invalidSignature
    | .ok signer => if l.Authorizes c.name c.app now signer then .valid else .invalidSignature

theorem answer_of_working {l : Ledger} (hl : l.failure = none) (r : LedgerRead) :
    l.answer r = l.lookup r := by
  simp only [answer, hl]

end Ledger

namespace Resolver

variable {l : Ledger} (hl : l.failure = none)
include hl

theorem run_ask_bind {α : Type} {r : LedgerRead} {a : r.Result} (h : l.lookup r = .ok a)
    (next : r.Result → LedgerInquiry α) :
    (r.ask >>= next).run.run l.answer = (next a).run.run l.answer := by
  have hr : r.ask.run.run l.answer = .ok a := (Ledger.answer_of_working hl r).trans h
  rw [Inquiry.run_bind_exceptT, hr]
  rfl

/-- On a working ledger that has the name, the last check finds whether a signer is authorized. -/
theorem run_isAuthorized {c : Credentials} {a : Account} (signer : Address) (now : Int64)
    (ha : l.accounts (Ledger.playerToken c.name) = some a) :
    (isAuthorized c (Ledger.playerToken c.name) signer now).run.run l.answer =
      .ok (decide (l.Authorizes c.name c.app now signer)) := by
  have happroved : l.lookup (.approved (Ledger.playerToken c.name)) = .ok a.approved := by
    simp [Ledger.lookup, ha]
  have howner : l.lookup (.owner (Ledger.playerToken c.name)) = .ok a.owner := by
    simp [Ledger.lookup, ha]
  have hauth : l.Authorizes c.name c.app now signer ↔
      l.hasAccess playerNamespace c.name (accessPath c.app) signer (contractTime now) = true ∨
        a.approved = signer ∨ l.operators a.owner signer = true := by
    rw [Ledger.hasAccess_iff]
    simp only [Ledger.Authorizes, Ledger.Admits, ha, Option.some.injEq, exists_eq_left']
    tauto
  unfold isAuthorized
  rw [run_ask_bind hl (a := l.hasAccess playerNamespace c.name (accessPath c.app) signer
    (contractTime now)) rfl]
  by_cases hacc : l.hasAccess playerNamespace c.name (accessPath c.app) signer
      (contractTime now) = true
  · rw [if_pos hacc, decide_eq_true (hauth.2 (.inl hacc))]
    rfl
  · rw [if_neg hacc, run_ask_bind hl happroved]
    by_cases happ : a.approved = signer
    · rw [if_pos happ, decide_eq_true (hauth.2 (.inr (.inl happ)))]
      rfl
    · rw [if_neg happ, run_ask_bind hl howner]
      have hlast : l.Authorizes c.name c.app now signer ↔ l.operators a.owner signer = true := by
        rw [hauth]
        simp [hacc, happ]
      rw [show (LedgerRead.approvedForAll a.owner signer).ask.run.run l.answer =
        .ok (l.operators a.owner signer) from Ledger.answer_of_working hl _]
      cases hop : l.operators a.owner signer with
      | true => rw [decide_eq_true (hlast.2 hop)]
      | false => rw [decide_eq_false (fun h => by simp [hlast.1 h] at hop)]

/-- Resolving credentials on a working ledger ends in the ledger's verdict. -/
theorem run_resolve (domain : SigningDomain) (c : Credentials) (now : Int64) :
    (resolve domain c now).run.run l.answer = .ok (l.verdict domain c now) := by
  unfold resolve Ledger.verdict
  by_cases hproto : c.protocol ≠ .delegation
  · rw [if_pos hproto, if_pos hproto]
    rfl
  rw [if_neg hproto, if_neg hproto]
  by_cases hexp : c.isExpiredAt now = true
  · rw [if_pos hexp, if_pos hexp]
    rfl
  rw [if_neg hexp, if_neg hexp, run_ask_bind hl (a := Ledger.playerToken c.name) rfl,
    run_ask_bind hl (a := (l.accounts (Ledger.playerToken c.name)).isSome) rfl]
  cases ha : l.accounts (Ledger.playerToken c.name) with
  | none => rfl
  | some a =>
    simp only [Option.isSome_some, Bool.not_true, Bool.false_eq_true, if_false, reduceCtorEq]
    cases hs : signer domain c with
    | error e => rfl
    | ok s =>
      rw [Inquiry.run_bind_exceptT, run_isAuthorized hl s now ha]
      by_cases h : l.Authorizes c.name c.app now s
      · simp only [decide_eq_true h, if_pos h]
        rfl
      · simp only [decide_eq_false h, if_neg h]
        rfl

theorem run_verifyPassword (domain : SigningDomain) (name app password : String) (now : Int64) :
    (verifyPassword domain name app password now).run.run l.answer =
      .ok (match Credentials.ofPassword name app password with
        | .ok c => Decision.ofCredentials (l.verdict domain c now) c
        | .error _ => Decision.bare .malformed) := by
  unfold verifyPassword
  cases Credentials.ofPassword name app password with
  | error e => rfl
  | ok c =>
    simp only [verify]
    rw [Inquiry.run_bind_exceptT, run_resolve hl]
    rfl

end Resolver

/-- The verdict is favourable exactly if the credentials are for the delegation contract and not
expired, the name is registered, and the signature is that of someone who is authorized. -/
theorem Ledger.verdict_eq_valid {l : Ledger} {domain : SigningDomain} {c : Credentials}
    {now : Int64} : l.verdict domain c now = .valid ↔
      c.protocol = .delegation ∧ c.isExpiredAt now = false ∧
        (l.accounts (playerToken c.name)).isSome ∧
        ∃ signer, Resolver.signer domain c = .ok signer ∧ l.Authorizes c.name c.app now signer := by
  unfold verdict
  split
  · rename_i h
    simp [h]
  · rename_i hproto
    split
    · rename_i h
      simp [h]
    · rename_i hexp
      split
      · rename_i h
        simp [h]
      · rename_i hacc
        have hsome : (l.accounts (playerToken c.name)).isSome := Option.isSome_iff_ne_none.2 hacc
        split
        · rename_i h
          simp [h]
        · rename_i s hs
          split
          · rename_i h
            simp_all
          · rename_i h
            simp_all

end LedgerLogin
