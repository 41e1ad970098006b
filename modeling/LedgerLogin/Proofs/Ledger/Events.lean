import LedgerLogin.Proofs.Hash.Collision
import LedgerLogin.Proofs.Ledger.Authority
import Mathlib.Data.List.Induction

/-!
# What a history says

Who owns a name, who is approved for it, who operates for an owner and to whom a path is delegated,
read off a history of events alone: each is something that an event of the history started and no
later event ended (`History.Since`). `Ledger.replay_accounts` and its companions say that the ledger
that the history leaves holds just that. They go by induction on the history, one event at its end
at a time; `History.since_concat` is how a further event changes what a history says, and
`Ledger.accounts_apply` how it changes an account.

A ledger keeps names by the hash of their bytes, so what it holds on a name is what the history says
of the name only if no other name of the history has its hash.
-/

namespace LedgerLogin

/-- A history of events, the earliest first. -/
abbrev History := List LedgerEvent

namespace History

/-- An event of the history started something, and no event after it ended it. What starts it may
depend on the events before. -/
def Since (starts : History → LedgerEvent → Prop) (ends : LedgerEvent → Prop) (h : History) :
    Prop :=
  ∃ before e after, h = before ++ e :: after ∧ starts before e ∧ ∀ later ∈ after, ¬ ends later

/-- A further event starts something itself, or lets it stand. -/
theorem since_concat {starts : History → LedgerEvent → Prop} {ends : LedgerEvent → Prop}
    {h : History} {e : LedgerEvent} :
    Since starts ends (h ++ [e]) ↔ starts h e ∨ Since starts ends h ∧ ¬ ends e := by
  constructor
  · intro hsince
    obtain ⟨before, e', after, heq, hs, hends⟩ := hsince
    -- What started it is the last event itself or stands before it.
    rcases List.eq_nil_or_concat after with rfl | ⟨init, last, rfl⟩
    · obtain ⟨rfl, he⟩ := List.append_inj' heq rfl
      simp only [List.cons.injEq, and_true] at he
      exact .inl (he ▸ hs)
    · rw [List.concat_eq_append] at heq hends
      have hassoc : before ++ e' :: (init ++ [last]) = (before ++ e' :: init) ++ [last] := by simp
      rw [hassoc] at heq
      obtain ⟨rfl, he⟩ := List.append_inj' heq rfl
      simp only [List.cons.injEq, and_true] at he
      subst he
      refine .inr ⟨⟨before, e', init, rfl, hs, fun x hx => hends x (by simp [hx])⟩, ?_⟩
      exact hends _ (by simp)
  · intro hcases
    rcases hcases with hs | ⟨⟨before, e', after, rfl, hs, hends⟩, hlast⟩
    · exact ⟨h, e, [], rfl, hs, by simp⟩
    · refine ⟨before, e', after ++ [e], by simp, hs, ?_⟩
      intro later hl
      rcases List.mem_append.1 hl with hl | hl
      · exact hends later hl
      · rw [List.mem_singleton.1 hl]
        exact hlast

theorem not_since_nil {starts : History → LedgerEvent → Prop} {ends : LedgerEvent → Prop} :
    ¬ Since starts ends [] := by
  intro hsince
  obtain ⟨before, e, after, h, -⟩ := hsince
  simp at h

/-! ## Events about a name -/

def Registered (h : History) (name : String) : Prop := ∃ owner, .register name owner ∈ h

/-- An event makes someone the owner of the name. Before the first registration there is nothing
that a transfer could move. -/
def GivesTo (name : String) (owner : Address) (before : History) (e : LedgerEvent) : Prop :=
  e = .register name owner ∨ e = .transfer name owner ∧ Registered before name

def Moves (name : String) (e : LedgerEvent) : Prop :=
  ∃ owner, e = .register name owner ∨ e = .transfer name owner

/-- The last effective registration or transfer of the name made `owner` its owner. -/
def Owns (h : History) (name : String) (owner : Address) : Prop :=
  Since (GivesTo name owner) (Moves name) h

/-- The last approval of someone for the name, while it was registered, was of `operator`, and the
name has not been registered or moved since. -/
def Approves (h : History) (name : String) (operator : Address) : Prop :=
  Since (fun before e => e = .approve name operator ∧ Registered before name)
    (fun e => Moves name e ∨ ∃ other, e = .approve name other) h

/-- The last word of `owner` on approving `operator` for everything was that it is. -/
def Operates (h : History) (owner operator : Address) : Prop :=
  Since (fun _ e => e = .setApprovalForAll owner operator true)
    (fun e => ∃ approved, e = .setApprovalForAll owner operator approved) h

/-- Something at or above the path was delegated to `operator` until after the time, or for good,
and not revoked since. -/
def Delegates (h : History) (name : String) (path : List String) (operator : Address)
    (time : UInt64) : Prop :=
  Since (fun _ e => ∃ above expiry, e = .grant name above operator expiry ∧ above <+: path ∧
      ∀ limit, expiry = some limit → time ≤ limit)
    (fun e => e = .revoke name operator) h

/-- Who may log in to an application with a name, by what a history says. -/
def Authorizes (h : History) (name app : String) (now : Int64) (signer : Address) : Prop :=
  h.Owns name signer ∨ h.Approves name signer ∨
    (∃ owner, h.Owns name owner ∧ h.Operates owner signer) ∨
    h.Delegates name (accessPath app) signer (Resolver.contractTime now)

/-- The names that the events of a history register, move or approve someone for. -/
def names (h : History) : List String :=
  h.filterMap fun
    | .register name _ => some name
    | .transfer name _ => some name
    | .approve name _ => some name
    | _ => none

theorem registered_concat {h : History} {e : LedgerEvent} {name : String} :
    Registered (h ++ [e]) name ↔ (∃ owner, e = .register name owner) ∨ Registered h name := by
  simp only [Registered, List.mem_append, List.mem_singleton]
  constructor
  · intro hreg
    obtain ⟨owner, hm | rfl⟩ := hreg
    · exact .inr ⟨owner, hm⟩
    · exact .inl ⟨owner, rfl⟩
  · intro hcases
    rcases hcases with ⟨owner, rfl⟩ | ⟨owner, hm⟩
    · exact ⟨owner, .inr rfl⟩
    · exact ⟨owner, .inl hm⟩

theorem operates_concat {h : History} {e : LedgerEvent} {owner operator : Address} :
    Operates (h ++ [e]) owner operator ↔ e = .setApprovalForAll owner operator true ∨
      Operates h owner operator ∧ ∀ approved, e ≠ .setApprovalForAll owner operator approved := by
  simp only [Operates, since_concat, not_exists]

theorem delegates_concat {h : History} {e : LedgerEvent} {name : String} {path : List String}
    {operator : Address} {time : UInt64} :
    Delegates (h ++ [e]) name path operator time ↔
      (∃ above expiry, e = .grant name above operator expiry ∧ above <+: path ∧
        ∀ limit, expiry = some limit → time ≤ limit) ∨
      Delegates h name path operator time ∧ e ≠ .revoke name operator := by
  simp only [Delegates, since_concat, ne_eq]

/-- What a history says of a name is what an account holds. The zero address is left out where it
stands for no approval. -/
def Describes (h : History) (name : String) : Option Account → Prop
  | none => ¬ h.Registered name
  | some a => h.Registered name ∧ (∀ owner, h.Owns name owner ↔ a.owner = owner) ∧
      ∀ operator, operator ≠ Address.zero → (h.Approves name operator ↔ a.approved = operator)

end History

def Account.after (name : String) (a : Option Account) : LedgerEvent → Option Account
  | .register n owner => if n = name then some { owner } else a
  | .transfer n owner => if n = name then a.map fun _ => { owner } else a
  | .approve n operator => if n = name then a.map ({ · with approved := operator }) else a
  | _ => a

namespace History.Describes

variable {h : History} {name : String} {a : Option Account}

theorem concat_other (hd : h.Describes name a) {e : LedgerEvent} (hmove : ¬ Moves name e)
    (happrove : ∀ operator, e ≠ .approve name operator) :
    History.Describes (h ++ [e]) name a := by
  have hreg : ∀ owner, e ≠ .register name owner := fun owner he => hmove ⟨owner, .inl he⟩
  have htrans : ∀ owner, e ≠ .transfer name owner := fun owner he => hmove ⟨owner, .inr he⟩
  cases a with
  | none =>
    intro hreg'
    obtain ⟨owner, hm⟩ := hreg'
    rcases List.mem_append.1 hm with hm | hm
    · exact hd ⟨owner, hm⟩
    · exact hreg owner (List.mem_singleton.1 hm).symm
  | some a =>
    obtain ⟨hr, howns, happr⟩ := hd
    refine ⟨registered_concat.2 (.inr hr), fun owner => ?_, fun operator hz => ?_⟩
    · rw [← howns owner, Owns, since_concat]
      simp [GivesTo, hreg, htrans, hmove, Owns]
    · rw [← happr operator hz, Approves, since_concat]
      simp [happrove, hmove, Approves]

theorem concat_register (owner : Address) :
    History.Describes (h ++ [.register name owner]) name (some { owner }) := by
  refine ⟨registered_concat.2 (.inl ⟨owner, rfl⟩), fun other => ?_, fun operator hz => ?_⟩
  · rw [Owns, since_concat]
    simp [GivesTo, Moves]
  · rw [Approves, since_concat]
    simp [Moves, hz.symm]

theorem concat_transfer (hd : h.Describes name a) (owner : Address) :
    History.Describes (h ++ [.transfer name owner]) name (a.map fun _ => { owner }) := by
  cases a with
  | none =>
    intro hr
    rcases registered_concat.1 hr with ⟨_, he⟩ | hr
    · cases he
    · exact hd hr
  | some a =>
    refine ⟨registered_concat.2 (.inr hd.1), fun other => ?_, fun operator hz => ?_⟩
    · rw [Owns, since_concat]
      simp [GivesTo, Moves, hd.1]
    · rw [Approves, since_concat]
      simp [Moves, hz.symm]

theorem concat_approve (hd : h.Describes name a) (operator : Address) :
    History.Describes (h ++ [.approve name operator]) name
      (a.map ({ · with approved := operator })) := by
  cases a with
  | none =>
    intro hr
    rcases registered_concat.1 hr with ⟨_, he⟩ | hr
    · cases he
    · exact hd hr
  | some a =>
    refine ⟨registered_concat.2 (.inr hd.1), fun owner => ?_, fun other hz => ?_⟩
    · rw [← hd.2.1 owner, Owns, since_concat]
      simp [GivesTo, Moves, Owns]
    · rw [Approves, since_concat]
      simp [hd.1]

/-- A further event does to the account what it does to what the history says. -/
theorem concat (hd : h.Describes name a) (e : LedgerEvent) :
    History.Describes (h ++ [e]) name (Account.after name a e) := by
  cases e with
  | register n owner =>
    by_cases hn : n = name
    · subst hn
      simpa [Account.after] using concat_register owner
    · simpa [Account.after, hn] using hd.concat_other (by simp [Moves, hn]) (by simp)
  | transfer n owner =>
    by_cases hn : n = name
    · subst hn
      simpa [Account.after] using hd.concat_transfer owner
    · simpa [Account.after, hn] using hd.concat_other (by simp [Moves, hn]) (by simp)
  | approve n operator =>
    by_cases hn : n = name
    · subst hn
      simpa [Account.after] using hd.concat_approve operator
    · simpa [Account.after, hn] using hd.concat_other (by simp [Moves]) (by simp [hn])
  | setApprovalForAll owner operator approved =>
    exact hd.concat_other (by simp [Moves]) (by simp)
  | grant n path operator expiry => exact hd.concat_other (by simp [Moves]) (by simp)
  | revoke n operator => exact hd.concat_other (by simp [Moves]) (by simp)

end History.Describes

namespace Ledger

def tokenPreimage (name : String) : Bytes :=
  bigEndian 8 (utf8 playerNamespace).length ++ utf8 playerNamespace ++ utf8 name

theorem tokenPreimage_inj {m n : String} (h : tokenPreimage m = tokenPreimage n) : m = n :=
  utf8_inj.1 (List.append_cancel_left h)

/-- Two names whose tokens are hashed have one token only if they are one, or the hash collides. -/
theorem eq_of_playerToken_eq {names : List String} (hc : ¬ Collision (names.map tokenPreimage))
    {m n : String} (hm : m ∈ names) (hn : n ∈ names) (h : playerToken m = playerToken n) : m = n :=
  tokenPreimage_inj (eq_of_keccak256_eq hc (List.mem_map_of_mem hm) (List.mem_map_of_mem hn) h)

/-- What an event does to the account of a name, if the name has its token for itself. -/
theorem accounts_apply (l : Ledger) (e : LedgerEvent) (name : String)
    (hname : ∀ n ∈ History.names [e], playerToken n = playerToken name → n = name) :
    (l.apply e).accounts (playerToken name) =
      Account.after name (l.accounts (playerToken name)) e := by
  have hiff : ∀ n ∈ History.names [e], (playerToken name = playerToken n ↔ n = name) :=
    fun n hn => ⟨fun h => hname n hn h.symm, fun h => h ▸ rfl⟩
  cases e with
  | register n owner => simp [apply, setAccount, Account.after, hiff n (by simp [History.names])]
  | transfer n owner =>
    by_cases hn : n = name
    · simp [apply, setAccount, Account.after, hn]
    · simp [apply, setAccount, Account.after, hiff n (by simp [History.names]), hn]
  | approve n operator =>
    by_cases hn : n = name
    · simp [apply, setAccount, Account.after, hn]
    · simp [apply, setAccount, Account.after, hiff n (by simp [History.names]), hn]
  | setApprovalForAll owner operator approved => rfl
  | grant n path operator expiry => rfl
  | revoke n operator => rfl

theorem operators_apply (l : Ledger) (e : LedgerEvent) (owner operator : Address) :
    (l.apply e).operators owner operator = true ↔
      e = .setApprovalForAll owner operator true ∨
        l.operators owner operator = true ∧
          ∀ approved, e ≠ .setApprovalForAll owner operator approved := by
  cases e with
  | setApprovalForAll o p approved =>
    by_cases h : owner = o ∧ operator = p
    · obtain ⟨rfl, rfl⟩ := h
      simp [apply]
    · have hne : ∀ b c, LedgerEvent.setApprovalForAll o p b ≠ .setApprovalForAll owner operator c := by
        intro b c he
        cases he
        exact h ⟨rfl, rfl⟩
      simp [apply, h, hne]
  | _ => simp [apply, setAccount]

theorem delegates_apply (l : Ledger) (e : LedgerEvent) (name : String) (path : List String)
    (operator : Address) (time : UInt64) :
    (l.apply e).Delegates name path operator time ↔
      (∃ above expiry, e = .grant name above operator expiry ∧ above <+: path ∧
        ∀ limit, expiry = some limit → time ≤ limit) ∨
      l.Delegates name path operator time ∧ e ≠ .revoke name operator := by
  cases e with
  | grant n above o expiry =>
    constructor
    · intro h
      obtain ⟨g, hg, hns, hname, hop, hpre, hexp⟩ := h
      rcases List.mem_append.1 hg with hg | hg
      · exact .inr ⟨⟨g, hg, hns, hname, hop, hpre, hexp⟩, by simp⟩
      · rw [List.mem_singleton.1 hg] at hname hop hpre hexp
        simp only at hname hop
        subst hname hop
        exact .inl ⟨above, expiry, rfl, hpre, hexp⟩
    · intro h
      rcases h with ⟨above', expiry', he, hpre, hexp⟩ | ⟨⟨g, hg, hrest⟩, -⟩
      · cases he
        exact ⟨_, List.mem_append_right _ (List.mem_singleton_self _), rfl, rfl, rfl, hpre, hexp⟩
      · exact ⟨g, List.mem_append_left _ hg, hrest⟩
  | revoke n o =>
    constructor
    · intro h
      obtain ⟨g, hg, hns, hname, hop, hrest⟩ := h
      obtain ⟨hg, hkept⟩ := List.mem_filter.1 hg
      refine .inr ⟨⟨g, hg, hns, hname, hop, hrest⟩, ?_⟩
      intro he
      cases he
      simp [hname, hop] at hkept
    · intro h
      rcases h with ⟨above', expiry', he, -⟩ | ⟨⟨g, hg, hns, hname, hop, hrest⟩, hne⟩
      · cases he
      · refine ⟨g, List.mem_filter.2 ⟨hg, ?_⟩, hns, hname, hop, hrest⟩
        -- What is kept differs from what is revoked in its name or in its operator.
        by_cases hn : g.name = n
        · have ho : g.operator ≠ o := fun ho => hne (by rw [← hname, ← hop, hn, ho])
          simp [ho]
        · simp [hn]
  | _ => simp [apply, setAccount, Delegates]

/-! ## What the ledger of a history holds -/

theorem replay_concat (l : Ledger) (h : History) (e : LedgerEvent) :
    l.replay (h ++ [e]) = (l.replay h).apply e := by
  simp [replay]

/-- A ledger that starts with nothing on it holds what its history says. -/
theorem replay_accounts (domain : SigningDomain) {name : String} {h : History}
    (hname : ∀ n ∈ h.names, playerToken n = playerToken name → n = name) :
    h.Describes name ((({ domain } : Ledger).replay h).accounts (playerToken name)) := by
  induction h using List.reverseRecOn with
  | nil => simp [replay, History.Describes, History.Registered]
  | append_singleton h e ih =>
    have hsplit : History.names (h ++ [e]) = History.names h ++ History.names [e] :=
      List.filterMap_append
    -- Only the name's own events count, so the names before the last event are apart as well.
    rw [replay_concat, accounts_apply]
    · exact (ih fun n hn => hname n (hsplit ▸ List.mem_append_left _ hn)).concat e
    · exact fun n hn => hname n (hsplit ▸ List.mem_append_right _ hn)

theorem replay_operators (domain : SigningDomain) (h : History) (owner operator : Address) :
    (({ domain } : Ledger).replay h).operators owner operator = true ↔
      h.Operates owner operator := by
  induction h using List.reverseRecOn with
  | nil => simp [replay, History.Operates, History.not_since_nil]
  | append_singleton h e ih =>
    rw [replay_concat, operators_apply, ih, History.operates_concat]

theorem replay_delegates (domain : SigningDomain) (h : History) (name : String)
    (path : List String) (operator : Address) (time : UInt64) :
    (({ domain } : Ledger).replay h).Delegates name path operator time ↔
      h.Delegates name path operator time := by
  induction h using List.reverseRecOn with
  | nil => simp [replay, Delegates, History.Delegates, History.not_since_nil]
  | append_singleton h e ih =>
    rw [replay_concat, delegates_apply, ih, History.delegates_concat]

theorem replay_failure (l : Ledger) (h : History) : (l.replay h).failure = l.failure := by
  induction h using List.reverseRecOn with
  | nil => rfl
  | append_singleton h e ih =>
    rw [replay_concat, ← ih]
    cases e <;> rfl

end Ledger

end LedgerLogin
