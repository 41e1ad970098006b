import LedgerLogin.Bridge.Loop
import LedgerLogin.Proofs.Service.Alternatives

/-!
# Accepted logins

A server lets a user in as soon as one of its authenticators does, if those before it answer with a
denial (`Server.authenticate_of_accepting`), and a bridge answers a login that the service accepts
with an acceptance (`Bridge.run_of_decided`).
-/

namespace LedgerLogin

variable {L G : Type} {answer : (q : Backend L G) → q.Answer}

/-- What reads from one ledger is answered by that ledger alone. -/
theorem Verification.run_ofLedger {α : Type} (node : L) (x : LedgerInquiry α) :
    (ofLedger node x : Verification L G α).run.run answer =
      (x.run.run fun r => answer (.ledger node r)).mapError VerifyError.transport := by
  have hvia := Inquiry.run_via (fun r => Inquiry.query (Backend.ledger node r)) answer x.run
  simp only [Inquiry.run_query] at hvia
  rw [← hvia]
  unfold ofLedger
  rw [ExceptT.run_mk, Inquiry.bind_eq, Inquiry.run_bind]
  rfl

/-- An authenticator denies a login. -/
def Denies (answer : (q : Backend L G) → q.Answer) (now : Int64) (name app password : String)
    (a : Authenticator L G) : Prop :=
  ∃ d, (a.authenticate now name app password).run.run answer = .ok d ∧ d.valid = false

theorem Server.authenticate_of_accepting {s : Server L G} {before after : List (Authenticator L G)}
    {a : Authenticator L G} {now : Int64} {name password : String} {d : Decision}
    (hs : s.authenticators = before ++ a :: after)
    (hbefore : ∀ b ∈ before, Denies answer now name s.app password b)
    (ha : (a.authenticate now name s.app password).run.run answer = .ok d) (hd : d.valid = true) :
    (s.authenticate now name password).run.run answer = .ok d := by
  -- Answers are fixed, so that it does not matter when an authenticator is asked.
  let outcome (b : Authenticator L G) := (b.authenticate now name s.app password).run.run answer
  have hsteady : ∀ b ∈ s.authenticators, Steady (fun q (_ : Unit) => (answer q, ()))
      (b.authenticate now name s.app password) (outcome b) :=
    fun b _ => Inquiry.runIn_fixed answer _
  have hdenied : (before.map outcome).find? (settled Decision.valid) = none := by
    refine List.find?_eq_none.2 fun o ho => ?_
    obtain ⟨b, hb, rfl⟩ := List.mem_map.1 ho
    obtain ⟨denial, hdenial, hflag⟩ := hbefore b hb
    have houtcome : outcome b = .ok denial := hdenial
    rw [houtcome]
    exact Bool.eq_false_iff.1 hflag
  have haccepted : settled Decision.valid (outcome a) = true := by
    have houtcome : outcome a = .ok d := ha
    rw [houtcome]
    exact hd
  calc (s.authenticate now name password).run.run answer
      = ((s.authenticators.map outcome).find? (settled Decision.valid)).getD
          ((s.authenticators.map outcome).getLastD (.ok (Decision.bare .invalidData))) := by
        rw [← Inquiry.runIn_fixed answer _ (), authenticate, firstAcceptance_eq_firstSettled,
          result_firstSettled, outcomesIn_of_steady hsteady]
    _ = .ok d := by
        rw [hs, List.map_append, List.find?_append, hdenied, List.map_cons,
          List.find?_cons_of_pos haccepted]
        exact ha

theorem Service.authenticate_of_accepted {s : Service L G} {server chat name password : String}
    {known : Server L G} {now : Int64} {d : Decision} (hs : s.servers.get? server = some known)
    (hname : ChatName.decode chat = .ok name)
    (hd : (known.authenticate now name password).run.run answer = .ok d) :
    (s.authenticate now chat server password).run answer = .decided d := by
  unfold Service.authenticate
  simp only [hs, hname]
  rw [Inquiry.bind_eq, Inquiry.run_bind, hd]
  rfl

namespace Bridge

theorem run_of_decided {s : Service L G} {now : Int64} {input : Bytes}
    {chat server password line : String} {d : Decision} (hlines : lines input = [.ok line])
    (hline : Command.parse line = .auth chat server password)
    (hd : (s.authenticate now chat server password).run answer = .decided d) :
    (run s now input).run answer =
      { output := Bridge.answer d.valid, failure := none, events := [.decision d.state] } := by
  unfold run
  rw [hlines, serve, hline, Inquiry.bind_eq, Inquiry.run_bind, handle, Inquiry.bind_eq,
    Inquiry.run_bind, hd]
  show Outcome.mk (Bridge.answer d.valid ++ []) none ([.decision d.state] ++ []) = _
  rw [List.append_nil, List.append_nil]

end Bridge

end LedgerLogin
