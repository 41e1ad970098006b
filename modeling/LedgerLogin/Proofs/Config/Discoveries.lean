import LedgerLogin.Config.Build
import LedgerLogin.Proofs.Inquiry.Sequence
import LedgerLogin.Proofs.Rpc.Discovery

/-!
# Ledgers that are discovered for a service

A service is built of a configuration server by server, and every ledger that a server needs is
discovered on the way. The outcome is known entry by entry (`Config.buildEntry_eq_ok`,
`Config.buildEntry_eq_error`), each in the state that the nodes are in by then (`Config.begun`), and
so for the whole: no service is built just if a ledger is not discovered
(`Config.build_eq_error_iff`), the first such ledger is named (`Config.exists_undiscovered`), and of
a service that is built every server was (`Config.exists_servers`).
-/

namespace LedgerLogin

open Http (Endpoint Request Reply)

/-! ## Ledgers that are needed -/

/-- A ledger that a server needs: the node that it is behind, and its delegation contract. -/
structure Connection where
  server : String
  endpoint : Endpoint
  contract : Address

namespace Connection

def discover (x : Connection) :
    Inquiry Request (fun _ => Reply) (Except TransportError LedgerNode) :=
  (LedgerNode.connect x.endpoint x.contract).run

/-- What a discovery comes to for what is made of the ledger. -/
def outcome {α : Type} (x : Connection) (make : LedgerNode → α) :
    Except TransportError LedgerNode → Except BuildError α
  | .ok node => .ok (make node)
  | .error cause => .error ⟨x.server, x.endpoint.url, cause⟩

end Connection

namespace ServerConfig

/-- A node. It has the time that is configured for an answer, or else half a minute. -/
def nodeAt (c : ServerConfig) (url : String) : Endpoint := ⟨url, c.timeout.getD 30⟩

def connection? (name : String) (c : ServerConfig) : Option Connection :=
  c.delegation.map fun d => ⟨name, c.nodeAt d.rpc, d.contract⟩

def processors (c : ServerConfig) : List (Authenticator LedgerNode GspNode) :=
  c.gsp.toList.map fun url => .gsp ⟨c.nodeAt url⟩

end ServerConfig

namespace Config

/-- The ledgers that the servers need, in the order of their names. -/
def connections (c : Config) : List Connection :=
  c.servers.entries.filterMap fun e => e.2.connection? e.1

variable {σ : Type}

/-- The discoveries of these ledgers, each with the state that the nodes are in when it is begun. -/
def discoveries (c : Config) (w : World σ fun _ : Request => Reply) (s : σ) :
    List (Connection × σ) :=
  startsIn w Connection.discover c.connections s

end Config

variable {σ : Type} {w : World σ fun _ : Request => Reply} {s : σ}

/-! ## Server by server -/

namespace ServerConfig

variable {c : ServerConfig} {name : String}

theorem endpoint_eq_nodeAt (c : ServerConfig) (url : String) : c.endpoint url = c.nodeAt url := by
  unfold endpoint nodeAt
  cases c.timeout <;> rfl

theorem gspAuthenticators_eq_processors (c : ServerConfig) :
    c.gspAuthenticators = c.processors := by
  simp only [gspAuthenticators, processors, endpoint_eq_nodeAt]

theorem build_of_none (h : c.connection? name = none) :
    c.build name = pure ⟨c.app, c.processors⟩ := by
  have hnone : c.delegation = none := Option.map_eq_none_iff.1 h
  rw [build, hnone, Option.toList_none, List.mapM_nil, pure_bind, List.append_nil,
    gspAuthenticators_eq_processors]

theorem build_of_some {x : Connection} (h : c.connection? name = some x) :
    (c.build name).run = x.discover.bind fun found => .done (x.outcome
      (fun node => ⟨c.app, c.processors ++ [.delegation node.domain node]⟩) found) := by
  obtain ⟨d, hd, rfl⟩ := Option.map_eq_some_iff.1 h
  rw [build, hd, Option.toList_some, List.mapM_cons, List.mapM_nil]
  simp only [bind_assoc, pure_bind]
  rw [ExceptT.run_bind, connect, ExceptT.run_mk, Inquiry.bind_eq, Inquiry.bind_eq,
    Inquiry.bind_assoc, endpoint_eq_nodeAt, gspAuthenticators_eq_processors]
  refine congrArg _ (funext fun found => ?_)
  cases found with
  | error cause => rfl
  | ok node => rfl

end ServerConfig

namespace Config

def buildEntry (e : String × ServerConfig) : Building (String × Server LedgerNode GspNode) := do
  return (e.1, ← e.2.build e.1)

theorem build_eq (c : Config) :
    c.build = c.servers.entries.mapM buildEntry >>= fun servers =>
      pure ⟨StringMap.ofList servers⟩ := rfl

theorem runIn_buildEntry_of_none {e : String × ServerConfig} (h : e.2.connection? e.1 = none) :
    (buildEntry e).run.runIn w s = ⟨.ok (e.1, ⟨e.2.app, e.2.processors⟩), s, []⟩ := by
  rw [buildEntry, ServerConfig.build_of_none h, pure_bind]
  rfl

theorem runIn_buildEntry_of_some {e : String × ServerConfig} {x : Connection}
    (h : e.2.connection? e.1 = some x) :
    (buildEntry e).run.runIn w s =
      ⟨x.outcome (fun node => (e.1, ⟨e.2.app, e.2.processors ++ [.delegation node.domain node]⟩))
          (x.discover.runIn w s).result,
        (x.discover.runIn w s).state, (x.discover.runIn w s).answers⟩ := by
  rw [buildEntry, ExceptT.run_bind, ServerConfig.build_of_some h, Inquiry.bind_eq,
    Inquiry.bind_assoc, Inquiry.runIn_bind]
  simp only [Inquiry.done_bind]
  cases (x.discover.runIn w s).result with
  | error cause => exact congrArg (Run.mk _ _) (List.append_nil _)
  | ok node => exact congrArg (Run.mk _ _) (List.append_nil _)

theorem buildEntry_eq_error {e : String × ServerConfig} {t : σ} {failure : BuildError}
    (h : ((buildEntry e).run.runIn w t).result = .error failure) :
    ∃ x cause, e.2.connection? e.1 = some x ∧ (x.discover.runIn w t).result = .error cause ∧
      failure = ⟨x.server, x.endpoint.url, cause⟩ := by
  cases hx : e.2.connection? e.1 with
  | none =>
    rw [runIn_buildEntry_of_none hx] at h
    cases h
  | some x =>
    rw [runIn_buildEntry_of_some hx] at h
    cases hfound : (x.discover.runIn w t).result with
    | error cause =>
      simp only [hfound] at h
      cases h
      exact ⟨x, cause, rfl, hfound, rfl⟩
    | ok node =>
      simp only [hfound] at h
      cases h

theorem buildEntry_eq_ok {e : String × ServerConfig} {t : σ}
    {server : String × Server LedgerNode GspNode}
    (h : ((buildEntry e).run.runIn w t).result = .ok server) :
    server.1 = e.1 ∧ server.2.app = e.2.app ∧ match e.2.connection? e.1 with
    | none => server.2.authenticators = e.2.processors
    | some x => ∃ node, node.KnownFrom w t x.endpoint x.contract ∧
      server.2.authenticators = e.2.processors ++ [.delegation ⟨node.chainId, x.contract⟩ node] := by
  cases hx : e.2.connection? e.1 with
  | none =>
    rw [runIn_buildEntry_of_none hx] at h
    cases h
    exact ⟨rfl, rfl, rfl⟩
  | some x =>
    rw [runIn_buildEntry_of_some hx] at h
    cases hfound : (x.discover.runIn w t).result with
    | error cause =>
      simp only [hfound] at h
      cases h
    | ok node =>
      simp only [hfound] at h
      cases h
      have hknown := LedgerNode.connect_eq_ok.1 hfound
      refine ⟨rfl, rfl, node, hknown, ?_⟩
      show _ ++ [Authenticator.delegation ⟨node.chainId, node.delegation⟩ node] = _
      rw [hknown.delegation_eq]

/-! ## All entries -/

/-- The entries, each with the state that the nodes are in when its server is begun. -/
def begun (c : Config) (w : World σ fun _ : Request => Reply) (s : σ) :
    List ((String × ServerConfig) × σ) :=
  startsIn w (fun e => (buildEntry e).run) c.servers.entries s

/-- The discovery that is made for an entry, if its server needs a ledger. -/
def discovery? (x : (String × ServerConfig) × σ) : Option (Connection × σ) :=
  (x.1.2.connection? x.1.1).map fun k => (k, x.2)

variable {c : Config}

theorem discoveries_eq : c.discoveries w s = (c.begun w s).filterMap discovery? := by
  refine startsIn_filterMap ?_ ?_ c.servers.entries s
  · intro e t h
    rw [runIn_buildEntry_of_none h]
  · intro e x t h
    rw [runIn_buildEntry_of_some h]

theorem exists_known_of_buildEntry_eq_ok {x : (String × ServerConfig) × σ} {y : Connection × σ}
    {server : String × Server LedgerNode GspNode}
    (h : ((buildEntry x.1).run.runIn w x.2).result = .ok server) (hy : discovery? x = some y) :
    ∃ node : LedgerNode, node.KnownFrom w y.2 y.1.endpoint y.1.contract := by
  obtain ⟨k, hk, rfl⟩ := Option.map_eq_some_iff.1 hy
  obtain ⟨-, -, hauthenticators⟩ := buildEntry_eq_ok h
  rw [hk] at hauthenticators
  obtain ⟨node, hknown, -⟩ := hauthenticators
  exact ⟨node, hknown⟩

theorem answers_buildEntry (x : (String × ServerConfig) × σ) :
    ((buildEntry x.1).run.runIn w x.2).answers =
      (discovery? x).toList.flatMap fun y => (y.1.discover.runIn w y.2).answers := by
  unfold discovery?
  cases hx : x.1.2.connection? x.1.1 with
  | none =>
    rw [runIn_buildEntry_of_none hx]
    rfl
  | some k =>
    rw [runIn_buildEntry_of_some hx]
    exact (List.append_nil _).symm

/-- A service that was not built lacks the first ledger that was not discovered. -/
theorem exists_undiscovered {failure : BuildError}
    (h : (c.build.run.runIn w s).result = .error failure) :
    ∃ before x after cause, c.discoveries w s = before ++ x :: after ∧
      (∀ y ∈ before, ∃ node : LedgerNode, node.KnownFrom w y.2 y.1.endpoint y.1.contract) ∧
      (x.1.discover.runIn w x.2).result = .error cause ∧
      failure = ⟨x.1.server, x.1.endpoint.url, cause⟩ := by
  rw [build_eq, Inquiry.result_bind, bind_eq_error] at h
  rcases h with h | ⟨servers, -, h⟩
  · rw [result_mapM] at h
    obtain ⟨before, x, after, hsplit, hbefore, hx⟩ := exists_first_error h
    obtain ⟨k, cause, hk, hcause, rfl⟩ := buildEntry_eq_error hx
    have hdiscovery : discovery? x = some (k, x.2) := by rw [discovery?, hk, Option.map_some]
    refine ⟨before.filterMap discovery?, (k, x.2), after.filterMap discovery?, cause, ?_, ?_,
      hcause, rfl⟩
    · rw [discoveries_eq, begun, hsplit, List.filterMap_append,
        List.filterMap_cons_some hdiscovery]
    · intro y hy
      obtain ⟨z, hz, hzy⟩ := List.mem_filterMap.1 hy
      obtain ⟨server, hserver⟩ := hbefore z hz
      exact exists_known_of_buildEntry_eq_ok hserver hzy
  · cases h

theorem exists_servers {service : NodeService}
    (h : (c.build.run.runIn w s).result = .ok service) :
    ∃ servers, service = ⟨StringMap.ofList servers⟩ ∧ List.Forall₂
      (fun x server => ((buildEntry x.1).run.runIn w x.2).result = .ok server)
      (c.begun w s) servers ∧
    (c.build.run.runIn w s).answers =
      (c.begun w s).flatMap fun x => ((buildEntry x.1).run.runIn w x.2).answers := by
  rw [build_eq, Inquiry.result_bind] at h
  obtain ⟨servers, hservers, h⟩ := bind_eq_ok.1 h
  cases h
  refine ⟨servers, rfl, ?_, ?_⟩
  · rw [result_mapM] at hservers
    exact mapM_eq_ok.1 hservers
  · rw [build_eq, Inquiry.runIn_bind_of_ok hservers, answers_mapM hservers]
    exact List.append_nil _

theorem build_eq_error_iff : (∃ failure, (c.build.run.runIn w s).result = .error failure) ↔
    ∃ x ∈ c.discoveries w s, ∀ node : LedgerNode,
      ¬ node.KnownFrom w x.2 x.1.endpoint x.1.contract := by
  constructor
  · rintro ⟨failure, h⟩
    obtain ⟨before, x, after, cause, hsplit, -, hcause, -⟩ := exists_undiscovered h
    refine ⟨x, ?_, fun node hnode => ?_⟩
    · rw [hsplit]
      exact List.mem_append_right before List.mem_cons_self
    · have hfound : (x.1.discover.runIn w x.2).result = .ok node := LedgerNode.connect_eq_ok.2 hnode
      rw [hcause] at hfound
      cases hfound
  · rintro ⟨x, hx, hunknown⟩
    cases h : (c.build.run.runIn w s).result with
    | error failure => exact ⟨failure, rfl⟩
    | ok service =>
      obtain ⟨servers, -, hservers, -⟩ := exists_servers h
      rw [discoveries_eq] at hx
      obtain ⟨y, hy, hyx⟩ := List.mem_filterMap.1 hx
      obtain ⟨server, hserver⟩ := exists_of_forall₂ hservers hy
      obtain ⟨node, hnode⟩ := exists_known_of_buildEntry_eq_ok hserver hyx
      exact absurd hnode (hunknown node)

end Config

end LedgerLogin
