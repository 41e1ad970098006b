import LedgerLogin.Proofs.Api.Routes
import LedgerLogin.Proofs.Config.Discoveries
import LedgerLogin.Proofs.Config.Reading
import LedgerLogin.Proofs.Json.ReadBack
import LedgerLogin.Proofs.Rpc.LedgerNode
import LedgerLogin.Proofs.Service.Alternatives

/-!
# Configurations that are realised

A service that is built of a configuration has just the servers that are configured, each with just
the authenticators that are configured (`Config.realisedBy_of_build_eq_ok`). Since every server of a
configuration that is accepted has an authenticator, no login on it is decided without one, unless
the chat name is none.

A configuration that is accepted is realised so, or there is no service; it is not realised just if
a ledger that it needs is not discovered (`Config.build_realises`).
-/

namespace LedgerLogin

open Http (Request Reply)

variable {σ : Type} {w : World σ fun _ : Request => Reply} {s : σ}

namespace ServerConfig

variable {c : ServerConfig} {name : String}

/-- A server with the application and just the authenticators that are configured, the processor
before the ledger. What signatures are bound to is the chain id that the ledger's node told when it
was discovered, and the contract. -/
structure RealisedBy (c : ServerConfig) (w : World σ fun _ : Request => Reply)
    (discoveries : List (Connection × σ)) (name : String) (server : Server LedgerNode GspNode) :
    Prop where
  app : server.app = c.app
  authenticators : match c.connection? name with
    | none => server.authenticators = c.processors
    | some x => ∃ t node, (x, t) ∈ discoveries ∧ node.KnownFrom w t x.endpoint x.contract ∧
      server.authenticators = c.processors ++ [.delegation ⟨node.chainId, x.contract⟩ node]

theorem RealisedBy.usable {discoveries : List (Connection × σ)}
    {server : Server LedgerNode GspNode} (h : c.RealisedBy w discoveries name server)
    (hc : c.Usable) : server.app ≠ "" ∧ server.authenticators ≠ [] := by
  refine ⟨fun hempty => hc.app_ne (h.app.symm.trans hempty), ?_⟩
  have hauthenticators := h.authenticators
  cases hx : c.connection? name with
  | none =>
    -- Without a ledger it is the processor that logins are checked by.
    obtain ⟨url, hurl⟩ := Option.ne_none_iff_exists'.1
      (hc.checks.resolve_right (· (Option.map_eq_none_iff.1 hx)))
    simp only [hx] at hauthenticators
    rw [hauthenticators, processors, hurl]
    exact List.cons_ne_nil _ _
  | some x =>
    simp only [hx] at hauthenticators
    obtain ⟨t, node, -, -, hlist⟩ := hauthenticators
    rw [hlist]
    exact List.append_ne_nil_of_right_ne_nil _ (List.cons_ne_nil _ _)

end ServerConfig

namespace Config

variable {c : Config}

theorem forall₂_realisedBy {servers : List (String × Server LedgerNode GspNode)}
    (h : List.Forall₂ (fun x server => ((buildEntry x.1).run.runIn w x.2).result = .ok server)
      (c.begun w s) servers) :
    List.Forall₂ (fun e server => e.1 = server.1 ∧
      e.2.RealisedBy w (c.discoveries w s) server.1 server.2) c.servers.entries servers := by
  have hentries : (c.begun w s).map Prod.fst = c.servers.entries := map_fst_startsIn _ _
  rw [← hentries, List.forall₂_map_left_iff]
  have hbegun := (List.forall₂_and_left (p := (· ∈ c.begun w s)) _ _).2 ⟨fun _ hx => hx, h⟩
  refine hbegun.imp ?_
  rintro ⟨e, t⟩ server ⟨hx, hserver⟩
  obtain ⟨hname, happ, hauthenticators⟩ := buildEntry_eq_ok hserver
  refine ⟨hname.symm, happ, ?_⟩
  rw [hname]
  cases hk : e.2.connection? e.1 with
  | none =>
    rw [hk] at hauthenticators
    exact hauthenticators
  | some k =>
    rw [hk] at hauthenticators
    obtain ⟨node, hnode, hlist⟩ := hauthenticators
    refine ⟨t, node, ?_, hnode, hlist⟩
    rw [discoveries_eq]
    exact List.mem_filterMap.2 ⟨(e, t), hx, by rw [discovery?, hk, Option.map_some]⟩

/-- A service with just the configured servers, each as it is configured. -/
structure RealisedBy (c : Config) (w : World σ fun _ : Request => Reply) (s : σ)
    (service : NodeService) : Prop where
  names : service.servers.entries.map Prod.fst = c.servers.entries.map Prod.fst
  /-- There is a server, so that the service is ready. -/
  ready : service.servers.entries ≠ [] ∧ ∀ metrics now (request : Api.Request),
    request.path = "/health/readiness" → Api.Route.readiness.allows request.method →
    Api.respond service metrics now request =
      .done (.text 200 (if request.method = "HEAD" then "" else "ready"), [])
  servers : ∀ name, Option.Rel
    (fun configured server => configured.RealisedBy w (c.discoveries w s) name server)
    (c.servers.get? name) (service.servers.get? name)
  usable : ∀ name server, service.servers.get? name = some server →
    server.app ≠ "" ∧ server.authenticators ≠ []
  /-- To build it, all ledgers were discovered and nothing else was asked. -/
  asked : (c.build.run.runIn w s).answers =
    (c.discoveries w s).flatMap fun x => (x.1.discover.runIn w x.2).answers
  /-- Logins are decided by the authenticators, unless the chat name is none. -/
  reports : ∀ {τ : Type} (v : World τ (Backend.Answer (L := LedgerNode) (G := GspNode))) (t : τ)
    now chat name password server, service.servers.get? name = some server →
    let report := ((service.authenticate now chat name password).runIn v t).result
    (∃ cause, ChatName.decode chat = .error cause ∧
      report = .decided (Decision.bare .invalidData)) ∨
    ∃ identity, ChatName.decode chat = .ok identity ∧
      server.Reports v t now identity password report

/-- A service that is built of a configuration that can be used realises it. -/
theorem realisedBy_of_build_eq_ok (hne : c.servers.entries ≠ [])
    (husable : ∀ e ∈ c.servers.entries, e.2.Usable) {service : NodeService}
    (h : (c.build.run.runIn w s).result = .ok service) : c.RealisedBy w s service := by
  obtain ⟨servers, rfl, hbuilt, hanswers⟩ := exists_servers h
  have hrealised := forall₂_realisedBy hbuilt
  have hkeys : servers.map Prod.fst = c.servers.entries.map Prod.fst :=
    (StringMap.keys_of_forall₂ (hrealised.imp fun _ _ hx => hx.1)).symm
  rw [StringMap.ofList_of_ascending (c.servers.ascending.of_keys hkeys)]
  have hnonempty : servers ≠ [] := by
    rintro rfl
    exact hne (List.map_eq_nil_iff.1 hkeys.symm)
  have hservers : ∀ name, Option.Rel
      (fun configured server => configured.RealisedBy w (c.discoveries w s) name server)
      (c.servers.get? name) (servers.lookup name) :=
    StringMap.rel_lookup Function.injective_id hrealised
  have hservable : ∀ name server, servers.lookup name = some server →
      server.app ≠ "" ∧ server.authenticators ≠ [] := by
    intro name server hserver
    have hname := hservers name
    rw [hserver] at hname
    cases hconfigured : c.servers.get? name with
    | none =>
      rw [hconfigured] at hname
      cases hname
    | some configured =>
      rw [hconfigured] at hname
      cases hname with
      | some hrealisedBy =>
        exact hrealisedBy.usable (husable _ (StringMap.mem_of_lookup_eq_some hconfigured))
  exact {
    names := hkeys
    ready := ⟨hnonempty, fun metrics now request => Api.respond_readiness hnonempty metrics now⟩
    servers := hservers
    usable := hservable
    asked := by
      rw [hanswers, discoveries_eq, List.filterMap_eq_flatMap_toList, List.flatMap_assoc]
      simp only [answers_buildEntry]
    reports := fun v t now chat name password server hserver =>
      Server.reports_authenticate hserver (hservable name server hserver).2 v t now chat password }

/-- A configuration that is accepted is realised completely or not at all. It is the one that is
written, it fails to be realised just if a ledger that is needed is not discovered, the first such
ledger is then named, and otherwise the service has just the servers that are configured. -/
theorem build_realises {text : String} {c : Config} (h : parse text = .ok c)
    (w : World σ fun _ : Request => Reply) (s : σ) :
    c.WrittenAs text ∧
    ((∃ failure, (c.build.run.runIn w s).result = .error failure) ↔
      ∃ x ∈ c.discoveries w s, ∀ node : LedgerNode,
        ¬ node.KnownFrom w x.2 x.1.endpoint x.1.contract) ∧
    (∀ failure, (c.build.run.runIn w s).result = .error failure →
      ∃ before x after cause, c.discoveries w s = before ++ x :: after ∧
        (∀ y ∈ before, ∃ node : LedgerNode, node.KnownFrom w y.2 y.1.endpoint y.1.contract) ∧
        (x.1.discover.runIn w x.2).result = .error cause ∧
        failure = ⟨x.1.server, x.1.endpoint.url, cause⟩) ∧
    ∀ service, (c.build.run.runIn w s).result = .ok service → c.RealisedBy w s service := by
  obtain ⟨hne, husable⟩ := usable_of_parse h
  refine ⟨writtenAs_of_parse h, build_eq_error_iff, fun _ => exists_undiscovered, ?_⟩
  exact fun service => realisedBy_of_build_eq_ok hne husable

def oneLedger : Connection := ⟨"chat.example", ⟨"http://node", 30⟩, Address.zero⟩

theorem discoveries_oneServer (w : World σ fun _ : Request => Reply) (s : σ) :
    oneServer.discoveries w s = [(oneLedger, s)] := by
  have hconnections : oneServer.connections = [oneLedger] := rfl
  rw [discoveries, hconnections, startsIn, startsIn]

/-- With its ledger served the configured server is there, and with no node reached nothing is. -/
theorem build_realises_oneServer :
    let ledger : Ledger := { domain := ⟨137, Address.zero⟩ }
    let served : World Unit fun _ : Request => Reply := fun request s =>
      (ledger.serve Address.zero request, s)
    let unreached : World Unit fun _ : Request => Reply := fun _ s => (.unreachable "refused", s)
    parse oneServerAsDeclared.text = .ok oneServer ∧
    (∃ service, (oneServer.build.run.runIn served ()).result = .ok service ∧
      service.servers.get? "chat.example" = some ⟨"app", [.gsp ⟨⟨"http://gsp", 30⟩⟩,
        .delegation ⟨137, Address.zero⟩ (.behind ledger Address.zero ⟨"http://node", 30⟩)]⟩) ∧
    ∃ failure, (oneServer.build.run.runIn unreached ()).result = .error failure ∧
      failure.server = "chat.example" ∧ failure.rpc = "http://node" := by
  intro ledger served unreached
  have hparse : parse oneServerAsDeclared.text = .ok oneServer :=
    parse_of_isTextOf (by decide) isTextOf_oneServerAsDeclared
  have hfound : (oneLedger.discover.runIn served ()).result =
      .ok (LedgerNode.behind ledger Address.zero oneLedger.endpoint) :=
    LedgerNode.connect_of_served (l := ledger) (fun request _ => ledger.servedAt_serve _ _ request) ()
  refine ⟨hparse, ?_, ?_⟩
  · obtain ⟨-, hfails, -, hrealised⟩ := build_realises hparse served ()
    rw [discoveries_oneServer] at hfails
    cases hbuild : (oneServer.build.run.runIn served ()).result with
    | error failure =>
      obtain ⟨x, hx, hunknown⟩ := hfails.1 ⟨failure, hbuild⟩
      cases List.mem_singleton.1 hx
      exact absurd (LedgerNode.connect_eq_ok.1 hfound) (hunknown _)
    | ok service =>
      have hserver := (hrealised service hbuild).servers "chat.example"
      have hconfigured : oneServer.servers.get? "chat.example" = some
          ⟨"app", some "http://gsp", some ⟨"http://node", Address.zero⟩, some 30⟩ := by decide
      rw [hconfigured, discoveries_oneServer] at hserver
      generalize hget : service.servers.get? "chat.example" = found at hserver
      cases hserver with
      | @some _ server h =>
        obtain ⟨_, node, -, hnode, hauthenticators⟩ := h.authenticators
        -- What the node told is the chain id of the ledger behind it.
        cases hfound.symm.trans (LedgerNode.connect_eq_ok.2 hnode)
        refine ⟨service, rfl, ?_⟩
        rw [hget]
        exact congrArg some (congrArg₂ Server.mk h.app hauthenticators)
  · obtain ⟨-, hfails, hfirst, -⟩ := build_realises hparse unreached ()
    rw [discoveries_oneServer] at hfails
    have hunknown : ∀ node : LedgerNode,
        ¬ node.KnownFrom unreached () oneLedger.endpoint oneLedger.contract := by
      intro node hnode
      obtain ⟨result, hreturns, -⟩ := hnode.chainId
      exact hreturns
    obtain ⟨failure, hfailure⟩ := hfails.2 ⟨_, List.mem_singleton_self _, hunknown⟩
    obtain ⟨before, x, after, cause, hsplit, -, -, rfl⟩ := hfirst failure hfailure
    rw [discoveries_oneServer] at hsplit
    have hx : x = (oneLedger, ()) := by
      refine List.mem_singleton.1 ?_
      rw [hsplit]
      exact List.mem_append_right before List.mem_cons_self
    cases hx
    exact ⟨_, hfailure, rfl, rfl⟩

end Config

end LedgerLogin
