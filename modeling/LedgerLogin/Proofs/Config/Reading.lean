import LedgerLogin.Config
import LedgerLogin.Proofs.Json.Fields

/-!
# Configurations that are accepted

A text that is accepted as a configuration is an object of servers, and the configuration is the one
that is written there (`Config.writtenAs_of_parse`). It can be used: there is a server, and each has
an application, a way to check logins, and time to answer (`Config.usable_of_parse`).
-/

namespace LedgerLogin

open Json (Document)

/-! ## What is written -/

/-- A delegation contract is written as a record of its node and its address. -/
structure DelegationConfig.WrittenAs (d : Document) (c : DelegationConfig) : Prop where
  rpc : d.field? ["rpc", "contract"] "rpc" = some (.string (some c.rpc))
  contract : ∃ text, d.field? ["rpc", "contract"] "contract" = some (.string (some text)) ∧
    Address.parse text = .ok c.contract

/-- A server is written as a record, in which all but the application may be left out. -/
structure ServerConfig.WrittenAs (d : Document) (c : ServerConfig) : Prop where
  app : d.field? fields "app" = some (.string (some c.app))
  gsp : Document.MayTell (fun d url => d = .string (some url)) (d.field? fields "xid-gsp") c.gsp
  delegation : Document.MayTell DelegationConfig.WrittenAs
    (d.field? fields "delegation-contract") c.delegation
  timeout : Document.MayTell (fun d n => d = .number (some (.integer n.toNat)))
    (d.field? fields "rpc-timeout") c.timeout

/-- A configuration is written as an object, in which the last member of a name is the server. -/
def Config.WrittenAs (text : String) (c : Config) : Prop :=
  ∃ members, Document.parse? text = some (.object members) ∧ ∀ name,
    Option.Rel ServerConfig.WrittenAs (members.reverse.lookup (some name)) (c.servers.get? name)

theorem Address.read_eq_ok {d : Document} {a : Address} :
    Address.read d = .ok a ↔ ∃ text, d = .string (some text) ∧ Address.parse text = .ok a := by
  unfold read
  simp only [bind_eq_ok, mapError_eq_ok, Document.asString_eq_ok]

theorem DelegationConfig.writtenAs_of_read {d : Document} {c : DelegationConfig}
    (h : read d = .ok c) : c.WrittenAs d := by
  obtain ⟨r, hbuild, hfields⟩ := Document.exists_record_of_asRecord h
  simp only [Json.Reading.seq_eq_ok, Json.Reading.map_eq_ok, Json.Record.required_eq_ok,
    Document.asString_eq_ok, Address.read_eq_ok] at hbuild
  obtain ⟨_, contract, ⟨rpc, ⟨_, hrpc, rfl⟩, rfl⟩, ⟨_, hcontract, text, rfl, ha⟩, rfl⟩ := hbuild
  rw [hfields _ (by decide)] at hrpc hcontract
  exact ⟨hrpc, text, hcontract, ha⟩

theorem ServerConfig.writtenAs_of_read {d : Document} {c : ServerConfig}
    (h : read d = .ok c) : c.WrittenAs d := by
  obtain ⟨r, hbuild, hfields⟩ := Document.exists_record_of_asRecord h
  simp only [Json.Reading.seq_eq_ok, Json.Reading.map_eq_ok, Json.Record.required_eq_ok,
    Document.asString_eq_ok] at hbuild
  obtain ⟨_, timeout, ⟨_, delegation, ⟨_, gsp, ⟨app, ⟨_, happ, rfl⟩, rfl⟩, hgsp, rfl⟩,
    hdelegation, rfl⟩, htimeout, rfl⟩ := hbuild
  have hgsp := Document.mayTell_of_optional hgsp
  have hdelegation := Document.mayTell_of_optional hdelegation
  have htimeout := Document.mayTell_of_optional htimeout
  rw [hfields _ (by decide)] at happ hgsp hdelegation htimeout
  exact ⟨happ, hgsp.imp fun _ _ => Document.asString_eq_ok.1,
    hdelegation.imp fun _ _ => DelegationConfig.writtenAs_of_read,
    htimeout.imp fun _ _ => Document.asUInt64_eq_ok.1⟩

theorem Config.writtenAs_of_read {text : String} {d : Document} {c : Config}
    (hd : Document.parse? text = some d) (h : read d = .ok c) : c.WrittenAs text := by
  obtain ⟨servers, hservers, rfl⟩ := except_map_eq_ok.1 h
  obtain ⟨members, rfl, hmembers⟩ := Document.exists_members_of_asMap hservers
  refine ⟨members, hd, fun name => ?_⟩
  have hname := hmembers name
  generalize members.reverse.lookup (some name) = member at hname
  generalize servers.get? name = server at hname
  cases hname with
  | none => exact .none
  | some hread => exact .some (ServerConfig.writtenAs_of_read hread)

/-! ## What can be used -/

/-- A server that can be used has an application, a way to check logins, and time to answer. -/
structure ServerConfig.Usable (c : ServerConfig) : Prop where
  app_ne : c.app ≠ ""
  checks : c.gsp ≠ none ∨ c.delegation ≠ none
  timeout_ne : c.timeout ≠ some 0

theorem ServerConfig.hasAuthenticator_iff {c : ServerConfig} :
    c.hasAuthenticator = true ↔ c.gsp ≠ none ∨ c.delegation ≠ none := by
  rw [hasAuthenticator, Bool.or_eq_true, Option.isSome_iff_ne_none, Option.isSome_iff_ne_none]

namespace Config

theorem validateServer_eq_ok {name : String} {c : ServerConfig} :
    validateServer name c = .ok () ↔ c.Usable := by
  unfold validateServer
  split
  · rename_i hempty
    exact iff_of_false nofun fun h => h.app_ne (String.isEmpty_iff.1 hempty)
  rename_i happ
  split
  · rename_i hnone
    refine iff_of_false nofun fun h => ?_
    rw [ServerConfig.hasAuthenticator_iff.2 h.checks] at hnone
    cases hnone
  rename_i hchecks
  split
  · rename_i hzero
    exact iff_of_false nofun fun h => h.timeout_ne hzero
  rename_i htimeout
  refine iff_of_true rfl ⟨fun h => happ (String.isEmpty_iff.2 h), ?_, htimeout⟩
  exact ServerConfig.hasAuthenticator_iff.1 (by simpa using hchecks)

theorem validate_eq_ok {c : Config} :
    c.validate = .ok () ↔
      c.servers.entries ≠ [] ∧ ∀ e ∈ c.servers.entries, e.2.Usable := by
  unfold validate StringMap.isEmpty
  split
  · rename_i hempty
    exact iff_of_false nofun fun h => h.1 (List.isEmpty_iff.1 hempty)
  · rename_i hnonempty
    have hne : c.servers.entries ≠ [] := fun h => hnonempty (List.isEmpty_iff.2 h)
    simp only [forM_eq_ok, validateServer_eq_ok]
    exact (and_iff_right hne).symm

theorem parse_eq_ok {text : String} {c : Config} :
    parse text = .ok c ↔
      ∃ d, Document.parse? text = some d ∧ read d = .ok c ∧ c.validate = .ok () := by
  unfold parse
  cases Document.parse? text with
  | none => exact iff_of_false nofun fun ⟨_, h, _⟩ => nomatch h
  | some d =>
    simp only [Option.some.injEq, exists_eq_left']
    cases read d with
    | error fault => exact iff_of_false nofun fun h => nomatch h.1
    | ok c' =>
      show (c'.validate >>= fun _ => pure c') = .ok c ↔ _
      rw [bind_eq_ok]
      constructor
      · rintro ⟨_, hvalid, h⟩
        cases h
        exact ⟨rfl, hvalid⟩
      · rintro ⟨h, hvalid⟩
        cases h
        exact ⟨(), hvalid, rfl⟩

theorem writtenAs_of_parse {text : String} {c : Config} (h : parse text = .ok c) :
    c.WrittenAs text := by
  obtain ⟨d, hd, hread, -⟩ := parse_eq_ok.1 h
  exact writtenAs_of_read hd hread

theorem usable_of_parse {text : String} {c : Config} (h : parse text = .ok c) :
    c.servers.entries ≠ [] ∧ ∀ e ∈ c.servers.entries, e.2.Usable := by
  obtain ⟨d, -, -, hvalid⟩ := parse_eq_ok.1 h
  exact validate_eq_ok.1 hvalid

end Config

end LedgerLogin
