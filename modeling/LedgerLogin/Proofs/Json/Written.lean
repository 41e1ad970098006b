import LedgerLogin.Config
import LedgerLogin.Gsp.NameState
import LedgerLogin.Proofs.Json.RoundTrip

/-!
# Values of the library's types

What is written of decisions, states of names, answers of a processor and configurations is
`Canonical`, whatever texts, numbers and maps they hold and whatever they leave out.
-/

namespace LedgerLogin

open Json (Canonical)

theorem fits_toInt (i : Int64) : Json.Fits i.toInt := by
  refine ⟨i.minValue_le_toInt, ?_⟩
  have hlt := i.toInt_lt
  simp only [UInt64.size]
  omega

theorem canonical_stringMap {n : Nat} (m : StringMap String) : Canonical (n + 1) m.toJson := by
  refine .object (List.pairwise_map.2 m.ascending) fun e he => ?_
  obtain ⟨entry, -, rfl⟩ := List.mem_map.1 he
  exact .string entry.2

theorem canonical_expiry {n : Nat} (e : Option Int64) : Canonical n (expiryToJson e) := by
  cases e with
  | none => exact .null
  | some i => exact .integer (fits_toInt i)

theorem canonical_decision {n : Nat} (d : Decision) : Canonical (n + 2) d.toJson := by
  refine .ofMembers fun e he => ?_
  simp only [List.mem_cons, List.not_mem_nil, or_false] at he
  obtain rfl | rfl | rfl | rfl := he
  · exact .bool d.valid
  · exact .string d.state.name
  · exact canonical_expiry d.expiry
  · exact canonical_stringMap d.extra

theorem fits_toNat (n : UInt64) : Json.Fits n.toNat := by
  have hmin : Int64.minValue.toInt ≤ 0 := by decide
  exact ⟨Int.le_trans hmin (Int.natCast_nonneg _), Int.ofNat_lt.2 n.toNat_lt⟩

theorem canonical_texts {n : Nat} (texts : List String) :
    Canonical (n + 1) (.array (texts.map .string)) := by
  refine .array fun j hj => ?_
  obtain ⟨s, -, rfl⟩ := List.mem_map.1 hj
  exact .string s

theorem canonical_optionalMember {α : Type} {n : Nat} {toJson : α → Json} {a? : Option α}
    (h : ∀ a, Canonical n (toJson a)) (key : String) :
    ∀ e ∈ ServerConfig.optionalMember key toJson a?, Canonical n e.2 := by
  intro e he
  cases a? with
  | none => cases he
  | some a =>
    obtain rfl := List.mem_singleton.1 he
    exact h a

theorem canonical_signerEntry {n : Nat} (e : SignerEntry) : Canonical (n + 2) e.toJson := by
  refine .ofMembers ?_
  rw [List.forall_mem_append, List.forall_mem_singleton]
  exact ⟨canonical_optionalMember .string _, canonical_texts e.addresses⟩

theorem canonical_nameState {n : Nat} (s : NameState) : Canonical (n + 4) s.toJson := by
  refine .ofMembers ?_
  rw [List.forall_mem_cons, List.forall_mem_singleton]
  refine ⟨.array fun j hj => ?_, canonical_stringMap s.addresses⟩
  obtain ⟨e, -, rfl⟩ := List.mem_map.1 hj
  exact canonical_signerEntry e

theorem canonical_height {n : Nat} (height : Option UInt64) :
    Canonical n (Json.ofOption (fun h => Json.ofNat h.toNat) height) := by
  cases height with
  | none => exact .null
  | some h => exact .integer (fits_toNat h)

theorem canonical_envelope {α : Type} {n : Nat} {data : α → Json}
    (h : ∀ a, Canonical n (data a)) (e : Envelope α) : Canonical (n + 1) (e.toJson data) := by
  refine .ofMembers ?_
  rw [List.forall_mem_cons, List.forall_mem_cons, List.forall_mem_singleton]
  exact ⟨.string e.state, canonical_height e.height, h e.data⟩

theorem canonical_delegationConfig {n : Nat} (c : DelegationConfig) :
    Canonical (n + 1) c.toJson := by
  refine .ofMembers ?_
  rw [List.forall_mem_cons, List.forall_mem_singleton]
  exact ⟨.string c.rpc, .string c.contract.checksum⟩

theorem canonical_serverConfig {n : Nat} (c : ServerConfig) : Canonical (n + 2) c.toJson := by
  refine .ofMembers ?_
  rw [List.forall_mem_append, List.forall_mem_append, List.forall_mem_append,
    List.forall_mem_singleton]
  exact ⟨⟨⟨.string c.app, canonical_optionalMember .string _⟩,
    canonical_optionalMember canonical_delegationConfig _⟩,
    canonical_optionalMember (fun t => .integer (fits_toNat t)) _⟩

theorem canonical_config {n : Nat} (c : Config) : Canonical (n + 3) c.toJson := by
  refine .object (List.pairwise_map.2 c.servers.ascending) fun e he => ?_
  obtain ⟨server, -, rfl⟩ := List.mem_map.1 he
  exact canonical_serverConfig server.2

end LedgerLogin
