import LedgerLogin.Proofs.Json.Members
import LedgerLogin.Rpc.Call

/-!
# Replies with a result

A call gives the result of its reply if this has one (`Rpc.result_eq_ok`). A reply has none if its
status does not tell of success, or else if it has an error, or else if it is not understood; what
the call fails with tells the three apart. A result that is an object has ascending members
(`Http.Reply.Returns.ascending`).
-/

namespace LedgerLogin

/-- A reply of success whose body is an object with a result, and without an error. -/
def Http.Reply.Returns (result : Json) : Http.Reply → Prop
  | .response status body => Http.isSuccess status = true ∧ ∃ json,
    Rpc.json? body = some json ∧ Rpc.error? json = none ∧ json.member? "result" = some result
  | _ => False

theorem Rpc.result_of_returns {reply : Http.Reply} {returned : Json} (h : reply.Returns returned)
    (endpoint : Http.Endpoint) (method : String) : result endpoint method reply = .ok returned := by
  cases reply with
  | response status body =>
    obtain ⟨hstatus, json, hjson, herror, hresult⟩ := h
    rw [result, if_pos hstatus, hjson]
    simp only [resultOfBody, herror, hresult]
  | timedOut => exact h.elim
  | unreachable reason => exact h.elim
  | noRuntime => exact h.elim

namespace Rpc

variable {endpoint : Http.Endpoint} {method : String} {status : Nat} {body : Bytes}

theorem error?_eq_some {json e : Json} :
    error? json = some e ↔ json.member? "error" = some e ∧ e ≠ .null := by
  unfold error?
  split
  · rename_i hnull
    rw [hnull]
    refine iff_of_false nofun fun h => h.2 (Option.some.inj h.1).symm
  · rename_i hnull
    refine ⟨fun h => ⟨h, ?_⟩, fun h => h.1⟩
    rintro rfl
    exact hnull h

theorem error?_eq_none {json : Json} :
    error? json = none ↔ ∀ e, json.member? "error" = some e → e = .null := by
  rw [Option.eq_none_iff_forall_ne_some]
  constructor
  · intro h e he
    by_cases hnull : e = .null
    · exact hnull
    · exact absurd (error?_eq_some.2 ⟨he, hnull⟩) (h e)
  · intro h e he
    obtain ⟨hmember, hnull⟩ := error?_eq_some.1 he
    exact hnull (h e hmember)

/-- A status that does not tell of success counts before anything in the body. -/
theorem result_of_not_success (h : Http.isSuccess status = false) :
    result endpoint method (.response status body) =
      .error (.unavailable endpoint.url s!"HTTP {status} {Http.phrase status}") := by
  rw [result, if_neg (Bool.eq_false_iff.1 h)]

/-- An error counts before a result. -/
theorem result_of_error {json e : Json} (hstatus : Http.isSuccess status = true)
    (hjson : json? body = some json) (he : error? json = some e) :
    result endpoint method (.response status body) =
      .error (.rpc method (errorCode e) (errorMessage e)) := by
  rw [result, if_pos hstatus, hjson]
  simp only [resultOfBody, he]

theorem result_eq_ok {reply : Http.Reply} {returned : Json} :
    result endpoint method reply = .ok returned ↔ reply.Returns returned := by
  refine ⟨fun h => ?_, fun h => result_of_returns h endpoint method⟩
  cases reply with
  | response status body =>
    cases hstatus : Http.isSuccess status with
    | false =>
      rw [result_of_not_success hstatus] at h
      cases h
    | true =>
      rw [result, if_pos hstatus] at h
      split at h
      · rename_i json hjson
        unfold resultOfBody at h
        split at h
        · cases h
        rename_i herror
        split at h
        · rename_i value hvalue
          cases h
          exact ⟨hstatus, json, hjson, herror, hvalue⟩
        · cases h
      · cases h
  | timedOut => cases h
  | unreachable reason => cases h
  | noRuntime => cases h

/-- A reply of success without an error fails a call only by not being understood. -/
theorem result_eq_error {e : TransportError} (hstatus : Http.isSuccess status = true)
    (herror : ∀ json, json? body = some json → error? json = none)
    (h : result endpoint method (.response status body) = .error e) :
    ∃ reason, e = .invalidResponse method reason := by
  rw [result, if_pos hstatus] at h
  split at h
  · rename_i json hjson
    simp only [resultOfBody, herror json hjson] at h
    split at h
    · cases h
    · cases h
      exact ⟨_, rfl⟩
  · cases h
    exact ⟨_, rfl⟩

end Rpc

theorem Http.Reply.Returns.ascending {reply : Http.Reply} {members : List (String × Json)}
    (h : reply.Returns (.object members)) : Ascending members := by
  cases reply with
  | response status body =>
    obtain ⟨-, json, hjson, -, hresult⟩ := h
    simp only [Rpc.json?, bind, Option.bind_eq_some_iff] at hjson
    obtain ⟨text, -, hparse⟩ := hjson
    obtain ⟨d, hd⟩ := Json.exists_resolve?_of_parse? hparse
    obtain ⟨d', hd'⟩ := Json.Document.exists_resolve?_of_member? hd hresult
    exact Json.Document.ascending_of_resolve? hd'
  | timedOut => exact h.elim
  | unreachable reason => exact h.elim
  | noRuntime => exact h.elim

theorem Rpc.member?_method (endpoint : Http.Endpoint) (method : String) (params : Json) :
    (request endpoint method params).body.member? "method" = some (.string method) := by
  rw [request, Json.member?_ofMembers]
  rfl

theorem Rpc.member?_params (endpoint : Http.Endpoint) (method : String) (params : Json) :
    (request endpoint method params).body.member? "params" = some params := by
  rw [request, Json.member?_ofMembers]
  rfl

end LedgerLogin
