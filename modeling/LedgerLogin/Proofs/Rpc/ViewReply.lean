import LedgerLogin.Proofs.Rpc.LedgerNode

/-!
# Replies that answer a read

A ledger behind a node is read by one call of a view function, and the answer is read from the reply
in four steps: its status, what it says of success and error, the digits of its result, and the
first word of the data that they spell. `LedgerNode.read_of_reply` says which replies are read as
which answer, in terms of what is written and not of the steps that read it. All others are
failures, and the step that a reply fails at decides which: a status that does not tell of success,
an error, or anything else that was not asked for.
-/

namespace LedgerLogin

/-- A reply that tells an answer: with a status of success, a JSON object without an error whose
result is `0x` and digits of either case, of data that starts with what the function returns. -/
def Http.Reply.Tells (r : LedgerRead) (x : r.Result) : Http.Reply → Prop
  | .response status body => 200 ≤ status ∧ status < 300 ∧ ∃ members digits more,
    Rpc.json? body = some (.object members) ∧
    (members.lookup "error" = none ∨ members.lookup "error" = some .null) ∧
    members.lookup "result" = some (.string (Hexadecimal.spelled digits)) ∧
    digits.map Char.toLower = Hex.digits (r.returned x ++ more)
  | _ => False

theorem Http.isSuccess_iff {status : Nat} :
    Http.isSuccess status = true ↔ 200 ≤ status ∧ status < 300 := by
  rw [Http.isSuccess, Bool.and_eq_true, decide_eq_true_iff, decide_eq_true_iff]

theorem Json.member?_eq_some {json value : Json} {key : String} :
    json.member? key = some value ↔
      ∃ members, json = .object members ∧ members.lookup key = some value := by
  constructor
  · intro h
    unfold Json.member? at h
    split at h
    · exact ⟨_, rfl, h⟩
    · cases h
  · rintro ⟨members, rfl, h⟩
    exact h

theorem Http.Reply.tells_iff {r : LedgerRead} {x : r.Result} {reply : Http.Reply} :
    reply.Tells r x ↔ ∃ digits more, reply.Returns (.string (Hexadecimal.spelled digits)) ∧
      digits.map Char.toLower = Hex.digits (r.returned x ++ more) := by
  cases reply with
  | response status body =>
    constructor
    · rintro ⟨hlow, hhigh, members, digits, more, hjson, herror, hresult, hdigits⟩
      refine ⟨digits, more, ⟨Http.isSuccess_iff.2 ⟨hlow, hhigh⟩, _, hjson, ?_, hresult⟩, hdigits⟩
      refine Rpc.error?_eq_none.2 fun e he => ?_
      have hmember : members.lookup "error" = some e := he
      rcases herror with hnone | hnull
      · exact nomatch hnone.symm.trans hmember
      · exact Option.some.inj (hmember.symm.trans hnull)
    · rintro ⟨digits, more, ⟨hstatus, json, hjson, herror, hresult⟩, hdigits⟩
      obtain ⟨members, rfl, hresult⟩ := Json.member?_eq_some.1 hresult
      obtain ⟨hlow, hhigh⟩ := Http.isSuccess_iff.1 hstatus
      refine ⟨hlow, hhigh, members, digits, more, hjson, ?_, hresult, hdigits⟩
      cases he : members.lookup "error" with
      | none => exact .inl rfl
      | some e => exact .inr (congrArg some (Rpc.error?_eq_none.1 herror e he))
  | timedOut => exact iff_of_false id fun ⟨_, _, h, _⟩ => h
  | unreachable reason => exact iff_of_false id fun ⟨_, _, h, _⟩ => h
  | noRuntime => exact iff_of_false id fun ⟨_, _, h, _⟩ => h

namespace LedgerNode

section
variable {α : Type} {signature : String} {decode : String → Bytes → Except TransportError α}

theorem viewResult_eq_ok {outcome : Except TransportError Json} {x : α} :
    viewResult signature decode outcome = .ok x ↔ ∃ result data, outcome = .ok result ∧
      Hexadecimal.bytes signature result = .ok data ∧ decode signature data = .ok x := by
  cases outcome with
  | error e => exact iff_of_false nofun nofun
  | ok result =>
    show Hexadecimal.bytes signature result >>= decode signature = .ok x ↔ _
    rw [bind_eq_ok]
    constructor
    · rintro ⟨data, hdata, hx⟩
      exact ⟨result, data, rfl, hdata, hx⟩
    · rintro ⟨result', data, hresult, hdata, hx⟩
      cases hresult
      exact ⟨data, hdata, hx⟩

theorem viewResult_eq_error {result : Json} {e : TransportError}
    (hdecode : ∀ data e, decode signature data = .error e →
      ∃ reason, e = .invalidResponse signature reason)
    (h : viewResult signature decode (.ok result) = .error e) :
    ∃ reason, e = .invalidResponse signature reason := by
  have hread : Hexadecimal.bytes signature result >>= decode signature = .error e := h
  rcases bind_eq_error.1 hread with hbytes | ⟨data, -, hdata⟩
  · exact Hexadecimal.bytes_eq_error hbytes
  · exact hdecode data e hdata

end

theorem viewResult_tells {n : LedgerNode} {r : LedgerRead} {reply : Http.Reply} {x : r.Result} :
    viewResult r.function.signature r.decoder (Rpc.result n.endpoint "eth_call" reply) = .ok x ↔
      reply.Tells r x := by
  rw [viewResult_eq_ok, Http.Reply.tells_iff]
  constructor
  · rintro ⟨result, data, hresult, hbytes, hx⟩
    obtain ⟨digits, rfl, hdigits⟩ := Hexadecimal.bytes_eq_ok.1 hbytes
    obtain ⟨more, rfl⟩ := LedgerRead.decoder_eq_ok.1 hx
    exact ⟨digits, more, Rpc.result_eq_ok.1 hresult, hdigits⟩
  · rintro ⟨digits, more, hreturns, hdigits⟩
    exact ⟨_, _, Rpc.result_eq_ok.2 hreturns, Hexadecimal.bytes_eq_ok.2 ⟨digits, rfl, hdigits⟩,
      LedgerRead.decoder_eq_ok.2 ⟨more, rfl⟩⟩

/-- A read is one call, and succeeds just on the replies that tell an answer. Of the others one with
a status that does not tell of success is a node that is not available, one with an error is that
error, named for the function, and everything else was not asked for. -/
theorem read_of_reply (n : LedgerNode) (r : LedgerRead) :
    ∃ outcome : Http.Reply → r.Answer,
      (n.read r).run = .ask
        (Rpc.request n.endpoint "eth_call"
          (callParams (r.function.contract n.delegation n.accounts)
            (Abi.encodeCall r.function.signature r.arguments)))
        (fun reply => .done (outcome reply)) ∧
      (∀ reply x, outcome reply = .ok x ↔ reply.Tells r x) ∧
      ∀ status body,
        (¬ (200 ≤ status ∧ status < 300) → outcome (.response status body) =
          .error (.unavailable n.endpoint.url s!"HTTP {status} {Http.phrase status}")) ∧
        (200 ≤ status ∧ status < 300 →
          (∀ members e, Rpc.json? body = some (.object members) →
            members.lookup "error" = some e → e ≠ .null →
            outcome (.response status body) =
              .error (.rpc r.function.signature (Rpc.errorCode e) (Rpc.errorMessage e))) ∧
          ((∀ members e, Rpc.json? body = some (.object members) →
              members.lookup "error" = some e → e = .null) →
            (∀ x, ¬ (Http.Reply.response status body).Tells r x) →
            ∃ method reason, (method = "eth_call" ∨ method = r.function.signature) ∧
              outcome (.response status body) = .error (.invalidResponse method reason))) := by
  refine ⟨fun reply => viewResult r.function.signature r.decoder
    (Rpc.result n.endpoint "eth_call" reply), ?_, fun reply x => viewResult_tells, ?_⟩
  · rw [read_eq_view]
    rfl
  intro status body
  refine ⟨fun hstatus => ?_, fun hsuccess => ⟨?_, ?_⟩⟩
  · have hrefused : Http.isSuccess status = false :=
      Bool.eq_false_iff.2 fun h => hstatus (Http.isSuccess_iff.1 h)
    show viewResult _ _ (Rpc.result n.endpoint "eth_call" (.response status body)) = _
    rw [Rpc.result_of_not_success hrefused]
    rfl
  · intro members e hjson he hnull
    show viewResult _ _ (Rpc.result n.endpoint "eth_call" (.response status body)) = _
    rw [Rpc.result_of_error (Http.isSuccess_iff.2 hsuccess) hjson (Rpc.error?_eq_some.2 ⟨he, hnull⟩)]
    rfl
  · intro hnull hnone
    have herror : ∀ json, Rpc.json? body = some json → Rpc.error? json = none := by
      intro json hjson
      refine Rpc.error?_eq_none.2 fun e he => ?_
      obtain ⟨members, rfl, he⟩ := Json.member?_eq_some.1 he
      exact hnull members e hjson he
    -- The body has no result, or it is one that is not read.
    cases hresult : Rpc.result n.endpoint "eth_call" (.response status body) with
    | error e =>
      obtain ⟨reason, rfl⟩ :=
        Rpc.result_eq_error (Http.isSuccess_iff.2 hsuccess) herror hresult
      refine ⟨_, reason, .inl rfl, ?_⟩
      show viewResult _ _ (Rpc.result n.endpoint "eth_call" (.response status body)) = _
      rw [hresult]
      rfl
    | ok result =>
      cases hread : viewResult r.function.signature r.decoder (.ok result) with
      | error e =>
        obtain ⟨reason, rfl⟩ :=
          viewResult_eq_error (fun data e => LedgerRead.decoder_eq_error) hread
        refine ⟨_, reason, .inr rfl, ?_⟩
        show viewResult _ _ (Rpc.result n.endpoint "eth_call" (.response status body)) = _
        rw [hresult, hread]
      | ok x =>
        rw [← hresult] at hread
        exact absurd (viewResult_tells.1 hread) (hnone x)

/-- A name is registered for a node that replies with the word of one and a byte behind it. With no
data at all it does not say that it is not. -/
theorem read_of_reply_registered :
    let n : LedgerNode := ⟨⟨"http://localhost", 30⟩, 137, Address.zero, Address.zero⟩
    let r : LedgerRead := .nameExists playerNamespace "domob"
    ∃ outcome : Http.Reply → r.Answer,
      (n.read r).run = .ask
        (Rpc.request n.endpoint "eth_call" (callParams n.accounts
          (Abi.encodeCall "exists(string,string)" [.text playerNamespace, .text "domob"])))
        (fun reply => .done (outcome reply)) ∧
      outcome (Rpc.resultReply
        (Hexadecimal.spelled (Hex.digits (Abi.numberWord 1 ++ [0xff])))) = .ok true ∧
      ∃ method reason, outcome (Rpc.resultReply (Hexadecimal.spelled [])) =
        .error (.invalidResponse method reason) := by
  intro n r
  obtain ⟨outcome, hrun, htells, hrefuses⟩ := read_of_reply n r
  have hreturns : ∀ data, (Rpc.resultReply (Hexadecimal.spelled (Hex.digits data))).Returns
      (.string (Hexadecimal.spelled (Hex.digits data))) :=
    fun data => Rpc.gives_resultReply (Hex.digits_of_pairs (Hex.pairs_digits data)).2
  refine ⟨outcome, hrun, (htells _ true).2 (Http.Reply.tells_iff.2 ⟨_, [0xff], hreturns _, ?_⟩), ?_⟩
  · exact Hex.pairs_eq_some_iff.1 (Hex.pairs_digits _)
  obtain ⟨-, json, hjson, herror, hresult⟩ := hreturns []
  have hnull : ∀ members e, Rpc.json? (utf8 (Rpc.resultBody (Hexadecimal.spelled []))) =
      some (.object members) → members.lookup "error" = some e → e = .null := by
    intro members e hobject he
    obtain rfl : json = .object members := Option.some.inj (hjson.symm.trans hobject)
    exact Rpc.error?_eq_none.1 herror e he
  have hnone : ∀ x, ¬ (Rpc.resultReply (Hexadecimal.spelled [])).Tells r x := by
    rintro x ⟨-, -, members, digits, more, hobject, -, htext, hdigits⟩
    obtain rfl : json = .object members := Option.some.inj (hjson.symm.trans hobject)
    have hspelled : Hexadecimal.spelled digits = Hexadecimal.spelled [] :=
      Json.string.inj (Option.some.inj (htext.symm.trans hresult))
    have hdata := Hexadecimal.body?_spelled digits
    rw [hspelled, Hexadecimal.body?_spelled] at hdata
    rw [← Option.some.inj hdata] at hdigits
    -- No digits are no word.
    have hlength := (Hex.digits_of_pairs (Hex.pairs_eq_some_iff.2 hdigits)).1
    have hword : (r.returned x).length = 32 := length_bigEndian 32 _
    rw [List.length_nil, List.length_append, hword] at hlength
    omega
  obtain ⟨method, reason, -, hinvalid⟩ :=
    ((hrefuses 200 _).2 ⟨by decide, by decide⟩).2 hnull hnone
  exact ⟨method, reason, hinvalid⟩

end LedgerNode

end LedgerLogin
