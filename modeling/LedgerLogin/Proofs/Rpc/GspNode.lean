import LedgerLogin.Proofs.Backend.Failure
import LedgerLogin.Proofs.Json.Records
import LedgerLogin.Proofs.Rpc.Reply
import LedgerLogin.Rpc.Node

/-!
# A processor behind a node

The envelope of an answer is read together with the answer. So the reply of a processor that says
that its state is old is told as that state only if all of it can be read (`Envelope.Readable`), and
is an invalid reply otherwise (`VerifyError.OfOutdated`). It is an error in either case, for a
processor that is asked alone (`Authenticator.gspAuthenticate_outdated`,
`Authenticator.gspIsUser_outdated`) and for any inquiry that stops at failures
(`Backend.exists_result_of_outdated`).
-/

namespace LedgerLogin

variable {α σ : Type}

open Json (Document)

/-! ## Envelopes -/

namespace Envelope

/-- The height that an envelope has in a member: none if there is no such member, or it is null. -/
def height? : Option Json → Option (Option UInt64)
  | none => some none
  | some .null => some none
  | some (.number (.integer i)) => (i.toNat?.bind uint64?).map some
  | some _ => none

/-- Members that make an envelope if there is a state beside them. -/
structure Readable (read : Document → Except Json.Fault α) (members : List (String × Json)) :
    Prop where
  height : (height? (members.lookup "height")).isSome
  data : ∃ j a, members.lookup "data" = some j ∧ read j.toDocument = .ok a

theorem height?_eq_some {j? : Option Json} {height : Option UInt64} :
    height? j? = some height ↔
      (j?.map Json.toDocument).elim (.ok none) (Document.asOption Document.asUInt64) = .ok height := by
  cases j? with
  | none => simp [height?]
  | some j =>
    cases j with
    | null => simp [height?, Json.toDocument, Document.asOption]
    | number n =>
      cases n with
      | decimal x =>
        simp [height?, Json.toDocument, Document.asOption, Document.asUInt64, Except.map]
      | integer i =>
        cases hi : i.toNat?.bind uint64? <;>
          simp [height?, Json.toDocument, Document.asOption, Document.asUInt64, Except.map, hi]
    | _ => simp [height?, Json.toDocument, Document.asOption, Document.asUInt64, Except.map]

theorem read_object_eq_ok {read : Document → Except Json.Fault α} {members : List (String × Json)}
    (h : Ascending members) {e : Envelope α} :
    Envelope.read read (Json.object members).toDocument = .ok e ↔
      members.lookup "state" = some (.string e.state) ∧
      height? (members.lookup "height") = some e.height ∧
      ∃ j, members.lookup "data" = some j ∧ read j.toDocument = .ok e.data := by
  have hdocument : ∀ field ∈ ["state", "height", "data"],
      (Json.Record.ofMembers ["state", "height", "data"] false
        (Json.toDocumentMembers members)).document? field =
          (members.lookup field).map Json.toDocument :=
    fun field hfield => Json.Record.document?_toDocumentMembers h hfield
  have hstate := hdocument "state" (by simp)
  have hheight := hdocument "height" (by simp)
  have hdata := hdocument "data" (by simp)
  unfold Envelope.read
  rw [Document.asRecord_toDocument_eq_ok h]
  simp only [Json.Reading.seq_eq_ok, Json.Reading.map_eq_ok, Json.Record.required_eq_ok,
    Json.Record.optional_eq_ok, hstate, hheight, hdata, ← height?_eq_some,
    Option.map_eq_some_iff]
  constructor
  · rintro ⟨-, a, ⟨-, height, ⟨state, ⟨-, ⟨j, hj, rfl⟩, hread⟩, rfl⟩, hheight, rfl⟩,
      ⟨-, ⟨j', hj', rfl⟩, hread'⟩, rfl⟩
    rw [Document.asString_toDocument_eq_ok] at hread
    subst hread
    exact ⟨hj, hheight, j', hj', hread'⟩
  · rintro ⟨hj, hheight, j', hj', hread'⟩
    exact ⟨_, _, ⟨_, _, ⟨_, ⟨_, ⟨_, hj, rfl⟩, rfl⟩, rfl⟩, hheight, rfl⟩, ⟨_, ⟨_, hj', rfl⟩, hread'⟩,
      rfl⟩

variable {read : Document → Except Json.Fault α} {members : List (String × Json)} {state : String}

theorem typed_of_readable (h : Ascending members)
    (hstate : members.lookup "state" = some (.string state)) (hreadable : Readable read members)
    (method : String) :
    ∃ height data, height? (members.lookup "height") = some height ∧
      Rpc.typed method (Envelope.read read) (.object members) = .ok ⟨state, height, data⟩ := by
  obtain ⟨hheight, j, data, hj, hdata⟩ := hreadable
  obtain ⟨height, hheight⟩ := Option.isSome_iff_exists.1 hheight
  have hread : Envelope.read read (Json.object members).toDocument = .ok ⟨state, height, data⟩ :=
    (read_object_eq_ok h).2 ⟨hstate, hheight, j, hj, hdata⟩
  exact ⟨height, data, hheight, congrArg (Except.mapError _) hread⟩

theorem typed_of_not_readable (h : Ascending members) (hreadable : ¬ Readable read members)
    (method : String) :
    ∃ reason, Rpc.typed method (Envelope.read read) (.object members) =
      .error (.invalidResponse method reason) := by
  cases hread : Envelope.read read (Json.object members).toDocument with
  | ok e =>
    obtain ⟨-, hheight, j, hj, hdata⟩ := (read_object_eq_ok h).1 hread
    exact absurd ⟨Option.isSome_iff_exists.2 ⟨_, hheight⟩, j, _, hj, hdata⟩ hreadable
  | error fault => exact ⟨fault.message, congrArg (Except.mapError _) hread⟩

/-- The failure that an answer in an envelope is. -/
def failureOf? : Except TransportError (Envelope α) → Option VerifyError
  | .ok e => e.failure?
  | .error cause => some (.transport cause)

end Envelope

/-- The error that the answer of a method is if its state is old: the old state if the answer is
readable, and else that it is not. -/
structure VerifyError.OfOutdated (readable : Prop) (method state : String) (e : VerifyError) :
    Prop where
  stale : readable → e = .notUpToDate state
  invalid : ¬ readable → ∃ reason, e = .transport (.invalidResponse method reason)

theorem VerifyError.OfOutdated.isFatal {readable : Prop} {method state : String} {e : VerifyError}
    (h : e.OfOutdated readable method state) : e.isFatal = true := by
  by_cases hreadable : readable
  · rw [h.stale hreadable]
    rfl
  · obtain ⟨reason, rfl⟩ := h.invalid hreadable
    rfl

/-- An old state is a failure, whatever stands beside it. -/
theorem Envelope.exists_failureOf?_typed {read : Document → Except Json.Fault α}
    {members : List (String × Json)} {state : String} (h : Ascending members)
    (hstate : members.lookup "state" = some (.string state)) (hold : state ≠ upToDate)
    (method : String) :
    ∃ e, failureOf? (Rpc.typed method (Envelope.read read) (.object members)) = some e ∧
      e.OfOutdated (Readable read members) method state := by
  by_cases hreadable : Readable read members
  · obtain ⟨height, data, -, htyped⟩ := typed_of_readable h hstate hreadable method
    rw [htyped]
    exact ⟨_, if_neg hold, fun _ => rfl, fun h => absurd hreadable h⟩
  · obtain ⟨reason, htyped⟩ := typed_of_not_readable h hreadable method
    rw [htyped]
    exact ⟨_, rfl, fun h => absurd h hreadable, fun _ => ⟨reason, rfl⟩⟩

/-! ## Asking a node -/

namespace GspRead

def method : GspRead → String
  | verifyAuth _ _ _ => "verifyauth"
  | nameState _ => "getnamestate"

def params : GspRead → Json
  | verifyAuth name app password => Json.ofMembers [("name", .string name),
    ("application", .string app), ("password", .string password)]
  | nameState name => Json.ofMembers [("name", .string name)]

/-- Members that answer a question if there is a state beside them. -/
def Readable : GspRead → List (String × Json) → Prop
  | verifyAuth _ _ _ => Envelope.Readable Decision.read
  | nameState _ => Envelope.Readable NameState.read

def ofReply (endpoint : Http.Endpoint) : (r : GspRead) → Http.Reply → r.Answer
  | verifyAuth _ _ _, reply => (Rpc.result endpoint "verifyauth" reply).bind
    (Rpc.typed "verifyauth" (Envelope.read Decision.read))
  | nameState _, reply => (Rpc.result endpoint "getnamestate" reply).bind
    (Rpc.typed "getnamestate" (Envelope.read NameState.read))

theorem failure?_verifyAuth {name app password : String}
    (a : Except TransportError (Envelope Decision)) :
    (verifyAuth name app password).failure? a = Envelope.failureOf? a := by
  cases a <;> rfl

theorem failure?_nameState {name : String} (a : Except TransportError (Envelope NameState)) :
    (nameState name).failure? a = Envelope.failureOf? a := by
  cases a <;> rfl

end GspRead

def GspNode.request (node : GspNode) (r : GspRead) : Http.Request :=
  Rpc.request node.endpoint r.method r.params

theorem GspNode.run_read (node : GspNode) (r : GspRead) :
    (node.read r).run = .ask (node.request r) fun reply => .done (r.ofReply node.endpoint reply) := by
  cases r <;> rfl

theorem Backend.through_gsp (w : World σ fun _ : Http.Request => Http.Reply) (s : σ)
    (node : GspNode) (r : GspRead) :
    (w.through Backend.overHttp (.gsp node r) s).1 =
      r.ofReply node.endpoint (w (node.request r) s).1 := by
  show ((node.read r).run.runIn w s).result = _
  rw [GspNode.run_read]
  rfl

/-! ## Replies with an old state -/

section
variable {members : List (String × Json)} {state : String}

theorem GspRead.exists_failure?_ofReply (r : GspRead) (endpoint : Http.Endpoint) {reply : Http.Reply}
    (hreply : reply.Returns (.object members))
    (hstate : members.lookup "state" = some (.string state)) (hold : state ≠ upToDate) :
    ∃ e, r.failure? (r.ofReply endpoint reply) = some e ∧
      e.OfOutdated (r.Readable members) r.method state := by
  have hascending := hreply.ascending
  cases r with
  | verifyAuth name app password =>
    rw [ofReply, Rpc.result_of_returns hreply, failure?_verifyAuth]
    exact Envelope.exists_failureOf?_typed hascending hstate hold "verifyauth"
  | nameState name =>
    rw [ofReply, Rpc.result_of_returns hreply, failure?_nameState]
    exact Envelope.exists_failureOf?_typed hascending hstate hold "getnamestate"

/-! ## One processor -/

variable {w : World σ fun _ : Http.Request => Http.Reply} {s : σ} {node : GspNode}

namespace Authenticator

theorem gspAuthenticate_outdated (hstate : members.lookup "state" = some (.string state))
    (hold : state ≠ upToDate) {name app password : String}
    (hreply : (w (node.request (.verifyAuth name app password)) s).1.Returns (.object members)) :
    ∃ e : VerifyError, e.OfOutdated (Envelope.Readable Decision.read members) "verifyauth" state ∧
      (((gspAuthenticate node name app password).run.via Backend.overHttp).runIn w s).result =
        .error e := by
  obtain ⟨e, he, hof⟩ := GspRead.exists_failure?_ofReply (.verifyAuth name app password)
    node.endpoint hreply hstate hold
  refine ⟨e, hof, ?_⟩
  rw [(Inquiry.runIn_via _ _ _ _).1]
  refine (gspAuthenticate_stopsAt node name app password).result_of_failure List.mem_cons_self ?_
  rw [Backend.through_gsp]
  exact he

theorem gspIsUser_outdated (hstate : members.lookup "state" = some (.string state))
    (hold : state ≠ upToDate) {name : String}
    (hreply : (w (node.request (.nameState name)) s).1.Returns (.object members)) (app : String) :
    ∃ e : VerifyError, e.OfOutdated (Envelope.Readable NameState.read members) "getnamestate" state ∧
      (((gspIsUser node name app).run.via Backend.overHttp).runIn w s).result = .error e := by
  obtain ⟨e, he, hof⟩ := GspRead.exists_failure?_ofReply (.nameState name) node.endpoint hreply
    hstate hold
  refine ⟨e, hof, ?_⟩
  rw [(Inquiry.runIn_via _ _ _ _).1]
  refine (gspIsUser_stopsAt node name app).result_of_failure List.mem_cons_self ?_
  rw [Backend.through_gsp]
  exact he

theorem runIn_gspProbe {L G : Type} (w : World σ (Backend.Answer (L := L) (G := G))) (s : σ)
    (node : G) (name : String) :
    ((gspProbe node name).run.runIn w s).result =
      (Except.mapError VerifyError.transport (w (.gsp node (.nameState name)) s).1).map
        fun e => (e.state, e.height) := by
  show (Inquiry.runIn w (ExceptT.bindCont _
    (Except.mapError VerifyError.transport (w (.gsp node (.nameState name)) s).1)) _).result = _
  cases (w (.gsp node (.nameState name)) s).1 <;> rfl

/-- A probe gives whatever state a reply has, if the reply can be read. -/
theorem gspProbe_returned {name : String}
    (hreply : (w (node.request (.nameState name)) s).1.Returns (.object members))
    (hstate : members.lookup "state" = some (.string state)) :
    let outcome := (((gspProbe node name).run.via Backend.overHttp).runIn w s).result
    (Envelope.Readable NameState.read members → ∃ height,
      Envelope.height? (members.lookup "height") = some height ∧ outcome = .ok (state, height)) ∧
    (¬ Envelope.Readable NameState.read members → ∃ reason,
      outcome = .error (.transport (.invalidResponse "getnamestate" reason))) := by
  intro outcome
  have houtcome : outcome = (Except.mapError VerifyError.transport
      (Rpc.typed "getnamestate" (Envelope.read NameState.read) (.object members))).map
        fun e => (e.state, e.height) := by
    have hanswer := Backend.through_gsp w s node (.nameState name)
    rw [GspRead.ofReply, Rpc.result_of_returns hreply] at hanswer
    rw [← show _ = Rpc.typed _ _ _ from hanswer, ← runIn_gspProbe]
    exact (Inquiry.runIn_via _ _ _ _).1
  constructor
  · intro hreadable
    obtain ⟨height, data, hheight, htyped⟩ :=
      Envelope.typed_of_readable hreply.ascending hstate hreadable "getnamestate"
    refine ⟨height, hheight, ?_⟩
    rw [houtcome, htyped]
    rfl
  · intro hreadable
    obtain ⟨reason, htyped⟩ :=
      Envelope.typed_of_not_readable hreply.ascending hreadable "getnamestate"
    refine ⟨reason, ?_⟩
    rw [houtcome, htyped]
    rfl

end Authenticator

/-! ## Processors among other backends -/

theorem LedgerNode.member?_method_of_read {node : LedgerNode} {r : LedgerRead}
    {z : (_ : Http.Request) × Http.Reply} (hz : z ∈ ((node.read r).run.runIn w s).answers) :
    z.1.body.member? "method" = some (.string "eth_call") := by
  have hview : ∃ endpoint params, z.1 = Rpc.request endpoint "eth_call" params := by
    cases r <;> exact ⟨_, _, congrArg Sigma.fst (List.mem_singleton.1 hz)⟩
  obtain ⟨endpoint, params, hrequest⟩ := hview
  rw [hrequest, Rpc.member?_method]

/-- A request with a method that no ledger is called with asks a processor. -/
theorem Backend.exists_gsp_of_method {x : Inquiry (Backend LedgerNode GspNode) Backend.Answer α}
    {z : (_ : Http.Request) × Http.Reply} {method : String}
    (hz : z ∈ ((x.via Backend.overHttp).runIn w s).answers)
    (hmethod : z.1.body.member? "method" = some (.string method)) (hne : method ≠ "eth_call") :
    ∃ (node : GspNode) (r : GspRead), r.method = method ∧
      ⟨.gsp node r, r.ofReply node.endpoint z.2⟩ ∈
        (x.runIn (w.through Backend.overHttp) s).answers := by
  obtain ⟨⟨q, a⟩, hy, t, ha, hz⟩ := Inquiry.exists_of_mem_answers_via hz
  cases q with
  | ledger node r =>
    rw [LedgerNode.member?_method_of_read hz] at hmethod
    cases hmethod
    exact absurd rfl hne
  | gsp node r =>
    have hrun : (Backend.overHttp (.gsp node r)).runIn w t =
        ⟨r.ofReply node.endpoint (w (node.request r) t).1, (w (node.request r) t).2,
          [⟨node.request r, (w (node.request r) t).1⟩]⟩ := by
      show (node.read r).run.runIn w t = _
      rw [GspNode.run_read]
      rfl
    rw [hrun] at hz ha
    rw [List.mem_singleton.1 hz] at hmethod ⊢
    rw [GspNode.request, Rpc.member?_method] at hmethod
    have hanswer : a = r.ofReply node.endpoint (w (node.request r) t).1 := ha
    rw [hanswer] at hy
    exact ⟨node, r, Json.string.inj (Option.some.inj hmethod), hy⟩

/-- What stops at failures ends with the error of the reply with an old state. -/
theorem Backend.exists_result_of_outdated
    {x : Inquiry (Backend LedgerNode GspNode) Backend.Answer α} {stopped : VerifyError → α}
    (hx : x.StopsAt Backend.failure? stopped) {z : (_ : Http.Request) × Http.Reply} {method : String}
    (hz : z ∈ ((x.via Backend.overHttp).runIn w s).answers)
    (hmethod : z.1.body.member? "method" = some (.string method)) (hne : method ≠ "eth_call")
    (hreply : z.2.Returns (.object members))
    (hstate : members.lookup "state" = some (.string state)) (hold : state ≠ upToDate) :
    ∃ (r : GspRead) (e : VerifyError), r.method = method ∧
      e.OfOutdated (r.Readable members) method state ∧
      (x.runIn (w.through Backend.overHttp) s).result = stopped e := by
  obtain ⟨node, r, rfl, hy⟩ := exists_gsp_of_method hz hmethod hne
  obtain ⟨e, he, hof⟩ := r.exists_failure?_ofReply node.endpoint hreply hstate hold
  exact ⟨r, e, rfl, hof, hx.result_of_failure hy he⟩

end

end LedgerLogin
