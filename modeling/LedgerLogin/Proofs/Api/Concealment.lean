import Mathlib
import LedgerLogin.Proofs.Api.Bodies
import LedgerLogin.Proofs.Api.Routes
import LedgerLogin.Proofs.Backend.Failure

/-!
# What the API tells about failed backends

A backend can fail to answer for many reasons, and a reason may name endpoints, methods and what
was refused. The client is told none of it. Two worlds in which the same reads fail, each for its
own reasons, give the same response to every request; and a response after a failed read is always
the one that says that a backend failed (`respond_conceals`).
-/

namespace LedgerLogin

/-- A failure of a backend to answer, whatever the reason. -/
def VerifyError.IsTransport : VerifyError → Prop
  | .transport _ => True
  | _ => False

namespace Api

variable {L G σ : Type}

/-- The response that says that a backend failed, and nothing more. -/
def upstreamFailure : Response where
  status := 502
  contentType := some "application/json"
  body := "\x7b\"error\":\x7b\"code\":\"UPSTREAM_ERROR\"," ++
    "\"message\":\"An upstream service error occurred\"\x7d\x7d"

theorem ofError_backend (reason : String) : Response.ofError (.backend reason) = upstreamFailure := by
  -- The reason is not in the body, so that the response is a closed term.
  have hbody : ErrorBody.ofError (.backend reason) =
      ⟨"UPSTREAM_ERROR", "An upstream service error occurred", none⟩ := rfl
  rw [Response.ofError, hbody]
  cbv

/-- No route goes on after a failed read or puts something in its place. -/
theorem respondTo_stopsAt (service : Service L G) (metrics : Option Metrics) (now : Int64)
    (request : Request) (route : Route) :
    (respondTo service metrics now request route).StopsAt Backend.failure? fun e =>
      (.ofError (.ofVerifyError e), [.ofError e]) := by
  cases route with
  | verify =>
    simp only [respondTo]
    split
    · rename_i r _
      exact (service.authenticate_stopsAt now r.name r.server r.password).map fun report =>
        (Response.ofOutcome Decision.toJson report.outcome, report.events)
    · exact .done _
  | isUser =>
    simp only [respondTo]
    split
    · rename_i r _
      exact (service.isUser_stopsAt r.name r.server).map fun report =>
        (Response.ofOutcome registeredToJson report.outcome, report.events)
    · exact .done _
  | liveness => exact .done _
  | readiness => exact .done _
  | metrics => exact .done _

theorem respond_stopsAt (service : Service L G) (metrics : Option Metrics) (now : Int64)
    (request : Request) :
    (respond service metrics now request).StopsAt Backend.failure? fun e =>
      (.ofError (.ofVerifyError e), [.ofError e]) := by
  unfold respond
  split
  · exact .done _
  rename_i route _
  split
  · exact .done _
  rename_i hallowed
  have hstops := (respondTo_stopsAt service metrics now request route).map fun answer =>
    (if request.method = "HEAD" then { answer.1 with body := "" } else answer.1, answer.2)
  by_cases hhead : request.method = "HEAD"
  · -- The routes that a head can be asked of read nothing.
    rw [hhead] at hallowed
    cases route with
    | verify => exact absurd rfl hallowed
    | isUser => exact absurd rfl hallowed
    | liveness => exact .done _
    | readiness => exact .done _
    | metrics => exact .done _
  · simp only [if_neg hhead] at hstops ⊢
    exact hstops

/-- The response to a request does not depend on why backends fail: two worlds in which the same
reads fail, for whatever reasons, give the same response and have the same counted. If a read failed
so, the response is the one that says so and no more; otherwise even the runs are the same. -/
theorem respond_conceals (service : Service L G) (metrics : Option Metrics) (now : Int64)
    (request : Request) {w₁ w₂ : World σ (Backend.Answer (L := L) (G := G))}
    (hw : DiffersIn Backend.failure? VerifyError.IsTransport w₁ w₂) (s : σ) :
    let r₁ := (respond service metrics now request).runIn w₁ s
    let r₂ := (respond service metrics now request).runIn w₂ s
    r₂.result = r₁.result ∧
    (∀ e ∈ r₁.failures Backend.failure?, e.IsTransport →
      r₁.result = (upstreamFailure, [.transportFailure])) ∧
    ((∀ e ∈ r₁.failures Backend.failure?, ¬ e.IsTransport) → r₂ = r₁) := by
  intro r₁ r₂
  have hstops := respond_stopsAt service metrics now request
  have htold : ∀ {e : VerifyError}, e.IsTransport →
      (Response.ofError (.ofVerifyError e), [Metrics.Event.ofError e]) =
        (upstreamFailure, [.transportFailure]) := by
    intro e he
    cases e with
    | transport cause => rw [Error.ofVerifyError, ofError_backend, Metrics.Event.ofError]
    | notUpToDate state => exact he.elim
    | unknownServer server => exact he.elim
  have hfailed : ∀ e ∈ r₁.failures Backend.failure?, e.IsTransport →
      r₁.result = (upstreamFailure, [.transportFailure]) := by
    intro e he htransport
    obtain ⟨y, hy, hfailure⟩ := List.mem_filterMap.1 he
    rw [← htold htransport]
    exact hstops.result_of_failure hy hfailure
  refine ⟨?_, hfailed, ?_⟩
  · rcases hstops.runIn_differsIn hw s with hsame | ⟨e₁, e₂, h₁, h₂, -, hresult₁, hresult₂⟩
    · exact congrArg Run.result hsame
    · calc r₂.result = (upstreamFailure, [.transportFailure]) := hresult₂.trans (htold h₂)
        _ = r₁.result := (hresult₁.trans (htold h₁)).symm
  · intro hnone
    rcases hstops.runIn_differsIn hw s with hsame | ⟨e₁, e₂, h₁, -, hmet, -, -⟩
    · exact hsame
    · exact absurd h₁ (hnone e₁ hmet)

/-! ## Two outages -/

/-- A service with one server, whose users a processor checks first and then a ledger. -/
def doublyChecked : Service Unit Unit :=
  ⟨StringMap.ofList [("chat", ⟨"app", [.gsp (), .delegation ⟨1, ⟨Vector.replicate 20 0⟩⟩ ()]⟩)]⟩

/-- The processor knows no signers, and the ledger cannot be read. -/
def ledgerOutage (cause : TransportError) : World Unit (Backend.Answer (L := Unit) (G := Unit))
  | .ledger _ _, s => (.error cause, s)
  | .gsp _ (.verifyAuth _ _ _), s => (.ok ⟨upToDate, none, Decision.bare .invalidData⟩, s)
  | .gsp _ (.nameState _), s => (.ok ⟨upToDate, none, {}⟩, s)

/-- Where the ledger stands and how it fails stays inside, also behind a processor that answered. -/
theorem respond_conceals_outages :
    let refused := ledgerOutage (.unavailable "http://10.0.0.7:8545" "connection refused")
    let revoked := ledgerOutage (.rpc "eth_call" (-32000) "key 5f3a was revoked")
    let request := Request.ofFields "/v1/isuser" [("server", "chat"), ("name", "domob")]
    DiffersIn Backend.failure? VerifyError.IsTransport refused revoked ∧
    ((respond doublyChecked none 0 request).runIn refused ()).result =
      (upstreamFailure, [.transportFailure]) ∧
    ((respond doublyChecked none 0 request).runIn revoked ()).result =
      (upstreamFailure, [.transportFailure]) := by
  intro refused revoked request
  have hdiffers : DiffersIn Backend.failure? VerifyError.IsTransport refused revoked := by
    intro q s
    cases q with
    | ledger node r => exact .inr ⟨.transport _, .transport _, trivial, trivial, rfl, rfl⟩
    | gsp node r => cases r <;> exact .inl rfl
  have hreport : ((doublyChecked.isUser "domob" "chat").runIn refused ()).result =
      .failed (.transport (.unavailable "http://10.0.0.7:8545" "connection refused")) := by
    cbv
  obtain ⟨hsame, -, -⟩ := respond_conceals doublyChecked none 0 request hdiffers ()
  have hposts : request.Posts "/v1/isuser" [("server", "chat"), ("name", "domob")] :=
    Request.posts_ofFields (by simp) (by decide) (by decide)
  have hanswer := runIn_respond_isUser doublyChecked none 0 refused () hposts.path hposts.method
    (hposts.record_isUser (by decide))
  rw [hreport] at hanswer
  have htold : ((respond doublyChecked none 0 request).runIn refused ()).result =
      (upstreamFailure, [.transportFailure]) := by
    rw [hanswer, ← ofError_backend]
    rfl
  exact ⟨hdiffers, htold, hsame.trans htold⟩

end Api

end LedgerLogin
