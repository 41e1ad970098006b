import LedgerLogin.Api.Router
import LedgerLogin.Proofs.Inquiry.World

/-!
# Requests for decisions

A login or a question for a user that is posted to the API as a record is answered with the outcome
that it has in the service (`runIn_respond_verify`, `runIn_respond_isUser`). The probe for readiness
tells whether the service has servers (`respond_readiness`).
-/

namespace LedgerLogin.Api

variable {L G σ : Type}

section
variable {service : Service L G} {metrics : Option Metrics} {now : Int64}
  {w : World σ (Backend.Answer (L := L) (G := G))} {s : σ} {request : Request}

theorem runIn_respond_posted {route : Route} (hmethod : request.method = "POST")
    (hpath : Route.ofPath? metrics.isSome request.path = some route)
    (hpost : route.isRead = false) :
    ((respond service metrics now request).runIn w s).result =
      ((respondTo service metrics now request route).runIn w s).result := by
  have hallows : ¬ (!route.allows request.method) = true := by
    rw [hmethod, Route.allows, hpost]
    decide
  have hhead : ¬ request.method = "HEAD" := by
    rw [hmethod]
    decide
  unfold respond
  simp only [hpath]
  rw [if_neg hallows, Inquiry.bind_eq, Inquiry.runIn_bind]
  show ((if request.method = "HEAD" then _ else _), _) = _
  rw [if_neg hhead]

end

theorem runIn_respond_verify (service : Service L G) (metrics : Option Metrics) (now : Int64)
    (w : World σ (Backend.Answer (L := L) (G := G))) (s : σ) {request : Request}
    {chat server password : String} (hpath : request.path = "/v1/verify")
    (hmethod : request.method = "POST")
    (hrecord : request.record VerifyRequest.read VerifyRequest.check =
      .ok ⟨server, chat, password⟩) :
    let report := ((service.authenticate now chat server password).runIn w s).result
    ((respond service metrics now request).runIn w s).result =
      (.ofOutcome Decision.toJson report.outcome, report.events) := by
  have hroute : Route.ofPath? metrics.isSome request.path = some .verify := by
    rw [hpath]
    rfl
  rw [runIn_respond_posted hmethod hroute rfl, respondTo, hrecord]
  show ((verify service now ⟨server, chat, password⟩).runIn w s).result = _
  rw [verify, Inquiry.bind_eq, Inquiry.runIn_bind]
  rfl

theorem runIn_respond_isUser (service : Service L G) (metrics : Option Metrics) (now : Int64)
    (w : World σ (Backend.Answer (L := L) (G := G))) (s : σ) {request : Request}
    {chat server : String} (hpath : request.path = "/v1/isuser")
    (hmethod : request.method = "POST")
    (hrecord : request.record IsUserRequest.read IsUserRequest.check = .ok ⟨server, chat⟩) :
    let report := ((service.isUser chat server).runIn w s).result
    ((respond service metrics now request).runIn w s).result =
      (.ofOutcome registeredToJson report.outcome, report.events) := by
  have hroute : Route.ofPath? metrics.isSome request.path = some .isUser := by
    rw [hpath]
    rfl
  rw [runIn_respond_posted hmethod hroute rfl, respondTo, hrecord]
  show ((isUser service ⟨server, chat⟩).runIn w s).result = _
  rw [isUser, Inquiry.bind_eq, Inquiry.runIn_bind]
  rfl

/-- A service is ready if it has a server, and nobody is asked to find out. -/
theorem respond_readiness {service : Service L G} (hservers : service.servers.entries ≠ [])
    (metrics : Option Metrics) (now : Int64) {request : Request}
    (hpath : request.path = "/health/readiness")
    (hmethod : Route.readiness.allows request.method) :
    respond service metrics now request =
      .done (.text 200 (if request.method = "HEAD" then "" else "ready"), []) := by
  have hroute : Route.ofPath? metrics.isSome request.path = some .readiness := by
    rw [hpath]
    rfl
  have hready : readiness service = .text 200 "ready" := by
    unfold readiness StringMap.isEmpty
    rw [if_neg fun h => hservers (List.isEmpty_iff.1 h)]
  unfold respond
  simp only [hroute, hmethod, respondTo, hready]
  by_cases hhead : request.method = "HEAD"
  · simp only [hhead]
    rfl
  · simp only [hhead]
    rfl

end LedgerLogin.Api
