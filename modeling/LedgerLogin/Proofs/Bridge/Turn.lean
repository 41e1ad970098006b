import LedgerLogin.Bridge.Loop
import LedgerLogin.Proofs.Inquiry.World

/-!
# A turn of the bridge

What a bridge does with one line in a world: it ends if there is no decision
(`runIn_serve_of_error`), and else writes the answer and goes on (`runIn_serve_of_ok`). The answer
to a command is the outcome of the service (`runIn_handle_auth`, `runIn_handle_isUser`).
-/

namespace LedgerLogin.Bridge

variable {L G σ : Type} {service : Service L G} {now : Int64} {line : String}
  {w : World σ (Backend.Answer (L := L) (G := G))} {s : σ}

/-- A failure to decide ends the bridge. -/
theorem runIn_serve_of_error {e : VerifyError} (rest : List (Except FrameError String))
    (h : ((handle service now (Command.parse line)).runIn w s).result.outcome = .error e) :
    let first := (handle service now (Command.parse line)).runIn w s
    let r := (serve service now (.ok line :: rest)).runIn w s
    r.result = { failure := some (.backend e), events := first.result.events } ∧
      r.answers = first.answers := by
  rw [serve, Inquiry.bind_eq, Inquiry.runIn_bind]
  simp only [h]
  exact ⟨rfl, List.append_nil _⟩

/-- After an answer the bridge goes on in the state that it left. -/
theorem runIn_serve_of_ok {accepted : Bool} (rest : List (Except FrameError String))
    (h : ((handle service now (Command.parse line)).runIn w s).result.outcome = .ok accepted) :
    let first := (handle service now (Command.parse line)).runIn w s
    let r := (serve service now (.ok line :: rest)).runIn w s
    let later := (serve service now rest).runIn w first.state
    r.result = later.result.answering accepted first.result.events ∧
      r.answers = first.answers ++ later.answers := by
  rw [serve, Inquiry.bind_eq, Inquiry.runIn_bind]
  simp only [h, Inquiry.bind_eq, Inquiry.pure_eq_done, Inquiry.runIn_bind]
  exact ⟨rfl, by rw [Inquiry.runIn, List.append_nil]⟩

theorem runIn_handle_auth (chat server password : String) :
    let report := ((service.authenticate now chat server password).runIn w s).result
    ((handle service now (.auth chat server password)).runIn w s).result =
      ⟨tolerate (report.outcome.map (·.valid)), report.events⟩ := by
  rw [handle, Inquiry.bind_eq, Inquiry.runIn_bind]
  rfl

theorem runIn_handle_isUser (chat server : String) :
    let report := ((service.isUser chat server).runIn w s).result
    ((handle service now (.isUser chat server)).runIn w s).result =
      ⟨tolerate report.outcome, report.events⟩ := by
  rw [handle, Inquiry.bind_eq, Inquiry.runIn_bind]
  rfl

theorem tolerate_fatal {e : VerifyError} (h : e.isFatal = true) : tolerate (.error e) = .error e :=
  if_pos h

/-! ## Failures for good -/

theorem runIn_serve_of_failed {e : VerifyError} (rest : List (Except FrameError String))
    (h : ((handle service now (Command.parse line)).runIn w s).result = .failed e) :
    ((serve service now (.ok line :: rest)).runIn w s).result =
      { failure := some (.backend e), events := [.ofError e] } := by
  obtain ⟨hresult, -⟩ := runIn_serve_of_error rest (congrArg Report.outcome h)
  rw [hresult, h]
  rfl

theorem runIn_serve_auth_of_fatal {chat server password : String} {e : VerifyError}
    (hline : Command.parse line = .auth chat server password) (he : e.isFatal = true)
    (h : ((service.authenticate now chat server password).runIn w s).result = .failed e)
    (rest : List (Except FrameError String)) :
    ((serve service now (.ok line :: rest)).runIn w s).result =
      { failure := some (.backend e), events := [.ofError e] } := by
  apply runIn_serve_of_failed
  rw [hline, runIn_handle_auth, h]
  exact congrArg (Report.mk · _) (tolerate_fatal he)

theorem runIn_serve_isUser_of_fatal {chat server : String} {e : VerifyError}
    (hline : Command.parse line = .isUser chat server) (he : e.isFatal = true)
    (h : ((service.isUser chat server).runIn w s).result = .failed e)
    (rest : List (Except FrameError String)) :
    ((serve service now (.ok line :: rest)).runIn w s).result =
      { failure := some (.backend e), events := [.ofError e] } := by
  apply runIn_serve_of_failed
  rw [hline, runIn_handle_isUser, h]
  exact congrArg (Report.mk · _) (tolerate_fatal he)

end LedgerLogin.Bridge
