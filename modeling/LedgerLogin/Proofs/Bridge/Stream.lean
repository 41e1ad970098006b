import LedgerLogin.Proofs.Backend.Blame
import LedgerLogin.Proofs.Bridge.Login
import LedgerLogin.Proofs.Bridge.Turn
import Mathlib

/-!
# Streams of frames

A chat server writes commands as frames, one after the other. Where the backends have fixed answers,
a command has a report of its own (`report`), and a run over a stream is the sequence of these
reports up to the first error (`run_frames`): what comes before a frame has no influence on its
answer, and what comes after an error is not looked at.

No client can make a bridge fail with the bytes of a command: without a failed read there is an
answer to every frame of up to 32767 bytes (`run_unfailing`). The two bytes of a length are a number
with sign, though, and a longer frame ends the bridge before any of its bytes is read
(`run_longFrame_fails`).
-/

namespace LedgerLogin.Bridge

variable {L G σ : Type}

/-! ## Lines of a stream -/

theorem lines_longFrame {body : Bytes} (hlong : 32767 < body.length) (hbody : body.length ≤ 65535)
    (rest : Bytes) :
    lines (frame body ++ rest) = [.error (.negativeLength (body.length - 65536))] := by
  have hlength := signed16_length (show body.length < 65536 by omega)
  rw [if_neg (by omega)] at hlength
  rw [frame_eq, List.cons_append, List.cons_append, lines, hlength, if_pos (by omega)]

theorem lines_frames_append {bodies : List Bytes} (h : ∀ body ∈ bodies, body.length ≤ 32767)
    (rest : Bytes) :
    lines (bodies.flatMap frame ++ rest) =
      bodies.map (fun body => .ok (lineOf body)) ++ lines rest := by
  induction bodies with
  | nil => rfl
  | cons body bodies ih =>
    have hbodies : ∀ b ∈ bodies, b.length ≤ 32767 := fun b hb => h b (List.mem_cons_of_mem body hb)
    rw [List.flatMap_cons, List.append_assoc, lines_frame_append (h body List.mem_cons_self),
      ih hbodies]
    rfl

theorem tolerate_eq_error {x : Except VerifyError Bool} {e : VerifyError} :
    tolerate x = .error e ↔ x = .error e ∧ e.isFatal = true := by
  cases x with
  | ok accepted => simp [tolerate]
  | error e' =>
    by_cases hfatal : e'.isFatal = true
    · simp only [tolerate, if_pos hfatal]
      constructor
      · intro h
        cases h
        exact ⟨rfl, hfatal⟩
      · exact And.left
    · simp only [tolerate, if_neg hfatal]
      constructor
      · intro h
        cases h
      · rintro ⟨h, he⟩
        cases h
        exact absurd he hfatal

theorem eq_error_of_map_eq_error {α β ε : Type} {f : α → β} {x : Except ε α} {e : ε}
    (h : x.map f = .error e) : x = .error e := by
  cases x with
  | ok a => cases h
  | error e' =>
    cases h
    rfl

/-! ## Fixed backends -/

/-- What becomes of a command, given as the body of its frame, when backends have fixed answers. -/
def report (service : Service L G) (now : Int64) (answer : (q : Backend L G) → q.Answer)
    (body : Bytes) : Report Bool :=
  (handle service now (Command.parse (lineOf body))).run answer

section
variable {service : Service L G} {now : Int64} {answer : (q : Backend L G) → q.Answer}
  {body : Bytes}

theorem run_serve_of_error {e : VerifyError} (rest : List (Except FrameError String))
    (h : (report service now answer body).outcome = .error e) :
    (serve service now (.ok (lineOf body) :: rest)).run answer =
      { failure := some (.backend e), events := (report service now answer body).events } := by
  unfold report at h ⊢
  rw [serve, Inquiry.bind_eq, Inquiry.run_bind]
  simp only [h]
  rfl

theorem run_serve_of_ok {accepted : Bool} (rest : List (Except FrameError String))
    (h : (report service now answer body).outcome = .ok accepted) :
    (serve service now (.ok (lineOf body) :: rest)).run answer =
      ((serve service now rest).run answer).answering accepted
        (report service now answer body).events := by
  unfold report at h ⊢
  rw [serve, Inquiry.bind_eq, Inquiry.run_bind]
  simp only [h, Inquiry.bind_eq, Inquiry.run_bind]
  rfl

/-- After frames that were answered a bridge is as if the rest were all of its input. -/
theorem run_frames_append {bodies : List Bytes} {accepted : List Bool}
    (hlength : ∀ body ∈ bodies, body.length ≤ 32767)
    (h : bodies.map (fun body => (report service now answer body).outcome) = accepted.map .ok)
    (rest : Bytes) :
    let later := (run service now rest).run answer
    (run service now (bodies.flatMap frame ++ rest)).run answer =
      { output := accepted.flatMap Bridge.answer ++ later.output
        failure := later.failure
        events := bodies.flatMap (fun body => (report service now answer body).events) ++
          later.events } := by
  intro later
  rw [run, lines_frames_append hlength]
  induction bodies generalizing accepted with
  | nil =>
    cases List.map_eq_nil_iff.1 h.symm
    rfl
  | cons body bodies ih =>
    obtain ⟨a, as, rfl, hbody, hbodies⟩ := List.map_eq_cons_iff.1 h.symm
    have hrest : ∀ b ∈ bodies, b.length ≤ 32767 :=
      fun b hb => hlength b (List.mem_cons_of_mem body hb)
    rw [List.map_cons, List.cons_append, run_serve_of_ok _ hbody.symm, ih hrest hbodies.symm]
    simp [Outcome.answering, List.append_assoc]

theorem isFatal_of_report {e : VerifyError}
    (h : (report service now answer body).outcome = .error e) : e.isFatal = true := by
  unfold report at h
  cases hcommand : Command.parse (lineOf body) with
  | auth name server password =>
    rw [hcommand, handle, Inquiry.bind_eq, Inquiry.run_bind] at h
    exact (tolerate_eq_error.1 h).2
  | isUser name server =>
    rw [hcommand, handle, Inquiry.bind_eq, Inquiry.run_bind] at h
    exact (tolerate_eq_error.1 h).2
  | unsupported operation =>
    rw [hcommand] at h
    cases h
  | invalid operation =>
    rw [hcommand] at h
    cases h

/-! ## What counts as a denial -/

theorem report_of_nonAscii (h : ∃ b ∈ body, 128 ≤ b) :
    (report service now answer body).outcome = .ok false := by
  have hall : ¬ body.all (· < 128) = true := by
    obtain ⟨b, hb, hcode⟩ := h
    intro hascii
    have hlt := of_decide_eq_true (List.all_eq_true.1 hascii b hb)
    exact absurd hlt (UInt8.not_lt.2 hcode)
  have hline : Command.parse nonAsciiLine = .unsupported "invalid" := by
    decide
  rw [report, lineOf, if_neg hall, hline]
  rfl

theorem report_of_unserved {operation : String}
    (h : Command.parse (lineOf body) = .unsupported operation ∨
      Command.parse (lineOf body) = .invalid operation) :
    (report service now answer body).outcome = .ok false := by
  rcases h with h | h
  · rw [report, h]
    rfl
  · rw [report, h]
    rfl

theorem report_of_unknownServer {name server : String}
    (h : (∃ password, Command.parse (lineOf body) = .auth name server password) ∨
      Command.parse (lineOf body) = .isUser name server)
    (hserver : service.servers.get? server = none) :
    (report service now answer body).outcome = .ok false := by
  rcases h with ⟨password, h⟩ | h
  · rw [report, h, handle, Service.authenticate, hserver]
    rfl
  · rw [report, h, handle, Service.isUser, hserver]
    rfl

end

/-- What a bridge makes of commands in frames when backends have fixed answers. -/
structure AnswersFrames (service : Service L G) (now : Int64)
    (answer : (q : Backend L G) → q.Answer) (bodies : List Bytes) : Prop where
  /-- Without an error every command has its answer, in turn, and the bridge ends with the input. -/
  answered : ∀ accepted : List Bool,
    bodies.map (fun body => (report service now answer body).outcome) = accepted.map .ok →
    (run service now (bodies.flatMap frame)).run answer =
      { output := accepted.flatMap Bridge.answer
        failure := none
        events := bodies.flatMap fun body => (report service now answer body).events }
  /-- The first error ends the bridge without an answer, whatever comes behind its frame. -/
  stopped : ∀ (before : List Bytes) (body : Bytes) (after : List Bytes) (accepted : List Bool)
    (e : VerifyError), bodies = before ++ body :: after →
    before.map (fun body => (report service now answer body).outcome) = accepted.map .ok →
    (report service now answer body).outcome = .error e →
    e.isFatal = true ∧ ∀ rest : Bytes,
      (run service now (before.flatMap frame ++ frame body ++ rest)).run answer =
        { output := accepted.flatMap Bridge.answer
          failure := some (.backend e)
          events := (before ++ [body]).flatMap fun body =>
            (report service now answer body).events }
  /-- What is written for a frame does not depend on the frames before it. -/
  independent : ∀ (before after : List Bytes) (accepted : List Bool), bodies = before ++ after →
    before.map (fun body => (report service now answer body).outcome) = accepted.map .ok →
    ((run service now (bodies.flatMap frame)).run answer).output =
      accepted.flatMap Bridge.answer ++ ((run service now (after.flatMap frame)).run answer).output
  nonAscii : ∀ body : Bytes, (∃ b ∈ body, 128 ≤ b) →
    (report service now answer body).outcome = .ok false
  unserved : ∀ (body : Bytes) (operation : String),
    Command.parse (lineOf body) = .unsupported operation ∨
      Command.parse (lineOf body) = .invalid operation →
    (report service now answer body).outcome = .ok false
  unknownServer : ∀ (body : Bytes) (name server : String), service.servers.get? server = none →
    ((∃ password, Command.parse (lineOf body) = .auth name server password) ∨
      Command.parse (lineOf body) = .isUser name server) →
    (report service now answer body).outcome = .ok false

/-- Over commands in frames a bridge writes the answer to each, up to the first error, and ends with
that error or with the stream. An answer is that of the command alone, and what follows on a frame
with an error makes no difference. -/
theorem run_frames (service : Service L G) (now : Int64)
    (answer : (q : Backend L G) → q.Answer) {bodies : List Bytes}
    (hlength : ∀ body ∈ bodies, body.length ≤ 32767) :
    AnswersFrames service now answer bodies := by
  refine ⟨?_, ?_, ?_, fun body => report_of_nonAscii, fun body operation => report_of_unserved,
    fun body name server hserver h => report_of_unknownServer h hserver⟩
  · intro accepted haccepted
    have hrun := run_frames_append hlength haccepted []
    have hend : (run service now []).run answer = {} := by
      rw [run, lines]
      · rfl
      · simp
    rw [hend] at hrun
    simpa using hrun
  · intro before body after accepted e hbodies hbefore he
    refine ⟨isFatal_of_report he, ?_⟩
    intro rest
    have hbody : body.length ≤ 32767 := hlength body (by simp [hbodies])
    have hlater : (run service now (frame body ++ rest)).run answer =
        { failure := some (.backend e), events := (report service now answer body).events } := by
      rw [run, lines_frame_append hbody, run_serve_of_error _ he]
    have hrun := run_frames_append (fun b hb => hlength b (by simp [hbodies, hb])) hbefore
      (frame body ++ rest)
    rw [hlater] at hrun
    rw [List.append_assoc, hrun]
    simp
  · intro before after accepted hbodies hbefore
    have hrun := run_frames_append (fun b hb => hlength b (by simp [hbodies, hb])) hbefore
      (after.flatMap frame)
    rw [hbodies, List.flatMap_append, hrun]

/-- A processor that is up to date and accepts one password; what it says about names comes with
another state. -/
def processorAnswer (state : String) : (q : Backend Empty Unit) → q.Answer
  | .ledger node _ => node.elim
  | .gsp _ (.verifyAuth _ _ password) =>
    .ok ⟨upToDate, none, Decision.bare (if password = "pwd" then .valid else .invalidSignature)⟩
  | .gsp _ (.nameState _) => .ok ⟨state, none, {}⟩

/-- A service with one server, whose users the processor checks. -/
def processedService : Service Empty Unit := ⟨StringMap.ofList [("chat", ⟨"app", [.gsp ()]⟩)]⟩

/-- A login and a question about another server are answered; the third command meets an old state,
and the bridge ends there, whatever follows. -/
theorem run_frames_stale :
    (∀ body ∈ [utf8 "auth:domob:chat:pwd", utf8 "isuser:domob:talk", utf8 "isuser:domob:chat"],
      body.length ≤ 32767) ∧
    ∀ rest : Bytes,
      let r := (run processedService 0 (frame (utf8 "auth:domob:chat:pwd") ++
        frame (utf8 "isuser:domob:talk") ++ frame (utf8 "isuser:domob:chat") ++ rest)).run
          (processorAnswer "catching-up")
      r.output = [0, 2, 0, 1, 0, 2, 0, 0] ∧
        r.failure = some (.backend (.notUpToDate "catching-up")) := by
  have hlength : ∀ body ∈ [utf8 "auth:domob:chat:pwd", utf8 "isuser:domob:talk",
      utf8 "isuser:domob:chat"], body.length ≤ 32767 := by
    decide
  refine ⟨hlength, ?_⟩
  have hanswers := run_frames processedService 0 (processorAnswer "catching-up") hlength
  have hbefore : [utf8 "auth:domob:chat:pwd", utf8 "isuser:domob:talk"].map (fun body =>
      (report processedService 0 (processorAnswer "catching-up") body).outcome) =
        [true, false].map .ok := by
    cbv
  have hlast : (report processedService 0 (processorAnswer "catching-up")
      (utf8 "isuser:domob:chat")).outcome = .error (.notUpToDate "catching-up") := by
    cbv
  obtain ⟨-, hrun⟩ := hanswers.stopped _ _ [] _ _ rfl hbefore hlast
  intro rest r
  have hr := hrun rest
  simp only [List.flatMap_cons, List.flatMap_nil, List.append_nil] at hr
  exact ⟨congrArg Outcome.output hr, congrArg Outcome.failure hr⟩

/-! ## Backends that change, but do not fail -/

section
variable {service : Service L G} {now : Int64} {w : World σ (Backend.Answer (L := L) (G := G))}

/-- A command that ends a bridge has met the error that it ends it with. -/
theorem handle_blames (c : Command) (e : VerifyError) :
    (handle service now c).Ensures (fun q a => q.failure? a ≠ some e)
      fun report => report.outcome ≠ .error e := by
  cases c with
  | auth name server password =>
    refine .bind (service.authenticate_blames now name server password e) ?_
    intro report hreport h
    obtain ⟨houtcome, hfatal⟩ := tolerate_eq_error.1 h
    rw [hreport (eq_error_of_map_eq_error houtcome)] at hfatal
    cases hfatal
  | isUser name server =>
    refine .bind (service.isUser_blames name server e) ?_
    intro report hreport h
    obtain ⟨houtcome, hfatal⟩ := tolerate_eq_error.1 h
    rw [hreport houtcome] at hfatal
    cases hfatal
  | unsupported operation => exact fun h => nomatch h
  | invalid operation => exact fun h => nomatch h

/-- Without a failed read every line has an answer. -/
theorem runIn_serve_unfailing {texts : List String} (tail : List (Except FrameError String)) {s : σ}
    (h : ((serve service now (texts.map .ok ++ tail)).runIn w s).failures Backend.failure? = []) :
    ∃ (accepted : List Bool) (s' : σ), accepted.length = texts.length ∧
      ((serve service now (texts.map .ok ++ tail)).runIn w s).result.output =
        accepted.flatMap Bridge.answer ++ ((serve service now tail).runIn w s').result.output ∧
      ((serve service now (texts.map .ok ++ tail)).runIn w s).result.failure =
        ((serve service now tail).runIn w s').result.failure := by
  induction texts generalizing s with
  | nil => exact ⟨[], s, rfl, rfl, rfl⟩
  | cons text texts ih =>
    rw [List.map_cons, List.cons_append] at h ⊢
    cases houtcome : ((handle service now (Command.parse text)).runIn w s).result.outcome with
    | error e =>
      obtain ⟨-, hanswers⟩ := runIn_serve_of_error (texts.map .ok ++ tail) houtcome
      rw [Run.failures, hanswers, List.filterMap_eq_nil_iff] at h
      refine absurd houtcome ((handle_blames (Command.parse text) e).runIn ?_)
      intro y hy hfailure
      rw [h y hy] at hfailure
      cases hfailure
    | ok a =>
      obtain ⟨hresult, hanswers⟩ := runIn_serve_of_ok (texts.map .ok ++ tail) houtcome
      rw [Run.failures, hanswers, List.filterMap_append, List.append_eq_nil_iff] at h
      obtain ⟨accepted, s', hlength, houtput, hfailure⟩ := ih h.2
      refine ⟨a :: accepted, s', by simp [hlength], ?_, ?_⟩
      · rw [hresult]
        show Bridge.answer a ++ _ = _
        rw [houtput, List.flatMap_cons, List.append_assoc]
      · rw [hresult]
        exact hfailure

end

/-- Without a failed read a bridge answers every frame, as long as their lengths are no negative
numbers; it ends at the first length that is one. -/
theorem run_unfailing (service : Service L G) (now : Int64)
    (w : World σ (Backend.Answer (L := L) (G := G))) (s : σ) {bodies : List Bytes}
    (hlength : ∀ body ∈ bodies, body.length ≤ 65535)
    (hunfailing : ((run service now (bodies.flatMap frame)).runIn w s).failures
      Backend.failure? = []) :
    let r := ((run service now (bodies.flatMap frame)).runIn w s).result
    ((∀ body ∈ bodies, body.length ≤ 32767) →
      r.failure = none ∧ r.output.length = 4 * bodies.length ∧
      ∃ accepted : List Bool, accepted.length = bodies.length ∧
        r.output = accepted.flatMap Bridge.answer) ∧
    (∀ (before : List Bytes) (long : Bytes) (after : List Bytes),
      bodies = before ++ long :: after → (∀ body ∈ before, body.length ≤ 32767) →
      32767 < long.length →
      r.failure = some (.frame (.negativeLength (long.length - 65536))) ∧
      r.output.length = 4 * before.length ∧
      ∃ accepted : List Bool, accepted.length = before.length ∧
        r.output = accepted.flatMap Bridge.answer) := by
  intro r
  constructor
  · intro hshort
    have hlines : lines (bodies.flatMap frame) = (bodies.map lineOf).map .ok ++ [] := by
      have happend := lines_frames_append hshort []
      have hend : lines [] = [] := by simp only [lines]
      rw [List.append_nil, hend] at happend
      rw [happend, List.map_map]
      rfl
    simp only [r]
    rw [run, hlines] at hunfailing ⊢
    obtain ⟨accepted, s', hcount, houtput, hfailure⟩ := runIn_serve_unfailing [] hunfailing
    rw [List.length_map] at hcount
    have hwritten := houtput.trans (List.append_nil _)
    exact ⟨hfailure, by rw [hwritten, length_answers, hcount], accepted, hcount, hwritten⟩
  · intro before long after hbodies hshort hlong
    have hlines : lines (bodies.flatMap frame) =
        (before.map lineOf).map .ok ++ [.error (.negativeLength (long.length - 65536))] := by
      rw [hbodies, List.flatMap_append, List.flatMap_cons, lines_frames_append hshort,
        lines_longFrame hlong (hlength long (by simp [hbodies])), List.map_map]
      rfl
    simp only [r]
    rw [run, hlines] at hunfailing ⊢
    obtain ⟨accepted, s', hcount, houtput, hfailure⟩ := runIn_serve_unfailing _ hunfailing
    rw [List.length_map] at hcount
    have hwritten := houtput.trans (List.append_nil _)
    exact ⟨hfailure, by rw [hwritten, length_answers, hcount], accepted, hcount, hwritten⟩

/-- A world in which the processor is always up to date. -/
def unfailingWorld : World Unit (Backend.Answer (L := Empty) (G := Unit)) :=
  fun q s => (processorAnswer upToDate q, s)

theorem unfailingWorld_failure? (q : Backend Empty Unit) (s : Unit) :
    q.failure? (unfailingWorld q s).1 = none := by
  cases q with
  | ledger node r => exact node.elim
  | gsp node r => cases r <;> rfl

/-- A login is followed by the longest frame that has an answer, of bytes that are not ASCII. -/
theorem run_unfailing_longest :
    let bodies := [utf8 "auth:domob:chat:pwd", List.replicate 32767 0xff]
    (∀ body ∈ bodies, body.length ≤ 32767) ∧
    let r := (run processedService 0 (bodies.flatMap frame)).runIn unfailingWorld ()
    r.failures Backend.failure? = [] ∧ r.result.failure = none ∧ r.result.output.length = 8 ∧
    ∃ accepted : List Bool, accepted.length = 2 ∧
      r.result.output = accepted.flatMap Bridge.answer := by
  intro bodies
  have hshort : ∀ body ∈ bodies, body.length ≤ 32767 := by
    intro body hbody
    simp only [bodies, List.mem_cons, List.not_mem_nil, or_false] at hbody
    rcases hbody with rfl | rfl
    · decide
    · exact Nat.le_of_eq List.length_replicate
  refine ⟨hshort, ?_⟩
  intro r
  have hunfailing : r.failures Backend.failure? = [] :=
    Inquiry.failures_runIn_eq_nil unfailingWorld_failure? _ ()
  obtain ⟨hanswers, -⟩ := run_unfailing processedService 0 unfailingWorld ()
    (fun body hbody => Nat.le_trans (hshort body hbody) (by decide)) hunfailing
  exact ⟨hunfailing, hanswers hshort⟩

/-- Not every frame has an answer: the bridge ends without one at a frame of 32768 bytes, although
no backend ever fails. -/
theorem run_longFrame_fails :
    (∀ q s, Backend.failure? q (unfailingWorld q s).1 = none) ∧
    ((run processedService 0 (frame (List.replicate 32768 0x61))).runIn unfailingWorld ()).result =
      { failure := some (.frame (.negativeLength (-32768))) } ∧
    ¬ ∀ (service : Service Empty Unit) (now : Int64)
      (w : World Unit (Backend.Answer (L := Empty) (G := Unit))) (bodies : List Bytes),
      (∀ q s, Backend.failure? q (w q s).1 = none) →
      (∀ body ∈ bodies, body.length ≤ 65535) →
      ((run service now (bodies.flatMap frame)).runIn w ()).result.failure = none ∧
      ((run service now (bodies.flatMap frame)).runIn w ()).result.output.length =
        4 * bodies.length := by
  have hlong : ((run processedService 0 (frame (List.replicate 32768 0x61))).runIn
      unfailingWorld ()).result = { failure := some (.frame (.negativeLength (-32768))) } := by
    have hlength : (List.replicate 32768 (0x61 : UInt8)).length = 32768 := List.length_replicate
    have hlines := lines_longFrame (show 32767 < _ by rw [hlength]; decide)
      (show _ ≤ 65535 by rw [hlength]; decide) []
    rw [List.append_nil, hlength] at hlines
    rw [run, hlines]
    rfl
  refine ⟨unfailingWorld_failure?, hlong, ?_⟩
  intro hall
  have hlength : ∀ body ∈ [List.replicate 32768 (0x61 : UInt8)], body.length ≤ 65535 := by
    intro body hbody
    rw [List.mem_singleton.1 hbody, List.length_replicate]
    decide
  obtain ⟨hfailure, -⟩ := hall processedService 0 unfailingWorld [List.replicate 32768 0x61]
    unfailingWorld_failure? hlength
  rw [List.flatMap_cons, List.flatMap_nil, List.append_nil, hlong] at hfailure
  cases hfailure

end LedgerLogin.Bridge
