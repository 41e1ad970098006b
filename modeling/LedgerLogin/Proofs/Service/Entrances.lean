import LedgerLogin.Proofs.Api.Bodies
import LedgerLogin.Proofs.Api.Routes
import LedgerLogin.Proofs.Bridge.Stream
import Mathlib

/-!
# Two entrances to one service

A chat server comes to a service through the bridge, any other client through the API. Each has its
own way to read a question, to check it and to tell failures apart. What they make of the same
question in the same world agrees (`Service.entrances_agree`): both can be read back as the outcome
that the question has in the service (`Bridge.Outcome.Follows`, `Api.Response.ofOutcome`).
-/

namespace LedgerLogin

variable {L G σ : Type}

/-! ## At the bridge -/

namespace Bridge

/-- The first command was answered with an acceptance. -/
def Outcome.Accepts (o : Outcome) : Prop := answer true <+: o.output

def Outcome.Denies (o : Outcome) : Prop := answer false <+: o.output

/-- The bridge ended at the first command, without an answer to it. -/
def Outcome.EndsWith (o : Outcome) (f : Failure) : Prop := o.output = [] ∧ o.failure = some f

/-- The first command was given the answer, or the failure, that there is for an outcome. -/
def Outcome.Follows (o : Outcome) (outcome : Except VerifyError Bool) : Prop :=
  match tolerate outcome with
  | .ok accepted => answer accepted <+: o.output
  | .error e => o.EndsWith (.backend e)

theorem runIn_serve_follows {service : Service L G} {now : Int64}
    {w : World σ (Backend.Answer (L := L) (G := G))} {s : σ} {line : String}
    {outcome : Except VerifyError Bool}
    (h : ((handle service now (Command.parse line)).runIn w s).result.outcome = tolerate outcome)
    (rest : List (Except FrameError String)) :
    ((serve service now (.ok line :: rest)).runIn w s).result.Follows outcome := by
  unfold Outcome.Follows
  cases htolerate : tolerate outcome with
  | ok accepted =>
    obtain ⟨hresult, -⟩ := runIn_serve_of_ok rest (h.trans htolerate)
    rw [hresult]
    exact List.prefix_append (answer accepted) _
  | error e =>
    obtain ⟨hresult, -⟩ := runIn_serve_of_error rest (h.trans htolerate)
    rw [hresult]
    exact ⟨rfl, rfl⟩

theorem answer_injective {a b : Bool} (h : answer a = answer b) : a = b := by
  cases a <;> cases b <;> first | rfl | exact absurd h (by decide)

namespace Outcome

variable {o : Outcome} {outcome : Except VerifyError Bool}

theorem prefix_iff {accepted : Bool} (h : answer accepted <+: o.output) (other : Bool) :
    answer other <+: o.output ↔ accepted = other := by
  constructor
  · intro hother
    have hstarts : answer accepted <+: answer other :=
      List.prefix_of_prefix_length_le h hother (Nat.le_refl 4)
    exact answer_injective (hstarts.eq_of_length rfl)
  · rintro rfl
    exact h

theorem EndsWith.not_prefix {f : Failure} (h : o.EndsWith f) (accepted : Bool) :
    ¬ answer accepted <+: o.output := by
  rw [h.1, List.prefix_nil]
  exact List.cons_ne_nil _ _

namespace Follows

theorem decided (h : o.Follows outcome) : o.Accepts ∨ o.Denies ∨ ∃ f, o.EndsWith f := by
  unfold Follows at h
  cases htolerate : tolerate outcome with
  | ok accepted =>
    rw [htolerate] at h
    cases accepted with
    | true => exact .inl h
    | false => exact .inr (.inl h)
  | error e =>
    rw [htolerate] at h
    exact .inr (.inr ⟨.backend e, h⟩)

/-- The answer to the first command is the one that there is for the outcome. -/
theorem prefix_iff (h : o.Follows outcome) (accepted : Bool) :
    answer accepted <+: o.output ↔ tolerate outcome = .ok accepted := by
  unfold Follows at h
  cases htolerate : tolerate outcome with
  | ok b =>
    rw [htolerate] at h
    rw [Outcome.prefix_iff h, Except.ok.injEq]
  | error e =>
    rw [htolerate] at h
    exact iff_of_false (h.not_prefix accepted) (by simp)

theorem accepts_iff (h : o.Follows outcome) : o.Accepts ↔ outcome = .ok true := by
  rw [Accepts, h.prefix_iff]
  rcases outcome with (cause | state | server) | accepted <;> simp [tolerate, VerifyError.isFatal]

theorem denies_iff (h : o.Follows outcome) :
    o.Denies ↔ outcome = .ok false ∨ ∃ server, outcome = .error (.unknownServer server) := by
  rw [Denies, h.prefix_iff]
  rcases outcome with (cause | state | server) | accepted <;> simp [tolerate, VerifyError.isFatal]

theorem endsWith_iff (h : o.Follows outcome) (f : Failure) :
    o.EndsWith f ↔ ∃ e, outcome = .error e ∧ e.isFatal = true ∧ f = .backend e := by
  unfold Follows at h
  cases htolerate : tolerate outcome with
  | ok accepted =>
    rw [htolerate] at h
    refine iff_of_false (fun hends => hends.not_prefix accepted h) ?_
    rintro ⟨e, rfl, hfatal, -⟩
    rw [tolerate_fatal hfatal] at htolerate
    cases htolerate
  | error e =>
    rw [htolerate] at h
    obtain ⟨rfl, hfatal⟩ := tolerate_eq_error.1 htolerate
    constructor
    · intro hends
      exact ⟨e, rfl, hfatal, Option.some.inj (hends.2.symm.trans h.2)⟩
    · rintro ⟨e', he, -, rfl⟩
      cases he
      exact h

theorem endsWith_backend_iff (h : o.Follows outcome) {e : VerifyError} (he : e.isFatal = true) :
    o.EndsWith (.backend e) ↔ outcome = .error e := by
  rw [h.endsWith_iff]
  constructor
  · rintro ⟨e', he', -, heq⟩
    cases heq
    exact he'
  · intro houtcome
    exact ⟨e, houtcome, he, rfl⟩

end Follows

end Outcome

end Bridge

/-! ## At the API -/

namespace Api.Response

variable {α : Type} {toJson : α → Json} {outcome : Except VerifyError α}

theorem status_ofError_ne (e : Error) : (ofError e).status ≠ 200 := by
  cases e <;> simp [ofError, json, Error.status]

theorem shows_iff {flag : String} {toBool : α → Bool}
    (hflag : ∀ a, (json 200 (toJson a)).at? [flag] = some (.bool (toBool a))) (b : Bool) :
    (ofOutcome toJson outcome).status = 200 ∧
        (ofOutcome toJson outcome).at? [flag] = some (.bool b) ↔
      outcome.map toBool = .ok b := by
  cases outcome with
  | ok a =>
    rw [ofOutcome, hflag]
    simp [json, Except.map]
  | error e =>
    refine iff_of_false (fun h => status_ofError_ne _ h.1) ?_
    intro h
    cases h

theorem notFound_iff :
    (ofOutcome toJson outcome).status = 404 ↔ ∃ server, outcome = .error (.unknownServer server) := by
  rcases outcome with (cause | state | server) | a <;>
    simp [ofOutcome, ofError, json, Error.ofVerifyError, Error.status]

theorem badGateway_iff :
    (ofOutcome toJson outcome).status = 502 ↔ ∃ cause, outcome = .error (.transport cause) := by
  rcases outcome with (cause | state | server) | a <;>
    simp [ofOutcome, ofError, json, Error.ofVerifyError, Error.status]

theorem unavailable_iff :
    (ofOutcome toJson outcome).status = 503 ↔ ∃ state, outcome = .error (.notUpToDate state) := by
  rcases outcome with (cause | state | server) | a <;>
    simp [ofOutcome, ofError, json, Error.ofVerifyError, Error.status]

end Api.Response

/-! ## Agreement -/

/-- What a bridge did about a question and how the API responded to it are the same decision, which
the response shows in the member `flag` of its body, or the same lack of one. -/
structure Agree (flag : String) (o : Bridge.Outcome) (r : Api.Response) : Prop where
  decided : o.Accepts ∨ o.Denies ∨ ∃ f, o.EndsWith f
  accepts : o.Accepts ↔ r.status = 200 ∧ r.at? [flag] = some (.bool true)
  denies : o.Denies ↔ r.status = 200 ∧ r.at? [flag] = some (.bool false) ∨ r.status = 404
  ends : (∃ f, o.EndsWith f) ↔ r.status = 502 ∨ r.status = 503
  transport : (∃ cause, o.EndsWith (.backend (.transport cause))) ↔ r.status = 502
  outdated : (∃ state, o.EndsWith (.backend (.notUpToDate state))) ↔ r.status = 503
  details : r.status = 503 → r.TellsOutdated

theorem Agree.of_outcome {α : Type} {toJson : α → Json} {toBool : α → Bool} {flag : String}
    (hflag : ∀ a, (Api.Response.json 200 (toJson a)).at? [flag] = some (.bool (toBool a)))
    {outcome : Except VerifyError α} {o : Bridge.Outcome} (ho : o.Follows (outcome.map toBool)) :
    Agree flag o (.ofOutcome toJson outcome) := by
  have herror : ∀ e, outcome.map toBool = .error e ↔ outcome = .error e := by
    intro e
    exact ⟨Bridge.eq_error_of_map_eq_error, fun h => by rw [h]; rfl⟩
  constructor
  case decided => exact ho.decided
  case accepts => rw [ho.accepts_iff, Api.Response.shows_iff hflag]
  case denies =>
    simp only [ho.denies_iff, Api.Response.shows_iff hflag, Api.Response.notFound_iff, herror]
  case ends =>
    rw [Api.Response.badGateway_iff, Api.Response.unavailable_iff]
    simp only [ho.endsWith_iff, herror]
    constructor
    · rintro ⟨-, cause | state | server, rfl, hfatal, -⟩
      · exact .inl ⟨cause, rfl⟩
      · exact .inr ⟨state, rfl⟩
      · cases hfatal
    · rintro (⟨cause, rfl⟩ | ⟨state, rfl⟩)
      · exact ⟨_, _, rfl, rfl, rfl⟩
      · exact ⟨_, _, rfl, rfl, rfl⟩
  case transport =>
    rw [Api.Response.badGateway_iff]
    exact exists_congr fun cause => (ho.endsWith_backend_iff rfl).trans (herror _)
  case outdated =>
    rw [Api.Response.unavailable_iff]
    exact exists_congr fun state => (ho.endsWith_backend_iff rfl).trans (herror _)
  case details =>
    rw [Api.Response.unavailable_iff]
    rintro ⟨state, rfl⟩
    exact Api.tellsOutdated_notUpToDate state

/-! ## The same question -/

/-- The bridge and the API, asked for the same login or the same user in the same world, agree.
What follows the command in the input of the bridge may be anything. -/
theorem Service.entrances_agree (service : Service L G) (metrics : Option Metrics) (now : Int64)
    (w : World σ (Backend.Answer (L := L) (G := G))) (s : σ) {name server : String}
    (hname : ∀ c ∈ name.toList, IsFieldChar c) (hserver : ∀ c ∈ server.toList, IsFieldChar c)
    (hne : server ≠ "") :
    (∀ {password : String} {request : Api.Request} (rest : Bytes),
      (∀ c ∈ password.toList, c.toNat < 128) →
      (utf8 (Bridge.authLine name server password)).length ≤ 32767 →
      request.Posts "/v1/verify" [("server", server), ("name", name), ("password", password)] →
      Agree "valid"
        ((Bridge.run service now (Bridge.frame (utf8 (Bridge.authLine name server password)) ++
          rest)).runIn w s).result
        ((Api.respond service metrics now request).runIn w s).result.1) ∧
    ∀ {request : Api.Request} (rest : Bytes),
      (utf8 (Bridge.isUserLine name server)).length ≤ 32767 →
      request.Posts "/v1/isuser" [("server", server), ("name", name)] →
      Agree "registered"
        ((Bridge.run service now (Bridge.frame (utf8 (Bridge.isUserLine name server)) ++
          rest)).runIn w s).result
        ((Api.respond service metrics now request).runIn w s).result.1 := by
  have hcolon : ':' ∉ name.toList ∧ ':' ∉ server.toList :=
    ⟨fun h => (hname _ h).2 rfl, fun h => (hserver _ h).2 rfl⟩
  refine ⟨?verify, ?isUser⟩
  case verify =>
    intro password request rest hpassword hlength hposts
    have hascii := Bridge.authLine_ascii (fun c hc => (hname c hc).1)
      (fun c hc => (hserver c hc).1) hpassword
    have hanswer := Api.runIn_respond_verify service metrics now w s hposts.path hposts.method
      (hposts.record_verify hne)
    rw [hanswer, Bridge.run, Bridge.lines_frame_append hlength, Bridge.lineOf_utf8 hascii]
    refine .of_outcome Api.at?_ofDecision (Bridge.runIn_serve_follows ?_ _)
    rw [Bridge.parse_authLine hcolon.1 hcolon.2, Bridge.runIn_handle_auth]
  case isUser =>
    intro request rest hlength hposts
    have hascii := Bridge.isUserLine_ascii (fun c hc => (hname c hc).1)
      (fun c hc => (hserver c hc).1)
    have hanswer := Api.runIn_respond_isUser service metrics now w s hposts.path hposts.method
      (hposts.record_isUser hne)
    rw [hanswer, Bridge.run, Bridge.lines_frame_append hlength, Bridge.lineOf_utf8 hascii]
    have hflag : ∀ registered, (Api.Response.json 200 (Api.registeredToJson registered)).at?
        ["registered"] = some (.bool (id registered)) := Api.at?_registered
    refine .of_outcome hflag (Bridge.runIn_serve_follows ?_ _)
    rw [Bridge.parse_isUserLine hcolon.1 hcolon.2, Bridge.runIn_handle_isUser, Except.map_id]
    rfl

/-- A login and a question for a user, at a service with a processor. -/
theorem Service.entrances_agree_processed :
    let login := [("server", "chat"), ("name", "domob"), ("password", "pwd")]
    let user := [("server", "chat"), ("name", "domob")]
    let bridge (line : String) := ((Bridge.run Bridge.processedService 0
      (Bridge.frame (utf8 line) ++ [])).runIn Bridge.unfailingWorld ()).result
    let api (request : Api.Request) := ((Api.respond Bridge.processedService none 0 request).runIn
      Bridge.unfailingWorld ()).result.1
    (∃ request : Api.Request, request.Posts "/v1/verify" login ∧
      Agree "valid" (bridge (Bridge.authLine "domob" "chat" "pwd")) (api request)) ∧
    ∃ request : Api.Request, request.Posts "/v1/isuser" user ∧
      Agree "registered" (bridge (Bridge.isUserLine "domob" "chat")) (api request) := by
  intro login user bridge api
  have hfield : ∀ text ∈ ["domob", "chat"], ∀ c ∈ text.toList, IsFieldChar c := by
    simp [IsFieldChar]
  have hverify : (Api.Request.ofFields "/v1/verify" login).Posts "/v1/verify" login :=
    Api.Request.posts_ofFields (by simp [login]) (by decide) (by decide)
  have hisUser : (Api.Request.ofFields "/v1/isuser" user).Posts "/v1/isuser" user :=
    Api.Request.posts_ofFields (by simp [user]) (by decide) (by decide)
  obtain ⟨hagree, hagree'⟩ := Service.entrances_agree Bridge.processedService none 0
    Bridge.unfailingWorld () (hfield "domob" (by simp)) (hfield "chat" (by simp)) (by decide)
  exact ⟨⟨_, hverify, hagree [] (by simp) (by decide) hverify⟩,
    ⟨_, hisUser, hagree' [] (by decide) hisUser⟩⟩

end LedgerLogin
