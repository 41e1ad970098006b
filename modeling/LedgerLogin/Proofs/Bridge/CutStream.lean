import LedgerLogin.Proofs.Bridge.Stream
import Mathlib

/-!
# Streams that end within a frame

A stream can be cut anywhere: within the two bytes of a length, behind them, or within a body. The
frames before the cut are answered as if nothing followed them, and a cut from the second byte of a
frame on ends the bridge with an error. One byte of a length is not told apart from the end of the
input: the bridge then ends as if all had been read (`run_cut`, `run_cut_firstByte`).

What is proved of every input is that it is a list of frames and a rest that is either at most one
byte or makes reading fail (`exists_frames`).
-/

namespace LedgerLogin.Bridge

variable {L G σ : Type}

/-- What came of a frame when the stream was cut: some of its bytes, but not all. -/
structure IsCut (body cut : Bytes) : Prop where
  isPrefix : cut <+: frame body
  ne_nil : cut ≠ []
  ne_frame : cut ≠ frame body

/-- The error that a cut frame ends with once its length has come. -/
def cutError (body : Bytes) : FrameError :=
  if body.length ≤ 32767 then .cut body.length else .negativeLength (body.length - 65536)

/-! ## Lines of a stream that is cut -/

theorem lines_eq_nil_iff {input : Bytes} : lines input = [] ↔ input.length ≤ 1 := by
  rcases input with _ | ⟨hi, _ | ⟨lo, rest⟩⟩
  · simp [lines]
  · simp [lines]
  · rw [lines]
    split
    · simp
    · split <;> simp

theorem lines_of_cut {body cut : Bytes} (hbody : body.length ≤ 65535) (h : IsCut body cut)
    (hlength : 2 ≤ cut.length) : lines cut = [.error (cutError body)] := by
  obtain ⟨⟨missing, hframe⟩, -, hne⟩ := h
  -- The length has come, and not all of the body.
  obtain ⟨hi, lo, part, rfl⟩ : ∃ hi lo part, cut = hi :: lo :: part := by
    rcases cut with _ | ⟨hi, _ | ⟨lo, part⟩⟩
    · simp at hlength
    · simp at hlength
    · exact ⟨hi, lo, part, rfl⟩
  rw [frame_eq] at hframe hne
  simp only [List.cons_append, List.cons.injEq] at hframe
  obtain ⟨rfl, rfl, rfl⟩ := hframe
  have hpart : part.length < (part ++ missing).length := by
    have : missing ≠ [] := by
      rintro rfl
      simp at hne
    have := List.length_pos_iff.2 this
    rw [List.length_append]
    omega
  have hsigned := signed16_length (show (part ++ missing).length < 65536 by omega)
  unfold cutError
  by_cases hshort : (part ++ missing).length ≤ 32767
  · rw [if_pos (by omega)] at hsigned
    rw [lines, hsigned, if_neg (by omega), if_pos (by omega), if_pos hshort]
    rfl
  · rw [if_neg (by omega)] at hsigned
    rw [lines, hsigned, if_pos (by omega), if_neg hshort]

/-! ## Every input is frames and a rest -/

/-- A length that is no negative number, with as many bytes behind it, is a frame. -/
theorem frame_of_signed16 {hi lo : UInt8} {rest : Bytes} (hsign : ¬ signed16 hi lo < 0)
    (hrest : ¬ rest.length < (signed16 hi lo).toNat) :
    let body := rest.take (signed16 hi lo).toNat
    frame body = hi :: lo :: body ∧ body.length ≤ 32767 := by
  intro body
  have hhi := hi.toNat_lt
  have hlo := lo.toNat_lt
  have hbytes : UInt8.ofNat ((hi.toNat * 256 + lo.toNat) / 256) = hi ∧
      UInt8.ofNat (hi.toNat * 256 + lo.toNat) = lo := by
    constructor
    · apply UInt8.toNat_inj.1
      rw [UInt8.toNat_ofNat']
      omega
    · apply UInt8.toNat_inj.1
      rw [UInt8.toNat_ofNat']
      omega
  have hsigned := signed16_length (show hi.toNat * 256 + lo.toNat < 65536 by omega)
  rw [hbytes.1, hbytes.2] at hsigned
  have hlength : body.length = hi.toNat * 256 + lo.toNat ∧ body.length ≤ 32767 := by
    simp only [body, List.length_take]
    split at hsigned <;> omega
  refine ⟨?_, hlength.2⟩
  rw [frame_eq, hlength.1, hbytes.1, hbytes.2]

/-- Every input is frames, and a rest that is at most one byte or cannot be read. -/
theorem exists_frames (input : Bytes) : ∃ (bodies : List Bytes) (rest : Bytes),
    input = bodies.flatMap frame ++ rest ∧ (∀ body ∈ bodies, body.length ≤ 32767) ∧
      (rest.length ≤ 1 ∨ ∃ e, lines rest = [.error e]) := by
  fun_induction lines input with
  | case1 hi lo rest length hneg =>
    refine ⟨[], hi :: lo :: rest, rfl, by simp, .inr ⟨.negativeLength length, ?_⟩⟩
    rw [lines, if_pos hneg]
  | case2 hi lo rest length hsign hshort =>
    refine ⟨[], hi :: lo :: rest, rfl, by simp, .inr ⟨.cut length.toNat, ?_⟩⟩
    rw [lines, if_neg hsign, if_pos hshort]
  | case3 hi lo rest length hsign hlong ih =>
    obtain ⟨bodies, tail, htail, hbodies, hend⟩ := ih
    obtain ⟨hframe, hbody⟩ := frame_of_signed16 hsign hlong
    refine ⟨rest.take length.toNat :: bodies, tail, ?_, ?_, hend⟩
    · rw [List.flatMap_cons, hframe, List.append_assoc, ← htail, List.cons_append,
        List.cons_append, List.take_append_drop]
    · intro body hmem
      rcases List.mem_cons.1 hmem with rfl | hmem
      · exact hbody
      · exact hbodies body hmem
  | case4 input hshort =>
    refine ⟨[], input, rfl, by simp, .inl ?_⟩
    rcases input with _ | ⟨hi, _ | ⟨lo, rest⟩⟩
    · simp
    · simp
    · exact absurd rfl (hshort hi lo rest)

/-! ## Runs over a stream that is cut -/

/-- What a bridge has done after two parts of its input, of which it got through the first. -/
def Outcome.followedBy (first later : Outcome) : Outcome :=
  ⟨first.output ++ later.output, later.failure, first.events ++ later.events⟩

/-- A bridge serves two parts of its input in turn, the second only if it gets through the first. -/
theorem serve_append (service : Service L G) (now : Int64)
    (front tail : List (Except FrameError String)) :
    serve service now (front ++ tail) = (serve service now front).bind fun first =>
      match first.failure with
      | some _ => .done first
      | none => (serve service now tail).bind fun later => .done (first.followedBy later) := by
  induction front with
  | nil => exact (Inquiry.bind_done _).symm
  | cons line front ih =>
    cases line with
    | error e => rfl
    | ok text =>
      rw [List.cons_append, serve, serve, ih]
      simp only [Inquiry.bind_eq, Inquiry.pure_eq_done, Inquiry.bind_assoc]
      congr 1
      funext report
      cases report.outcome with
      | error e => rfl
      | ok accepted =>
        simp only [Inquiry.bind_assoc, Inquiry.done_bind]
        congr 1
        funext first
        obtain ⟨output, failure, events⟩ := first
        cases failure with
        | some cause => rfl
        | none =>
          simp only [Outcome.answering, Inquiry.bind_assoc, Inquiry.done_bind,
            Outcome.followedBy, List.append_assoc]

section
variable {service : Service L G} {now : Int64} {w : World σ (Backend.Answer (L := L) (G := G))}
  {s : σ} {front : List (Except FrameError String)}

theorem answers_prefix_runIn_serve (tail : List (Except FrameError String)) :
    ((serve service now front).runIn w s).answers <+:
      ((serve service now (front ++ tail)).runIn w s).answers := by
  rw [serve_append, Inquiry.runIn_bind]
  exact List.prefix_append _ _

theorem runIn_serve_append (h : ((serve service now front).runIn w s).result.failure = none)
    (tail : List (Except FrameError String)) :
    let first := (serve service now front).runIn w s
    ((serve service now (front ++ tail)).runIn w s).result =
      first.result.followedBy ((serve service now tail).runIn w first.state).result := by
  intro first
  rw [serve_append, Inquiry.runIn_bind]
  simp only [h, Inquiry.runIn_bind]
  rfl

/-- A bridge that ends well has been through all lines of its input. -/
theorem error_not_mem_of_failure_eq_none {lines : List (Except FrameError String)}
    (h : ((serve service now lines).runIn w s).result.failure = none) (e : FrameError) :
    .error e ∉ lines := by
  intro hmem
  obtain ⟨front, tail, rfl⟩ := List.append_of_mem hmem
  rw [serve_append, Inquiry.runIn_bind] at h
  cases hfirst : ((serve service now front).runIn w s).result.failure with
  | some cause =>
    simp only [hfirst, Inquiry.runIn] at h
    cases h
  | none =>
    simp only [hfirst] at h
    cases h

theorem lines_frames_rest {bodies : List Bytes} (h : ∀ body ∈ bodies, body.length ≤ 32767)
    (rest : Bytes) :
    lines (bodies.flatMap frame ++ rest) = (bodies.map lineOf).map .ok ++ lines rest := by
  rw [lines_frames_append h, List.map_map]
  rfl

theorem lines_frames {bodies : List Bytes} (h : ∀ body ∈ bodies, body.length ≤ 32767) :
    lines (bodies.flatMap frame) = (bodies.map lineOf).map .ok := by
  have hrest := lines_frames_rest h []
  rwa [List.append_nil, lines_eq_nil_iff.2 (show ([] : Bytes).length ≤ 1 by simp),
    List.append_nil] at hrest

/-- If no read fails over frames and what is behind them, the frames alone are all answered. -/
theorem frames_answered {bodies : List Bytes} (hlength : ∀ body ∈ bodies, body.length ≤ 32767)
    {rest : Bytes} (h : ((run service now (bodies.flatMap frame ++ rest)).runIn w s).failures
      Backend.failure? = []) :
    let first := ((run service now (bodies.flatMap frame)).runIn w s).result
    first.failure = none ∧ ∃ accepted : List Bool, accepted.length = bodies.length ∧
      first.output = accepted.flatMap Bridge.answer := by
  intro first
  rw [run, lines_frames_rest hlength] at h
  have hprefix : ((serve service now ((bodies.map lineOf).map .ok)).runIn w s).answers <+: _ :=
    answers_prefix_runIn_serve (lines rest)
  have hfirst : ((serve service now ((bodies.map lineOf).map .ok ++ [])).runIn w s).failures
      Backend.failure? = [] := by
    rw [List.append_nil]
    exact List.prefix_nil.1 (h ▸ hprefix.filterMap _)
  obtain ⟨accepted, s', hcount, houtput, hfailure⟩ := runIn_serve_unfailing [] hfirst
  simp only [first]
  rw [List.append_nil] at houtput hfailure
  rw [run, lines_frames hlength]
  refine ⟨hfailure, accepted, by rw [hcount, List.length_map], ?_⟩
  rw [houtput]
  exact List.append_nil _

theorem runIn_frames_append {bodies : List Bytes}
    (hlength : ∀ body ∈ bodies, body.length ≤ 32767)
    (h : ((run service now (bodies.flatMap frame)).runIn w s).result.failure = none)
    (rest : Bytes) :
    let first := (run service now (bodies.flatMap frame)).runIn w s
    ((run service now (bodies.flatMap frame ++ rest)).runIn w s).result =
      first.result.followedBy ((run service now rest).runIn w first.state).result := by
  rw [run, lines_frames hlength] at h ⊢
  rw [run, lines_frames_rest hlength, run]
  exact runIn_serve_append h (lines rest)

end

/-- A stream that is cut within a frame has the answers to the frames before the cut. It ends with
an error if the cut comes after the first byte of the frame, and it ends well if just that byte is
there: a bridge ends well on frames with at most one byte behind them, and only on these. -/
theorem run_cut (service : Service L G) (now : Int64)
    (w : World σ (Backend.Answer (L := L) (G := G))) (s : σ) :
    (∀ (bodies : List Bytes) (last cut : Bytes), (∀ body ∈ bodies, body.length ≤ 32767) →
      last.length ≤ 65535 → IsCut last cut →
      ((run service now (bodies.flatMap frame ++ cut)).runIn w s).failures Backend.failure? = [] →
      let r := ((run service now (bodies.flatMap frame ++ cut)).runIn w s).result
      r.output = ((run service now (bodies.flatMap frame)).runIn w s).result.output ∧
      r.output.length = 4 * bodies.length ∧
      (∃ accepted : List Bool, accepted.length = bodies.length ∧
        r.output = accepted.flatMap Bridge.answer) ∧
      (2 ≤ cut.length → r.failure = some (.frame (cutError last))) ∧
      (cut.length = 1 → r.failure = none)) ∧
    (∀ input : Bytes, ((run service now input).runIn w s).failures Backend.failure? = [] →
      (((run service now input).runIn w s).result.failure = none ↔
        ∃ (bodies : List Bytes) (rest : Bytes), input = bodies.flatMap frame ++ rest ∧
          (∀ body ∈ bodies, body.length ≤ 32767) ∧ rest.length ≤ 1)) ∧
    ∀ input : Bytes, lines input = [] ↔ input.length ≤ 1 := by
  refine ⟨?_, ?_, fun input => lines_eq_nil_iff⟩
  · intro bodies last cut hlength hlast hcut hunfailing r
    obtain ⟨hwell, accepted, hcount, houtput⟩ := frames_answered hlength hunfailing
    have hr : r = _ := runIn_frames_append hlength hwell cut
    -- Whatever the cut frame comes to, nothing is written for it.
    have hrest : ∀ s, ((run service now cut).runIn w s).result =
        { failure := if cut.length = 1 then none else some (.frame (cutError last)) } := by
      intro s
      have hpos := List.length_pos_iff.2 hcut.ne_nil
      by_cases hone : cut.length = 1
      · rw [run, lines_eq_nil_iff.2 (by omega), if_pos hone]
        rfl
      · rw [run, lines_of_cut hlast hcut (by omega), if_neg hone]
        rfl
    rw [hrest] at hr
    have hsame : r.output = ((run service now (bodies.flatMap frame)).runIn w s).result.output := by
      rw [hr]
      exact List.append_nil _
    have hwritten := hsame.trans houtput
    refine ⟨hsame, by rw [hwritten, length_answers, hcount], ⟨accepted, hcount, hwritten⟩, ?_, ?_⟩
    · intro htwo
      rw [hr]
      exact if_neg (by omega)
    · intro hone
      rw [hr]
      exact if_pos hone
  · intro input hunfailing
    constructor
    · intro hwell
      obtain ⟨bodies, rest, rfl, hlength, hrest | ⟨e, he⟩⟩ := exists_frames input
      · exact ⟨bodies, rest, rfl, hlength, hrest⟩
      · refine absurd ?_ (error_not_mem_of_failure_eq_none hwell e)
        rw [lines_frames_append hlength, he]
        simp
    · rintro ⟨bodies, rest, rfl, hlength, hrest⟩
      obtain ⟨hwell, -⟩ := frames_answered hlength hunfailing
      rw [runIn_frames_append hlength hwell]
      show ((run service now rest).runIn w _).result.failure = none
      rw [run, lines_eq_nil_iff.2 hrest]
      rfl

/-- A login is followed by the first six bytes of a question for a user. -/
theorem run_cut_withinBody :
    let last := utf8 "isuser:domob:chat"
    let input := frame (utf8 "auth:domob:chat:pwd") ++ (frame last).take 6
    IsCut last ((frame last).take 6) ∧
    ((run processedService 0 input).runIn unfailingWorld ()).failures Backend.failure? = [] ∧
    ((run processedService 0 input).runIn unfailingWorld ()).result.failure =
      some (.frame (.cut 17)) ∧
    ((run processedService 0 input).runIn unfailingWorld ()).result.output.length = 4 ∧
    ∃ accepted : List Bool, accepted.length = 1 ∧
      ((run processedService 0 input).runIn unfailingWorld ()).result.output =
        accepted.flatMap Bridge.answer := by
  intro last input
  have hcut : IsCut last ((frame last).take 6) := ⟨List.take_prefix 6 _, by decide, by decide⟩
  have hunfailing : ((run processedService 0 input).runIn unfailingWorld ()).failures
      Backend.failure? = [] :=
    Inquiry.failures_runIn_eq_nil unfailingWorld_failure? _ ()
  obtain ⟨hstream, -⟩ := run_cut processedService 0 unfailingWorld ()
  obtain ⟨-, hwritten, hanswers, herror, -⟩ := hstream [utf8 "auth:domob:chat:pwd"] last _
    (by decide) (by decide) hcut hunfailing
  exact ⟨hcut, hunfailing, herror (by decide), hwritten, hanswers⟩

/-- Not every cut is reported: with one byte of a further frame behind a login the bridge ends
well, although no backend ever fails. -/
theorem run_cut_firstByte :
    (∀ q s, Backend.failure? q (unfailingWorld q s).1 = none) ∧
    IsCut (utf8 "isuser:domob:chat") [0] ∧
    ((run processedService 0 (frame (utf8 "auth:domob:chat:pwd") ++ [0])).runIn
      unfailingWorld ()).result =
        { output := [0, 2, 0, 1], failure := none, events := [.decision .valid] } ∧
    ¬ ∀ (service : Service Empty Unit) (now : Int64)
      (w : World Unit (Backend.Answer (L := Empty) (G := Unit))) (bodies : List Bytes)
      (last cut : Bytes), (∀ q s, Backend.failure? q (w q s).1 = none) →
      (∀ body ∈ bodies, body.length ≤ 32767) → last.length ≤ 32767 → IsCut last cut →
      ((run service now (bodies.flatMap frame ++ cut)).runIn w ()).result.failure ≠ none := by
  have hcut : IsCut (utf8 "isuser:domob:chat") [0] :=
    ⟨by decide, by decide, by decide⟩
  have hrun : ((run processedService 0 (frame (utf8 "auth:domob:chat:pwd") ++ [0])).runIn
      unfailingWorld ()).result =
        { output := [0, 2, 0, 1], failure := none, events := [.decision .valid] } := by
    cbv
  refine ⟨unfailingWorld_failure?, hcut, hrun, ?_⟩
  intro hall
  refine hall processedService 0 unfailingWorld [utf8 "auth:domob:chat:pwd"] _ [0]
    unfailingWorld_failure? (by decide) (by decide) hcut ?_
  rw [List.flatMap_cons, List.flatMap_nil, List.append_nil, hrun]

end LedgerLogin.Bridge
