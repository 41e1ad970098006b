import LedgerLogin.Proofs.Inquiry.World
import LedgerLogin.Service

/-!
# Authenticators as alternatives

A server asks its authenticators in turn, and any of them suffices to let a user in. What comes of
such a search depends on the outcomes of the single checks only: it is the first of them that is an
acceptance or an error, or else the last denial (`result_firstSettled`), and what comes after an
acceptance or an error is not asked (`runIn_firstSettled_append`). From this it follows that without
errors the acceptance is the disjunction of the outcomes, that then neither the order nor
repetitions matter, and that an acceptance stays one when more checks are appended. With errors the
order does matter: an error hides the acceptances behind it.

`Server.any_suffices` says all this of the decision on a login and of the question for a user. Where
there are authenticators, every login ends with the report of one of them, unless the chat name is
none (`Server.reports_authenticate`).
-/

namespace LedgerLogin

variable {Q : Type} {A : Q → Type} {σ α β ε : Type}

def accepted (accepts : α → Bool) : Except ε α → Bool
  | .ok a => accepts a
  | .error _ => false

/-- An outcome that ends a search: an acceptance or an error. -/
def settled (accepts : α → Bool) : Except ε α → Bool
  | .ok a => accepts a
  | .error _ => true

/-- The outcomes of checks that are made one after the other. -/
def outcomesIn (w : World σ A) (check : β → ExceptT ε (Inquiry Q A) α) :
    List β → σ → List (Except ε α)
  | [], _ => []
  | b :: rest, s =>
    ((check b).run.runIn w s).result ::
      outcomesIn w check rest ((check b).run.runIn w s).state

/-- A check with the same outcome in every state of a world. -/
def Steady (w : World σ A) (x : ExceptT ε (Inquiry Q A) α) (outcome : Except ε α) : Prop :=
  ∀ s, (x.run.runIn w s).result = outcome

/-- A search that any of its checks can end by accepting; `last` is the denial before them. -/
structure AnySuffices (w : World σ A) (check : β → ExceptT ε (Inquiry Q A) α)
    (accepts : α → Bool) (last : α) (search : List β → ExceptT ε (Inquiry Q A) α) : Prop where
  /-- The result is the first outcome that is an acceptance or an error, or else the last one. -/
  result_eq : ∀ bs s, ((search bs).run.runIn w s).result =
    ((outcomesIn w check bs s).find? (settled accepts)).getD
      ((outcomesIn w check bs s).getLastD (.ok last))
  /-- After an acceptance or an error nothing is asked, and what would be does not matter. -/
  unasked : ∀ before after s, (outcomesIn w check before s).any (settled accepts) →
    (search (before ++ after)).run.runIn w s = (search before).run.runIn w s
  /-- If no outcome is an error there is an acceptance if one of them is. -/
  disjunction : ∀ bs s, (∀ o ∈ outcomesIn w check bs s, ∃ a, o = .ok a) →
    ∃ a, ((search bs).run.runIn w s).result = .ok a ∧
      accepts a = (outcomesIn w check bs s).any (accepted accepts)
  /-- Without errors it does not matter in which order and how often the checks are made. -/
  reordering : ∀ (found : β → α) bs bs' s s', (∀ b ∈ bs, Steady w (check b) (.ok (found b))) →
    (∀ b, b ∈ bs' ↔ b ∈ bs) →
    ∃ a a', ((search bs).run.runIn w s).result = .ok a ∧
      ((search bs').run.runIn w s').result = .ok a' ∧
      accepts a = bs.any (fun b => accepts (found b)) ∧ accepts a' = accepts a
  /-- An error does depend on the order: in front of an acceptance it counts, behind it it is not
  met. -/
  errors : ∀ b b' e a rest s, Steady w (check b) (.error e) → Steady w (check b') (.ok a) →
    accepts a → ((search (b :: b' :: rest)).run.runIn w s).result = .error e ∧
      ((search (b' :: b :: rest)).run.runIn w s).result = .ok a
  /-- An acceptance stays the same when checks are appended. -/
  appending : ∀ bs more s, accepted accepts ((search bs).run.runIn w s).result →
    (search (bs ++ more)).run.runIn w s = (search bs).run.runIn w s

/-! ## Checks in turn -/

/-- The first result of the checks that is accepted, or else the last one; an error ends it. -/
def firstSettled (check : β → ExceptT ε (Inquiry Q A) α) (accepts : α → Bool) (last : α) :
    List β → ExceptT ε (Inquiry Q A) α
  | [] => return last
  | b :: rest => do
    let a ← check b
    if accepts a then return a else firstSettled check accepts a rest

section Search

variable {w : World σ A} {check : β → ExceptT ε (Inquiry Q A) α} {accepts : α → Bool} {last : α}

theorem runIn_firstSettled_of_settled {b : β} {s : σ}
    (h : settled accepts ((check b).run.runIn w s).result) (rest : List β) :
    (firstSettled check accepts last (b :: rest)).run.runIn w s = (check b).run.runIn w s := by
  rw [firstSettled]
  cases hr : ((check b).run.runIn w s).result with
  | error e =>
    rw [Inquiry.runIn_bind_of_error hr, ← hr]
  | ok a =>
    have ha : accepts a = true := by rwa [hr] at h
    rw [Inquiry.runIn_bind_of_ok hr, if_pos ha]
    show Run.mk (Except.ok a) _ (_ ++ []) = _
    rw [List.append_nil, ← hr]
    rfl

/-- After a denial the search goes on, and the denial is the last one. -/
theorem runIn_firstSettled_of_denial {b : β} {s : σ} {a : α}
    (h : ((check b).run.runIn w s).result = .ok a) (ha : accepts a = false) (rest : List β) :
    (firstSettled check accepts last (b :: rest)).run.runIn w s =
      let r := (firstSettled check accepts a rest).run.runIn w ((check b).run.runIn w s).state
      ⟨r.result, r.state, ((check b).run.runIn w s).answers ++ r.answers⟩ := by
  rw [firstSettled, Inquiry.runIn_bind_of_ok h, if_neg (Bool.eq_false_iff.1 ha)]

theorem denial_of_not_settled {o : Except ε α} (h : settled accepts o = false) :
    ∃ a, o = .ok a ∧ accepts a = false := by
  cases o with
  | error e => cases h
  | ok a => exact ⟨a, rfl, h⟩

theorem result_firstSettled (bs : List β) (s : σ) :
    ((firstSettled check accepts last bs).run.runIn w s).result =
      ((outcomesIn w check bs s).find? (settled accepts)).getD
        ((outcomesIn w check bs s).getLastD (.ok last)) := by
  induction bs generalizing last s with
  | nil => rfl
  | cons b rest ih =>
    rw [outcomesIn]
    cases h : settled accepts ((check b).run.runIn w s).result with
    | true =>
      rw [runIn_firstSettled_of_settled h, List.find?_cons_of_pos h]
      rfl
    | false =>
      obtain ⟨a, ha, hdenied⟩ := denial_of_not_settled h
      rw [runIn_firstSettled_of_denial ha hdenied, List.find?_cons_of_neg (by simp [h]),
        List.getLastD_cons, ha]
      exact ih _

/-- Where there are checks, the search comes to the outcome of one of them. -/
theorem find?_or_getLast?_outcomesIn {bs : List β} (h : bs ≠ []) (s : σ) :
    ((outcomesIn w check bs s).find? (settled accepts)).or (outcomesIn w check bs s).getLast? =
      some ((firstSettled check accepts last bs).run.runIn w s).result := by
  obtain ⟨b, rest, rfl⟩ := List.exists_cons_of_ne_nil h
  have hne : outcomesIn w check (b :: rest) s ≠ [] := List.cons_ne_nil _ _
  rw [result_firstSettled, List.getLastD_eq_getLast?, List.getLast?_eq_some_getLast hne]
  cases (outcomesIn w check (b :: rest) s).find? (settled accepts) with
  | some o => rfl
  | none => rfl

theorem runIn_firstSettled_append {before : List β} {s : σ}
    (h : (outcomesIn w check before s).any (settled accepts)) (after : List β) :
    (firstSettled check accepts last (before ++ after)).run.runIn w s =
      (firstSettled check accepts last before).run.runIn w s := by
  induction before generalizing last s with
  | nil => cases h
  | cons b rest ih =>
    rw [List.cons_append]
    cases hb : settled accepts ((check b).run.runIn w s).result with
    | true => rw [runIn_firstSettled_of_settled hb, runIn_firstSettled_of_settled hb]
    | false =>
      obtain ⟨a, ha, hdenied⟩ := denial_of_not_settled hb
      have hrest : (outcomesIn w check rest ((check b).run.runIn w s).state).any
          (settled accepts) := by
        rwa [outcomesIn, List.any_cons, hb, Bool.false_or] at h
      rw [runIn_firstSettled_of_denial ha hdenied, runIn_firstSettled_of_denial ha hdenied,
        ih hrest]

theorem denial_of_find?_eq_none {outcomes : List (Except ε α)} (hlast : accepts last = false)
    (h : outcomes.find? (settled accepts) = none) :
    ∃ a, outcomes.getLastD (.ok last) = .ok a ∧ accepts a = false := by
  have hend : settled accepts (outcomes.getLastD (.ok last)) = false := by
    rcases List.mem_cons.1 (List.getLastD_mem_cons (l := outcomes) (a := .ok last)) with heq | hmem
    · rw [heq]
      exact hlast
    · exact Bool.eq_false_iff.2 (List.find?_eq_none.1 h _ hmem)
  exact denial_of_not_settled hend

theorem outcomesIn_of_steady {outcome : β → Except ε α} {bs : List β}
    (h : ∀ b ∈ bs, Steady w (check b) (outcome b)) (s : σ) :
    outcomesIn w check bs s = bs.map outcome := by
  induction bs generalizing s with
  | nil => rfl
  | cons b rest ih =>
    rw [outcomesIn, List.map_cons, h b List.mem_cons_self s,
      ih (fun x hx => h x (List.mem_cons_of_mem b hx))]

end Search

/-! ## The rule -/

section Rule

variable {w : World σ A} {check : β → ExceptT ε (Inquiry Q A) α} {accepts : α → Bool} {last : α}

theorem disjunction_firstSettled (hlast : accepts last = false) {bs : List β} {s : σ}
    (hok : ∀ o ∈ outcomesIn w check bs s, ∃ a, o = .ok a) :
    ∃ a, ((firstSettled check accepts last bs).run.runIn w s).result = .ok a ∧
      accepts a = (outcomesIn w check bs s).any (accepted accepts) := by
  rw [result_firstSettled]
  generalize outcomesIn w check bs s = outcomes at hok
  cases hfind : outcomes.find? (settled accepts) with
  | some o =>
    have hmem : o ∈ outcomes := List.mem_of_find?_eq_some hfind
    obtain ⟨a, rfl⟩ := hok o hmem
    have ha : settled accepts (.ok a : Except ε α) = true := List.find?_some hfind
    refine ⟨a, rfl, ha.trans (Eq.symm ?_)⟩
    exact List.any_eq_true.2 ⟨.ok a, hmem, ha⟩
  | none =>
    obtain ⟨a, ha, hdenied⟩ := denial_of_find?_eq_none hlast hfind
    refine ⟨a, ha, hdenied.trans (Eq.symm ?_)⟩
    rw [List.any_eq_false]
    intro o ho haccepted
    obtain ⟨d, rfl⟩ := hok o ho
    exact List.find?_eq_none.1 hfind _ ho haccepted

theorem any_settled_of_accepted (hlast : accepts last = false) {bs : List β} {s : σ}
    (h : accepted accepts ((firstSettled check accepts last bs).run.runIn w s).result) :
    (outcomesIn w check bs s).any (settled accepts) := by
  rw [result_firstSettled] at h
  cases hfind : (outcomesIn w check bs s).find? (settled accepts) with
  | some o =>
    exact List.any_eq_true.2 ⟨o, List.mem_of_find?_eq_some hfind, List.find?_some hfind⟩
  | none =>
    obtain ⟨a, ha, hdenied⟩ := denial_of_find?_eq_none hlast hfind
    rw [hfind, Option.getD_none, ha] at h
    exact absurd (hdenied.symm.trans h) Bool.false_ne_true

theorem disjunction_of_steady (hlast : accepts last = false) {found : β → α} {bs : List β}
    (hsteady : ∀ b ∈ bs, Steady w (check b) (.ok (found b))) (s : σ) :
    ∃ a, ((firstSettled check accepts last bs).run.runIn w s).result = .ok a ∧
      accepts a = bs.any fun b => accepts (found b) := by
  have houtcomes := outcomesIn_of_steady hsteady s
  have hok : ∀ o ∈ outcomesIn w check bs s, ∃ a, o = .ok a := by
    intro o ho
    rw [houtcomes] at ho
    obtain ⟨b, -, rfl⟩ := List.mem_map.1 ho
    exact ⟨found b, rfl⟩
  obtain ⟨a, ha, hany⟩ := disjunction_firstSettled hlast hok
  refine ⟨a, ha, ?_⟩
  rw [hany, houtcomes, List.any_map]
  rfl

theorem firstSettled_anySuffices (w : World σ A) (check : β → ExceptT ε (Inquiry Q A) α)
    (hlast : accepts last = false) :
    AnySuffices w check accepts last (firstSettled check accepts last) where
  result_eq := result_firstSettled
  unasked _ after _ h := runIn_firstSettled_append h after
  disjunction _ _ := disjunction_firstSettled hlast
  reordering found bs bs' s s' hsteady hmembers := by
    obtain ⟨a, ha, hany⟩ := disjunction_of_steady hlast hsteady s
    obtain ⟨a', ha', hany'⟩ := disjunction_of_steady hlast
      (fun b hb => hsteady b ((hmembers b).1 hb)) s'
    refine ⟨a, a', ha, ha', hany, ?_⟩
    rw [hany, hany', Bool.eq_iff_iff]
    simp only [List.any_eq_true, hmembers]
  errors b b' e a rest s he ha haccepts := by
    constructor
    · rw [runIn_firstSettled_of_settled (by rw [he s]; rfl), he s]
    · rw [runIn_firstSettled_of_settled (by rw [ha s]; exact haccepts), ha s]
  appending _ more _ h := runIn_firstSettled_append (any_settled_of_accepted hlast h) more

end Rule

/-! ## Servers -/

namespace Server

variable {L G : Type}

theorem firstAcceptance_eq_firstSettled (check : Authenticator L G → Verification L G Decision)
    (last : Decision) (authenticators : List (Authenticator L G)) :
    firstAcceptance check last authenticators =
      firstSettled check Decision.valid last authenticators := by
  induction authenticators generalizing last with
  | nil => rfl
  | cons a rest ih => simp only [firstAcceptance, firstSettled, ih]

theorem anyKnows_eq_firstSettled (check : Authenticator L G → Verification L G Bool)
    (authenticators : List (Authenticator L G)) :
    anyKnows check authenticators = firstSettled check id false authenticators := by
  induction authenticators with
  | nil => rfl
  | cons a rest ih =>
    refine congrArg (check a >>= ·) (funext fun known => ?_)
    cases known with
    | true => rfl
    | false => exact ih

/-- A report on a login that is on the outcome of one of a server's authenticators: the first that is
an acceptance or an error, or else the last one. -/
def Reports (server : Server L G) (w : World σ (Backend.Answer (L := L) (G := G))) (s : σ)
    (now : Int64) (name password : String) (report : Report Decision) : Prop :=
  let outcomes := outcomesIn w (fun a => a.authenticate now name server.app password)
    server.authenticators s
  ∃ outcome, (outcomes.find? (settled Decision.valid)).or outcomes.getLast? = some outcome ∧
    report = .ofOutcome .decided outcome

theorem reports_result {server : Server L G} (h : server.authenticators ≠ [])
    (w : World σ (Backend.Answer (L := L) (G := G))) (s : σ) (now : Int64) (name password : String) :
    server.Reports w s now name password
      (.ofOutcome .decided ((server.authenticate now name password).run.runIn w s).result) := by
  rw [authenticate, firstAcceptance_eq_firstSettled]
  exact ⟨_, find?_or_getLast?_outcomesIn h s, rfl⟩

/-- A login on a server with authenticators ends with the report of one of them, unless the chat
name is none. -/
theorem reports_authenticate {service : Service L G} {name : String} {server : Server L G}
    (hserver : service.servers.get? name = some server) (hne : server.authenticators ≠ [])
    (w : World σ (Backend.Answer (L := L) (G := G))) (s : σ) (now : Int64)
    (chat password : String) :
    let report := ((service.authenticate now chat name password).runIn w s).result
    (∃ cause, ChatName.decode chat = .error cause ∧
      report = .decided (Decision.bare .invalidData)) ∨
    ∃ identity, ChatName.decode chat = .ok identity ∧
      server.Reports w s now identity password report := by
  unfold Service.authenticate
  rw [hserver]
  cases hchat : ChatName.decode chat with
  | error cause => exact .inl ⟨cause, rfl, rfl⟩
  | ok identity =>
    refine .inr ⟨identity, rfl, ?_⟩
    simp only [Inquiry.bind_eq, Inquiry.pure_eq_done, Inquiry.runIn_bind, Inquiry.runIn]
    exact reports_result hne w s now identity password

/-- Any authenticator of a server suffices, to let a user in and to know one. A name that none of
them knows is that of no user. -/
theorem any_suffices (w : World σ (Backend.Answer (L := L) (G := G))) (app : String) (now : Int64)
    (name password : String) :
    AnySuffices w (fun a => a.authenticate now name app password) Decision.valid
      (Decision.bare .invalidData)
      (fun authenticators => (Server.mk app authenticators).authenticate now name password) ∧
    AnySuffices w (fun a => a.isUser name app) id false
      (fun authenticators => (Server.mk app authenticators).isUser name) ∧
    ∀ authenticators s,
      (((Server.mk app authenticators).isUser name).run.runIn w s).result =
        ((outcomesIn w (fun a => a.isUser name app) authenticators s).find?
          (settled id)).getD (.ok false) := by
  have hlogin : (fun authenticators => (Server.mk app authenticators).authenticate now name
      password) = firstSettled (fun a : Authenticator L G => a.authenticate now name app password)
        Decision.valid (Decision.bare .invalidData) :=
    funext fun authenticators => firstAcceptance_eq_firstSettled _ _ authenticators
  have huser : (fun authenticators => (Server.mk app authenticators).isUser name) =
      firstSettled (fun a : Authenticator L G => a.isUser name app) id false :=
    funext fun authenticators => anyKnows_eq_firstSettled _ authenticators
  rw [hlogin, huser]
  refine ⟨firstSettled_anySuffices w _ rfl, firstSettled_anySuffices w _ rfl, ?_⟩
  intro authenticators s
  rw [congrFun huser authenticators, result_firstSettled]
  cases hfind : (outcomesIn w (fun a : Authenticator L G => a.isUser name app) authenticators
      s).find? (settled id) with
  | some o => rfl
  | none =>
    have hlast : id false = false := rfl
    obtain ⟨known, hknown, hdenied⟩ := denial_of_find?_eq_none hlast hfind
    rw [Option.getD_none, hknown]
    exact congrArg Except.ok hdenied

/-- The first of two processors denies every login, the second accepts. -/
def secondAccepts : (q : Backend Empty Bool) → q.Answer
  | .ledger node _ => node.elim
  | .gsp node (.verifyAuth _ _ _) =>
    .ok ⟨upToDate, none, Decision.bare (if node then .valid else .invalidSignature)⟩
  | .gsp _ (.nameState _) => .ok ⟨upToDate, none, {}⟩

/-- The login is accepted in either order, and also if one of the two is asked twice. -/
theorem any_suffices_either_order :
    let w : World Unit (Backend.Answer (L := Empty) (G := Bool)) := fun q s => (secondAccepts q, s)
    let login (authenticators : List (Authenticator Empty Bool)) :=
      (((Server.mk "app" authenticators).authenticate 0 "domob" "pwd").run.runIn w ()).result
    ∃ d d', login [.gsp false, .gsp true] = .ok d ∧
      login [.gsp true, .gsp false, .gsp true] = .ok d' ∧ d.valid = true ∧ d'.valid = true := by
  intro w login
  let found (a : Authenticator Empty Bool) : Decision :=
    Decision.bare (if a = .gsp true then .valid else .invalidSignature)
  have hsteady : ∀ a ∈ [Authenticator.gsp false, .gsp true],
      Steady w (a.authenticate 0 "domob" "app" "pwd") (.ok (found a)) := by
    intro a ha s
    simp only [List.mem_cons, List.not_mem_nil, or_false] at ha
    rcases ha with rfl | rfl
    · rfl
    · rfl
  have hmembers : ∀ a : Authenticator Empty Bool,
      a ∈ [Authenticator.gsp true, .gsp false, .gsp true] ↔ a ∈ [.gsp false, .gsp true] := by
    intro a
    simp only [List.mem_cons, List.not_mem_nil, or_false]
    rw [or_left_comm, or_self]
  obtain ⟨d, d', hd, hd', hany, hsame⟩ := (any_suffices w "app" 0 "domob" "pwd").1.reordering
    found [.gsp false, .gsp true] [.gsp true, .gsp false, .gsp true] () () hsteady hmembers
  exact ⟨d, d', hd, hd', hany, hsame.trans hany⟩

end Server

end LedgerLogin
