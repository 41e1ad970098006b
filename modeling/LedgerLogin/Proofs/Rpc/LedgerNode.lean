import LedgerLogin.Proofs.Inquiry.Ensures
import LedgerLogin.Proofs.Json.PlainText
import LedgerLogin.Proofs.Ledger.Contracts
import LedgerLogin.Proofs.Resolver.FromHistory
import LedgerLogin.Proofs.Rpc.Hexadecimal
import LedgerLogin.Proofs.Rpc.Reply
import LedgerLogin.Proofs.StringMap.Entries
import LedgerLogin.Rpc.Node

/-!
# A ledger behind a node

A node serves a ledger if it tells the ledger's chain id and replies to calls of contracts with the
data that these return (`Ledger.IsReply`). Reading through such a node is reading from the ledger:
connecting finds the domain and the contracts, and logins are decided as the ledger decides them
(`LedgerNode.connect_refines`). A call that reverts may be replied to in any way, for none is made
on the way to a decision.
-/

namespace LedgerLogin

/-! ## Requests and replies of nodes -/

namespace Rpc

/-- The bytes that a text in JSON spells. -/
def spelledBytes? (j : Json) : Option Bytes := do
  Hex.pairs (← Hexadecimal.body? (← j.asString?))

/-- The contract that a request calls at the latest block, and the data of the call. -/
def calls? (request : Json) : Option (Address × Bytes) :=
  match request.member? "method", request.member? "params" with
  | some (.string "eth_call"), some (.array [call, .string "latest"]) => do
    let target ← fixed? 20 (← spelledBytes? (← call.member? "to"))
    return (⟨target⟩, ← spelledBytes? (← call.member? "data"))
  | _, _ => none

end Rpc

/-- A reply of success whose body is an object with a text as its result, and without an error. -/
def Http.Reply.Gives (result : String) : Http.Reply → Prop
  | .response status body => Http.isSuccess status = true ∧ ∃ json,
    Rpc.json? body = some json ∧ Rpc.error? json = none ∧
      json.member? "result" = some (.string result)
  | _ => False

/-- A reply of a node to a request, when behind the node is a ledger whose contract for names is at
an address. -/
structure Ledger.IsReply (l : Ledger) (names : Address) (request : Json) (reply : Http.Reply) :
    Prop where
  chainId : request.member? "method" = some (.string "eth_chainId") → ∃ digits, digits ≠ [] ∧
    Hexadecimal.number? digits = some l.domain.chainId.toNat ∧
    reply.Gives (Hexadecimal.spelled digits)
  call : ∀ target data returned, Rpc.calls? request = some (target, data) →
    l.call? names target data = some returned → ∃ digits, Hex.pairs digits = some returned ∧
    reply.Gives (Hexadecimal.spelled digits)

/-- Requests to an endpoint are replied to by a node behind which is a ledger. -/
def Ledger.ServedAt (l : Ledger) (names : Address) (endpoint : Http.Endpoint)
    (request : Http.Request) (reply : Http.Reply) : Prop :=
  request.endpoint = endpoint → l.IsReply names request.body reply

/-- A ledger has an answer to a question, and the question is short enough to be asked for. -/
def Ledger.Answers (l : Ledger) (r : LedgerRead) : Prop :=
  (∃ x, l.lookup r = .ok x) ∧ (Abi.encode r.arguments).length < 2 ^ 64

theorem Rpc.result_of_gives {reply : Http.Reply} {text : String} (h : reply.Gives text)
    (endpoint : Http.Endpoint) (method : String) :
    result endpoint method reply = .ok (.string text) := by
  have hreturns : reply.Returns (.string text) := by
    cases reply <;> exact h
  exact result_of_returns hreturns endpoint method

/-! ## A node that serves a ledger -/

theorem Hex.isPlain_of_digit? {c : Char} {n : Nat} (h : digit? c = some n) : Json.IsPlain c := by
  have hcode := code_of_digit? h
  refine ⟨by omega, ?_, ?_⟩
  · rintro rfl
    exact absurd hcode (by decide)
  · rintro rfl
    exact absurd hcode (by decide)

namespace Rpc

def resultBody (text : String) : String :=
  String.ofList ('\x7b' :: (Json.quoted "jsonrpc" ++ ':' :: (Json.quoted "2.0" ++ ',' ::
    (Json.quoted "id" ++ ':' :: '1' :: ',' :: (Json.quoted "result" ++ ':' ::
      (Json.quoted text ++ ['\x7d']))))))

theorem json?_resultBody {text : String} (h : ∀ c ∈ text.toList, Json.IsPlain c) :
    json? (utf8 (resultBody text)) = some (Json.ofMembers
      [("jsonrpc", .string "2.0"), ("id", .ofNat 1), ("result", .string text)]) := by
  have hone : ∀ rest, Json.next? ('1' :: ',' :: rest) =
      some (.number (some (.integer 1)), ',' :: rest) := fun rest => rfl
  have htokens : Json.tokens? (resultBody text).toList =
      some [.leftBrace, .string (some "jsonrpc"), .colon, .string (some "2.0"), .comma,
        .string (some "id"), .colon, .number (some (.integer 1)), .comma,
        .string (some "result"), .colon, .string (some text), .rightBrace] := by
    rw [resultBody, String.toList_ofList]
    refine Json.tokens?_cons rfl rfl ?_
    refine Json.tokens?_quoted (by simp [Json.IsPlain]) (Json.tokens?_cons rfl rfl ?_)
    refine Json.tokens?_quoted (by simp [Json.IsPlain]) (Json.tokens?_cons rfl rfl ?_)
    refine Json.tokens?_quoted (by simp [Json.IsPlain]) (Json.tokens?_cons rfl rfl ?_)
    refine Json.tokens?_cons rfl (hone _) (Json.tokens?_cons rfl rfl ?_)
    refine Json.tokens?_quoted (by simp [Json.IsPlain]) (Json.tokens?_cons rfl rfl ?_)
    refine Json.tokens?_quoted h (Json.tokens?_cons rfl rfl ?_)
    rw [Json.tokens?]
  rw [json?, ofUtf8?_eq_some.2 rfl]
  simp only [bind, Option.bind_some, Json.parse?, Json.Document.parse?, htokens]
  rfl

def resultReply (text : String) : Http.Reply := .response 200 (utf8 (resultBody text))

theorem gives_resultReply {digits : List Char} (h : ∀ c ∈ digits, ∃ n, Hex.digit? c = some n) :
    (resultReply (Hexadecimal.spelled digits)).Gives (Hexadecimal.spelled digits) := by
  have hplain : ∀ c ∈ (Hexadecimal.spelled digits).toList, Json.IsPlain c := by
    intro c hc
    rw [Hexadecimal.spelled, String.toList_ofList] at hc
    rcases List.mem_cons.1 hc with rfl | hc
    · decide
    rcases List.mem_cons.1 hc with rfl | hc
    · decide
    · exact (h c hc).elim fun _ => Hex.isPlain_of_digit?
  refine ⟨rfl, _, json?_resultBody hplain, ?_, ?_⟩
  · rw [error?, Json.member?_ofMembers]
    rfl
  · rw [Json.member?_ofMembers]
    rfl

end Rpc

/-- A node behind which is a ledger, as it replies to the two methods that are called. -/
def Ledger.serve (l : Ledger) (names : Address) (request : Http.Request) : Http.Reply :=
  match Rpc.calls? request.body with
  | some (target, data) =>
    match l.call? names target data with
    | some returned => Rpc.resultReply (Hexadecimal.spelled (Hex.digits returned))
    | none => .response 500 []
  | none => Rpc.resultReply (Hexadecimal.spelled (Nat.toDigits 16 l.domain.chainId.toNat))

theorem Ledger.servedAt_serve (l : Ledger) (names : Address) (endpoint : Http.Endpoint)
    (request : Http.Request) : l.ServedAt names endpoint request (l.serve names request) := by
  refine fun _ => ⟨fun hmethod => ?_, fun target data returned hcalls hcall => ?_⟩
  -- A request for the chain id is no call.
  · have hcalls : Rpc.calls? request.body = none := by
      rw [Rpc.calls?, hmethod]
      rfl
    have hnumber := Hexadecimal.number?_toDigits l.domain.chainId.toNat
    refine ⟨_, List.ne_nil_of_length_pos Nat.length_toDigits_pos, hnumber, ?_⟩
    rw [serve, hcalls]
    exact Rpc.gives_resultReply (Hexadecimal.digits_of_number? hnumber)
  · have hpairs := Hex.pairs_digits returned
    refine ⟨_, hpairs, ?_⟩
    simp only [serve, hcalls, hcall]
    exact Rpc.gives_resultReply (Hex.digits_of_pairs hpairs).2

/-! ## What requests and replies come to -/

namespace LedgerNode

theorem spelledBytes?_lower (a : Address) :
    Rpc.spelledBytes? (.string a.lower) = some a.bytes.toList := by
  have hbody : Hexadecimal.body? a.lower = some a.digits := Hexadecimal.body?_spelled a.digits
  simp only [Rpc.spelledBytes?, Json.asString?, bind, Option.bind_some, hbody]
  exact Hex.pairs_digits a.bytes.toList

theorem spelledBytes?_encode (data : Bytes) :
    Rpc.spelledBytes? (.string ("0x" ++ Hex.encode data)) = some data := by
  have htext : "0x" ++ Hex.encode data = Hexadecimal.spelled (Hex.digits data) := by
    apply String.toList_inj.1
    simp only [String.toList_append, Hex.encode, Hexadecimal.spelled, String.toList_ofList]
    rfl
  simp only [Rpc.spelledBytes?, Json.asString?, bind, Option.bind_some, htext,
    Hexadecimal.body?_spelled]
  exact Hex.pairs_digits data

theorem calls?_request (endpoint : Http.Endpoint) (target : Address) (data : Bytes) :
    Rpc.calls? (Rpc.request endpoint "eth_call" (callParams target data)).body =
      some (target, data) := by
  have hto : (Json.ofMembers [("to", .string target.lower),
      ("data", .string ("0x" ++ Hex.encode data))]).member? "to" = some (.string target.lower) := by
    rw [Json.member?_ofMembers]
    rfl
  have hdata : (Json.ofMembers [("to", .string target.lower),
      ("data", .string ("0x" ++ Hex.encode data))]).member? "data" =
        some (.string ("0x" ++ Hex.encode data)) := by
    rw [Json.member?_ofMembers]
    rfl
  rw [Rpc.calls?, Rpc.member?_method, Rpc.member?_params]
  simp only [callParams, hto, hdata, bind, Option.bind_some, spelledBytes?_lower,
    spelledBytes?_encode, fixed?_toList]
  rfl

section
variable {l : Ledger} {names : Address} {endpoint : Http.Endpoint}

theorem chainId?_ensures : (chainId? endpoint).run.Ensures (l.ServedAt names endpoint)
    fun outcome => outcome = .ok l.domain.chainId := by
  intro reply hreply
  obtain ⟨digits, hne, hnumber, hgives⟩ :=
    (hreply rfl).chainId (Rpc.member?_method endpoint "eth_chainId" (.array []))
  show (Rpc.result endpoint "eth_chainId" reply).bind (Hexadecimal.quantity "eth_chainId") = _
  calc (Rpc.result endpoint "eth_chainId" reply).bind (Hexadecimal.quantity "eth_chainId")
      = Hexadecimal.quantity "eth_chainId" (.string (Hexadecimal.spelled digits)) := by
        rw [Rpc.result_of_gives hgives]
        rfl
    _ = .ok l.domain.chainId := Hexadecimal.quantity_spelled _ hne hnumber

/-- A call gives what is read in the data that the contract returns. -/
theorem view_ensures {α : Type} {target : Address} {signature : String} {args : List Abi.Argument}
    {decode : String → Bytes → Except TransportError α} {returned : Bytes}
    (hcall : l.call? names target (Abi.encodeCall signature args) = some returned) :
    (view endpoint target signature args decode).run.Ensures (l.ServedAt names endpoint)
      fun outcome => outcome = decode signature returned := by
  intro reply hreply
  obtain ⟨digits, hdigits, hgives⟩ :=
    (hreply rfl).call _ _ _ (calls?_request endpoint target (Abi.encodeCall signature args)) hcall
  show viewResult signature decode (Rpc.result endpoint "eth_call" reply) = _
  calc viewResult signature decode (Rpc.result endpoint "eth_call" reply)
      = (Hexadecimal.bytes signature (.string (Hexadecimal.spelled digits))).bind
          (decode signature) := by
        rw [Rpc.result_of_gives hgives]
        rfl
    _ = decode signature returned := by
        rw [Hexadecimal.bytes_spelled signature hdigits]
        rfl

/-- The node that is found when a ledger is connected to. -/
def behind (l : Ledger) (names : Address) (endpoint : Http.Endpoint) : LedgerNode :=
  { endpoint, chainId := l.domain.chainId, delegation := l.domain.contract, accounts := names }

theorem connect_ensures : (connect endpoint l.domain.contract).run.Ensures
    (l.ServedAt names endpoint) fun outcome => outcome = .ok (behind l names endpoint) := by
  unfold connect
  refine .bind_ok chainId?_ensures ?_
  have haccounts : (view endpoint l.domain.contract "accounts()" [] Abi.decodeAddress).run.Ensures
      (l.ServedAt names endpoint) fun outcome => outcome = .ok names := by
    have hnames : Abi.decodeAddress "accounts()" (Commitment.addressWord names) = .ok names :=
      Abi.decodeAddress_eq_ok.2 ⟨[], (List.append_nil _).symm⟩
    rw [← hnames]
    exact view_ensures (l.call?_accounts names)
  exact .bind_ok haccounts rfl

/-- Whatever state the node is in when it replies, the ledger behind it is found. -/
theorem connect_of_served {σ : Type} {w : World σ fun _ : Http.Request => Http.Reply}
    (hw : ∀ request s, l.ServedAt names endpoint request (w request s).1) (s : σ) :
    ((connect endpoint l.domain.contract).run.runIn w s).result =
      .ok (behind l names endpoint) := by
  refine connect_ensures.runIn fun y hy => ?_
  obtain ⟨t, ht⟩ := Inquiry.exists_state_of_mem_answers hy
  rw [ht]
  exact hw y.1 t

theorem read_eq_view (n : LedgerNode) (r : LedgerRead) :
    n.read r = view n.endpoint (r.function.contract n.delegation n.accounts) r.function.signature
      r.arguments r.decoder := by
  cases r <;> rfl

/-- A read through the node is a read from the ledger, if the ledger has an answer. -/
theorem read_ensures (hl : l.failure = none) {r : LedgerRead} (hr : l.Answers r) :
    ((behind l names endpoint).read r).run.Ensures (l.ServedAt names endpoint)
      fun outcome => outcome = l.answer r := by
  obtain ⟨⟨x, hx⟩, hsize⟩ := hr
  rw [Ledger.answer_of_working hl, hx, ← r.decoder_returned r.function.signature x, read_eq_view]
  exact view_ensures (l.call?_of_lookup hx hsize names)

end

end LedgerNode

/-! ## What is read on the way to a decision -/

namespace Resolver

/-- Everything that is asked about a login with a name is short enough to be asked for. -/
def Askable (name app : String) : Prop :=
  ∀ operator time, (Abi.encode (LedgerRead.hasAccess playerNamespace name (accessPath app) operator
    time).arguments).length < 2 ^ 64

variable {l : Ledger} {name app : String} {now : Int64}

theorem ask_asks {r : LedgerRead} (hr : l.Answers r) : r.ask.run.Asks l.answer l.Answers :=
  ⟨hr, trivial⟩

theorem answers_tokenOf (h : Askable name app) : l.Answers (.tokenOf playerNamespace name) := by
  -- The arguments are the first two of the question for access.
  have hsize := h Address.zero 0
  have hsplit : (LedgerRead.hasAccess playerNamespace name (accessPath app) Address.zero
      0).arguments = (LedgerRead.tokenOf playerNamespace name).arguments ++
        [.texts (accessPath app), .address Address.zero, .uint 0] := rfl
  rw [hsplit, Abi.length_encode_append] at hsize
  exact ⟨⟨_, rfl⟩, by omega⟩

theorem answers_of_words {r : LedgerRead} {x : r.Result} (hx : l.lookup r = .ok x)
    (hwords : Abi.tails (r.arguments.map Abi.Argument.part) = []) : l.Answers r := by
  have hcount : r.arguments.length ≤ 5 := by
    cases r <;> simp [LedgerRead.arguments]
  refine ⟨⟨x, hx⟩, ?_⟩
  rw [Abi.length_encode, hwords, List.length_nil]
  omega

/-- The owner is asked for only where there is one. -/
theorem isAuthorized_asks {c : Credentials} {token : Token} {a : Account} (h : Askable c.name c.app)
    (ha : l.accounts token = some a) (signer : Address) :
    (isAuthorized c token signer now).run.Asks l.answer l.Answers := by
  have howner : l.lookup (.owner token) = .ok a.owner := by
    simp only [Ledger.lookup, ha]
  unfold isAuthorized
  refine .bind_exceptT (ask_asks ⟨⟨_, rfl⟩, h signer (contractTime now)⟩) fun access _ => ?_
  split
  · trivial
  refine .bind_exceptT (ask_asks (answers_of_words rfl rfl)) fun approved _ => ?_
  split
  · trivial
  refine .bind_exceptT (ask_asks (answers_of_words howner rfl)) fun owner _ => ?_
  exact ask_asks (answers_of_words rfl rfl)

theorem resolve_asks (hl : l.failure = none) {c : Credentials} (h : Askable c.name c.app)
    (domain : SigningDomain) : (resolve domain c now).run.Asks l.answer l.Answers := by
  unfold resolve
  split
  · trivial
  split
  · trivial
  refine .bind_exceptT (ask_asks (answers_tokenOf h)) fun token _ => ?_
  refine .bind_exceptT (ask_asks (answers_of_words rfl rfl)) fun found hfound => ?_
  split
  · trivial
  rename_i hregistered
  have hanswer : l.answer (.tokenExists token) = .ok (l.accounts token).isSome :=
    Ledger.answer_of_working hl _
  have hsome : (l.accounts token).isSome = found := Except.ok.inj (hanswer.symm.trans hfound)
  rw [← hsome] at hregistered
  -- From here on there is an owner to be asked for.
  obtain ⟨a, ha⟩ := Option.ne_none_iff_exists'.1 (by simpa using hregistered)
  split
  · trivial
  · refine .bind_exceptT (isAuthorized_asks h ha _) fun authorized _ => ?_
    split
    · trivial
    · trivial

theorem verifyPassword_asks (hl : l.failure = none) (h : Askable name app) (domain : SigningDomain)
    (password : String) :
    (verifyPassword domain name app password now).run.Asks l.answer l.Answers := by
  unfold verifyPassword
  split
  · rename_i c hc
    obtain ⟨data, -, rfl⟩ := Credentials.ofPassword_eq_ok.1 hc
    have hresolve : (resolve domain ⟨name, app, data⟩ now).run.Asks l.answer l.Answers :=
      resolve_asks (c := ⟨name, app, data⟩) hl h domain
    exact .bind_exceptT hresolve fun state _ => trivial
  · trivial

end Resolver

/-- Through a node that serves a ledger that works, connecting finds the domain that signatures for
the ledger are bound to, and every login is decided and every name looked up as on the ledger
itself. -/
theorem LedgerNode.connect_refines {σ : Type} {l : Ledger} (hl : l.failure = none)
    {names : Address} {endpoint : Http.Endpoint} {w : World σ fun _ : Http.Request => Http.Reply}
    (hw : ∀ request s, l.ServedAt names endpoint request (w request s).1) (s : σ) :
    ∃ node : LedgerNode,
      ((connect endpoint l.domain.contract).run.runIn w s).result = .ok node ∧
      l.signingDomain = .ok node.domain ∧
      (∀ domain name app password now, Resolver.Askable name app → ∀ s,
        (((Resolver.verifyPassword domain name app password now).run.via fun r =>
          (node.read r).run).runIn w s).result =
        (Resolver.verifyPassword domain name app password now).run.run l.answer) ∧
      (∀ name, (Abi.encode (LedgerRead.nameExists playerNamespace name).arguments).length < 2 ^ 64 →
        ∀ s, (((Resolver.isRegistered name).run.via fun r => (node.read r).run).runIn w s).result =
          (Resolver.isRegistered name).run.run l.answer) := by
  -- Whatever state the node was in when it replied, the reply can be relied on.
  have hreplies : ∀ {α : Type} (x : Inquiry Http.Request (fun _ => Http.Reply) α) (s : σ),
      ∀ y ∈ (x.runIn w s).answers, l.ServedAt names endpoint y.1 y.2 := by
    intro α x s y hy
    obtain ⟨t, ht⟩ := Inquiry.exists_state_of_mem_answers hy
    rw [ht]
    exact hw y.1 t
  have hvia : ∀ {α : Type} {x : LedgerInquiry α}, x.run.Asks l.answer l.Answers → ∀ s,
      ((x.run.via fun r => ((behind l names endpoint).read r).run).runIn w s).result =
        x.run.run l.answer := by
    intro α x hx s
    exact (hx.ensures_via fun r hr => read_ensures hl hr).runIn (hreplies _ s)
  refine ⟨behind l names endpoint, connect_ensures.runIn (hreplies _ s), ?_, ?_, ?_⟩
  · rw [Ledger.signingDomain, hl]
    rfl
  · intro domain name app password now h s
    exact hvia (Resolver.verifyPassword_asks hl h domain password) s
  · intro name h s
    exact hvia (Resolver.ask_asks ⟨⟨_, rfl⟩, h⟩) s

/-- A name that is registered is found through a node that serves the ledger. -/
theorem LedgerNode.connect_refines_registered :
    let l := Ledger.replay { domain := ⟨137, ⟨Vector.replicate 20 0xAA⟩⟩ }
      [.register "domob" ⟨Vector.replicate 20 0xBB⟩]
    let names : Address := ⟨Vector.replicate 20 0xCC⟩
    let w : World Unit fun _ : Http.Request => Http.Reply := fun request s =>
      (l.serve names request, s)
    l.failure = none ∧ (∀ request s, l.ServedAt names ⟨"node", 30⟩ request (w request s).1) ∧
    Resolver.Askable "domob" "app" ∧
    ∃ node : LedgerNode,
      ((connect ⟨"node", 30⟩ l.domain.contract).run.runIn w ()).result = .ok node ∧
      l.signingDomain = .ok node.domain ∧
      (∀ password now, (((Resolver.verifyPassword node.domain "domob" "app" password now).run.via
          fun r => (node.read r).run).runIn w ()).result =
        (Resolver.verifyPassword node.domain "domob" "app" password now).run.run l.answer) ∧
      (((Resolver.isRegistered "domob").run.via fun r => (node.read r).run).runIn w ()).result =
        .ok true := by
  intro l names w
  have hserved : ∀ request s, l.ServedAt names ⟨"node", 30⟩ request (w request s).1 :=
    fun request _ => l.servedAt_serve names ⟨"node", 30⟩ request
  have haskable : Resolver.Askable "domob" "app" := by
    intro operator time
    have hsplit : (LedgerRead.hasAccess playerNamespace "domob" (accessPath "app") operator
        time).arguments = [.text playerNamespace, .text "domob", .texts (accessPath "app")] ++
          [.address operator, .uint time] := rfl
    have htexts : (Abi.encode [.text playerNamespace, .text "domob",
        .texts (accessPath "app")]).length = 640 := by
      decide +kernel
    have hwords : (Abi.encode [.address operator, .uint time]).length = 64 :=
      Abi.length_encode _
    rw [hsplit, Abi.length_encode_append, htexts, hwords]
    decide
  obtain ⟨node, hconnect, hdomain, hverify, hregistered⟩ :=
    LedgerNode.connect_refines (l := l) rfl hserved ()
  refine ⟨rfl, hserved, haskable, node, hconnect, hdomain, ?_, ?_⟩
  · intro password now
    exact hverify _ _ _ _ _ haskable ()
  · rw [hregistered "domob" (by decide +kernel)]
    show Except.ok (l.accounts (Ledger.playerToken "domob")).isSome = _
    simp [l, Ledger.replay, Ledger.apply, Ledger.setAccount]

end LedgerLogin
