import LedgerLogin.Proofs.Bridge.Login
import LedgerLogin.Proofs.ChatName.RoundTrip
import LedgerLogin.Proofs.Hash.Evaluation
import LedgerLogin.Proofs.Ledger.Authority
import LedgerLogin.Proofs.Resolver.FromHistory
import LedgerLogin.Proofs.Service.Acceptance
import LedgerLogin.Proofs.Signature.Nonce
import LedgerLogin.Proofs.SignedPassword.Signer

/-!
# Signed logins are accepted

What a client builds is what the service understands. `SignedPassword.login_accepted` follows a
login from the key that signs it to the bytes that a bridge answers: whoever may log in with a name
is let in, and the decision carries the expiry and the extra data that were signed.

Two things are left to chance. The generator of nonces has to draw a number that gives a signature,
or signing does not end; and the first coordinate of the nonce's point has to be below the order of
the group, or signing writes a recovery id that recovery does not take. The chance that it is not
is about `2 ^ -128`.
-/

namespace LedgerLogin

open Secp256k1 (Point n)

namespace SignedPassword

variable {key : SecretKey} {domain : SigningDomain} {name app : String} {expiry : Option Int64}
  {extra : List (String × String)}

section
variable {signature : Bytes} {signer : Address} {l : Ledger} {now : Int64}

/-- A ledger that lets the signer log in finds the data valid. -/
theorem verdict_data
    (hsigner : Signature.recover (digest domain name app expiry extra) signature = .ok signer)
    (hname : (l.accounts (Ledger.playerToken name)).isSome)
    (hauth : l.Authorizes name app now signer) (hnow : ∀ e, expiry = some e → now ≤ e) :
    l.verdict domain ⟨name, app, data expiry extra signature⟩ now = .valid :=
  Ledger.verdict_eq_valid.2 ⟨rfl, Credentials.isExpiredAt_eq_false.2 hnow, hname, signer,
    signer_data.trans hsigner, hauth⟩

def acceptance (expiry : Option Int64) (extra : List (String × String)) : Decision where
  valid := true
  state := .valid
  expiry := expiry
  extra := StringMap.ofList extra

theorem authenticate_data {L G : Type} {node : L} {answer : (q : Backend L G) → q.Answer}
    {password : String}
    (hpassword : LoginData.ofPassword password = .ok (data expiry extra signature))
    (hsigner : Signature.recover (digest domain name app expiry extra) signature = .ok signer)
    (hnode : ∀ r, answer (.ledger node r) = l.answer r) (hl : l.failure = none)
    (hname : (l.accounts (Ledger.playerToken name)).isSome)
    (hauth : l.Authorizes name app now signer) (hnow : ∀ e, expiry = some e → now ≤ e) :
    ((Authenticator.delegation domain node : Authenticator L G).authenticate now name app
      password).run.run answer = .ok (acceptance expiry extra) := by
  have hanswer : (fun r => answer (.ledger node r)) = l.answer := funext hnode
  have hcred := Credentials.ofPassword_of_data hpassword name app
  rw [Authenticator.authenticate, Verification.run_ofLedger, hanswer,
    Resolver.run_verifyPassword hl, hcred]
  simp only [verdict_data hsigner hname hauth hnow]
  rfl

end

/-! ## From the key to the bridge -/

theorem length_fields_lt {d : LoginData} {bound : Nat}
    (h : (Base64.encode d.fields.flatten).length < bound) : d.fields.flatten.length < bound := by
  have hle := Base64.length_le_digits d.fields.flatten
  rw [Base64.encode, String.length_ofList] at h
  omega

theorem ascii_authLine {server : String} {bs : Bytes} (hserver : ∀ c ∈ server.toList, IsFieldChar c)
    {c : Char}
    (hc : c ∈ (Bridge.authLine (ChatName.encode name) server (Base64.encode bs)).toList) :
    c.toNat < 128 := by
  refine Bridge.authLine_ascii (fun d hd => ?_) (fun d hd => (hserver d hd).1) (fun d hd => ?_) c hc
  · exact (ChatName.isFieldChar_of_mem_encode hd).1
  · rw [Base64.encode, String.toList_ofList] at hd
    exact (Base64.isFieldChar_of_mem_digits hd).1

/-- Someone is to be let in to a server: it has the application, and after authenticators that deny
the login it has one for the domain, whose ledger works, has the name and authorizes them. -/
def Welcomes {L G : Type} (s : Service L G) (answer : (q : Backend L G) → q.Answer) (now : Int64)
    (server : String) (domain : SigningDomain) (name app password : String) (signer : Address) :
    Prop :=
  ∃ before after node, ∃ l : Ledger,
    s.servers.get? server = some ⟨app, before ++ .delegation domain node :: after⟩ ∧
    (∀ a ∈ before, Denies answer now name app password a) ∧
    (∀ r, answer (.ledger node r) = l.answer r) ∧ l.failure = none ∧
    (l.accounts (Ledger.playerToken name)).isSome ∧ l.Authorizes name app now signer

section
variable {L G : Type} {s : Service L G} {answer : (q : Backend L G) → q.Answer} {now : Int64}
  {server password : String} {signature : Bytes} {signer : Address}

/-- The service accepts a password whose signature is that of someone who is to be let in. -/
theorem authenticate_of_welcomes
    (hp : Base64.encode (data expiry extra signature).fields.flatten = password)
    (hsigner : Signature.recover (digest domain name app expiry extra) signature = .ok signer)
    (hs : Welcomes s answer now server domain name app password signer)
    (hnow : ∀ e, expiry = some e → now ≤ e) (hexpiry : ∀ e, expiry = some e → 0 ≤ e.toInt)
    (hlen : password.length < 2 ^ 64) :
    (s.authenticate now (ChatName.encode name) server password).run answer =
      .decided (acceptance expiry extra) := by
  obtain ⟨before, after, node, l, hserver, hbefore, hnode, hl, hname, hauth⟩ := hs
  have hread : LoginData.ofPassword password = .ok (data expiry extra signature) := by
    rw [← hp] at hlen ⊢
    exact LoginData.ofPassword_encode hexpiry (length_fields_lt hlen)
  have haccepts : ((Authenticator.delegation domain node : Authenticator L G).authenticate
      now name app password).run.run answer = .ok (acceptance expiry extra) :=
    authenticate_data hread hsigner hnode hl hname hauth hnow
  exact Service.authenticate_of_accepted hserver (ChatName.decode_encode name)
    (Server.authenticate_of_accepting rfl hbefore haccepts rfl)

theorem length_lt_of_frame {line : String} (hline : ∀ c ∈ line.toList, c.toNat < 128)
    (heq : line = Bridge.authLine (ChatName.encode name) server password)
    (hframe : (utf8 line).length ≤ 32767) : password.length < 2 ^ 64 := by
  rw [utf8_of_ascii hline, List.length_map, heq, Bridge.toList_authLine] at hframe
  simp only [List.length_append, List.length_cons, String.length_toList] at hframe
  omega

theorem run_of_authenticate {bs : Bytes} (hp : Base64.encode bs = password)
    (hascii : ∀ c ∈ server.toList, IsFieldChar c)
    (hframe : (utf8 (Bridge.authLine (ChatName.encode name) server password)).length ≤ 32767)
    (haccept : password.length < 2 ^ 64 →
      (s.authenticate now (ChatName.encode name) server password).run answer =
        .decided (acceptance expiry extra)) :
    (Bridge.run s now (Bridge.frame (utf8
      (Bridge.authLine (ChatName.encode name) server password)))).run answer =
        { output := [0, 2, 0, 1], events := [.decision .valid] } := by
  have hline : ∀ c ∈ (Bridge.authLine (ChatName.encode name) server password).toList,
      c.toNat < 128 := by
    intro c hc
    rw [← hp] at hc
    exact ascii_authLine hascii hc
  have hcolon : ∀ {text : String}, (∀ c ∈ text.toList, IsFieldChar c) → ':' ∉ text.toList := by
    intro text h hc
    exact (h _ hc).2 rfl
  have hchat : ':' ∉ (ChatName.encode name).toList :=
    hcolon fun c hc => ChatName.isFieldChar_of_mem_encode hc
  exact Bridge.run_of_decided
    (by rw [Bridge.lines_frame hframe, Bridge.lineOf_utf8 hline])
    (Bridge.parse_authLine hchat (hcolon hascii))
    (haccept (length_lt_of_frame hline rfl hframe))

theorem login_of_recover (hexpiry : ∀ e, expiry = some e → 0 ≤ e.toInt)
    (hp : Base64.encode (data expiry extra signature).fields.flatten = password)
    (hsigner : Signature.recover (digest domain name app expiry extra) signature = .ok signer)
    (hnow : ∀ e, expiry = some e → now ≤ e) (hascii : ∀ c ∈ server.toList, IsFieldChar c)
    (hs : Welcomes s answer now server domain name app password signer) :
    (password.length < 2 ^ 64 →
      ∃ d, (s.authenticate now (ChatName.encode name) server password).run answer = .decided d ∧
        d.valid = true ∧ d.state = .valid ∧ d.expiry = expiry ∧
        ∀ k, d.extra.get? k = extra.reverse.lookup k) ∧
    ((utf8 (Bridge.authLine (ChatName.encode name) server password)).length ≤ 32767 →
      (Bridge.run s now (Bridge.frame (utf8
        (Bridge.authLine (ChatName.encode name) server password)))).run answer =
          { output := [0, 2, 0, 1], events := [.decision .valid] }) := by
  have haccept := authenticate_of_welcomes hp hsigner hs hnow hexpiry
  refine ⟨?_, ?_⟩
  · intro hlen
    exact ⟨acceptance expiry extra, haccept hlen, rfl, rfl, rfl,
      StringMap.get?_ofList extra⟩
  · intro hframe
    exact run_of_authenticate hp hascii hframe haccept

end

/-- From the key to the bridge. Signing ends unless the generator never draws a nonce. A negative
expiry makes no password. Any other makes one, and if the first coordinate of the nonce's point is
below the order of the group, it is accepted wherever the key's address is to be let in, until it
expires: the service decides that the login is valid, with the expiry and with the last of the
values that each key of the extra data was given; and a bridge that reads the login in a frame
answers that it is accepted. -/
theorem login_accepted (key : SecretKey) (domain : SigningDomain) (name app : String)
    (expiry : Option Int64) (extra : List (String × String)) :
    ((∀ nonce, ¬ key.IsNonce (digest domain name app expiry extra) nonce) ∧
      build? key domain name app expiry extra = none) ∨
    ∃ nonce x y, key.IsNonce (digest domain name app expiry extra) nonce ∧
      Point.smul nonce Point.base = .affine x y ∧
      (∀ e, expiry = some e → e.toInt < 0 →
        build? key domain name app expiry extra = some (.error (.negativeExpiry e))) ∧
      ((∀ e, expiry = some e → 0 ≤ e.toInt) →
        ∃ password, build? key domain name app expiry extra = some (.ok password) ∧
          (x < n → ∀ {L G : Type} (s : Service L G) (answer : (q : Backend L G) → q.Answer)
            (now : Int64) (server : String), (∀ e, expiry = some e → now ≤ e) →
            (∀ c ∈ server.toList, IsFieldChar c) →
            Welcomes s answer now server domain name app password key.address →
            (password.length < 2 ^ 64 →
              ∃ d, (s.authenticate now (ChatName.encode name) server password).run answer =
                  .decided d ∧
                d.valid = true ∧ d.state = .valid ∧ d.expiry = expiry ∧
                ∀ k, d.extra.get? k = extra.reverse.lookup k) ∧
            ((utf8 (Bridge.authLine (ChatName.encode name) server password)).length ≤ 32767 →
              (Bridge.run s now (Bridge.frame (utf8
                (Bridge.authLine (ChatName.encode name) server password)))).run answer =
                  { output := [0, 2, 0, 1], events := [.decision .valid] }))) := by
  rw [build?_eq_toPassword]
  cases hsign : key.sign? (digest domain name app expiry extra) with
  | none => exact .inl ⟨SecretKey.sign?_eq_none_iff.1 hsign, rfl⟩
  | some signature =>
    obtain ⟨nonce, hnonce, hattempt⟩ := SecretKey.sign?_eq_some_iff.1 hsign
    obtain ⟨-, hsignature⟩ := SecretKey.attempt?_eq_some.1 hattempt
    obtain ⟨x, y, hpoint⟩ := SecretKey.exists_point hsignature
    refine .inr ⟨nonce, x, y, hnonce, hpoint, ?_, ?_⟩
    · intro e he hneg
      exact congrArg some (LoginData.toPassword_of_neg he hneg)
    · intro hexpiry
      refine ⟨_, congrArg some (LoginData.toPassword_of_nonneg hexpiry), ?_⟩
      intro hx L G s answer now server hnow hascii hs
      have hsigner := SecretKey.recover_signWith? hpoint hsignature hx
      exact login_of_recover hexpiry rfl hsigner hnow hascii hs

/-! ## The login of an owner

One login, from the hashes that are signed to the bytes of the answer. The owner's key is the number
one. The chain of its signature is evaluated step by step. -/

def ownerKey : SecretKey := ⟨1, by decide, by decide⟩

def ownerDomain : SigningDomain := ⟨137, Address.zero⟩

def ownerDigest : Word := digest ownerDomain "domob" "app" (some 7) [("k", "v"), ("k", "w")]

def ownerNumber : Nat := 0x77f869b9ab5a90742ae5abc39b1f04aaa0a56034fe3c2fbf30e31a2b8d98d728

theorem signedNumber_ownerDigest : SecretKey.signedNumber ownerDigest = ownerNumber := by
  rw [SecretKey.signedNumber, ownerDigest, digest, Commitment.digest, natOfWord,
    Keccak.toList_keccak256]
  simp only [Commitment.preimage, Commitment.ofCredentials, Commitment.headerPreimage,
    Commitment.bodyPreimage, Commitment.extraPreimage, Commitment.entryPreimage,
    Commitment.hashText, Keccak.toList_keccak256]
  decide +kernel

def ownerNonces : SecretKey.Nonces where
  key := bigEndian 32 0xdb33ccca77f02cffa6d1d544a29a99e5b1bab8cf66b7c7be7f138cc48bb081b4
  value := bigEndian 32 0x309487b65979fc713f16845f14f133973dada6ede3f06fd73289ef2c65184705

theorem nonces_ownerKey : ownerKey.nonces ownerNumber = ownerNonces := by decide +kernel

/-- The first number that is drawn. -/
def ownerNonce : Nat := 0x9f43fa8bb19c55a7223971d295619e5648ea2273a7892707691bc81b92bd4b20

theorem number_ownerNonces : ownerNonces.number = ownerNonce := by decide +kernel

theorem smul_ownerNonce : Point.smul ownerNonce Point.base =
    .affine 0x6278917225198bfcbd65a06aa4b5f27dba3de49acd8efd57d8c6c79e43d15792
      0xc17cba598576f898d05e5aee298f6fae85f2408a8f9d2b2d4c5e7fd118217294 := by
  decide +kernel

def ownerSignature : Bytes :=
  bigEndian 32 0x6278917225198bfcbd65a06aa4b5f27dba3de49acd8efd57d8c6c79e43d15792 ++
    bigEndian 32 0x10f16e0dbc959a304ae33ae48ddca4cf8a4898de2af5d96c13c2d13b01095a9 ++ [27]

theorem attempt?_ownerNonce :
    ownerKey.attempt? (SecretKey.signedNumber ownerDigest) ownerNonce = some ownerSignature := by
  rw [signedNumber_ownerDigest, SecretKey.attempt?_eq_some, SecretKey.signWith?, smul_ownerNonce]
  decide +kernel

theorem isNonce_ownerNonce : ownerKey.IsNonce ownerDigest ownerNonce := by
  refine ⟨0, ?_, ?_, by simp⟩
  · rw [signedNumber_ownerDigest, nonces_ownerKey]
    exact number_ownerNonces
  · rw [attempt?_ownerNonce]
    rfl

def ownerPassword : String :=
  "CkFieJFyJRmL/L1loGqktfJ9uj3kms2O/VfYxseeQ9FXkgEPFuDbyVmjBK4zrkjd" ++
    "ykz4pImN4q9dlsE8LROwEJWpGxAHGgYKAWsSAXcgAg=="

theorem build?_ownerKey :
    build? ownerKey ownerDomain "domob" "app" (some 7) [("k", "v"), ("k", "w")] =
      some (.ok ownerPassword) := by
  have hsign : ownerKey.sign? ownerDigest = some ownerSignature :=
    SecretKey.sign?_eq_some_iff.2 ⟨ownerNonce, isNonce_ownerNonce, attempt?_ownerNonce⟩
  have hpassword : (data (some 7) [("k", "v"), ("k", "w")] ownerSignature).toPassword =
      .ok ownerPassword := by
    decide +kernel
  rw [build?_eq_toPassword, ← ownerDigest, hsign, Option.map_some, hpassword]

/-- The owner of a name is let in by the one authenticator of a server. -/
theorem login_accepted_owner :
    let l : Ledger := ({ domain := ownerDomain } : Ledger).replay
      [.register "domob" ownerKey.address]
    let service : Service Unit Unit :=
      ({} : Service Unit Unit).insert "chat" ⟨"app", [.delegation ownerDomain ()]⟩
    let answer : (q : Backend Unit Unit) → q.Answer := fun
      | .ledger _ r => l.answer r
      | .gsp _ _ => .error .noRuntime
    build? ownerKey ownerDomain "domob" "app" (some 7) [("k", "v"), ("k", "w")] =
      some (.ok ownerPassword) ∧
    (∃ d, (service.authenticate 7 (ChatName.encode "domob") "chat" ownerPassword).run answer =
        .decided d ∧
      d.valid = true ∧ d.expiry = some 7 ∧ d.extra.get? "k" = some "w") ∧
    (Bridge.run service 7 (Bridge.frame (utf8
      (Bridge.authLine (ChatName.encode "domob") "chat" ownerPassword)))).run answer =
        { output := [0, 2, 0, 1], events := [.decision .valid] } := by
  intro l service answer
  have hname : l.accounts (Ledger.playerToken "domob") = some { owner := ownerKey.address } :=
    if_pos rfl
  have hwelcome : Welcomes service answer 7 "chat" ownerDomain "domob" "app" ownerPassword
      ownerKey.address := by
    refine ⟨[], [], (), l, rfl, by simp, fun _ => rfl, rfl, ?_, .inl ⟨_, hname, .inl rfl⟩⟩
    rw [hname]
    rfl
  have hnow : ∀ e : Int64, some 7 = some e → 7 ≤ e := by
    intro e he
    cases he
    decide
  have hexpiry : ∀ e : Int64, some 7 = some e → 0 ≤ e.toInt := by
    intro e he
    cases he
    decide
  have hserver : ∀ c ∈ "chat".toList, IsFieldChar c := by simp [IsFieldChar]
  rcases login_accepted ownerKey ownerDomain "domob" "app" (some 7) [("k", "v"), ("k", "w")] with
    ⟨hnever, -⟩ | ⟨nonce, x, y, hnonce, hpoint, -, hlogin⟩
  · exact absurd isNonce_ownerNonce (hnever ownerNonce)
  · obtain rfl := hnonce.unique isNonce_ownerNonce
    obtain ⟨rfl, rfl⟩ := Point.affine.inj (hpoint.symm.trans smul_ownerNonce)
    obtain ⟨password, hbuild, haccepted⟩ := hlogin hexpiry
    obtain rfl : password = ownerPassword :=
      Except.ok.inj (Option.some.inj (hbuild.symm.trans build?_ownerKey))
    obtain ⟨hdecides, hanswers⟩ :=
      haccepted (by decide) service answer 7 "chat" hnow hserver hwelcome
    obtain ⟨d, hd, hvalid, -, hdexpiry, hextra⟩ := hdecides (by decide +kernel)
    exact ⟨hbuild, ⟨d, hd, hvalid, hdexpiry, (hextra "k").trans (by decide)⟩,
      hanswers (by decide +kernel)⟩

end SignedPassword

end LedgerLogin
