import LedgerLogin.Proofs.Address.Spelling
import LedgerLogin.Proofs.Json.Readers
import LedgerLogin.Proofs.Json.Written

/-!
# What is written is read back

The text of a decision, of the state of a name, of an answer of a processor or of a configuration is
read as what was written (`written_read_back`). So is any other text of the same value: the
members of its objects may stand in any order, and its texts and blanks may be spelled in any way.
-/

namespace LedgerLogin

variable {α : Type}

open Json (Document Undoes)

namespace Json

/-- A text spells a value, with no key twice in an object. -/
def IsTextOf (text : String) (j : Json) : Prop := ∃ d, Document.parse? text = some d ∧ d.Tells j

/-- What is written is read back: from its own text, and from every text of the same value. -/
structure ReadsBack (write : α → Json) (read : Document → Except Fault α) : Prop where
  written (a : α) : IsTextOf (write a).text (write a)
  read (a : α) (text : String) (h : IsTextOf text (write a)) :
    (Document.parse? text).map read = some (.ok a)

theorem isTextOf_text {j told : Json} (h : Writable j) (htells : j.toDocument.Tells told) :
    IsTextOf j.text told :=
  ⟨j.toDocument, Document.parse?_text h, htells⟩

theorem Canonical.distinct {n : Nat} {j : Json} (h : Canonical n j) : j.toDocument.Distinct := by
  induction h with
  | null => exact .null
  | bool b => exact .bool b
  | integer h => exact .number _
  | string s => exact .string _
  | array _ ih =>
    rw [toDocument, toDocumentItems_eq_map]
    refine .array fun d hd => ?_
    obtain ⟨j, hj, rfl⟩ := List.mem_map.1 hd
    exact ih j hj
  | object hascending _ ih =>
    rw [toDocument, toDocumentMembers_eq_map]
    refine .object ?_ fun m hm => ?_
    · exact (Document.nodup_keys_some toDocument _).2 hascending.nodup_keys
    · obtain ⟨e, he, rfl⟩ := List.mem_map.1 hm
      exact ih e he

theorem Canonical.isTextOf {n : Nat} {j : Json} (h : Canonical n j) : IsTextOf j.text j :=
  isTextOf_text h.writable ⟨h.resolve?, h.distinct⟩

theorem Undoes.readsBack {n : Nat} {write : α → Json} {read : Document → Except Fault α}
    (h : Undoes read write) (hcanonical : ∀ a, Canonical n (write a)) : ReadsBack write read where
  written a := (hcanonical a).isTextOf
  read a text := by
    rintro ⟨d, hd, htells⟩
    rw [hd, Option.map_some, h a d htells]

theorem ofMembers_ne_null (members : List (String × Json)) : ofMembers members ≠ .null := by
  rw [ofMembers_eq_object]
  exact fun h => nomatch h

end Json

/-! ## Decisions and answers of a processor -/

theorem lookup_choices (s : Decision.State) : Decision.State.choices.lookup s.name = some s := by
  cases s <;> decide

theorem undoes_expiry :
    Undoes (Document.asOption Document.asInt64) expiryToJson :=
  Undoes.int64.option fun _ h => nomatch h

theorem undoes_decision : Undoes Decision.read Decision.toJson := by
  refine .record (by decide) (fun d => .refl _) fun d r h => ?_
  have hvalid : r.required "valid" Document.asBool = Except.ok d.valid :=
    h.required .bool (by decide) rfl
  have hstate : r.required "state" Decision.State.read = Except.ok d.state :=
    h.required (.choice lookup_choices) (by decide) rfl
  have hexpiry : r.optional "expiry" none (Document.asOption Document.asInt64) =
      Except.ok d.expiry :=
    h.optional undoes_expiry (by decide) rfl
  have hextra : r.optional "extra" ∅ (Document.asMap Document.asString) = Except.ok d.extra :=
    h.optional (.map .string) (by decide) rfl
  rw [hvalid, hstate, hexpiry, hextra]
  rfl

theorem keys_optionalMember_sublist (key : String) (write : α → Json) (a? : Option α) :
    ((ServerConfig.optionalMember key write a?).map Prod.fst).Sublist [key] := by
  cases a? with
  | none => exact List.nil_sublist _
  | some a => exact .refl _

theorem lookup_optionalMember (key : String) (write : α → Json) (a? : Option α) (k : String) :
    (ServerConfig.optionalMember key write a?).lookup k =
      if k = key then a?.map write else none := by
  cases a? with
  | none =>
    rw [Option.map_none, ite_self]
    rfl
  | some a => exact StringMap.lookup_cons_eq_ite k key (write a) []

theorem undoes_signerEntry : Undoes SignerEntry.read SignerEntry.toJson := by
  refine .record (by decide) (fun e => ?_) fun e r h => ?_
  · rw [List.map_append]
    exact (keys_optionalMember_sublist "application" _ _).append (.refl ["addresses"])
  have happlication : r.optional "application" none (Document.asOption Document.asString) =
      Except.ok e.application := by
    refine h.optionalMember .string (fun _ h => nomatch h) (by decide) ?_
    cases e.application <;> rfl
  have haddresses : r.optional "addresses" [] (Document.asList Document.asString) =
      Except.ok e.addresses := by
    refine h.optional (.list .string) (by decide) ?_
    cases e.application <;> rfl
  rw [happlication, haddresses]
  rfl

theorem undoes_nameState : Undoes NameState.read NameState.toJson := by
  refine .record (by decide) (fun s => .refl _) fun s r h => ?_
  have hsigners : r.optional "signers" [] (Document.asList SignerEntry.read) =
      Except.ok s.signers :=
    h.optional (.list undoes_signerEntry) (by decide) rfl
  have haddresses : r.optional "addresses" ∅ (Document.asMap Document.asString) =
      Except.ok s.addresses :=
    h.optional (.map .string) (by decide) rfl
  rw [hsigners, haddresses]
  rfl

theorem undoes_envelope {write : α → Json} {read : Document → Except Json.Fault α}
    (h : Undoes read write) : Undoes (Envelope.read read) (Envelope.toJson write) := by
  refine .record (by decide) (fun e => .refl _) fun e r hr => ?_
  have hstate : r.required "state" Document.asString = Except.ok e.state :=
    hr.required .string (by decide) rfl
  have hheight : r.optional "height" none (Document.asOption Document.asUInt64) =
      Except.ok e.height :=
    hr.optional (Undoes.uint64.option fun _ h => nomatch h) (by decide) rfl
  have hdata : r.required "data" read = Except.ok e.data := hr.required h (by decide) rfl
  rw [hstate, hheight, hdata]
  rfl

/-! ## Configurations -/

theorem undoes_address : Undoes Address.read fun a => .string a.checksum := by
  intro a d hd
  rw [hd.eq_string]
  show (Address.parse a.checksum).mapError _ = _
  rw [Address.parse_checksum]
  rfl

theorem undoes_delegationConfig : Undoes DelegationConfig.read DelegationConfig.toJson := by
  refine .record (by decide) (fun c => .refl _) fun c r h => ?_
  have hrpc : r.required "rpc" Document.asString = Except.ok c.rpc :=
    h.required .string (by decide) rfl
  have hcontract : r.required "contract" Address.read = Except.ok c.contract :=
    h.required undoes_address (by decide) rfl
  rw [hrpc, hcontract]
  rfl

theorem undoes_serverConfig : Undoes ServerConfig.read ServerConfig.toJson := by
  refine .record (by decide) (fun c => ?_) fun c r h => ?_
  · simp only [List.map_append]
    exact (((List.Sublist.refl ["app"]).append (keys_optionalMember_sublist _ _ _)).append
      (keys_optionalMember_sublist _ _ _)).append (keys_optionalMember_sublist _ _ _)
  have happ : r.required "app" Document.asString = Except.ok c.app :=
    h.required .string (by decide) rfl
  have hgsp : r.optional "xid-gsp" none (Document.asOption Document.asString) =
      Except.ok c.gsp := by
    refine h.optionalMember .string (fun _ h => nomatch h) (by decide) ?_
    simp [List.lookup_append, lookup_optionalMember, StringMap.lookup_cons_eq_ite]
  have hdelegation : r.optional "delegation-contract" none
      (Document.asOption DelegationConfig.read) = Except.ok c.delegation := by
    refine h.optionalMember undoes_delegationConfig (fun _ => Json.ofMembers_ne_null _)
      (by decide) ?_
    simp [List.lookup_append, lookup_optionalMember, StringMap.lookup_cons_eq_ite]
  have htimeout : r.optional "rpc-timeout" none (Document.asOption Document.asUInt64) =
      Except.ok c.timeout := by
    refine h.optionalMember .uint64 (fun _ h => nomatch h) (by decide) ?_
    simp [List.lookup_append, lookup_optionalMember, StringMap.lookup_cons_eq_ite]
  rw [happ, hgsp, hdelegation, htimeout]
  rfl

theorem undoes_config : Undoes Config.read Config.toJson := by
  intro c d hd
  show (d.asMap ServerConfig.read).map Config.mk = _
  rw [undoes_serverConfig.map c.servers d hd]
  rfl

theorem Config.parse_of_isTextOf {c : Config} {text : String} (hvalid : c.validate = .ok ())
    (h : Json.IsTextOf text c.toJson) : Config.parse text = .ok c := by
  obtain ⟨d, hd, htells⟩ := h
  rw [parse, hd]
  simp only [undoes_config c d htells, hvalid]
  rfl

/-- What is written is read back: decisions, signers, states of names, answers of a processor with
a decision or the state of a name, and configurations that can be used. -/
theorem written_read_back :
    Json.ReadsBack Decision.toJson Decision.read ∧
    Json.ReadsBack SignerEntry.toJson SignerEntry.read ∧
    Json.ReadsBack NameState.toJson NameState.read ∧
    Json.ReadsBack (Envelope.toJson Decision.toJson) (Envelope.read Decision.read) ∧
    Json.ReadsBack (Envelope.toJson NameState.toJson) (Envelope.read NameState.read) ∧
    ∀ c : Config, c.validate = .ok () →
      Json.IsTextOf c.toJson.text c.toJson ∧
      ∀ text, Json.IsTextOf text c.toJson → Config.parse text = .ok c := by
  have hdecision := fun d : Decision => canonical_decision (n := 0) d
  have hnameState := fun s : NameState => canonical_nameState (n := 0) s
  refine ⟨undoes_decision.readsBack hdecision,
    undoes_signerEntry.readsBack (canonical_signerEntry (n := 0)),
    undoes_nameState.readsBack hnameState,
    (undoes_envelope undoes_decision).readsBack (canonical_envelope hdecision),
    (undoes_envelope undoes_nameState).readsBack (canonical_envelope hnameState), ?_⟩
  intro c hvalid
  exact ⟨(canonical_config (n := 0) c).isTextOf, fun text h => Config.parse_of_isTextOf hvalid h⟩

/-- A configuration with all that a server can have. -/
def oneServer : Config where
  servers := (∅ : StringMap ServerConfig).insert "chat.example"
    ⟨"app", some "http://gsp", some ⟨"http://node", Address.zero⟩, some 30⟩

/-- The members of `oneServer` in the order in which the fields are declared. -/
def oneServerAsDeclared : Json :=
  .object [("chat.example", .object [("app", .string "app"), ("xid-gsp", .string "http://gsp"),
    ("delegation-contract", .object [("rpc", .string "http://node"),
      ("contract", .string Address.zero.checksum)]), ("rpc-timeout", .ofNat 30)])]

theorem isTextOf_oneServerAsDeclared :
    Json.IsTextOf oneServerAsDeclared.text oneServer.toJson := by
  refine Json.isTextOf_text ?_ ⟨rfl, ?_⟩
  · refine .object (List.forall_mem_singleton.2 (.object ?_))
    simp only [List.forall_mem_cons]
    refine ⟨.string _, .string _, .object ?_, .integer ⟨by decide, by decide⟩, List.forall_mem_nil _⟩
    simp only [List.forall_mem_cons]
    exact ⟨.string _, .string _, List.forall_mem_nil _⟩
  · refine .object (by decide) (List.forall_mem_singleton.2 (.object (by decide) ?_))
    simp only [Json.toDocumentMembers, List.forall_mem_cons]
    refine ⟨.string _, .string _, .object (by decide) ?_, .number _, List.forall_mem_nil _⟩
    simp only [Json.toDocumentMembers, List.forall_mem_cons]
    exact ⟨.string _, .string _, List.forall_mem_nil _⟩

theorem written_read_back_as_declared :
    oneServer.validate = .ok () ∧ Config.parse oneServerAsDeclared.text = .ok oneServer := by
  obtain ⟨-, -, -, -, -, hconfig⟩ := written_read_back
  have hvalid : oneServer.validate = .ok () := by decide
  exact ⟨hvalid, (hconfig oneServer hvalid).2 _ isTextOf_oneServerAsDeclared⟩

end LedgerLogin
