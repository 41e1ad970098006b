import LedgerLogin.Api.Router
import LedgerLogin.Proofs.Json.Records
import LedgerLogin.Proofs.Json.Written

/-!
# Bodies of requests and of responses

A posted object of texts is read as the record of a request, in whatever order its members stand and
however its text is written (`Request.Posts.record_verify`, `Request.Posts.record_isUser`).

What the API writes into the body of a response can be read back: the flag of a decision
(`at?_ofDecision`, `at?_registered`) and the details of an error (`at?_details`).
-/

namespace LedgerLogin.Api

open Json (Canonical Document)

/-! ## What is written -/

theorem canonical_registered {n : Nat} (registered : Bool) :
    Canonical (n + 1) (registeredToJson registered) := by
  refine .ofMembers fun e he => ?_
  obtain rfl := List.mem_singleton.1 he
  exact .bool registered

theorem canonical_details {e : Error} {details : Json} (h : e.details = some details) :
    Canonical 2 details := by
  cases e with
  | notUpToDate state =>
    obtain rfl := Option.some.inj h
    exact canonical_decision _
  | _ => cases h

theorem canonical_errorBody (e : Error) : Canonical 4 (ErrorBody.ofError e).toJson := by
  refine .ofMembers fun outer houter => ?_
  obtain rfl := List.mem_singleton.1 houter
  refine .ofMembers fun inner hinner => ?_
  rcases List.mem_append.1 hinner with htext | hdetails
  · simp only [List.mem_cons, List.not_mem_nil, or_false] at htext
    obtain rfl | rfl := htext
    · exact .string _
    · exact .string _
  · obtain ⟨details, hsome, rfl⟩ := List.mem_map.1 (Option.toList_map .. ▸ hdetails)
    exact canonical_details (Option.mem_toList.1 hsome)

/-! ## Requests -/

def textMember (field : String × String) : Option String × Document :=
  (some field.1, .string (some field.2))

/-- A request that posts an object of texts, in any order, to a path. -/
structure Request.Posts (r : Request) (target : String) (fields : List (String × String)) : Prop
    where
  method : r.method = "POST"
  path : r.path = target
  contentType : r.contentType.any MediaType.isJson = true
  size : r.body.length ≤ bodyLimit
  body : ∃ (text : String) (members : List (String × String)), r.body = utf8 text ∧
    members.Perm fields ∧ Document.parse? text = some (.object (members.map textMember))

/-- The request with the compact text of an object of texts. -/
def Request.ofFields (target : String) (fields : List (String × String)) : Request :=
  ⟨"POST", target, some "application/json", utf8 (StringMap.ofList fields).toJson.text⟩

/-- There is such a request for all texts, unless they are too long together. -/
theorem Request.posts_ofFields {target : String} {fields : List (String × String)}
    (hnodup : (fields.map Prod.fst).Nodup) (hpath : (ofFields target fields).path = target)
    (hsize : (ofFields target fields).body.length ≤ bodyLimit) :
    (ofFields target fields).Posts target fields where
  method := rfl
  path := hpath
  contentType := by
    show MediaType.isJson "application/json" = true
    decide
  size := hsize
  body := by
    refine ⟨_, (StringMap.ofList fields).entries, rfl, StringMap.entries_ofList_perm hnodup, ?_⟩
    rw [Document.parse?_text (canonical_stringMap (n := 0) _).writable, StringMap.toJson, Json.toDocument,
      Json.toDocumentMembers_eq_map, List.map_map]
    rfl

section
variable {r : Request} {target : String} {fields : List (String × String)}

theorem Request.Posts.document (h : r.Posts target fields) :
    ∃ members : List (String × String), members.Perm fields ∧
      r.document = .ok (.object (members.map textMember)) := by
  obtain ⟨text, members, hbody, hperm, hparse⟩ := h.body
  refine ⟨members, hperm, ?_⟩
  have hdocument : (do Document.parse? (← ofUtf8? r.body)) =
      some (Document.object (members.map textMember)) := by
    rw [hbody, ofUtf8?_eq_some.2 rfl]
    exact hparse
  rw [Request.document, h.contentType]
  rw [if_neg (by simp), if_neg (Nat.not_lt.2 h.size)]
  simp only [hdocument]

theorem asRecord_posted {α : Type} {what : String} {build : Json.Record → Json.Reading α} {a : α}
    {members : List (String × String)} (hperm : members.Perm fields)
    (hnodup : (fields.map Prod.fst).Nodup)
    (hbuild : ∀ record : Json.Record,
      (∀ f ∈ fields, record.document? f.1 = some (.string (some f.2))) →
      build record = Except.ok a) :
    Document.asRecord what (fields.map Prod.fst) true build (.object (members.map textMember)) =
      .ok a := by
  have hmembers : members.map textMember =
      (members.map fun f => (f.1, Document.string (some f.2))).map fun e => (some e.1, e.2) := by
    rw [List.map_map]
    rfl
  have hkeys : (members.map fun f => (f.1, Document.string (some f.2))).map Prod.fst =
      members.map Prod.fst := by
    rw [List.map_map]
    rfl
  have hdistinct : (members.map Prod.fst).Nodup := (hperm.map Prod.fst).nodup_iff.2 hnodup
  have hknown : ∀ e ∈ members.map fun f => (f.1, Document.string (some f.2)),
      e.1 ∈ fields.map Prod.fst := by
    intro e he
    rw [← (hperm.map Prod.fst).mem_iff, ← hkeys]
    exact List.mem_map_of_mem he
  rw [hmembers, Document.asRecord_object_eq_ok (by rwa [hkeys]) fun _ => hknown]
  apply hbuild
  intro f hf
  rw [Json.Record.document?_ofMembers (by rwa [hkeys]) (fun _ => hknown) (List.mem_map_of_mem hf),
    lookup_map_values (fun text => Document.string (some text)),
    StringMap.lookup_perm hperm hdistinct, StringMap.lookup_eq_some_of_mem hnodup hf]
  rfl

theorem Request.Posts.record {α : Type} {read : Document → Except Json.Fault α} {a : α}
    (h : r.Posts target fields)
    (hread : ∀ members : List (String × String), members.Perm fields →
      read (.object (members.map textMember)) = .ok a) (check : α → Except Error α) :
    r.record read check = check a := by
  obtain ⟨members, hperm, hdocument⟩ := h.document
  simp only [Request.record, hdocument, bind, Except.bind, hread members hperm]

theorem required_text {record : Json.Record} {field text : String}
    (h : record.document? field = some (.string (some text))) :
    record.required field Document.asString = Except.ok text :=
  Json.Record.required_eq_ok.2 ⟨_, h, rfl⟩

theorem checkServer_eq_ok {α : Type} {server : α → String} {request : α}
    (h : server request ≠ "") : checkServer server request = .ok request := by
  rw [checkServer, if_neg]
  rwa [String.isEmpty_iff]

theorem Request.Posts.record_verify {server name password : String}
    (h : r.Posts target [("server", server), ("name", name), ("password", password)])
    (hserver : server ≠ "") :
    r.record VerifyRequest.read VerifyRequest.check = .ok ⟨server, name, password⟩ := by
  refine (h.record (fun members hperm => ?_) _).trans (checkServer_eq_ok hserver)
  refine asRecord_posted hperm (by simp) fun record hfields => ?_
  rw [required_text (hfields ("server", server) (by simp)),
    required_text (hfields ("name", name) (by simp)),
    required_text (hfields ("password", password) (by simp))]
  rfl

theorem Request.Posts.record_isUser {server name : String}
    (h : r.Posts target [("server", server), ("name", name)]) (hserver : server ≠ "") :
    r.record IsUserRequest.read IsUserRequest.check = .ok ⟨server, name⟩ := by
  refine (h.record (fun members hperm => ?_) _).trans (checkServer_eq_ok hserver)
  refine asRecord_posted hperm (by simp) fun record hfields => ?_
  rw [required_text (hfields ("server", server) (by simp)),
    required_text (hfields ("name", name) (by simp))]
  rfl

end

/-! ## Responses -/

/-- The value in a response's body behind keys, from the outermost on. -/
def Response.at? (r : Response) (keys : List String) : Option Json := do
  keys.foldlM (fun j key => j.member? key) (← Json.parse? r.body)

/-- Whether a response has a decision that the backend is not up to date in its details. -/
def Response.TellsOutdated (r : Response) : Prop :=
  ∃ d : Decision, r.at? ["error", "details"] = some d.toJson ∧ d.state = .notUpToDate

theorem Response.at?_json {n : Nat} {j : Json} (h : Canonical n j) (hn : n < 128) (status : Nat)
    (keys : List String) :
    (json status j).at? keys = keys.foldlM (fun j key => j.member? key) j := by
  rw [at?, json, Json.parse?_text h hn]
  rfl

theorem at?_ofDecision (d : Decision) :
    (Response.json 200 d.toJson).at? ["valid"] = some (.bool d.valid) := by
  rw [Response.at?_json (canonical_decision (n := 0) d) (by decide)]
  rw [List.foldlM_cons, Decision.toJson, Json.member?_ofMembers]
  rfl

theorem at?_registered (registered : Bool) :
    (Response.json 200 (registeredToJson registered)).at? ["registered"] =
      some (.bool registered) := by
  rw [Response.at?_json (canonical_registered (n := 0) registered) (by decide)]
  rw [List.foldlM_cons, registeredToJson, Json.member?_ofMembers]
  rfl

theorem at?_details (e : Error) :
    (Response.ofError e).at? ["error", "details"] = e.details := by
  rw [Response.ofError, Response.at?_json (canonical_errorBody e) (by decide)]
  rw [List.foldlM_cons, ErrorBody.toJson, Json.member?_ofMembers]
  show (Json.member? "details" (Json.ofMembers _)).bind some = _
  rw [Json.member?_ofMembers]
  cases e <;> rfl

theorem tellsOutdated_notUpToDate (state : String) :
    (Response.ofError (.notUpToDate state)).TellsOutdated :=
  ⟨Decision.bare .notUpToDate, at?_details _, rfl⟩

end LedgerLogin.Api
