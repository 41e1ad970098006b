import LedgerLogin.Api.Error
import LedgerLogin.Api.MediaType
import LedgerLogin.Json.Record

/-!
# Requests to the decision API

A request has a method, a path and maybe a body. The two requests for decisions carry closed JSON
records, which must name a server.
-/

namespace LedgerLogin.Api

structure Request where
  method : String
  /-- The address: a path and what may follow it, maybe behind a scheme and an authority. -/
  target : String
  contentType : Option String := none
  body : Bytes := []

def isSchemeChar (c : Char) : Bool := c.isAlphanum || c = '+' || c = '-' || c = '.'

/-- Whether a character ends the path of an address. -/
def endsPath (c : Char) : Bool := c = '?' || c = '#'

/-- What follows the scheme and the authority of an address that has them. -/
def afterAuthority? (cs : List Char) : Option (List Char) :=
  match cs.dropWhile isSchemeChar with
  | ':' :: '/' :: '/' :: rest => some (rest.dropWhile fun c => c ≠ '/' && !endsPath c)
  | _ => none

/-- The path in a request's address. An address either is a path from the start, or has it behind
the authority, where an empty one stands for the root; any other address has none. -/
def Request.path (r : Request) : String :=
  let upToEnd (cs : List Char) := String.ofList (cs.takeWhile fun c => !endsPath c)
  match r.target.toList with
  | '/' :: cs => upToEnd ('/' :: cs)
  | cs =>
    match afterAuthority? cs with
    | some rest => if (upToEnd rest).isEmpty then "/" else upToEnd rest
    | none => ""

/-- The request to check a login. -/
structure VerifyRequest where
  server : String
  name : String
  password : String
  deriving DecidableEq, Repr

/-- The question for a user. -/
structure IsUserRequest where
  server : String
  name : String
  deriving DecidableEq, Repr

def checkServer {α : Type} (server : α → String) (request : α) : Except Error α :=
  if (server request).isEmpty then .error (.validation "server must not be empty")
  else .ok request

namespace VerifyRequest

def read : Json.Document → Except Json.Fault VerifyRequest :=
  Json.Document.asRecord "struct VerifyRequest" ["server", "name", "password"] true fun r =>
    VerifyRequest.mk <$> r.required "server" Json.Document.asString
      <*> r.required "name" Json.Document.asString
      <*> r.required "password" Json.Document.asString

def check : VerifyRequest → Except Error VerifyRequest := checkServer server

end VerifyRequest

namespace IsUserRequest

def read : Json.Document → Except Json.Fault IsUserRequest :=
  Json.Document.asRecord "struct IsUserRequest" ["server", "name"] true fun r =>
    IsUserRequest.mk <$> r.required "server" Json.Document.asString
      <*> r.required "name" Json.Document.asString

def check : IsUserRequest → Except Error IsUserRequest := checkServer server

end IsUserRequest

def bodyLimit : Nat := 65536

def Request.document (r : Request) : Except Error Json.Document :=
  if !r.contentType.any MediaType.isJson then
    .error (.badRequest "Expected request with Content-Type: application/json")
  else if bodyLimit < r.body.length then
    .error (.badRequest "Failed to buffer the request body: length limit exceeded")
  else match (do Json.Document.parse? (← ofUtf8? r.body)) with
    | some d => .ok d
    | none => .error (.badRequest "Failed to parse the request body as JSON")

def Request.record {α : Type} (r : Request) (read : Json.Document → Except Json.Fault α)
    (check : α → Except Error α) : Except Error α := do
  match read (← r.document) with
  | .ok a => check a
  | .error fault =>
    .error (.badRequest
      s!"Failed to deserialize the JSON body into the target type: {fault.message}")

end LedgerLogin.Api
