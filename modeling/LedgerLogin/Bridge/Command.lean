import LedgerLogin.Text.Blank

/-!
# Commands of a chat server

A command is an operation and its fields, all separated by colons. Two operations are served: the
check of a login, whose last field is the password and may hold colons itself, and the question for
a user.
-/

namespace LedgerLogin.Bridge

inductive Command where
  | auth (name server password : String)
  | isUser (name server : String)
  /-- An operation that is not served. -/
  | unsupported (operation : String)
  /-- An operation that is served, with the wrong number of fields. -/
  | invalid (operation : String)
  deriving DecidableEq, Repr

namespace Command

/-- The fields of a login: two without colons and the rest. -/
def ofAuthFields (fields : List Char) : Command :=
  match Text.splitFirst? ':' fields with
  | none => invalid "auth"
  | some (name, rest) =>
    match Text.splitFirst? ':' rest with
    | none => invalid "auth"
    | some (server, password) =>
      auth (String.ofList name) (String.ofList server) (String.ofList password)

/-- The fields of a question for a user: two without colons. -/
def ofIsUserFields (fields : List Char) : Command :=
  match Text.splitFirst? ':' fields with
  | none => invalid "isuser"
  | some (name, server) =>
    if ':' ∈ server then invalid "isuser"
    else isUser (String.ofList name) (String.ofList server)

/-- The command in a line, with the operation and the fields taken apart. A line without colon is
an operation with one field, which is empty. -/
def ofParts (operation : String) (fields : List Char) : Command :=
  if operation = "auth" then ofAuthFields fields
  else if operation = "isuser" then ofIsUserFields fields
  else unsupported operation

def parse (line : String) : Command :=
  match Text.splitFirst? ':' line.toList with
  | some (operation, fields) => ofParts (String.ofList operation) fields
  | none => ofParts line []

end Command

end LedgerLogin.Bridge
