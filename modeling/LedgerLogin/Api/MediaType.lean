/-!
# Media types

The value of a content type: a type and a subtype, and parameters after semicolons. A body counts
as JSON if the type is `application` and either the subtype, up to its last plus sign, or what
follows that sign is `json`. Case does not matter, and parameters do not either, but a value that is
not well formed says nothing.
-/

namespace LedgerLogin.Api.MediaType

def isTokenChar (c : Char) : Bool :=
  c.isAlphanum || "!#$%&\x27*+-.^_\x60|~".toList.contains c

/-- Whether a character may stand in a parameter's value between quotes; a quote may do so only as
its first character. -/
def isQuotedChar (c : Char) : Bool := 32 ≤ c.toNat && c.toNat < 127

def isToken (cs : List Char) : Bool := !cs.isEmpty && cs.all isTokenChar

/-- What follows a value between quotes, up to the parameter after it: blanks and a semicolon, or
the end. -/
def afterQuoted? (cs : List Char) : Option (List Char) :=
  match cs.dropWhile (· = ' ') with
  | [] => some []
  | ';' :: rest => some rest
  | _ => none

/-- What follows a parameter's value. A value between quotes is not empty; one without quotes may be
so at the end only. -/
def afterValue? : List Char → Option (List Char)
  | ['"'] => none
  | '"' :: c :: cs =>
    match cs.dropWhile fun c => isQuotedChar c && c ≠ '"' with
    | '"' :: rest => if isQuotedChar c then afterQuoted? rest else none
    | _ => none
  | cs =>
    match cs.dropWhile isTokenChar with
    | [] => some []
    | ';' :: rest => if (cs.takeWhile isTokenChar).isEmpty then none else some rest
    | _ => none

def afterParameter? (cs : List Char) : Option (List Char) :=
  match cs.dropWhile isTokenChar with
  | '=' :: rest => if (cs.takeWhile isTokenChar).isEmpty then none else afterValue? rest
  | _ => none

/-- Whether a list of characters holds parameters only, each after any number of blanks. -/
def areParameters : (fuel : Nat) → List Char → Bool
  | 0, _ => false
  | _ + 1, [] => true
  | fuel + 1, ' ' :: cs => areParameters fuel cs
  | fuel + 1, cs =>
    match afterParameter? cs with
    | some rest => areParameters fuel rest
    | none => false

/-- A list of characters cut at the last plus sign that is not the first character. -/
def splitSuffix (subtype : List Char) : List Char × Option (List Char) :=
  let after := (subtype.reverse.takeWhile (· ≠ '+')).reverse
  let before := subtype.take (subtype.length - after.length - 1)
  if before.isEmpty then (subtype, none) else (before, some after)

def isWord (word : String) (cs : List Char) : Bool := cs.map Char.toLower = word.toList

def isJson (s : String) : Bool :=
  let main := s.toList.takeWhile (· ≠ '/')
  let rest := (s.toList.dropWhile (· ≠ '/')).drop 1
  let subtype := rest.takeWhile (· ≠ ';')
  let parameters := (rest.dropWhile (· ≠ ';')).drop 1
  let (name, suffix) := splitSuffix subtype
  isToken main && isToken subtype && areParameters (parameters.length + 1) parameters
    && isWord "application" main && (isWord "json" name || suffix.any (isWord "json"))

end LedgerLogin.Api.MediaType
