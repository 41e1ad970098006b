import LedgerLogin.Json.Number
import LedgerLogin.StringMap
import LedgerLogin.Bytes.Hex

/-!
# JSON values

Values without trace of their spelling, and the compact text that they are written in: no blanks,
and the members of an object in the order in which the value holds them. Values that the library
builds hold them by ascending key.
-/

namespace LedgerLogin

inductive Json where
  | null
  | bool (b : Bool)
  | number (n : Json.Number)
  | string (s : String)
  | array (items : List Json)
  | object (members : List (String × Json))
  deriving Repr

namespace Json

instance : Inhabited Json := ⟨.null⟩

/-- The object with the given members, sorted by key; of two members with one key the later
counts. -/
def ofMembers (members : List (String × Json)) : Json :=
  .object (members.foldl (fun es m => insertEntry m.1 m.2 es) [])

def ofInt (i : Int) : Json := .number (.integer i)

def ofNat (n : Nat) : Json := ofInt n

/-- A value, or null in its absence. -/
def ofOption {α : Type} (f : α → Json) : Option α → Json
  | none => .null
  | some a => f a

def member? (key : String) : Json → Option Json
  | .object members => members.lookup key
  | _ => none

def asString? : Json → Option String
  | .string s => some s
  | _ => none

def asObject? : Json → Option (List (String × Json))
  | .object members => some members
  | _ => none

def escape (c : Char) : List Char :=
  if c = '\x22' then ['\\', '\x22']
  else if c = '\\' then ['\\', '\\']
  else if c = '\x08' then ['\\', 'b']
  else if c = '\x0c' then ['\\', 'f']
  else if c = '\n' then ['\\', 'n']
  else if c = '\r' then ['\\', 'r']
  else if c = '\t' then ['\\', 't']
  else if c.toNat < 0x20 then
    ['\\', 'u', '0', '0', Hex.digit (c.toNat / 16), Hex.digit (c.toNat % 16)]
  else [c]

def quote (s : String) : List Char := '\x22' :: s.toList.flatMap escape ++ ['\x22']

mutual

def render : Json → List Char
  | .null => ['n', 'u', 'l', 'l']
  | .bool true => ['t', 'r', 'u', 'e']
  | .bool false => ['f', 'a', 'l', 's', 'e']
  | .number n => n.text.toList
  | .string s => quote s
  | .array items => '[' :: renderItems items
  | .object members => '\x7b' :: renderMembers members

/-- An array from its first item on. -/
def renderItems : List Json → List Char
  | [] => [']']
  | item :: rest => render item ++ renderMoreItems rest

/-- An array after an item. -/
def renderMoreItems : List Json → List Char
  | [] => [']']
  | item :: rest => ',' :: render item ++ renderMoreItems rest

def renderMembers : List (String × Json) → List Char
  | [] => ['\x7d']
  | (key, value) :: rest => quote key ++ ':' :: render value ++ renderMoreMembers rest

def renderMoreMembers : List (String × Json) → List Char
  | [] => ['\x7d']
  | (key, value) :: rest => ',' :: quote key ++ ':' :: render value ++ renderMoreMembers rest

end

def text (j : Json) : String := String.ofList j.render

end Json

end LedgerLogin
