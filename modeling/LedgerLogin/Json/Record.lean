import LedgerLogin.Json.Document

/-!
# Reading documents into types

Readers of the shapes that the library's JSON types are made of: texts, 64-bit integers, options,
lists, maps, names out of a fixed choice, and records. A record may be written as an object, with
its members in any order and none repeated, or as an array of its fields in their order. Of several
faults the one that stands first is reported, and a missing member counts as standing last.
-/

namespace LedgerLogin.Json

/-- What keeps a document from being read. -/
inductive Fault where
  /-- The document is of another type than wanted. -/
  | wrongType (found wanted : String)
  /-- The document is of the right type, but not of the values wanted. -/
  | wrongValue (found wanted : String)
  /-- An array has another number of items than wanted. -/
  | wrongLength (found : Nat) (wanted : String)
  | missingField (field : String)
  | repeatedField (field : String)
  /-- A closed record has a member that is not one of its fields. -/
  | unknownField (field : String) (known : List String)
  /-- A name is not one of those to choose from. -/
  | unknownName (name : String) (known : List String)
  /-- A place stands for no value. -/
  | noValue
  /-- A text that must be of some other form is not. -/
  | other (message : String)
  deriving DecidableEq, Repr

namespace Fault

/-- The names that would have been right. -/
def choice : List String → String
  | [] => "nothing"
  | [a] => s!"`{a}`"
  | [a, b] => s!"`{a}` or `{b}`"
  | names => "one of " ++ ", ".intercalate (names.map fun n => s!"`{n}`")

def message : Fault → String
  | wrongType found wanted => s!"invalid type: {found}, expected {wanted}"
  | wrongValue found wanted => s!"invalid value: {found}, expected {wanted}"
  | wrongLength found wanted => s!"invalid length {found}, expected {wanted}"
  | missingField field => s!"missing field `{field}`"
  | repeatedField field => s!"duplicate field `{field}`"
  | unknownField field known => s!"unknown field `{field}`, expected {choice known}"
  | unknownName name known => s!"unknown variant `{name}`, expected {choice known}"
  | noValue => "value out of range"
  | other message => message

end Fault

namespace Document

/-- What a document is, as faults name it. -/
def description : Document → String
  | .null => "null"
  | .bool b => s!"boolean `{b}`"
  | .number (some (.integer i)) => s!"integer `{i}`"
  | .number (some (.decimal x)) => s!"floating point `{x.text}`"
  | .number none => "number"
  | .string (some s) => "string " ++ Text.quoted s
  | .string none => "string"
  | .array _ => "sequence"
  | .object _ => "map"

/-- The fault of a document that is not of the type wanted. -/
def wrongType (d : Document) (wanted : String) : Fault :=
  match d with
  | .number none => .noValue
  | .string none => .noValue
  | d => .wrongType d.description wanted

def asString : Document → Except Fault String
  | .string (some s) => .ok s
  | d => .error (d.wrongType "a string")

def asBool : Document → Except Fault Bool
  | .bool b => .ok b
  | d => .error (d.wrongType "a boolean")

/-- A document that is an integer of 64 bits without a sign. -/
def asUInt64 : Document → Except Fault UInt64
  | .number (some (.integer i)) =>
    match i.toNat?.bind uint64? with
    | some n => .ok n
    | none => .error (.wrongValue s!"integer `{i}`" "u64")
  | d => .error (d.wrongType "u64")

/-- A document that is an integer of 64 bits with sign. -/
def asInt64 : Document → Except Fault Int64
  | .number (some (.integer i)) =>
    match int64? i with
    | some n => .ok n
    | none => .error (.wrongValue s!"integer `{i}`" "i64")
  | d => .error (d.wrongType "i64")

def asOption {α : Type} (read : Document → Except Fault α) : Document → Except Fault (Option α)
  | .null => .ok none
  | d => (read d).map some

def asList {α : Type} (read : Document → Except Fault α) : Document → Except Fault (List α)
  | .array items => items.mapM read
  | d => .error (d.wrongType "a sequence")

def asEntry {α : Type} (read : Document → Except Fault α) :
    Option String × Document → Except Fault (String × α)
  | (some key, d) => (read d).map (key, ·)
  | (none, _) => .error .noValue

/-- A document that is an object with keys of any name. -/
def asMap {α : Type} (read : Document → Except Fault α) : Document → Except Fault (StringMap α)
  | .object members => (members.mapM (asEntry read)).map StringMap.ofList
  | d => .error (d.wrongType "a map")

def choose {α : Type} (choices : List (String × α)) (name : String) : Except Fault α :=
  match choices.lookup name with
  | some a => .ok a
  | none => .error (.unknownName name (choices.map (·.1)))

/-- A document that is one of several names, by itself or as the only key of an object, where null
is its value. -/
def asChoice {α : Type} (choices : List (String × α)) : Document → Except Fault α
  | .string (some name) => choose choices name
  | .object [(some name, .null)] => choose choices name
  | .object [(some name, d)] => do
    let _ ← choose choices name
    .error (d.wrongType "unit")
  | .object [(none, _)] => .error .noValue
  | .object _ => .error (.wrongValue "map" "map with a single key")
  | d => .error (d.wrongType "string or map")

end Document

/-- The outcome of reading parts of a record: of two faults the one that stands first. -/
def Reading (α : Type) : Type := Except (Nat × Fault) α

/-- Of two placed faults the one that stands first. -/
def earlier (e f : Nat × Fault) : Nat × Fault := if f.1 < e.1 then f else e

namespace Reading

variable {α β : Type}

def apply (f : Reading (α → β)) (x : Reading α) : Reading β :=
  match f, x with
  | .ok f, .ok a => Except.ok (f a)
  | .ok _, .error e => Except.error e
  | .error e, .ok _ => Except.error e
  | .error e, .error e' => Except.error (earlier e e')

instance : Applicative Reading where
  pure a := Except.ok a
  seq f x := apply f (x ())

end Reading

/-- The members of a record that is being read. -/
structure Record where
  /-- Whether the members have keys, as those of an object do. -/
  keyed : Bool
  /-- Each field that is there, with its place. -/
  found : List (String × Nat × Document)
  /-- The fault of a field that is not there, with its place. -/
  missing : String → Nat × Fault
  /-- A fault of the record as a whole. -/
  fault : Option (Nat × Fault)

namespace Record

/-- The members of an object one after the other: known fields are collected, and the first fault
of the record as a whole is kept. -/
def collect (fields : List String) (closed : Bool) (r : Record) (place : Nat) :
    List (Option String × Document) → Record
  | [] => r
  | (key, d) :: rest =>
    let faulty (f : Fault) : Record := { r with fault := r.fault <|> some (place, f) }
    let r := match key with
      | none => faulty .noValue
      | some key =>
        if fields.contains key then
          if (r.found.lookup key).isSome then faulty (.repeatedField key)
          else { r with found := r.found ++ [(key, place, d)] }
        else if closed then faulty (.unknownField key fields)
        else r
    collect fields closed r (place + 1) rest

def ofMembers (fields : List String) (closed : Bool) (members : List (Option String × Document)) :
    Record :=
  collect fields closed
    ⟨true, [], fun f => (members.length + fields.idxOf f, .missingField f), none⟩ 0 members

def count (fields : List String) : String :=
  if fields.length = 1 then "1 element" else s!"{fields.length} elements"

def ofItems (what : String) (fields : List String) (items : List Document) : Record where
  keyed := false
  found := fields.zip items.zipIdx |>.map fun (f, d, i) => (f, i, d)
  missing f := (fields.idxOf f, .wrongLength (fields.idxOf f) (what ++ " with " ++ count fields))
  fault :=
    if fields.length < items.length then
      some (fields.length, .wrongLength items.length "fewer elements in array")
    else none

def required {α : Type} (r : Record) (field : String) (read : Document → Except Fault α) :
    Reading α :=
  match r.found.lookup field with
  | some (place, d) => (read d).mapError (place, ·)
  | none => Except.error (r.missing field)

/-- A field that has a value also where it is not there. -/
def optional {α : Type} (r : Record) (field : String) (absent : α)
    (read : Document → Except Fault α) : Reading α :=
  match r.found.lookup field with
  | some (place, d) => (read d).mapError (place, ·)
  | none => Except.ok absent

/-- A field that may be null, and that an object may leave out. -/
def nullable {α : Type} (r : Record) (field : String) (read : Document → Except Fault α) :
    Reading (Option α) :=
  if r.keyed then r.optional field none (Document.asOption read)
  else r.required field (Document.asOption read)

/-- What a record gives, unless something is wrong with it as a whole. -/
def finish {α : Type} (r : Record) (x : Reading α) : Except Fault α :=
  match x, r.fault with
  | .ok a, none => .ok a
  | .ok _, some e => .error e.2
  | .error e, none => .error e.2
  | .error e, some e' => .error (earlier e e').2

end Record

namespace Document

/-- A document that is a record with the given fields. A closed record has no other members. -/
def asRecord {α : Type} (what : String) (fields : List String) (closed : Bool)
    (build : Record → Reading α) : Document → Except Fault α
  | .object members =>
    let r := Record.ofMembers fields closed members
    r.finish (build r)
  | .array items =>
    let r := Record.ofItems what fields items
    r.finish (build r)
  | d => .error (d.wrongType what)

end Document

end LedgerLogin.Json
