import LedgerLogin.Payload.Varint

/-!
# Messages on the wire

A message is a run of fields, each a key (a field number and the kind of what follows) and what
that kind calls for. A reader takes the fields one by one as tokens. It hands each field of the
message itself to its format, which refuses it or takes it into what has been read; the fields
inside groups it only skips, and it minds that groups close with their own number and that nothing
is nested deeper than allowed. A format may know some of its fields to hold bytes; the kind that
their keys name is then not looked at.

Reading tokens one by one makes a message that is written after another one the continuation of
it.
-/

namespace LedgerLogin.Wire

/-- What a key says of the bytes behind it. -/
inductive Kind where
  | varint
  | fixed64
  | delimited
  | startGroup
  | endGroup
  | fixed32
  deriving DecidableEq, Repr

namespace Kind

def code : Kind → Nat
  | varint => 0
  | fixed64 => 1
  | delimited => 2
  | startGroup => 3
  | endGroup => 4
  | fixed32 => 5

def ofCode? : Nat → Option Kind
  | 0 => some varint
  | 1 => some fixed64
  | 2 => some delimited
  | 3 => some startGroup
  | 4 => some endGroup
  | 5 => some fixed32
  | _ => none

theorem ofCode_code (kind : Kind) : ofCode? kind.code = some kind := by cases kind <;> rfl

end Kind

/-- A key and what belongs to it; a group is two tokens. -/
inductive Token where
  | varint (field n : Nat)
  | fixed64 (field : Nat) (bytes : Bytes)
  | delimited (field : Nat) (bytes : Bytes)
  | startGroup (field : Nat)
  | endGroup (field : Nat)
  | fixed32 (field : Nat) (bytes : Bytes)
  deriving DecidableEq, Repr

def Token.field : Token → Nat
  | varint field _ => field
  | fixed64 field _ => field
  | delimited field _ => field
  | startGroup field => field
  | endGroup field => field
  | fixed32 field _ => field

/-- The first `n` bytes, and what follows them. -/
def take? (n : Nat) (bs : Bytes) : Option (Bytes × Bytes) :=
  if n ≤ bs.length then some (bs.take n, bs.drop n) else none

/-- What belongs to a key, and what follows it. -/
def value? (field : Nat) (kind : Kind) (bs : Bytes) : Option (Token × Bytes) :=
  match kind with
  | .varint => (Varint.read? bs).map fun (n, rest) => (.varint field n, rest)
  | .fixed64 => (take? 8 bs).map fun (v, rest) => (.fixed64 field v, rest)
  | .delimited => do
    let (n, rest) ← Varint.read? bs
    let (v, rest) ← take? n rest
    return (.delimited field v, rest)
  | .startGroup => some (.startGroup field, bs)
  | .endGroup => some (.endGroup field, bs)
  | .fixed32 => (take? 4 bs).map fun (v, rest) => (.fixed32 field v, rest)

/-- The token at the start of a byte string, and what follows it. Keys have at most 32 bits, and
field numbers start at one. The fields in `delimited` are read as bytes whatever kind their keys
name, but it must be one. -/
def next? (delimited : List Nat) (bs : Bytes) : Option (Token × Bytes) := do
  let (key, rest) ← Varint.read? bs
  let field := key / 8
  if UInt32.size ≤ key ∨ field = 0 then none
  let kind ← Kind.ofCode? (key % 8)
  value? field (if field ∈ delimited then .delimited else kind) rest

theorem length_take {n : Nat} {bs v rest : Bytes} (h : take? n bs = some (v, rest)) :
    rest.length ≤ bs.length := by
  unfold take? at h
  split at h
  · simp only [Option.some.injEq, Prod.mk.injEq] at h
    rw [← h.2, List.length_drop]; omega
  · simp at h

theorem length_value {field : Nat} {kind : Kind} {bs rest : Bytes} {t : Token}
    (h : value? field kind bs = some (t, rest)) : rest.length ≤ bs.length := by
  unfold value? at h
  split at h
  case h_1 =>
    obtain ⟨⟨m, r⟩, hr, he⟩ := Option.map_eq_some_iff.1 h
    simp only [Prod.mk.injEq] at he
    rw [← he.2]
    exact Nat.le_of_lt (Varint.length_readFrom hr)
  case h_3 =>
    simp only [bind, Option.bind_eq_some_iff, pure, Option.some.injEq, Prod.mk.injEq] at h
    obtain ⟨⟨n, r⟩, hr, ⟨v, r'⟩, hv, -, he⟩ := h
    have h₁ := Varint.length_readFrom hr
    have h₂ := length_take hv
    simp only at h₂ he
    subst he
    omega
  case h_4 | h_5 =>
    simp only [Option.some.injEq, Prod.mk.injEq] at h
    exact Nat.le_of_eq (congrArg List.length h.2.symm)
  all_goals
    obtain ⟨⟨m, r⟩, hr, he⟩ := Option.map_eq_some_iff.1 h
    simp only [Prod.mk.injEq] at he
    rw [← he.2]
    exact length_take hr

theorem length_next {delimited : List Nat} {bs rest : Bytes} {t : Token}
    (h : next? delimited bs = some (t, rest)) : rest.length < bs.length := by
  simp only [next?, bind, Option.bind_eq_some_iff] at h
  obtain ⟨⟨key, r⟩, hr, h⟩ := h
  have h₁ := Varint.length_readFrom hr
  split at h
  · simp at h
  · obtain ⟨kind, -, hv⟩ := Option.bind_eq_some_iff.1 h
    have h₂ := length_value hv
    simp only at h₂
    omega

/-- How messages of one type are read into an `α`. -/
structure Format (α : Type) where
  /-- How deep groups may nest; the innermost of as many holds nothing. -/
  limit : Nat
  /-- The fields of the message itself that are known to hold bytes. -/
  delimited : List Nat
  /-- What has been read, with one more field of the message itself. -/
  apply : α → Token → Option α

/-- A reader between two tokens: the numbers of the groups that are open, the innermost first, and
what has been read. -/
structure Reader (α : Type) where
  groups : List Nat
  content : α

namespace Reader

variable {α : Type}

/-- What has been read after one more token: a field of the message itself is applied, one inside
a group is skipped. -/
def take (f : Format α) (r : Reader α) (t : Token) : Option α :=
  if r.groups.isEmpty then f.apply r.content t else some r.content

def step (f : Format α) (r : Reader α) (t : Token) : Option (Reader α) :=
  match t with
  | .endGroup field =>
    match r.groups with
    | [] => none
    | g :: outer => if g = field then some ⟨outer, r.content⟩ else none
  | .startGroup field =>
    if r.groups.length < f.limit then (r.take f t).map fun a => ⟨field :: r.groups, a⟩ else none
  | t =>
    if r.groups.length < f.limit then (r.take f t).map fun a => ⟨r.groups, a⟩ else none

/-- The fields that hold bytes where the reader stands. Inside a group no field is known. -/
def delimited (f : Format α) (r : Reader α) : List Nat :=
  if r.groups.isEmpty then f.delimited else []

def run (f : Format α) (r : Reader α) (bs : Bytes) : Option (Reader α) :=
  if bs.isEmpty then some r
  else match _h : next? (r.delimited f) bs with
    | none => none
    | some (t, rest) => do
      let r ← r.step f t
      r.run f rest
termination_by bs.length
decreasing_by exact length_next _h

end Reader

/-- What a message gives when its fields are applied in turn to what there is before. -/
def read? {α : Type} (f : Format α) (before : α) (bs : Bytes) : Option α := do
  let r ← Reader.run f ⟨[], before⟩ bs
  if r.groups.isEmpty then some r.content else none

def key (field : Nat) (kind : Kind) : Bytes := Varint.write (field * 8 + kind.code)

def varintField (field n : Nat) : Bytes := key field .varint ++ Varint.write n

def delimitedField (field : Nat) (bs : Bytes) : Bytes :=
  key field .delimited ++ Varint.write bs.length ++ bs

end LedgerLogin.Wire
