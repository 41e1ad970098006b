import LedgerLogin.Proofs.Bytes.Canonical
import LedgerLogin.Proofs.Commitment.Binding
import LedgerLogin.Abi
import LedgerLogin.Word64
import Mathlib

/-!
# Reading call data

How a contract reads its arguments. For each parameter there is a word in the head: the argument
itself, or the position at which its content starts. A text is read from there as its length and
its bytes; of a list of texts the positions are counted from behind its length. Nothing is said
about what lies between and behind the contents.

Arguments that are laid out as call data are read as they were (`decode?_encode`).
-/

namespace LedgerLogin.Abi

/-- The types of parameters. -/
inductive Kind where
  | address
  | uint
  | word
  | text
  | texts
  deriving DecidableEq, Repr

def wordAt? (data : Bytes) (pos : Nat) : Option Word := fixed? 32 ((data.drop pos).take 32)

def numberAt? (data : Bytes) (pos : Nat) : Option Nat := (wordAt? data pos).map natOfWord

/-- The text at a position: its length, and as many bytes that spell it. -/
def textAt? (data : Bytes) (pos : Nat) : Option String := do
  let length ← numberAt? data pos
  let bytes := (data.drop (pos + 32)).take length
  if bytes.length = length then ofUtf8? bytes else none

/-- Some texts whose positions stand one after the other. -/
def textsFrom? (data : Bytes) : (count : Nat) → (pos : Nat) → Option (List String)
  | 0, _ => some []
  | count + 1, pos => do
    let s ← textAt? data (← numberAt? data pos)
    return s :: (← textsFrom? data count (pos + 32))

/-- The texts at a position: their number, and from behind it their positions and contents. -/
def textsAt? (data : Bytes) (pos : Nat) : Option (List String) := do
  textsFrom? (data.drop (pos + 32)) (← numberAt? data pos) 0

/-- The argument for a parameter whose word is at a position. -/
def Kind.read? (data : Bytes) (pos : Nat) : Kind → Option Argument
  | address => do
    let w ← wordAt? data pos
    if w.toList.take 12 = List.replicate 12 0 then some (.address (Address.ofWord w)) else none
  | uint => do return .uint (← uint64? (← numberAt? data pos))
  | word => do return .word (← wordAt? data pos)
  | text => do return .text (← textAt? data (← numberAt? data pos))
  | texts => do return .texts (← textsAt? data (← numberAt? data pos))

def decodeFrom? (data : Bytes) (pos : Nat) : List Kind → Option (List Argument)
  | [] => some []
  | kind :: rest => do
    return (← kind.read? data pos) :: (← decodeFrom? data (pos + 32) rest)

/-- The arguments for parameters of some types. -/
def decode? (kinds : List Kind) (data : Bytes) : Option (List Argument) := decodeFrom? data 0 kinds

def Argument.kind : Argument → Kind
  | address _ => .address
  | uint _ => .uint
  | word _ => .word
  | text _ => .text
  | texts _ => .texts

/-! ## Words -/

theorem natOfWord_wordOfNat {n : Nat} (h : n < 2 ^ 256) : natOfWord (wordOfNat n) = n := by
  show ofBigEndian (bigEndian 32 n) = n
  rw [ofBigEndian_bigEndian]
  exact Nat.mod_eq_of_lt h

theorem numberWord_natOfWord (w : Word) : numberWord (natOfWord w) = w.toList := by
  have h := bigEndian_ofBigEndian w.toList
  rwa [w.length_toList] at h

/-! ## Bytes at a position -/

/-- Some bytes stand at a position; anything may stand behind them. -/
def StandsAt (data : Bytes) (pos : Nat) (bs : Bytes) : Prop := bs <+: data.drop pos

section
variable {data bs more : Bytes} {pos : Nat}

theorem StandsAt.left (h : StandsAt data pos (bs ++ more)) : StandsAt data pos bs :=
  (List.prefix_append bs more).trans h

theorem StandsAt.right (h : StandsAt data pos (bs ++ more)) :
    StandsAt data (pos + bs.length) more := by
  obtain ⟨rest, hrest⟩ := h
  refine ⟨rest, ?_⟩
  rw [← List.drop_drop, ← hrest, List.append_assoc, List.drop_left]

theorem StandsAt.take_eq (h : StandsAt data pos bs) : (data.drop pos).take bs.length = bs := by
  obtain ⟨rest, hrest⟩ := h
  rw [← hrest, List.take_left]

theorem wordAt?_of_standsAt {w : Word} (h : StandsAt data pos w.toList) :
    wordAt? data pos = some w := by
  have htake := h.take_eq
  rw [w.length_toList] at htake
  rw [wordAt?, htake, fixed?_toList]

theorem numberAt?_of_standsAt {n : Nat} (hn : n < 2 ^ 256) (h : StandsAt data pos (numberWord n)) :
    numberAt? data pos = some n := by
  rw [numberAt?, wordAt?_of_standsAt (w := wordOfNat n) h, Option.map_some, natOfWord_wordOfNat hn]

theorem StandsAt.behindNumber {n : Nat} (h : StandsAt data pos (numberWord n ++ more)) :
    StandsAt data (pos + 32) more := by
  have hmore := h.right
  rwa [numberWord, length_bigEndian] at hmore

/-! ## Heads and tails -/

theorem length_heads (offset : Nat) (parts : List Part)
    (hwords : ∀ word, .fixed word ∈ parts → word.length = 32) :
    (heads offset parts).length = 32 * parts.length := by
  induction parts generalizing offset with
  | nil => rfl
  | cons part parts ih =>
    have hrest := fun offset => ih offset fun word h => hwords word (List.mem_cons_of_mem part h)
    cases part with
    | fixed word =>
      rw [heads, List.length_append, hrest, hwords word List.mem_cons_self, List.length_cons]
      omega
    | content tail =>
      rw [heads, List.length_append, hrest, numberWord, length_bigEndian, List.length_cons]
      omega

theorem tails_of_layOut {parts : List Part}
    (hwords : ∀ word, .fixed word ∈ parts → word.length = 32)
    (h : StandsAt data pos (layOut parts)) :
    StandsAt data (pos + 32 * parts.length) (tails parts) := by
  have hbehind := h.right
  rwa [length_heads _ _ hwords] at hbehind

/-! ## Texts -/

theorem textAt?_of_standsAt {s : String} (hs : (encodeText s).length < 2 ^ 256)
    (h : StandsAt data pos (encodeText s)) : textAt? data pos = some s := by
  have hlength : (utf8 s).length < 2 ^ 256 := by
    simp only [encodeText, padded, List.length_append] at hs
    omega
  have hbytes : (data.drop (pos + 32)).take (utf8 s).length = utf8 s :=
    h.behindNumber.left.take_eq
  rw [textAt?, numberAt?_of_standsAt hlength h.left]
  simp only [bind, Option.bind_some]
  rw [hbytes, if_pos rfl, ofUtf8?_eq_some]

theorem textsFrom?_of_standsAt {items : List String} {offset : Nat}
    (hheads : StandsAt data pos (heads offset (items.map fun s => .content (encodeText s))))
    (htails : StandsAt data offset (tails (items.map fun s => .content (encodeText s))))
    (hsize : offset + (tails (items.map fun s => .content (encodeText s))).length < 2 ^ 256) :
    textsFrom? data items.length pos = some items := by
  induction items generalizing pos offset with
  | nil => rfl
  | cons s items ih =>
    simp only [List.map_cons, heads, tails, List.length_append] at hheads htails hsize
    have hnumber := numberAt?_of_standsAt (by omega) hheads.left
    have htext : textAt? data offset = some s := textAt?_of_standsAt (by omega) htails.left
    have hrest : textsFrom? data items.length (pos + 32) = some items :=
      ih hheads.behindNumber htails.right (by omega)
    rw [List.length_cons, textsFrom?, hnumber]
    simp only [bind, Option.bind_some, htext, hrest]
    rfl

theorem textsAt?_of_standsAt {items : List String} (hitems : (encodeTexts items).length < 2 ^ 256)
    (h : StandsAt data pos (encodeTexts items)) : textsAt? data pos = some items := by
  have hwords : ∀ word, .fixed word ∈ items.map (fun s => Part.content (encodeText s)) →
      word.length = 32 := by
    intro word hword
    obtain ⟨s, -, hs⟩ := List.mem_map.1 hword
    cases hs
  have hheads := length_heads (32 * items.length) _ hwords
  simp only [encodeTexts, layOut, List.length_append, List.length_map] at hitems hheads
  -- The positions of the texts are counted from behind the number of texts.
  have hlayout : StandsAt (data.drop (pos + 32)) 0
      (layOut (items.map fun s => .content (encodeText s))) := h.behindNumber
  have htails := tails_of_layOut hwords hlayout
  rw [Nat.zero_add] at htails
  have htexts : textsFrom? (data.drop (pos + 32)) items.length 0 = some items := by
    refine textsFrom?_of_standsAt hlayout.left htails ?_
    rw [List.length_map]
    omega
  rw [textsAt?, numberAt?_of_standsAt (by omega) h.left]
  exact htexts

/-! ## Arguments -/

theorem ofWord_of_addressWord {w : Word} {a : Address} (h : w.toList = Commitment.addressWord a) :
    Address.ofWord w = a := by
  have hlast : (w.drop 12).toList = a.bytes.toList := by
    rw [Vector.toList_drop, h]
    exact List.drop_left' List.length_replicate
  exact congrArg Address.mk (Vector.toList_inj.1 hlast)

def wordOfAddress (a : Address) : Word := ⟨(Commitment.addressWord a).toArray, by simp⟩

theorem take_wordOfAddress (a : Address) :
    (wordOfAddress a).toList.take 12 = List.replicate 12 0 :=
  List.take_left' List.length_replicate

/-- A word is that of the address in it, if nothing else is in it. -/
theorem addressWord_ofWord {w : Word} (h : w.toList.take 12 = List.replicate 12 0) :
    Commitment.addressWord (Address.ofWord w) = w.toList :=
  calc Commitment.addressWord (Address.ofWord w)
      = w.toList.take 12 ++ (w.drop 12).toList := by
        rw [h]
        rfl
    _ = w.toList.take 12 ++ w.toList.drop 12 := by rw [Vector.toList_drop]
    _ = w.toList := List.take_append_drop 12 w.toList

theorem length_of_fixed {a : Argument} {word : Bytes} (h : a.part = .fixed word) :
    word.length = 32 := by
  cases a with
  | address a =>
    rw [← Part.fixed.inj h]
    exact Commitment.length_addressWord a
  | uint n =>
    rw [← Part.fixed.inj h]
    exact length_bigEndian 32 n.toNat
  | word w =>
    rw [← Part.fixed.inj h]
    exact w.length_toList
  | text s => exact nomatch h
  | texts items => exact nomatch h

theorem words_of_arguments (args : List Argument) :
    ∀ word, .fixed word ∈ args.map Argument.part → word.length = 32 := by
  intro word hword
  obtain ⟨a, -, ha⟩ := List.mem_map.1 hword
  exact length_of_fixed ha

theorem length_encode (args : List Argument) :
    (encode args).length = 32 * args.length + (tails (args.map Argument.part)).length := by
  rw [encode, layOut, List.length_append, length_heads _ _ (words_of_arguments args),
    List.length_map]

theorem tails_append (parts more : List Part) :
    tails (parts ++ more) = tails parts ++ tails more := by
  induction parts with
  | nil => rfl
  | cons part parts ih =>
    cases part with
    | fixed word => exact ih
    | content tail =>
      rw [List.cons_append, tails, ih, tails, List.append_assoc]

theorem length_encode_append (args more : List Argument) :
    (encode (args ++ more)).length = (encode args).length + (encode more).length := by
  simp only [length_encode, List.map_append, tails_append, List.length_append]
  omega

/-- An argument of a fixed size is read from its word. -/
theorem read?_of_fixed {a : Argument} {word : Bytes} (ha : a.part = .fixed word)
    (h : StandsAt data pos word) : a.kind.read? data pos = some a := by
  cases a with
  | address a =>
    rw [← Part.fixed.inj ha] at h
    rw [Argument.kind, Kind.read?, wordAt?_of_standsAt (w := wordOfAddress a) h]
    simp only [bind, Option.bind_some]
    rw [if_pos (take_wordOfAddress a), ofWord_of_addressWord rfl]
  | uint n =>
    rw [← Part.fixed.inj ha] at h
    have hn : n.toNat < 2 ^ 256 := Nat.lt_trans n.toNat_lt (by decide)
    rw [Argument.kind, Kind.read?, numberAt?_of_standsAt hn h]
    simp only [bind, Option.bind_some]
    rw [uint64?_eq_some.2 rfl]
    rfl
  | word w =>
    rw [← Part.fixed.inj ha] at h
    rw [Argument.kind, Kind.read?, wordAt?_of_standsAt h]
    rfl
  | text s => exact nomatch ha
  | texts items => exact nomatch ha

/-- An argument of another size is read from where its word says that its content is. -/
theorem read?_of_content {a : Argument} {tail : Bytes} {offset : Nat} (ha : a.part = .content tail)
    (hoffset : offset < 2 ^ 256) (hsize : tail.length < 2 ^ 256)
    (hword : StandsAt data pos (numberWord offset)) (htail : StandsAt data offset tail) :
    a.kind.read? data pos = some a := by
  have hnumber := numberAt?_of_standsAt hoffset hword
  cases a with
  | address a => exact nomatch ha
  | uint n => exact nomatch ha
  | word w => exact nomatch ha
  | text s =>
    rw [← Part.content.inj ha] at htail hsize
    rw [Argument.kind, Kind.read?, hnumber]
    simp only [bind, Option.bind_some, textAt?_of_standsAt hsize htail]
    rfl
  | texts items =>
    rw [← Part.content.inj ha] at htail hsize
    rw [Argument.kind, Kind.read?, hnumber]
    simp only [bind, Option.bind_some, textsAt?_of_standsAt hsize htail]
    rfl

/-- Arguments are read from a head and a tail wherever these stand. -/
theorem decodeFrom?_of_standsAt {args : List Argument} {offset : Nat}
    (hheads : StandsAt data pos (heads offset (args.map Argument.part)))
    (htails : StandsAt data offset (tails (args.map Argument.part)))
    (hsize : offset + (tails (args.map Argument.part)).length < 2 ^ 256) :
    decodeFrom? data pos (args.map Argument.kind) = some args := by
  induction args generalizing pos offset with
  | nil => rfl
  | cons a args ih =>
    rw [List.map_cons, decodeFrom?]
    cases ha : a.part with
    | fixed word =>
      simp only [List.map_cons, ha, heads, tails] at hheads htails hsize
      have hmore := hheads.right
      rw [length_of_fixed ha] at hmore
      rw [read?_of_fixed ha hheads.left, ih hmore htails hsize]
      rfl
    | content tail =>
      simp only [List.map_cons, ha, heads, tails, List.length_append] at hheads htails hsize
      rw [read?_of_content ha (by omega) (by omega) hheads.left htails.left,
        ih hheads.behindNumber htails.right (by omega)]
      rfl

/-- Call data is read as the arguments that it was made of, also with more bytes behind it. -/
theorem decode?_encode {args : List Argument} (h : (encode args).length < 2 ^ 256) (rest : Bytes) :
    decode? (args.map Argument.kind) (encode args ++ rest) = some args := by
  have hlayout : StandsAt (encode args ++ rest) 0 (layOut (args.map Argument.part)) :=
    List.prefix_append _ _
  have htails := tails_of_layOut (words_of_arguments args) hlayout
  rw [Nat.zero_add] at htails
  rw [length_encode] at h
  refine decodeFrom?_of_standsAt hlayout.left htails ?_
  rwa [List.length_map]

end

/-! ## Results

Of the data that a function returns its first word counts, which must be that of a value of the
function's type. -/

theorem firstWord_eq_ok {signature : String} {data : Bytes} {w : Word} :
    firstWord signature data = .ok w ↔ ∃ more, data = w.toList ++ more := by
  constructor
  · intro h
    unfold firstWord at h
    split at h
    · rename_i first hfirst
      cases h
      refine ⟨data.drop 32, ?_⟩
      rw [← fixed?_eq_some_iff.1 hfirst]
      exact (List.take_append_drop 32 data).symm
    · cases h
  · rintro ⟨more, rfl⟩
    rw [firstWord, List.take_left' w.length_toList, fixed?_toList]

theorem firstWord_eq_error {signature : String} {data : Bytes} {e : TransportError}
    (h : firstWord signature data = .error e) :
    ∃ reason, e = .invalidResponse signature reason := by
  unfold firstWord at h
  split at h
  · cases h
  · cases h
    exact ⟨_, rfl⟩

section
variable {α : Type} {signature : String} {data : Bytes} {f : Word → Except TransportError α}

/-- What is made of the first word of some data does not depend on what stands behind it. -/
theorem firstWord_bind_eq_ok {a : α} :
    firstWord signature data >>= f = .ok a ↔ ∃ w more, data = w.toList ++ more ∧ f w = .ok a := by
  simp only [bind_eq_ok, firstWord_eq_ok, exists_and_right]

theorem firstWord_bind_eq_error {e : TransportError}
    (hf : ∀ w e, f w = .error e → ∃ reason, e = .invalidResponse signature reason)
    (h : firstWord signature data >>= f = .error e) :
    ∃ reason, e = .invalidResponse signature reason := by
  rcases bind_eq_error.1 h with hfirst | ⟨w, -, hw⟩
  · exact firstWord_eq_error hfirst
  · exact hf w e hw

end

theorem decodeBool_eq_ok {signature : String} {data : Bytes} {b : Bool} :
    decodeBool signature data = .ok b ↔ ∃ more, data = numberWord b.toNat ++ more := by
  unfold decodeBool
  rw [firstWord_bind_eq_ok]
  constructor
  · rintro ⟨w, more, hdata, h⟩
    have hnumber : natOfWord w = b.toNat := by
      split at h
      · rename_i hzero
        cases h
        exact hzero
      · rename_i hone
        cases h
        exact hone
      · cases h
    exact ⟨more, by rw [hdata, ← hnumber, numberWord_natOfWord]⟩
  · rintro ⟨more, hdata⟩
    have hnumber : natOfWord (wordOfNat b.toNat) = b.toNat :=
      natOfWord_wordOfNat (Nat.lt_of_lt_of_le b.toNat_lt (by decide))
    refine ⟨wordOfNat b.toNat, more, hdata, ?_⟩
    rw [hnumber]
    cases b with
    | false => rfl
    | true => rfl

theorem decodeBool_eq_error {signature : String} {data : Bytes} {e : TransportError}
    (h : decodeBool signature data = .error e) :
    ∃ reason, e = .invalidResponse signature reason := by
  refine firstWord_bind_eq_error (fun w e h => ?_) h
  split at h
  · cases h
  · cases h
  · cases h
    exact ⟨_, rfl⟩

theorem decodeAddress_eq_ok {signature : String} {data : Bytes} {a : Address} :
    decodeAddress signature data = .ok a ↔ ∃ more, data = Commitment.addressWord a ++ more := by
  unfold decodeAddress
  rw [firstWord_bind_eq_ok]
  constructor
  · rintro ⟨w, more, hdata, h⟩
    split at h
    · rename_i hzeros
      cases h
      exact ⟨more, by rw [hdata, addressWord_ofWord hzeros]⟩
    · cases h
  · rintro ⟨more, hdata⟩
    refine ⟨wordOfAddress a, more, hdata, ?_⟩
    rw [if_pos (take_wordOfAddress a), ofWord_of_addressWord rfl]
    rfl

theorem decodeAddress_eq_error {signature : String} {data : Bytes} {e : TransportError}
    (h : decodeAddress signature data = .error e) :
    ∃ reason, e = .invalidResponse signature reason := by
  refine firstWord_bind_eq_error (fun w e h => ?_) h
  split at h
  · cases h
  · cases h
    exact ⟨_, rfl⟩

end LedgerLogin.Abi
