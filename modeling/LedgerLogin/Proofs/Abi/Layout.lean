import LedgerLogin.Proofs.Abi.Decoder

/-!
# How call data is laid out

The convention for call data, said without the encoder: the words of the arguments stand one after
the other, then the contents of those that have one, in their order and with nothing between them;
the word of an argument with content is the position of that content. The content of a list of texts
is their number and the call data for the texts, so that its positions are counted from behind the
number.

Exactly the bytes that are encoded are laid out so for the arguments (`laidOut_iff`).
-/

namespace LedgerLogin.Abi

/-- What stands behind the words of the head for an argument. -/
def Argument.content : Argument → Bytes
  | address _ => []
  | uint _ => []
  | word _ => []
  | text s =>
    numberWord (utf8 s).length ++
      (utf8 s ++ List.replicate ((32 - (utf8 s).length % 32) % 32) 0)
  | texts items => numberWord items.length ++ encode (items.map text)

/-- The word of an argument in the head, if its content stands at a position. -/
def Argument.headWord (position : Nat) : Argument → Bytes
  | address a => List.replicate 12 0 ++ a.bytes.toList
  | uint n => numberWord n.toNat
  | word w => w.toList
  | text _ => numberWord position
  | texts _ => numberWord position

/-- Where the content of an argument stands: behind all words and the contents of the arguments
before it. -/
def position (args before : List Argument) : Nat :=
  32 * args.length + (before.flatMap Argument.content).length

theorem position_append (args before : List Argument) (a : Argument) :
    position args (before ++ [a]) = position args before + a.content.length := by
  simp only [position, List.flatMap_append, List.flatMap_singleton, List.length_append]
  omega

/-- Bytes that are laid out as the convention has it for some arguments. -/
structure LaidOut (args : List Argument) (data : Bytes) : Prop where
  headWord : ∀ {before a after}, args = before ++ a :: after →
    StandsAt data (32 * before.length) (a.headWord (position args before))
  content : ∀ {before a after}, args = before ++ a :: after →
    StandsAt data (position args before) a.content
  length : data.length = position args args

/-! ## Words and contents -/

theorem part_texts (items : List String) :
    (Argument.texts items).part = .content (Argument.texts items).content := by
  have hparts : (items.map Argument.text).map Argument.part =
      items.map fun s => Part.content (encodeText s) := by
    rw [List.map_map]
    rfl
  rw [Argument.part, Argument.content, encode, hparts, encodeTexts]

theorem heads_cons (offset : Nat) (a : Argument) (parts : List Part) :
    heads offset (a.part :: parts) =
      a.headWord offset ++ heads (offset + a.content.length) parts := by
  cases a with
  | texts items => rw [part_texts, heads, Argument.headWord]
  | _ => rfl

theorem tails_cons (a : Argument) (parts : List Part) :
    tails (a.part :: parts) = a.content ++ tails parts := by
  cases a with
  | texts items => rw [part_texts, tails]
  | _ => rfl

theorem length_headWord (offset : Nat) (a : Argument) : (a.headWord offset).length = 32 := by
  cases a with
  | address a => simp [Argument.headWord]
  | word w => exact w.length_toList
  | uint n => exact length_bigEndian 32 _
  | text s => exact length_bigEndian 32 _
  | texts items => exact length_bigEndian 32 _

theorem tails_eq_flatMap (args : List Argument) :
    tails (args.map Argument.part) = args.flatMap Argument.content := by
  induction args with
  | nil => rfl
  | cons a args ih => rw [List.map_cons, tails_cons, ih, List.flatMap_cons]

theorem heads_append (offset : Nat) (before after : List Argument) :
    heads offset ((before ++ after).map Argument.part) =
      heads offset (before.map Argument.part) ++
        heads (offset + (before.flatMap Argument.content).length) (after.map Argument.part) := by
  induction before generalizing offset with
  | nil => rfl
  | cons a before ih =>
    rw [List.cons_append, List.map_cons, heads_cons, ih, List.map_cons, heads_cons,
      List.append_assoc, List.flatMap_cons, List.length_append, Nat.add_assoc]

theorem encode_eq (args : List Argument) :
    encode args = heads (32 * args.length) (args.map Argument.part) ++
      args.flatMap Argument.content := by
  rw [encode, layOut, List.length_map, tails_eq_flatMap]

theorem length_heads_map (offset : Nat) (args : List Argument) :
    (heads offset (args.map Argument.part)).length = 32 * args.length := by
  rw [length_heads _ _ (words_of_arguments args), List.length_map]

/-! ## What is encoded is laid out, and nothing else -/

theorem standsAt_of_append {data front bs more : Bytes} (h : data = front ++ (bs ++ more)) :
    StandsAt data front.length bs := by
  rw [StandsAt, h, List.drop_left]
  exact List.prefix_append bs more

theorem laidOut_encode (args : List Argument) : LaidOut args (encode args) where
  headWord := by
    rintro before a after rfl
    have hsplit := encode_eq (before ++ a :: after)
    rw [heads_append, List.map_cons, heads_cons, List.append_assoc, List.append_assoc] at hsplit
    have hstands := standsAt_of_append hsplit
    rwa [length_heads_map] at hstands
  content := by
    rintro before a after rfl
    have hsplit := encode_eq (before ++ a :: after)
    rw [List.flatMap_append, List.flatMap_cons, ← List.append_assoc] at hsplit
    have hstands := standsAt_of_append hsplit
    rwa [List.length_append, length_heads_map] at hstands
  length := by
    rw [encode_eq, List.length_append, length_heads_map]
    rfl

theorem drop_eq_of_standsAt {data bs : Bytes} {pos : Nat} (h : StandsAt data pos bs) :
    data.drop pos = bs ++ data.drop (pos + bs.length) := by
  obtain ⟨rest, hrest⟩ := h
  rw [← List.drop_drop, ← hrest, List.drop_left]

theorem LaidOut.drop_heads {args before after : List Argument} {data : Bytes}
    (h : LaidOut args data) (hargs : args = before ++ after) :
    data.drop (32 * before.length) =
      heads (position args before) (after.map Argument.part) ++ data.drop (32 * args.length) := by
  induction after generalizing before with
  | nil => rw [hargs, List.append_nil, List.map_nil, heads, List.nil_append]
  | cons a after ih =>
    have hnext : args = (before ++ [a]) ++ after := by rw [hargs, List.append_cons]
    have hlater := ih hnext
    rw [List.length_append, List.length_singleton, Nat.mul_add, Nat.mul_one, position_append] at hlater
    rw [drop_eq_of_standsAt (h.headWord hargs), length_headWord, hlater, List.map_cons, heads_cons,
      List.append_assoc]

theorem LaidOut.drop_contents {args before after : List Argument} {data : Bytes}
    (h : LaidOut args data) (hargs : args = before ++ after) :
    data.drop (position args before) = after.flatMap Argument.content := by
  induction after generalizing before with
  | nil =>
    rw [List.append_nil] at hargs
    rw [← hargs, ← h.length, List.drop_length, List.flatMap_nil]
  | cons a after ih =>
    have hnext : args = (before ++ [a]) ++ after := by rw [hargs, List.append_cons]
    rw [drop_eq_of_standsAt (h.content hargs), ← position_append, ih hnext, List.flatMap_cons]

/-- The convention leaves no choice. -/
theorem laidOut_iff {args : List Argument} {data : Bytes} :
    LaidOut args data ↔ data = encode args := by
  constructor
  · intro h
    have hwhole : args = [] ++ args := rfl
    have hheads := h.drop_heads hwhole
    have hcontents := h.drop_contents hwhole
    simp only [position, List.flatMap_nil, List.length_nil, Nat.add_zero, Nat.mul_zero,
      List.drop_zero] at hheads hcontents
    rw [hheads, hcontents, encode_eq]
  · rintro rfl
    exact laidOut_encode args

/-! ## Whole words -/

theorem length_content_mod_text (s : String) : (Argument.text s).content.length % 32 = 0 := by
  simp only [Argument.content, numberWord, List.length_append, length_bigEndian,
    List.length_replicate]
  omega

theorem length_encode_mod {args : List Argument}
    (h : ∀ a ∈ args, a.content.length % 32 = 0) : (encode args).length % 32 = 0 := by
  have hcontents : (args.flatMap Argument.content).length % 32 = 0 := by
    induction args with
    | nil => rfl
    | cons a args ih =>
      have ha := h a List.mem_cons_self
      have hrest := ih fun x hx => h x (List.mem_cons_of_mem a hx)
      rw [List.flatMap_cons, List.length_append]
      omega
  rw [encode_eq, List.length_append, length_heads_map]
  omega

theorem length_content_mod (a : Argument) : a.content.length % 32 = 0 := by
  cases a with
  | text s => exact length_content_mod_text s
  | texts items =>
    have htexts : (encode (items.map .text)).length % 32 = 0 := by
      refine length_encode_mod fun a ha => ?_
      obtain ⟨s, -, rfl⟩ := List.mem_map.1 ha
      exact length_content_mod_text s
    rw [Argument.content, List.length_append, numberWord, length_bigEndian]
    omega
  | _ => rfl

/-! ## Call data is unambiguous -/

theorem numberAt?_headWord {before after : List Argument} {a : Argument}
    (hsize : (encode (before ++ a :: after)).length < 2 ^ 256) (ha : a.content ≠ []) :
    numberAt? (encode (before ++ a :: after)) (32 * before.length) =
      some (position (before ++ a :: after) before) := by
  have hlaid := laidOut_encode (before ++ a :: after)
  have hposition : position (before ++ a :: after) before < 2 ^ 256 := by
    have hlength := hlaid.length
    simp only [position, List.flatMap_append, List.length_append] at hlength ⊢
    omega
  have hword := hlaid.headWord rfl
  cases a with
  | text s => exact numberAt?_of_standsAt hposition hword
  | texts items => exact numberAt?_of_standsAt hposition hword
  | _ => exact absurd rfl ha

/-- Call data is what the convention makes of the arguments, and tells them apart. The bytes that
are laid out for some arguments are the encoded ones, in whole words. The word of an argument with
content is the position of that content, and in a list of texts the positions are counted from
behind the number of texts. If the arguments take less than `2 ^ 64` bytes, a contract with
parameters of their types reads them, whatever follows; so no other arguments of the same types have
that encoding. A call is four bytes of a hash and the arguments. -/
theorem encode_unambiguous :
    (∀ args data, LaidOut args data ↔ data = encode args) ∧
    (∀ args, (encode args).length % 32 = 0) ∧
    (∀ (before after : List Argument) (a : Argument),
      (encode (before ++ a :: after)).length < 2 ^ 64 → a.content ≠ [] →
      numberAt? (encode (before ++ a :: after)) (32 * before.length) =
        some (position (before ++ a :: after) before)) ∧
    (∀ items : List String, ∃ data,
      (Argument.texts items).content = numberWord items.length ++ data ∧
        LaidOut (items.map .text) data) ∧
    (∀ args rest, (encode args).length < 2 ^ 64 →
      decode? (args.map Argument.kind) (encode args ++ rest) = some args) ∧
    (∀ args₁ args₂, (encode args₁).length < 2 ^ 64 →
      args₁.map Argument.kind = args₂.map Argument.kind → encode args₁ = encode args₂ →
      args₁ = args₂) ∧
    (∀ signature args, (selector signature).length = 4 ∧
      selector signature <+: (keccak256 (utf8 signature)).toList ∧
      encodeCall signature args = selector signature ++ encode args) := by
  have hread : ∀ args rest, (encode args).length < 2 ^ 64 →
      decode? (args.map Argument.kind) (encode args ++ rest) = some args := by
    intro args rest hsize
    exact decode?_encode (by omega) rest
  refine ⟨?_, ?_, ?_, ?_, hread, ?_, ?_⟩
  · intro args data
    exact laidOut_iff
  · intro args
    exact length_encode_mod fun a _ => length_content_mod a
  · intro before after a hsize ha
    exact numberAt?_headWord (by omega) ha
  · intro items
    exact ⟨_, rfl, laidOut_encode _⟩
  · intro args₁ args₂ hsize hkinds hsame
    have h₁ := hread args₁ [] hsize
    have h₂ := hread args₂ [] (hsame ▸ hsize)
    rw [hkinds, hsame, h₂] at h₁
    exact (Option.some.inj h₁).symm
  · intro signature args
    refine ⟨?_, List.take_prefix _ _, rfl⟩
    rw [selector, List.length_take, Vector.length_toList]
    decide

end LedgerLogin.Abi
