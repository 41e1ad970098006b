import LedgerLogin.Proofs.Json.Members
import LedgerLogin.Proofs.Json.Tokens

/-!
# Texts of values are read back

The compact text of a value is read as the value's document (`Document.parse?_text`), if the value
is `Writable`: its numbers are whole and fit 64 bits. It is read as the value (`parse?_text`), if the
value is `Canonical`: the members of its objects ascend too, and it does not nest too deep.

What the characters of a value are read as does not depend on where the value stands (`Spells`), and
each way to build a value keeps that.
-/

namespace LedgerLogin.Json

/-- Characters that are read as one document, wherever a value may stand. -/
def Spells (cs : List Char) (d : Document) : Prop :=
  ∃ ts : List Token,
    (∀ rest after, Ends rest → tokens? rest = some after → tokens? (cs ++ rest) = some (ts ++ after)) ∧
    ∀ frames, ts.foldlM Document.Reader.step ⟨frames, .value⟩ = some (.close d frames)

namespace Spells

open Document (Reader Frame)

theorem ofToken {cs : List Char} {d : Document} {t : Token}
    (htokens : ∀ rest after, Ends rest → tokens? rest = some after →
      tokens? (cs ++ rest) = some (t :: after))
    (hvalue : ∀ frames, Reader.openValue frames t = some (.close d frames)) : Spells cs d := by
  refine ⟨[t], htokens, fun frames => ?_⟩
  show (Reader.openValue frames t).bind some = _
  rw [hvalue]
  rfl

theorem ends_cons {c : Char} (h : c = ',' ∨ c = ']' ∨ c = '\x7d') (rest : List Char) :
    Ends (c :: rest) := by
  intro d after heq
  rwa [← (List.cons.inj heq).1]

/-- The first item of an array is read as any value. -/
theorem foldlM_firstItem {ts : List Token} {frames : List Frame} {before : List Document}
    {d : Document} (h : ∀ frames, ts.foldlM Reader.step ⟨frames, .value⟩ = some (.close d frames)) :
    ts.foldlM Reader.step ⟨.array before :: frames, .firstItem⟩ =
      some (.close d (.array before :: frames)) := by
  cases ts with
  | nil => 
    have hnil := h []
    cases hnil
  | cons t ts =>
    rw [← h, List.foldlM_cons, List.foldlM_cons]
    cases t with
    | rightBracket => 
      have hnone := h []
      cases hnone
    | _ => rfl

section
variable {items : List Json}

theorem ends_renderMoreItems (items : List Json) (rest : List Char) :
    Ends (renderMoreItems items ++ rest) := by
  cases items with
  | nil => exact ends_cons (.inr (.inl rfl)) _
  | cons item items => exact ends_cons (.inl rfl) _

theorem moreItems (h : ∀ j ∈ items, Spells j.render j.toDocument) :
    ∃ ts : List Token,
      (∀ rest after, Ends rest → tokens? rest = some after →
        tokens? (renderMoreItems items ++ rest) = some (ts ++ after)) ∧
      ∀ frames before, ts.foldlM Reader.step ⟨.array before :: frames, .afterItem⟩ =
        some (.close (.array (before.reverse ++ items.map toDocument)) frames) := by
  induction items with
  | nil =>
    refine ⟨[.rightBracket], fun rest after _ hafter => tokens?_cons rfl rfl hafter, ?_⟩
    intro frames before
    rw [List.map_nil, List.append_nil]
    rfl
  | cons j items ih =>
    obtain ⟨us, hus, hfold⟩ := h j List.mem_cons_self
    obtain ⟨vs, hvs, hmore⟩ := ih fun k hk => h k (List.mem_cons_of_mem j hk)
    refine ⟨.comma :: (us ++ vs), ?_, ?_⟩
    · intro rest after hends hafter
      have hitem := hus _ _ (ends_renderMoreItems items rest) (hvs rest after hends hafter)
      simp only [renderMoreItems, List.cons_append, List.append_assoc]
      exact tokens?_cons rfl rfl hitem
    · intro frames before
      rw [List.foldlM_cons]
      show (us ++ vs).foldlM Reader.step ⟨.array before :: frames, .value⟩ = _
      rw [List.foldlM_append, hfold]
      show vs.foldlM Reader.step ⟨.array (j.toDocument :: before) :: frames, .afterItem⟩ = _
      rw [hmore]
      simp

end

theorem array {items : List Json} (h : ∀ j ∈ items, Spells j.render j.toDocument) :
    Spells (Json.array items).render (Json.array items).toDocument := by
  rw [render, toDocument, toDocumentItems_eq_map]
  cases items with
  | nil =>
    refine ⟨[.leftBracket, .rightBracket], ?_, fun frames => rfl⟩
    intro rest after hends hafter
    exact tokens?_cons rfl rfl (tokens?_cons rfl rfl hafter)
  | cons j items =>
    obtain ⟨us, hus, hfold⟩ := h j List.mem_cons_self
    obtain ⟨vs, hvs, hmore⟩ := moreItems fun k hk => h k (List.mem_cons_of_mem j hk)
    refine ⟨.leftBracket :: (us ++ vs), ?_, ?_⟩
    · intro rest after hends hafter
      have hitem := hus _ _ (ends_renderMoreItems items rest) (hvs rest after hends hafter)
      simp only [renderItems, List.cons_append, List.append_assoc]
      exact tokens?_cons rfl rfl hitem
    · intro frames
      rw [List.foldlM_cons]
      show (us ++ vs).foldlM Reader.step ⟨.array [] :: frames, .firstItem⟩ = _
      rw [List.foldlM_append, foldlM_firstItem hfold]
      show vs.foldlM Reader.step ⟨.array [j.toDocument] :: frames, .afterItem⟩ = _
      rw [hmore]
      rfl

/-! ### Objects -/

theorem ends_renderMoreMembers (members : List (String × Json)) (rest : List Char) :
    Ends (renderMoreMembers members ++ rest) := by
  cases members with
  | nil => exact ends_cons (.inr (.inr rfl)) _
  | cons e members => exact ends_cons (.inl rfl) _

theorem tokens?_member (key : String) {cs more rest : List Char} {us after : List Token}
    (hvalue : ∀ rest after, Ends rest → tokens? rest = some after →
      tokens? (cs ++ rest) = some (us ++ after))
    (hends : Ends (more ++ rest)) (hmore : tokens? (more ++ rest) = some after) :
    tokens? (quote key ++ (':' :: (cs ++ (more ++ rest)))) =
      some (.string (some key) :: .colon :: (us ++ after)) :=
  tokens?_quote key (tokens?_cons rfl rfl (hvalue _ _ hends hmore))

theorem moreMembers {members : List (String × Json)}
    (h : ∀ e ∈ members, Spells e.2.render e.2.toDocument) :
    ∃ ts : List Token,
      (∀ rest after, Ends rest → tokens? rest = some after →
        tokens? (renderMoreMembers members ++ rest) = some (ts ++ after)) ∧
      ∀ frames before key, ts.foldlM Reader.step ⟨.object before key :: frames, .afterMember⟩ =
        some (.close (.object (before.reverse ++
          members.map fun e => (some e.1, e.2.toDocument))) frames) := by
  induction members with
  | nil =>
    refine ⟨[.rightBrace], fun rest after _ hafter => tokens?_cons rfl rfl hafter, ?_⟩
    intro frames before key
    rw [List.map_nil, List.append_nil]
    rfl
  | cons e members ih =>
    obtain ⟨name, j⟩ := e
    obtain ⟨us, hus, hfold⟩ := h _ List.mem_cons_self
    obtain ⟨vs, hvs, hmore⟩ := ih fun e he => h e (List.mem_cons_of_mem _ he)
    refine ⟨.comma :: .string (some name) :: .colon :: (us ++ vs), ?_, ?_⟩
    · intro rest after hends hafter
      have hmember := tokens?_member name hus (ends_renderMoreMembers members rest)
        (hvs rest after hends hafter)
      simp only [renderMoreMembers, List.cons_append, List.append_assoc]
      exact tokens?_cons rfl rfl hmember
    · intro frames before key
      show (us ++ vs).foldlM Reader.step ⟨.object before (some name) :: frames, .value⟩ = _
      rw [List.foldlM_append, hfold]
      show vs.foldlM Reader.step ⟨.object ((some name, j.toDocument) :: before) none :: frames,
        .afterMember⟩ = _
      rw [hmore]
      simp

theorem object {members : List (String × Json)}
    (h : ∀ e ∈ members, Spells e.2.render e.2.toDocument) :
    Spells (Json.object members).render (Json.object members).toDocument := by
  rw [render, toDocument, toDocumentMembers_eq_map]
  cases members with
  | nil =>
    refine ⟨[.leftBrace, .rightBrace], ?_, fun frames => rfl⟩
    intro rest after hends hafter
    exact tokens?_cons rfl rfl (tokens?_cons rfl rfl hafter)
  | cons e members =>
    obtain ⟨name, j⟩ := e
    obtain ⟨us, hus, hfold⟩ := h _ List.mem_cons_self
    obtain ⟨vs, hvs, hmore⟩ := moreMembers fun e he => h e (List.mem_cons_of_mem _ he)
    refine ⟨.leftBrace :: .string (some name) :: .colon :: (us ++ vs), ?_, ?_⟩
    · intro rest after hends hafter
      have hmember := tokens?_member name hus (ends_renderMoreMembers members rest)
        (hvs rest after hends hafter)
      simp only [renderMembers, List.cons_append, List.append_assoc]
      exact tokens?_cons rfl rfl hmember
    · intro frames
      show (us ++ vs).foldlM Reader.step ⟨.object [] (some name) :: frames, .value⟩ = _
      rw [List.foldlM_append, hfold]
      show vs.foldlM Reader.step ⟨.object [(some name, j.toDocument)] none :: frames,
        .afterMember⟩ = _
      rw [hmore]
      rfl

end Spells

/-- A value that can be written: its numbers are whole and fit 64 bits. -/
inductive Writable : Json → Prop
  | null : Writable .null
  | bool (b : Bool) : Writable (.bool b)
  | integer {i : Int} (h : Fits i) : Writable (.number (.integer i))
  | string (s : String) : Writable (.string s)
  | array {items : List Json} (h : ∀ j ∈ items, Writable j) : Writable (.array items)
  | object {members : List (String × Json)} (h : ∀ e ∈ members, Writable e.2) :
    Writable (.object members)

theorem Writable.spells {j : Json} (h : Writable j) : Spells j.render j.toDocument := by
  induction h with
  | null => exact .ofToken (fun rest after _ hafter => tokens?_cons rfl rfl hafter) fun _ => rfl
  | bool b =>
    cases b <;>
      exact .ofToken (fun rest after _ hafter => tokens?_cons rfl rfl hafter) fun _ => rfl
  | integer h =>
    exact .ofToken (fun rest after hends hafter => tokens?_integer h hends hafter) fun _ => rfl
  | string s => exact .ofToken (fun rest after _ hafter => tokens?_quote s hafter) fun _ => rfl
  | array _ ih => exact .array ih
  | object _ ih => exact .object ih

/-- A value that its text gives back: its numbers are whole and fit 64 bits, the members of its
objects ascend, and it nests at most as deep as the number says. -/
inductive Canonical : Nat → Json → Prop
  | null {n : Nat} : Canonical n .null
  | bool {n : Nat} (b : Bool) : Canonical n (.bool b)
  | integer {n : Nat} {i : Int} (h : Fits i) : Canonical n (.number (.integer i))
  | string {n : Nat} (s : String) : Canonical n (.string s)
  | array {n : Nat} {items : List Json} (h : ∀ j ∈ items, Canonical n j) :
    Canonical (n + 1) (.array items)
  | object {n : Nat} {members : List (String × Json)} (hascending : Ascending members)
    (h : ∀ e ∈ members, Canonical n e.2) : Canonical (n + 1) (.object members)

namespace Canonical

variable {n : Nat} {j : Json}

theorem writable (h : Canonical n j) : Writable j := by
  induction h with
  | null => exact .null
  | bool b => exact .bool b
  | integer h => exact .integer h
  | string s => exact .string s
  | array _ ih => exact .array ih
  | object _ _ ih => exact .object ih

theorem resolve? (h : Canonical n j) : j.toDocument.resolve? = some j := by
  induction h with
  | null => rfl
  | bool b => rfl
  | integer h => rfl
  | string s => rfl
  | array _ ih =>
    rw [toDocument, Document.resolve?, Document.resolveItems?_toDocumentItems ih]
    rfl
  | object hascending _ ih =>
    rw [toDocument, Document.resolve?, Document.resolveMembers?_toDocumentMembers ih,
      Option.map_some, ofMembers_of_ascending hascending]

theorem depth_le (h : Canonical n j) : j.toDocument.depth ≤ n := by
  induction h with
  | null => exact Nat.zero_le _
  | bool b => exact Nat.zero_le _
  | integer h => exact Nat.zero_le _
  | string s => exact Nat.zero_le _
  | array _ ih =>
    rw [toDocument, Document.depth]
    exact Nat.succ_le_succ (Document.depthOfItems_toDocumentItems_le ih)
  | object _ _ ih =>
    rw [toDocument, Document.depth]
    exact Nat.succ_le_succ (Document.depthOfMembers_toDocumentMembers_le ih)

theorem ofMembers {members : List (String × Json)} (h : ∀ e ∈ members, Canonical n e.2) :
    Canonical (n + 1) (ofMembers members) := by
  rw [ofMembers_eq_object]
  exact .object (StringMap.ofList members).ascending fun e he =>
    h e (StringMap.mem_of_mem_entries_ofList he)

end Canonical

theorem Document.parse?_text {j : Json} (h : Writable j) :
    Document.parse? j.text = some j.toDocument := by
  obtain ⟨ts, htokens, hfold⟩ := h.spells
  have hnone : Ends [] := fun _ _ heq => nomatch heq
  have hempty : tokens? [] = some [] := by rw [tokens?]
  have hall := htokens [] [] hnone hempty
  rw [List.append_nil, List.append_nil] at hall
  rw [Document.parse?, text, String.toList_ofList, hall]
  show Document.ofTokens? ts = _
  rw [ofTokens?, hfold]
  rfl

/-- The text of a value is read as the value, unless it nests too deep. -/
theorem parse?_text {n : Nat} {j : Json} (h : Canonical n j) (hn : n < 128) :
    parse? j.text = some j := by
  have hdepth : 0 + j.toDocument.depth < 128 := by
    have hle := h.depth_le
    omega
  rw [parse?, Document.parse?_text h.writable]
  show Document.toJson? 0 j.toDocument = _
  rw [Document.toJson?, if_pos hdepth, h.resolve?]

end LedgerLogin.Json
