import LedgerLogin.Proofs.Payload.Spelling

/-!
# The grammar of messages

A message is a run of fields. A field is a key with its value, or a group: a key that opens it,
fields inside, and a key of the same number that closes it. Fields that nobody knows may be of any
kind, and groups among them nest (`Unknown`). What a message gives is what its fields give one after
the other, and nothing else is a message (`read?_eq_some_iff`).
-/

namespace LedgerLogin.Wire

/-- A field that is skipped, with as many groups around it as `depth` says: a value of any kind, or
a group of such fields. -/
inductive Unknown (limit : Nat) : (depth field : Nat) → Bytes → Prop
  | plain {depth field : Nat} {kind : Kind} {k v : Bytes} {t : Token} (hdepth : depth < limit)
      (hkey : Key field kind k) (hvalue : Value field kind v t) :
      Unknown limit depth field (k ++ v)
  | group {depth field : Nat} {fields : List (Nat × Bytes)} {opening closing : Bytes}
      (hdepth : depth < limit) (hopening : Key field .startGroup opening)
      (hfields : ∀ x ∈ fields, Unknown limit (depth + 1) x.1 x.2)
      (hclosing : Key field .endGroup closing) :
      Unknown limit depth field (opening ++ fields.flatMap Prod.snd ++ closing)

variable {α : Type} {f : Format α} {field : Nat} {bs rest : Bytes} {t : Token}

/-! ## The reader token by token -/

theorem Reader.exists_token {r r' : Reader α} (hrun : r.run f bs = some r') (hne : bs ≠ []) :
    ∃ t rest r₁, next? (r.delimited f) bs = some (t, rest) ∧ r.step f t = some r₁ ∧
      r₁.run f rest = some r' := by
  rw [run, if_neg (by simpa using hne)] at hrun
  split at hrun
  · cases hrun
  · rename_i t rest hnext
    obtain ⟨r₁, hstep, hrest⟩ := Option.bind_eq_some_iff.1 hrun
    exact ⟨t, rest, r₁, hnext, hstep, hrest⟩

theorem Reader.step_value {kind : Kind} {v : Bytes} {r : Reader α} (hvalue : Value field kind v t)
    (hdepth : r.groups.length < f.limit) :
    r.step f t = (r.take f t).map fun a => ⟨r.groups, a⟩ := by
  cases hvalue <;> exact if_pos hdepth

theorem Reader.step_value_eq_some {kind : Kind} {v : Bytes} {r r' : Reader α}
    (hvalue : Value field kind v t) (hstep : r.step f t = some r') :
    r.groups.length < f.limit ∧ ∃ a, r.take f t = some a ∧ r' = ⟨r.groups, a⟩ := by
  have hdepth : r.groups.length < f.limit := by
    by_contra hdeep
    cases hvalue <;> simp [step, hdeep] at hstep
  rw [step_value hvalue hdepth] at hstep
  obtain ⟨a, ha, rfl⟩ := Option.map_eq_some_iff.1 hstep
  exact ⟨hdepth, a, ha, rfl⟩

theorem Reader.step_startGroup_eq_some {r r' : Reader α}
    (hstep : r.step f (.startGroup field) = some r') :
    r.groups.length < f.limit ∧ ∃ a, r.take f (.startGroup field) = some a ∧
      r' = ⟨field :: r.groups, a⟩ := by
  simp only [step] at hstep
  split at hstep
  · rename_i hdepth
    obtain ⟨a, ha, rfl⟩ := Option.map_eq_some_iff.1 hstep
    exact ⟨hdepth, a, ha, rfl⟩
  · cases hstep

theorem Reader.step_endGroup_eq_some {r r' : Reader α}
    (hstep : r.step f (.endGroup field) = some r') : r.groups = field :: r'.groups ∧
      r'.content = r.content := by
  simp only [step] at hstep
  split at hstep
  · cases hstep
  · rename_i g outer hgroups
    split at hstep
    · rename_i hsame
      cases hstep
      rw [hgroups, hsame]
      exact ⟨rfl, rfl⟩
    · cases hstep

/-! ## Groups are skipped -/

theorem Reader.take_inside {r : Reader α} (hinside : r.groups ≠ []) (t : Token) :
    r.take f t = some r.content := by
  rw [take, if_neg (by simpa using hinside)]

theorem Reader.delimited_inside {r : Reader α} (hinside : r.groups ≠ []) : r.delimited f = [] := by
  rw [delimited, if_neg (by simpa using hinside)]

theorem Reader.run_closing {closing : Bytes} {groups : List Nat} {a : α}
    (h : Key field .endGroup closing) (rest : Bytes) :
    Reader.run f ⟨field :: groups, a⟩ (closing ++ rest) = Reader.run f ⟨groups, a⟩ rest := by
  have hnext : next? (Reader.delimited f ⟨field :: groups, a⟩) (closing ++ rest) =
      some (.endGroup field, rest) := by
    rw [delimited_inside (by simp), next?_of_key h]
    rfl
  exact run_token hnext (if_pos rfl)

theorem Reader.run_flatMap {fields : List (Nat × Bytes)} {r : Reader α}
    (h : ∀ x ∈ fields, ∀ rest, r.run f (x.2 ++ rest) = r.run f rest) (rest : Bytes) :
    r.run f (fields.flatMap Prod.snd ++ rest) = r.run f rest := by
  induction fields with
  | nil => rfl
  | cons x fields ih =>
    rw [List.flatMap_cons, List.append_assoc, h x List.mem_cons_self]
    exact ih fun y hy => h y (List.mem_cons_of_mem x hy)

/-- Inside a group a field leaves no trace. -/
theorem Reader.run_unknown {depth : Nat} {u : Bytes} (h : Unknown f.limit depth field u)
    {r : Reader α} (hinside : r.groups ≠ []) (hdepth : r.groups.length = depth) (rest : Bytes) :
    r.run f (u ++ rest) = r.run f rest := by
  induction h generalizing r rest with
  | @plain depth field kind k v t hlimit hkey hvalue =>
    have hnext : next? (r.delimited f) (k ++ v ++ rest) = some (t, rest) := by
      rw [delimited_inside hinside]
      exact next?_of_value hkey (readAs_nil field kind ▸ hvalue) rest
    refine run_token hnext ?_
    rw [step_value hvalue (by omega), take_inside hinside]
    rfl
  | @group depth field fields opening closing hlimit hopening hfields hclosing ih =>
    have hnext : next? (r.delimited f) (opening ++ (fields.flatMap Prod.snd ++ (closing ++ rest))) =
        some (.startGroup field, fields.flatMap Prod.snd ++ (closing ++ rest)) := by
      rw [delimited_inside hinside, next?_of_key hopening]
      rfl
    have hopen : r.step f (.startGroup field) = some ⟨field :: r.groups, r.content⟩ := by
      simp only [step]
      rw [if_pos (by omega), take_inside hinside]
      rfl
    have hinner : ∀ x ∈ fields, ∀ rest, Reader.run f ⟨field :: r.groups, r.content⟩
        (x.2 ++ rest) = Reader.run f ⟨field :: r.groups, r.content⟩ rest := by
      intro x hx rest
      exact ih x hx (by simp) (by simp [hdepth]) rest
    rw [List.append_assoc, List.append_assoc, run_token hnext hopen, run_flatMap hinner,
      run_closing hclosing]

/-- What a reader inside a group has read by the end is some fields, the key that closes the group,
and what the reader outside reads. -/
theorem Reader.exists_closing {groups : List Nat} {a : α} {r' : Reader α}
    (hrun : Reader.run f ⟨field :: groups, a⟩ bs = some r') (hclosed : r'.groups = []) :
    ∃ (fields : List (Nat × Bytes)) (closing rest : Bytes),
      bs = fields.flatMap Prod.snd ++ (closing ++ rest) ∧
      (∀ x ∈ fields, Unknown f.limit (groups.length + 1) x.1 x.2) ∧
      Key field .endGroup closing ∧ Reader.run f ⟨groups, a⟩ rest = some r' := by
  -- A group inside is followed by shorter bytes, in which this one is still open.
  induction hsize : bs.length using Nat.strongRecOn generalizing bs field groups with
  | ind size ih =>
    have hne : bs ≠ [] := by
      rintro rfl
      rw [Reader.run_nil] at hrun
      cases hrun
      cases hclosed
    obtain ⟨t, rest, r₁, hnext, hstep, hrest⟩ := exists_token hrun hne
    have hshorter := length_next hnext
    rw [delimited_inside (by simp)] at hnext
    rcases next?_cases hnext with ⟨number, kind, k, v, rfl, hkey, hvalue⟩ |
      ⟨number, k, rfl, -, hkey, rfl⟩ | ⟨number, k, rfl, -, hkey, rfl⟩
    · rw [readAs_nil] at hvalue
      obtain ⟨hdepth, b, hb, rfl⟩ := step_value_eq_some hvalue hstep
      rw [take_inside (by simp)] at hb
      cases hb
      obtain ⟨fields, closing, rest', rfl, hfields, hclosing, hafter⟩ :=
        ih _ (by omega) hrest rfl
      refine ⟨(number, k ++ v) :: fields, closing, rest', ?_, ?_, hclosing, hafter⟩
      · simp only [List.flatMap_cons, List.append_assoc]
      · intro x hx
        rcases List.mem_cons.1 hx with rfl | hx
        · exact .plain hdepth hkey hvalue
        · exact hfields x hx
    · obtain ⟨hdepth, b, hb, rfl⟩ := step_startGroup_eq_some hstep
      rw [take_inside (by simp)] at hb
      cases hb
      obtain ⟨inner, closing, rest₁, rfl, hinner, hclosing, hafter⟩ :=
        ih _ (by omega) hrest rfl
      simp only [List.length_append] at hshorter hsize
      obtain ⟨fields, closing', rest', rfl, hfields, hclosing', hafter'⟩ :=
        ih rest₁.length (by omega) hafter rfl
      refine ⟨(number, k ++ inner.flatMap Prod.snd ++ closing) :: fields, closing', rest', ?_, ?_,
        hclosing', hafter'⟩
      · simp only [List.flatMap_cons, List.append_assoc]
      · intro x hx
        rcases List.mem_cons.1 hx with rfl | hx
        · exact .group hdepth hkey hinner hclosing
        · exact hfields x hx
    · obtain ⟨outer, content⟩ := r₁
      obtain ⟨hsame, hcontent⟩ := step_endGroup_eq_some hstep
      cases hsame
      cases hcontent
      exact ⟨[], k, rest, rfl, by simp, hkey, hrest⟩

/-! ## Fields of a message -/

/-- A field of the message itself, and the token that the format applies for it. -/
inductive IsField (f : Format α) : (field : Nat) → Bytes → Token → Prop
  | plain {field : Nat} {kind : Kind} {k v : Bytes} {t : Token} (hkey : Key field kind k)
      (hvalue : Value field (readAs f.delimited field kind) v t) : IsField f field (k ++ v) t
  | group {field : Nat} {fields : List (Nat × Bytes)} {opening closing : Bytes}
      (hfield : field ∉ f.delimited) (hopening : Key field .startGroup opening)
      (hfields : ∀ x ∈ fields, Unknown f.limit 1 x.1 x.2) (hclosing : Key field .endGroup closing) :
      IsField f field (opening ++ fields.flatMap Prod.snd ++ closing) (.startGroup field)

theorem IsField.length_pos (h : IsField f field bs t) : 0 < bs.length := by
  cases h with
  | plain hkey hvalue =>
    have hpos := hkey.spells.digits.length_pos
    rw [List.length_append]
    omega
  | group hfield hopening hfields hclosing =>
    have hpos := hopening.spells.digits.length_pos
    rw [List.length_append, List.length_append]
    omega

theorem IsField.token_field (h : IsField f field bs t) : t.field = field := by
  cases h with
  | plain hkey hvalue =>
    generalize readAs f.delimited field _ = kind at hvalue
    cases hvalue <;> rfl
  | group hfield hopening hfields hclosing => rfl

theorem IsField.of_varint {number n : Nat} (h : IsField f field bs (.varint number n)) :
    ∃ kind k v, readAs f.delimited field kind = .varint ∧ Key field kind k ∧ Varint.Spells v n ∧
      bs = k ++ v := by
  cases h with
  | @plain kind k v _ hkey hvalue =>
    generalize hkind : readAs f.delimited field kind = called at hvalue
    cases hvalue with
    | varint h => exact ⟨kind, k, v, hkind, hkey, h, rfl⟩

theorem IsField.of_delimited {number : Nat} {s : Bytes}
    (h : IsField f field bs (.delimited number s)) :
    ∃ kind k length, readAs f.delimited field kind = .delimited ∧ Key field kind k ∧
      Varint.Spells length s.length ∧ bs = k ++ (length ++ s) := by
  cases h with
  | @plain kind k _ _ hkey hvalue =>
    generalize hkind : readAs f.delimited field kind = called at hvalue
    cases hvalue with
    | @delimited length _ h => exact ⟨kind, k, length, hkind, hkey, h, rfl⟩

/-- A field that is not known to hold bytes may be of any kind, like those that nobody knows. -/
theorem IsField.unknown (h : IsField f field bs t) (hfield : field ∉ f.delimited)
    (hlimit : 0 < f.limit) : Unknown f.limit 0 field bs := by
  cases h with
  | plain hkey hvalue =>
    rw [readAs, if_neg hfield] at hvalue
    exact .plain hlimit hkey hvalue
  | group _ hopening hfields hclosing => exact .group hlimit hopening hfields hclosing

theorem Unknown.exists_isField (h : Unknown f.limit 0 field bs) (hfield : field ∉ f.delimited) :
    ∃ t, IsField f field bs t := by
  cases h with
  | @plain _ _ _ _ _ t hdepth hkey hvalue =>
    refine ⟨t, .plain hkey ?_⟩
    rw [readAs, if_neg hfield]
    exact hvalue
  | group hdepth hopening hfields hclosing => exact ⟨_, .group hfield hopening hfields hclosing⟩

theorem Reader.run_isField {a b : α} (h : IsField f field bs t) (hlimit : 0 < f.limit)
    (happly : f.apply a t = some b) (rest : Bytes) :
    Reader.run f ⟨[], a⟩ (bs ++ rest) = Reader.run f ⟨[], b⟩ rest := by
  cases h with
  | plain hkey hvalue =>
    refine run_token (next?_of_value hkey hvalue rest) ?_
    rw [step_value (r := ⟨[], a⟩) hvalue hlimit]
    show (f.apply a t).map _ = _
    rw [happly]
    rfl
  | @group fields opening closing hfield hopening hfields hclosing =>
    have hnext : next? (Reader.delimited f ⟨[], a⟩)
        (opening ++ (fields.flatMap Prod.snd ++ (closing ++ rest))) =
        some (.startGroup field, fields.flatMap Prod.snd ++ (closing ++ rest)) := by
      show next? f.delimited _ = _
      rw [next?_of_key hopening, readAs, if_neg hfield]
      rfl
    have hopen : Reader.step f ⟨[], a⟩ (.startGroup field) = some ⟨[field], b⟩ := by
      show (if 0 < f.limit then (f.apply a (.startGroup field)).map _ else none) = _
      rw [if_pos hlimit, happly]
      rfl
    have hinner : ∀ x ∈ fields, ∀ rest, Reader.run f ⟨[field], b⟩ (x.2 ++ rest) =
        Reader.run f ⟨[field], b⟩ rest := by
      intro x hx rest
      exact run_unknown (hfields x hx) (by simp) rfl rest
    rw [List.append_assoc, List.append_assoc, run_token hnext hopen, run_flatMap hinner,
      run_closing hclosing]

theorem Reader.exists_isField {a : α} {r' : Reader α} (hrun : Reader.run f ⟨[], a⟩ bs = some r')
    (hclosed : r'.groups = []) (hne : bs ≠ []) :
    ∃ field u t b rest, bs = u ++ rest ∧ IsField f field u t ∧ f.apply a t = some b ∧
      Reader.run f ⟨[], b⟩ rest = some r' := by
  obtain ⟨t, rest, r₁, hnext, hstep, hrest⟩ := exists_token hrun hne
  rcases next?_cases hnext with ⟨field, kind, k, v, rfl, hkey, hvalue⟩ |
    ⟨field, k, rfl, hfield, hkey, rfl⟩ | ⟨field, k, rfl, -, hkey, rfl⟩
  · obtain ⟨-, b, hb, rfl⟩ := step_value_eq_some hvalue hstep
    exact ⟨field, k ++ v, t, b, rest, rfl, .plain hkey hvalue, hb, hrest⟩
  · obtain ⟨-, b, hb, rfl⟩ := step_startGroup_eq_some hstep
    obtain ⟨fields, closing, rest', rfl, hfields, hclosing, hafter⟩ := exists_closing hrest hclosed
    refine ⟨field, k ++ fields.flatMap Prod.snd ++ closing, _, b, rest', ?_,
      .group hfield hkey hfields hclosing, hb, hafter⟩
    simp only [List.append_assoc]
  · obtain ⟨hnone, -⟩ := step_endGroup_eq_some hstep
    cases hnone

/-! ## Messages -/

/-- A message as a run of fields, from what there is before to what there is after them. -/
inductive Reads (f : Format α) : α → Bytes → α → Prop
  | nil (a : α) : Reads f a [] a
  | field {field : Nat} {a b c : α} {bs rest : Bytes} {t : Token} (h : IsField f field bs t)
      (happly : f.apply a t = some b) (hrest : Reads f b rest c) : Reads f a (bs ++ rest) c

theorem Reads.run {a b : α} (h : Reads f a bs b) (hlimit : 0 < f.limit) (rest : Bytes) :
    Reader.run f ⟨[], a⟩ (bs ++ rest) = Reader.run f ⟨[], b⟩ rest := by
  induction h with
  | nil a => rfl
  | field h happly hrest ih =>
    rw [List.append_assoc, Reader.run_isField h hlimit happly, ih]

theorem reads_of_run {a b : α} (h : Reader.run f ⟨[], a⟩ bs = some ⟨[], b⟩) : Reads f a bs b := by
  -- Each field leaves fewer bytes to read.
  induction hsize : bs.length using Nat.strongRecOn generalizing bs a with
  | ind size ih =>
    by_cases hne : bs = []
    · subst hne
      rw [Reader.run_nil] at h
      cases h
      exact .nil b
    · obtain ⟨field, u, t, a', rest, rfl, hfield, happly, hrest⟩ := Reader.exists_isField h rfl hne
      have hpos := hfield.length_pos
      rw [List.length_append] at hsize
      exact .field hfield happly (ih _ (by omega) hrest rfl)

theorem read?_eq_some {a b : α} :
    read? f a bs = some b ↔ Reader.run f ⟨[], a⟩ bs = some ⟨[], b⟩ := by
  rw [read?]
  constructor
  · intro h
    obtain ⟨r, hr, hclosed⟩ := Option.bind_eq_some_iff.1 h
    split at hclosed
    · rename_i hempty
      obtain ⟨groups, content⟩ := r
      obtain rfl : groups = [] := List.isEmpty_iff.1 hempty
      cases hclosed
      exact hr
    · cases hclosed
  · intro h
    simp only [h, bind, Option.bind_some, List.isEmpty_nil, if_true]

/-- What is read is what the grammar says. -/
theorem read?_eq_some_iff (hlimit : 0 < f.limit) {a b : α} :
    read? f a bs = some b ↔ Reads f a bs b := by
  rw [read?_eq_some]
  constructor
  · exact reads_of_run
  · intro h
    have hrun := h.run hlimit []
    rwa [List.append_nil, Reader.run_nil] at hrun

theorem read?_eq_none_of_next? {a : α} (hne : bs ≠ []) (hnext : next? f.delimited bs = none) :
    read? f a bs = none := by
  refine Option.eq_none_iff_forall_ne_some.2 ?_
  intro b hread
  obtain ⟨t, rest, r, hsome, -, -⟩ := Reader.exists_token (read?_eq_some.1 hread) hne
  have hdelimited : Reader.delimited f ⟨[], a⟩ = f.delimited := rfl
  rw [hdelimited, hnext] at hsome
  cases hsome

theorem read?_append (hlimit : 0 < f.limit) {a b : α} (h : read? f a bs = some b) (rest : Bytes) :
    read? f a (bs ++ rest) = read? f b rest := by
  rw [read?, read?, ((read?_eq_some_iff hlimit).1 h).run hlimit]

end LedgerLogin.Wire
