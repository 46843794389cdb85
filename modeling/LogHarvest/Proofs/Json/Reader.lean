import LogHarvest.Proofs.Json.Strings

/-!
# Reading values that were written

What is read from the text of a value, whatever follows it: nulls are read as they were, and strings
with their surrogates joined, at any depth of arrays and objects. The reader's fuel is twice the
length of the text, which is enough since every level of nesting takes two codes of it.
-/

namespace LogHarvest.Json

variable {fuel place : Nat} {w : Text}

/-! ### Blanks -/

/-- One of the four codes that may stand around a value. -/
def IsBlank (c : Code) : Prop := c = ' ' ∨ c = '\t' ∨ c = '\n' ∨ c = '\r'

instance : DecidablePred IsBlank := fun c =>
  inferInstanceAs (Decidable (c = ' ' ∨ c = '\t' ∨ c = '\n' ∨ c = '\r'))

theorem Tail.skipBlanks_of_not_isBlank {c : Code} (hc : ¬IsBlank c) :
    Tail.skipBlanks ⟨place, c :: w⟩ = ⟨place, c :: w⟩ := by
  simp only [IsBlank, not_or] at hc
  simp [Tail.skipBlanks, Tail.drop, hc]

theorem Tail.skipBlanks_space {c : Code} (hc : ¬IsBlank c) :
    Tail.skipBlanks ⟨place, (' ' : Code) :: c :: w⟩ = ⟨place + 1, c :: w⟩ := by
  simp only [IsBlank, not_or] at hc
  simp [Tail.skipBlanks, Tail.drop, hc]

/-! ### Values -/

/-- A code that the text of a null, a string, an array or an object starts with. -/
def StartsValue (c : Code) : Prop := c = 'n' ∨ c = '"' ∨ c = '[' ∨ c = ('\x7b' : Char)

theorem StartsValue.plain {c : Code} (h : StartsValue c) :
    ¬IsBlank c ∧ c ≠ ']' ∧ c ≠ ⟨0xFEFF⟩ := by
  obtain rfl | rfl | rfl | rfl := h <;> decide

/-- A value is read from the text of another one, whatever follows the text. -/
structure ReadsAs (v read : Json) : Prop where
  starts : ∃ c rest, v.toText = c :: rest ∧ StartsValue c
  reads : ∀ {fuel place w}, 2 * v.toText.length ≤ fuel →
    readValue fuel ⟨place, v.toText ++ w⟩ = .ok (read, ⟨place + v.toText.length, w⟩)

variable {v read : Json}

theorem ReadsAs.skipBlanks (h : ReadsAs v read) :
    Tail.skipBlanks ⟨place, v.toText ++ w⟩ = ⟨place, v.toText ++ w⟩ := by
  obtain ⟨c, rest, hstart, hc⟩ := h.starts
  rw [hstart, List.cons_append, Tail.skipBlanks_of_not_isBlank hc.plain.1]

theorem ReadsAs.skipBlanks_space (h : ReadsAs v read) :
    Tail.skipBlanks ⟨place, (' ' : Code) :: (v.toText ++ w)⟩ = ⟨place + 1, v.toText ++ w⟩ := by
  obtain ⟨c, rest, hstart, hc⟩ := h.starts
  rw [hstart, List.cons_append, Tail.skipBlanks_space hc.plain.1]

theorem readsAs_null : ReadsAs .null .null := by
  have htext : Json.null.toText = ['n', 'u', 'l', 'l'] := by rw [toText]; decide
  refine ⟨⟨_, _, htext, .inl rfl⟩, fun {fuel place w} hfuel => ?_⟩
  rw [htext] at hfuel ⊢
  obtain ⟨fuel, rfl⟩ := Nat.exists_eq_add_one_of_ne_zero (Nat.ne_zero_of_lt hfuel)
  rw [readValue]
  rfl

/-! ### Strings -/

theorem escape_ne_nil (c : Code) : escape c ≠ [] := by
  unfold escape
  split_ifs <;> simp [escapeUnit]

theorem length_le_length_flatMap_escape (t : Text) : t.length ≤ (t.flatMap escape).length := by
  induction t with
  | nil => exact Nat.le_refl 0
  | cons c t ih =>
      have := List.length_pos_iff.2 (escape_ne_nil c)
      rw [List.flatMap_cons, List.length_append, List.length_cons]
      omega

theorem quote_append (t w : Text) :
    quote t ++ w = ('"' : Code) :: (t.flatMap escape ++ ('"' : Code) :: w) := by
  simp only [quote, List.cons_append, List.append_assoc, List.nil_append]

theorem length_quote (t : Text) : (quote t).length = (t.flatMap escape).length + 2 := by
  rw [quote, List.length_append, List.length_cons, List.length_singleton]

/-- What was put between quotes is read up to the closing quote. -/
theorem readString_quote {t : Text} (ht : t.IsDecoded) (opening place : Nat) (w : Text) :
    readString opening (quote t ++ w).length (Tail.drop ⟨place, quote t ++ w⟩ 1) =
      .ok (t.rejoined, ⟨place + (quote t).length, w⟩) := by
  have hlength := length_le_length_flatMap_escape t
  have hfuel : t.length < (quote t ++ w).length := by
    rw [List.length_append, length_quote]
    omega
  have hplace : place + 1 + (t.flatMap escape).length + 1 = place + (quote t).length := by
    rw [length_quote]
    omega
  have hread := readString_flatMap_escape ht opening (place + 1) hfuel w
  rw [hplace] at hread
  rwa [quote_append] at hread ⊢

theorem readsAs_string {t : Text} (ht : t.IsDecoded) :
    ReadsAs (.string t) (.string t.rejoined) := by
  have htext : (Json.string t).toText = quote t := by rw [toText]
  refine ⟨⟨_, _, htext, .inr (.inl rfl)⟩, fun {fuel place w} hfuel => ?_⟩
  rw [htext] at hfuel ⊢
  obtain ⟨fuel, rfl⟩ : ∃ n, fuel = n + 1 := ⟨fuel - 1, by rw [length_quote] at hfuel; omega⟩
  have hread := readString_quote ht place place w
  rw [quote_append] at hread ⊢
  rw [readValue]
  dsimp only
  rw [if_pos rfl, hread]
  rfl

/-! ### Arrays -/

theorem itemsText_cons_cons (v next : Json) (items : List Json) :
    itemsText (v :: next :: items) =
      v.toText ++ ((',' : Code) :: (' ' : Code) :: itemsText (next :: items)) := by
  rw [itemsText, List.append_assoc]
  · rfl
  · simp

theorem ReadsAs.starts_itemsText (h : ReadsAs v read) (items : List Json) :
    ∃ c rest, itemsText (v :: items) = c :: rest ∧ StartsValue c := by
  obtain ⟨c, rest, hstart, hc⟩ := h.starts
  cases items with
  | nil => exact ⟨c, rest, by rw [itemsText, hstart], hc⟩
  | cons next items => exact ⟨c, _, by rw [itemsText_cons_cons, hstart, List.cons_append], hc⟩

theorem readItems_last (hv : ReadsAs v read) (hfuel : 2 * v.toText.length ≤ fuel) (place : Nat)
    (w : Text) :
    readItems (fuel + 1) ⟨place, v.toText ++ (']' : Code) :: w⟩ =
      .ok ([read], ⟨place + v.toText.length + 1, w⟩) := by
  rw [readItems, hv.reads hfuel]
  dsimp only [Bind.bind, Except.bind]
  rw [Tail.skipBlanks_of_not_isBlank (by decide)]
  rfl

theorem readItems_more {reads : List Json} {tail : Tail} {c : Code} (hv : ReadsAs v read)
    (hfuel : 2 * v.toText.length ≤ fuel) (hc : StartsValue c)
    (h : readItems fuel ⟨place + v.toText.length + 2, c :: w⟩ = .ok (reads, tail)) :
    readItems (fuel + 1) ⟨place, v.toText ++ (',' : Code) :: (' ' : Code) :: c :: w⟩ =
      .ok (read :: reads, tail) := by
  rw [readItems, hv.reads hfuel]
  dsimp only [Bind.bind, Except.bind]
  rw [Tail.skipBlanks_of_not_isBlank (by decide)]
  dsimp only
  rw [if_neg (by decide), if_pos rfl, Tail.drop_mk_cons, Tail.skipBlanks_space hc.plain.1, h]
  rfl

/-- The items of an array are read in their order up to the closing bracket. -/
theorem readItems_itemsText {items reads : List Json} (h : List.Forall₂ ReadsAs items reads)
    (hitems : items ≠ []) {fuel : Nat} (hfuel : 2 * (itemsText items).length < fuel)
    (place : Nat) (w : Text) :
    readItems fuel ⟨place, itemsText items ++ (']' : Code) :: w⟩ =
      .ok (reads, ⟨place + (itemsText items).length + 1, w⟩) := by
  induction h generalizing fuel place with
  | nil => exact absurd rfl hitems
  | @cons v read items reads hv hrest ih =>
      obtain ⟨fuel, rfl⟩ := Nat.exists_eq_add_one_of_ne_zero (Nat.ne_zero_of_lt hfuel)
      cases hrest with
      | nil =>
          rw [itemsText] at hfuel ⊢
          exact readItems_last hv (by omega) place w
      | @cons next nextRead items reads hnext hrest =>
          obtain ⟨c, rest, hstart, hc⟩ := hnext.starts_itemsText items
          rw [itemsText_cons_cons, List.length_append, List.length_cons, List.length_cons] at hfuel
          have hread := ih (List.cons_ne_nil next items) (show _ < fuel by omega)
            (place + v.toText.length + 2)
          have hplace : place + (itemsText (v :: next :: items)).length + 1 =
              place + v.toText.length + 2 + (itemsText (next :: items)).length + 1 := by
            rw [itemsText_cons_cons, List.length_append, List.length_cons, List.length_cons]
            omega
          rw [hplace, itemsText_cons_cons, List.append_assoc, List.cons_append, List.cons_append]
          rw [hstart, List.cons_append] at hread ⊢
          exact readItems_more hv (by omega) hc hread

theorem readsAs_array {items reads : List Json} (h : List.Forall₂ ReadsAs items reads) :
    ReadsAs (.array items) (.array reads) := by
  have htext : (Json.array items).toText = ('[' : Code) :: (itemsText items ++ [(']' : Code)]) := by
    rw [toText]
    rfl
  refine ⟨⟨_, _, htext, .inr (.inr (.inl rfl))⟩, fun {fuel place w} hfuel => ?_⟩
  rw [htext, List.length_cons, List.length_append, List.length_singleton] at hfuel ⊢
  obtain ⟨fuel, rfl⟩ : ∃ n, fuel = n + 1 := ⟨fuel - 1, by omega⟩
  rw [List.cons_append, List.append_assoc, List.singleton_append, readValue]
  dsimp only
  rw [if_neg (by decide), if_pos rfl, Tail.drop_mk_cons]
  cases h with
  | nil =>
      rw [itemsText, List.nil_append, Tail.skipBlanks_of_not_isBlank (by decide)]
      rfl
  | @cons v read items reads hv hrest =>
      obtain ⟨c, rest, hstart, hc⟩ := hv.starts_itemsText items
      have hread := readItems_itemsText (.cons hv hrest) (List.cons_ne_nil v items)
        (show _ < fuel by omega) (place + 1) w
      have hplace : place + 1 + (itemsText (v :: items)).length + 1 =
          place + ((itemsText (v :: items)).length + 1 + 1) := by
        omega
      rw [hplace] at hread
      generalize (itemsText (v :: items)).length = length at hread
      rw [hstart, List.cons_append] at hread ⊢
      rw [Tail.skipBlanks_of_not_isBlank hc.plain.1]
      dsimp only
      rw [if_neg hc.plain.2.1, hread]
      rfl

/-! ### Objects -/

/-- A member is read from the text of another one. -/
structure MemberReadsAs (m read : Text × Json) : Prop where
  key : m.1.IsDecoded
  joins : read.1 = m.1.rejoined
  value : ReadsAs m.2 read.2

/-- A name without surrogates to join is read as it was. -/
theorem MemberReadsAs.ofValue {key : Text} (hkey : key.IsDecoded) (hjoins : key.Unpaired)
    (hv : ReadsAs v read) : MemberReadsAs (key, v) (key, read) :=
  ⟨hkey, hjoins.rejoined.symm, hv⟩

/-- The text of a member before what separates it from the next one. -/
def memberText (m : Text × Json) : Text := quote m.1 ++ (':' : Code) :: (' ' : Code) :: m.2.toText

theorem membersText_singleton (m : Text × Json) : membersText [m] = memberText m := by
  rw [membersText, memberText, List.append_assoc]
  rfl

theorem membersText_cons_cons (m next : Text × Json) (members : List (Text × Json)) :
    membersText (m :: next :: members) =
      memberText m ++ (',' : Code) :: (' ' : Code) :: membersText (next :: members) := by
  rw [membersText, memberText]
  · simp only [List.append_assoc, List.cons_append]
    rfl
  · simp

theorem memberText_eq (m : Text × Json) : ∃ rest, memberText m = ('"' : Code) :: rest :=
  ⟨_, by rw [memberText, quote_append]⟩

theorem starts_membersText (m : Text × Json) (members : List (Text × Json)) :
    ∃ rest, membersText (m :: members) = ('"' : Code) :: rest := by
  obtain ⟨rest, hstart⟩ := memberText_eq m
  cases members with
  | nil => exact ⟨rest, by rw [membersText_singleton, hstart]⟩
  | cons next members => exact ⟨_, by rw [membersText_cons_cons, hstart, List.cons_append]⟩

variable {m entry : Text × Json}

/-- A member is read up to what follows it, and with it whether it is the last one. -/
theorem readMembers_memberText {d : Code} (hm : MemberReadsAs m entry)
    (hfuel : 2 * m.2.toText.length ≤ fuel) (hd : ¬IsBlank d) (place : Nat) (w : Text) :
    readMembers (fuel + 1) ⟨place, memberText m ++ d :: w⟩ =
      if d = ('\x7d' : Char) then .ok ([entry], ⟨place + (memberText m).length + 1, w⟩)
      else if d = ',' then do
        let (rest, t) ← readMembers fuel
          (Tail.skipBlanks ⟨place + (memberText m).length + 1, w⟩)
        pure (entry :: rest, t)
      else Tail.fail ⟨place + (memberText m).length, d :: w⟩ .comma := by
  obtain ⟨key, v⟩ := m
  obtain ⟨key', read⟩ := entry
  obtain ⟨hkey, rfl, hv⟩ := hm
  dsimp only at hkey hv hfuel ⊢
  have hplace : place + (quote key).length + 1 + 1 + v.toText.length =
      place + (memberText (key, v)).length := by
    rw [memberText, List.length_append, List.length_cons, List.length_cons]
    dsimp only
    omega
  have hread := readString_quote hkey place place
    ((':' : Code) :: (' ' : Code) :: (v.toText ++ d :: w))
  rw [← hplace, memberText, List.append_assoc, List.cons_append, List.cons_append]
  rw [quote_append] at hread ⊢
  rw [readMembers]
  dsimp only
  rw [if_pos rfl, hread]
  dsimp only [Bind.bind, Except.bind]
  rw [Tail.skipBlanks_of_not_isBlank (by decide)]
  dsimp only
  rw [if_pos rfl, Tail.drop_mk_cons, hv.skipBlanks_space, hv.reads hfuel]
  dsimp only
  rw [Tail.skipBlanks_of_not_isBlank hd]
  rfl

/-- The members of an object are read in their order up to the closing brace. -/
theorem readMembers_membersText {members reads : List (Text × Json)}
    (h : List.Forall₂ MemberReadsAs members reads) (hmembers : members ≠ []) {fuel : Nat}
    (hfuel : 2 * (membersText members).length < fuel) (place : Nat) (w : Text) :
    readMembers fuel ⟨place, membersText members ++ ('\x7d' : Code) :: w⟩ =
      .ok (reads, ⟨place + (membersText members).length + 1, w⟩) := by
  induction h generalizing fuel place with
  | nil => exact absurd rfl hmembers
  | @cons m entry members reads hm hrest ih =>
      obtain ⟨fuel, rfl⟩ := Nat.exists_eq_add_one_of_ne_zero (Nat.ne_zero_of_lt hfuel)
      have hlength : m.2.toText.length ≤ (memberText m).length := by
        rw [memberText, List.length_append, List.length_cons, List.length_cons]
        omega
      cases hrest with
      | nil =>
          rw [membersText_singleton] at hfuel ⊢
          rw [readMembers_memberText hm (by omega) (by decide), if_pos rfl]
      | @cons next nextEntry members reads hnext hrest =>
          obtain ⟨rest, hstart⟩ := starts_membersText next members
          have hfuel' := hfuel
          rw [membersText_cons_cons, List.length_append, List.length_cons, List.length_cons]
            at hfuel'
          have hread := ih (List.cons_ne_nil next members) (show _ < fuel by omega)
            (place + (memberText m).length + 1 + 1)
          have hplace : place + (membersText (m :: next :: members)).length + 1 =
              place + (memberText m).length + 1 + 1 + (membersText (next :: members)).length + 1 := by
            rw [membersText_cons_cons, List.length_append, List.length_cons, List.length_cons]
            omega
          rw [hplace, membersText_cons_cons, List.append_assoc, List.cons_append, List.cons_append]
          rw [hstart, List.cons_append] at hread ⊢
          rw [readMembers_memberText hm (by omega) (by decide), if_neg (by decide), if_pos rfl,
            Tail.skipBlanks_space (by decide), hread]
          rfl

theorem readsAs_object {members reads : List (Text × Json)}
    (h : List.Forall₂ MemberReadsAs members reads) : ReadsAs (.object members) (.object reads) := by
  have htext : (Json.object members).toText =
      ('\x7b' : Code) :: (membersText members ++ [('\x7d' : Code)]) := by
    rw [toText]
    rfl
  refine ⟨⟨_, _, htext, .inr (.inr (.inr rfl))⟩, fun {fuel place w} hfuel => ?_⟩
  rw [htext, List.length_cons, List.length_append, List.length_singleton] at hfuel ⊢
  obtain ⟨fuel, rfl⟩ : ∃ n, fuel = n + 1 := ⟨fuel - 1, by omega⟩
  rw [List.cons_append, List.append_assoc, List.singleton_append, readValue]
  dsimp only
  rw [if_neg (by decide), if_neg (by decide), if_pos rfl, Tail.drop_mk_cons]
  cases h with
  | nil =>
      rw [membersText, List.nil_append, Tail.skipBlanks_of_not_isBlank (by decide)]
      rfl
  | @cons m entry members reads hm hrest =>
      obtain ⟨rest, hstart⟩ := starts_membersText m members
      have hread := readMembers_membersText (.cons hm hrest) (List.cons_ne_nil m members)
        (show _ < fuel by omega) (place + 1) w
      have hplace : place + 1 + (membersText (m :: members)).length + 1 =
          place + ((membersText (m :: members)).length + 1 + 1) := by
        omega
      rw [hplace] at hread
      generalize (membersText (m :: members)).length = length at hread
      rw [hstart, List.cons_append] at hread ⊢
      rw [Tail.skipBlanks_of_not_isBlank (by decide)]
      dsimp only
      rw [if_neg (by decide), hread]
      rfl

/-! ### Whole texts -/

/-- What a value reads as is read from its text. -/
theorem ReadsAs.read_toText (h : ReadsAs v read) : Json.read v.toText = .ok read := by
  obtain ⟨c, rest, hstart, hc⟩ := h.starts
  have hmark : ¬v.toText.head? = some ⟨0xFEFF⟩ := by
    rw [hstart, List.head?_cons]
    exact fun heq => hc.plain.2.2 (Option.some.inj heq)
  have hskip : Tail.skipBlanks ⟨0, v.toText ++ []⟩ = _ := h.skipBlanks
  have hread : readValue (2 * v.toText.length + 2) ⟨0, v.toText ++ []⟩ = _ := h.reads (by omega)
  rw [List.append_nil] at hskip hread
  rw [Json.read, if_neg hmark, hskip, hread]
  rfl

end LogHarvest.Json
