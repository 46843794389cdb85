import LogHarvest.Json.Value
import LogHarvest.Proofs.Text.Lines
import LogHarvest.Proofs.Text.Utf8
import LogHarvest.Text.Style

/-!
# Plain texts

A plain text stays on one line and can be encoded. What is quoted is plain if it could be encoded
before, since quoting escapes what ends a line; JSON is plain whatever it holds. Leaving out style
sequences keeps a text plain.
-/

namespace LogHarvest

/-! ### Plain codes -/

/-- Ends no line and has an encoding. -/
structure Code.IsPlain (c : Code) : Prop where
  notFeed : c ≠ '\n'
  notReturn : c ≠ '\r'
  isScalar : c.IsScalar

instance : DecidablePred Code.IsPlain := fun c =>
  decidable_of_iff (c ≠ '\n' ∧ c ≠ '\r' ∧ c.IsScalar)
    ⟨fun h => ⟨h.1, h.2.1, h.2.2⟩, fun h => ⟨h.notFeed, h.notReturn, h.isScalar⟩⟩

/-- One of the ASCII characters from the space to the tilde. -/
def Code.IsVisible (c : Code) : Prop := 32 ≤ c.val ∧ c.val < 127

instance : DecidablePred Code.IsVisible := fun _ => inferInstanceAs (Decidable (_ ∧ _))

theorem Code.IsVisible.isPlain {c : Code} (h : c.IsVisible) : c.IsPlain := by
  obtain ⟨hlow, hhigh⟩ := h
  refine ⟨?_, ?_, by omega, ?_⟩
  · rintro rfl
    exact absurd hlow (by decide)
  · rintro rfl
    exact absurd hlow (by decide)
  · have : ¬0xD800 ≤ c.val := by omega
    simp [Code.isSurrogate, this]

namespace Text

def IsPlain (t : Text) : Prop := ∀ c ∈ t, c.IsPlain

def IsVisible (t : Text) : Prop := ∀ c ∈ t, c.IsVisible

instance : DecidablePred IsPlain := fun t => inferInstanceAs (Decidable (∀ c ∈ t, c.IsPlain))

instance : DecidablePred IsVisible := fun t => inferInstanceAs (Decidable (∀ c ∈ t, c.IsVisible))

variable {s t : Text}

theorem IsVisible.isPlain (h : t.IsVisible) : t.IsPlain := fun c hc => (h c hc).isPlain

theorem IsPlain.isLine (h : t.IsPlain) : t.IsLine :=
  ⟨fun hc => (h _ hc).notReturn rfl, fun hc => (h _ hc).notFeed rfl⟩

theorem isPlain_append : IsPlain (s ++ t) ↔ s.IsPlain ∧ t.IsPlain := List.forall_mem_append

theorem isVisible_append : IsVisible (s ++ t) ↔ s.IsVisible ∧ t.IsVisible :=
  List.forall_mem_append

theorem isVisible_cons {c : Code} : IsVisible (c :: t) ↔ c.IsVisible ∧ t.IsVisible :=
  List.forall_mem_cons

theorem isVisible_nil : IsVisible [] := by decide

theorem isPlain_of_isLine (hline : t.IsLine) (hscalar : ∀ c ∈ t, c.IsScalar) : t.IsPlain := by
  intro c hc
  refine ⟨?_, ?_, hscalar c hc⟩
  · rintro rfl
    exact hline.noFeed hc
  · rintro rfl
    exact hline.noReturn hc

theorem isPlain_join {sep : Text} {fields : List Text} (hsep : sep.IsPlain)
    (h : ∀ field ∈ fields, field.IsPlain) : (join sep fields).IsPlain := by
  intro c hc
  obtain hmem | ⟨field, hfield, hmem⟩ := mem_join hc
  · exact hsep c hmem
  · exact h field hfield c hmem

/-! ### Quoted texts -/

namespace Quoted

theorem isVisible_hexDigit {n : Nat} (h : n < 16) : (hexDigit n).IsVisible := by
  unfold hexDigit Code.IsVisible
  split
  · exact ⟨by dsimp only; omega, by dsimp only; omega⟩
  · exact ⟨by dsimp only; omega, by dsimp only; omega⟩

theorem isVisible_hex (width n : Nat) : (hex width n).IsVisible := by
  induction width generalizing n with
  | zero => exact isVisible_nil
  | succ width ih =>
      rw [hex, isVisible_append, isVisible_cons]
      exact ⟨ih (n / 16), isVisible_hexDigit (Nat.mod_lt n (by decide)), isVisible_nil⟩

theorem isPlain_escape {quote c : Code} (hquote : quote.IsVisible) (hc : c.IsScalar) :
    (escape quote c).IsPlain := by
  have hslash : Code.IsVisible '\\' := by decide
  unfold escape
  split_ifs with hself htab hfeed hreturn hprintable hlow hmiddle
  · refine IsVisible.isPlain (isVisible_cons.2 ⟨hslash, isVisible_cons.2 ⟨?_, isVisible_nil⟩⟩)
    obtain rfl | rfl := hself
    · exact hquote
    · exact hslash
  · decide
  · decide
  · decide
  · refine isPlain_of_isLine ⟨?_, ?_⟩ ?_
    · simpa [eq_comm] using hreturn
    · simpa [eq_comm] using hfeed
    · simpa using hc
  · exact IsVisible.isPlain (isVisible_cons.2 ⟨hslash,
      isVisible_cons.2 ⟨by decide, isVisible_hex 2 c.val⟩⟩)
  · exact IsVisible.isPlain (isVisible_cons.2 ⟨hslash,
      isVisible_cons.2 ⟨by decide, isVisible_hex 4 c.val⟩⟩)
  · exact IsVisible.isPlain (isVisible_cons.2 ⟨hslash,
      isVisible_cons.2 ⟨by decide, isVisible_hex 8 c.val⟩⟩)

theorem isVisible_quoteFor (t : Text) : (quoteFor t).IsVisible := by
  unfold quoteFor
  split <;> decide

theorem isPlain_encode (h : ∀ c ∈ t, c.IsScalar) : (encode t).IsPlain := by
  have hquote := isVisible_quoteFor t
  have hinner : IsPlain (t.flatMap (escape (quoteFor t))) := by
    intro d hd
    obtain ⟨c, hc, hd⟩ := List.mem_flatMap.1 hd
    exact isPlain_escape hquote (h c hc) d hd
  exact isPlain_append.2 ⟨List.forall_mem_cons.2 ⟨hquote.isPlain, hinner⟩, by
    simpa [IsPlain] using hquote.isPlain⟩

end Quoted

/-! ### Texts without style sequences -/

theorem unstyledAfter_sublist (skipped : Nat) (t : Text) : (unstyledAfter skipped t).Sublist t := by
  induction t generalizing skipped with
  | nil => cases skipped <;> exact List.Sublist.refl _
  | cons c rest ih =>
      cases skipped with
      | succ skipped => exact (ih skipped).cons c
      | zero =>
          rw [unstyledAfter]
          split
          · split
            · next length hlength => exact (ih length).cons c
            · exact (ih 0).cons_cons c
          · exact (ih 0).cons_cons c

theorem unstyled_sublist (t : Text) : t.unstyled.Sublist t := unstyledAfter_sublist 0 t

theorem IsPlain.unstyled (h : t.IsPlain) : t.unstyled.IsPlain :=
  fun c hc => h c ((unstyled_sublist t).subset hc)

/-- A text without the escape code has no style sequence. -/
theorem unstyled_eq_self (h : Code.escape ∉ t) : t.unstyled = t := by
  rw [Text.unstyled]
  induction t with
  | nil => rfl
  | cons c rest ih =>
      obtain ⟨hc, hrest⟩ := List.ne_and_not_mem_of_not_mem_cons h
      rw [unstyledAfter, if_neg (Ne.symm hc), ih hrest]

/-- A sequence without its letter is kept. -/
example : Text.unstyled (Code.escape :: Text.ofString "[1;31mred" ++
    Code.escape :: Text.ofString "[0m" ++ Code.escape :: Text.ofString "[7") =
      Text.ofString "red" ++ Code.escape :: Text.ofString "[7" := by
  decide

theorem IsVisible.unstyled_eq_self (h : t.IsVisible) : t.unstyled = t :=
  Text.unstyled_eq_self fun hc => absurd (h _ hc).1 (by decide)

end Text

/-! ### JSON -/

namespace Json

theorem isVisible_escapeUnit (n : Nat) : (escapeUnit n).IsVisible :=
  Text.isVisible_cons.2 ⟨by decide,
    Text.isVisible_cons.2 ⟨by decide, Text.Quoted.isVisible_hex 4 n⟩⟩

theorem isVisible_escape (c : Code) : (escape c).IsVisible := by
  unfold escape
  split_ifs with hself hfeed hreturn htab hform hback hvisible hlow
  · obtain rfl | rfl := hself <;> decide
  · decide
  · decide
  · decide
  · decide
  · decide
  · exact Text.isVisible_cons.2 ⟨hvisible, Text.isVisible_nil⟩
  · exact isVisible_escapeUnit c.val
  · exact Text.isVisible_append.2 ⟨isVisible_escapeUnit _, isVisible_escapeUnit _⟩

theorem isVisible_quote (t : Text) : (quote t).IsVisible := by
  have hinner : Text.IsVisible (t.flatMap escape) := by
    intro d hd
    obtain ⟨c, -, hd⟩ := List.mem_flatMap.1 hd
    exact isVisible_escape c d hd
  exact Text.isVisible_append.2 ⟨Text.isVisible_cons.2 ⟨by decide, hinner⟩, by decide⟩

theorem isVisible_ofText? (t : Option Text) : (ofText? t).toText.IsVisible := by
  cases t with
  | none => rw [ofText?, toText]; decide
  | some t => rw [ofText?, toText]; exact isVisible_quote t

theorem isVisible_itemsText {items : List Json} (h : ∀ v ∈ items, v.toText.IsVisible) :
    (itemsText items).IsVisible := by
  induction items with
  | nil => rw [itemsText]; exact Text.isVisible_nil
  | cons v items ih =>
      obtain ⟨hv, hitems⟩ := List.forall_mem_cons.1 h
      cases items with
      | nil => rw [itemsText]; exact hv
      | cons w items =>
          rw [itemsText, Text.isVisible_append, Text.isVisible_append]
          · exact ⟨⟨hv, by decide⟩, ih hitems⟩
          · simp

theorem isVisible_membersText {members : List (Text × Json)}
    (h : ∀ m ∈ members, m.2.toText.IsVisible) : (membersText members).IsVisible := by
  induction members with
  | nil => rw [membersText]; exact Text.isVisible_nil
  | cons m members ih =>
      obtain ⟨key, v⟩ := m
      obtain ⟨hv, hmembers⟩ := List.forall_mem_cons.1 h
      have hkey : Text.IsVisible (quote key ++ Text.ofString ": " ++ v.toText) :=
        Text.isVisible_append.2 ⟨Text.isVisible_append.2 ⟨isVisible_quote key, by decide⟩, hv⟩
      cases members with
      | nil => rw [membersText]; exact hkey
      | cons w members =>
          rw [membersText, Text.isVisible_append, Text.isVisible_append]
          · exact ⟨⟨hkey, by decide⟩, ih hmembers⟩
          · simp

end Json

end LogHarvest
