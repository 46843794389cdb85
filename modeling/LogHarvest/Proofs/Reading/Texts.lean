import LogHarvest.Proofs.LogReader.Run
import LogHarvest.Proofs.Reading.Shape
import LogHarvest.Proofs.Text.Plain

/-!
# The texts of a reading

The texts that a reading holds come from two sides: the class and the pattern are those of a
statement, and the captures are parts of the message. So what holds of the codes of all statements
and of a message holds of the codes of what is read.
-/

namespace LogHarvest

theorem Text.mem_of_mem_trim {t : Text} {c : Code} (h : c ∈ t.trim) : c ∈ t :=
  (List.dropWhile_sublist _).subset (Text.mem_of_mem_dropRightWhile h)

/-- A group holds a part of the text that is matched. -/
theorem Pattern.mem_of_mem_fullMatch? {p : Pattern} {t group : Text} {groups : List (Option Text)}
    (h : p.fullMatch? t = some groups) (hgroup : some group ∈ groups) {c : Code}
    (hc : c ∈ group) : c ∈ t := by
  obtain ⟨done, -, rfl⟩ := Option.map_eq_some_iff.1 h
  obtain ⟨m, -, hm⟩ := List.mem_map.1 hgroup
  obtain ⟨bounds, -, rfl⟩ := Option.map_eq_some_iff.1 hm
  exact List.drop_subset _ _ (List.take_subset _ _ hc)

/-- The columns of a log line are parts of the line. -/
theorem LogLine.mem_of_mem_message {line : Text} {l : LogLine} (h : ofText? line = some l)
    {c : Code} (hc : c ∈ l.message) : c ∈ line := by
  unfold ofText? at h
  split at h
  · next hsplit =>
    obtain rfl := Option.some.inj h
    have hfield := Text.mem_of_mem_splitOn (by rw [hsplit]; simp) (Text.mem_of_mem_trim hc)
    exact Text.mem_of_mem_dropRightWhile hfield
  · simp at h

namespace Reading

variable {ss : List Statement} {message clazz : Text} {r : Reading} {t : Text}

/-- The texts of a reading but for its level. -/
def texts (r : Reading) : List Text :=
  r.message :: r.clazz.toList ++ r.pattern.toList ++ (r.captures.getD []).filterMap id

theorem mem_texts : t ∈ r.texts ↔
    t = r.message ∨ r.clazz = some t ∨ r.pattern = some t ∨ some t ∈ r.captures.getD [] := by
  simp [texts]

theorem mem_captures_ofMatch {s : Statement} {groups : List (Option Text)} {group : Option Text}
    (h : group ∈ (ofMatch message s groups).captures.getD []) : group ∈ groups := by
  rw [ofMatch] at h
  dsimp only at h
  split at h
  · exact h
  · simp at h

/-- A text of a reading is a part of the message, or the class or the pattern of a statement. -/
theorem cases_of_mem_texts (h : ofMessage? (Store.ofList ss) message clazz = some r)
    (ht : t ∈ r.texts) :
    (∀ c ∈ t, c ∈ message) ∨ ∃ s ∈ ss, t = s.clazz ∨ t = s.pattern.source := by
  obtain ⟨-, rfl⟩ | ⟨s, groups, hwinner, rfl⟩ := cases_of_ofMessage? h
  · obtain rfl : t = message := by simpa [texts, bare] using ht
    exact .inl fun c hc => hc
  · obtain hmessage | hclazz | hpattern | hgroup := mem_texts.1 ht
    · obtain rfl : t = message := hmessage
      exact .inl fun c hc => hc
    · exact .inr ⟨s, hwinner.mem, .inl (Option.some.inj hclazz).symm⟩
    · exact .inr ⟨s, hwinner.mem, .inr (Option.some.inj hpattern).symm⟩
    · exact .inl fun c hc =>
        Pattern.mem_of_mem_fullMatch? hwinner.2.1 (mem_captures_ofMatch hgroup) hc

/-- What is read from a line is made of the line and of the statements. -/
theorem cases_of_mem_texts_readingAt {line : Text}
    (h : LogReader.readingAt (Store.ofList ss) line = some r) (ht : t ∈ r.texts) :
    (∀ c ∈ t, c ∈ line) ∨ ∃ s ∈ ss, t = s.clazz ∨ t = s.pattern.source := by
  obtain ⟨l, hl, h⟩ := Option.bind_eq_some_iff.1 h
  obtain ⟨read, hread, hr⟩ := Option.map_eq_some_iff.1 h
  have hsame : r.texts = read.texts := by
    rw [← hr]
    split <;> rfl
  rw [hsame] at ht
  obtain hpart | hstatement := cases_of_mem_texts hread ht
  · exact .inl fun c hc => LogLine.mem_of_mem_message hl (hpart c hc)
  · exact .inr hstatement

/-! ### As they are shown -/

theorem isPlain_shownCaptures {captures : Option (List (Option Text))}
    (h : ∀ group ∈ (captures.getD []).filterMap id, group.IsPlain) :
    (shownCaptures captures).IsPlain := by
  cases captures with
  | none => decide
  | some groups =>
      have hgroups : ∀ g ∈ groups.map fun g => (g.map Text.Quoted.encode).getD "None",
          Text.IsPlain g := by
        intro shown hshown
        obtain ⟨g, hg, rfl⟩ := List.mem_map.1 hshown
        cases g with
        | none => decide
        | some group =>
            have hplain : group.IsPlain := h group (List.mem_filterMap.2 ⟨some group, hg, rfl⟩)
            exact Text.Quoted.isPlain_encode fun c hc => (hplain c hc).isScalar
      have hsep : (Text.ofString ", ").IsPlain := by decide
      have hjoin := Text.isPlain_join hsep hgroups
      exact Text.isPlain_append.2 ⟨List.forall_mem_cons.2 ⟨by decide, hjoin⟩, by decide⟩

/-- A reading is shown on one line if none of its texts takes more than one. -/
theorem isPlain_toText (h : ∀ t ∈ r.texts, t.IsPlain) : r.toText.IsPlain := by
  have hshown {field : Option Text} (hfield : ∀ t ∈ field, t ∈ r.texts) :
      (shownText field).IsPlain := by
    cases field with
    | none => decide
    | some t => exact h t (hfield t rfl)
  have hmessage : r.message.IsPlain := h r.message (mem_texts.2 (.inl rfl))
  have hclazz : (shownText r.clazz).IsPlain := hshown fun t ht => mem_texts.2 (.inr (.inl ht))
  have hpattern : (shownText r.pattern).IsPlain :=
    hshown fun t ht => mem_texts.2 (.inr (.inr (.inl ht)))
  have hcaptures : (shownCaptures r.captures).IsPlain :=
    isPlain_shownCaptures fun group hgroup => h group (List.mem_append_right _ hgroup)
  simp only [toText, Text.isPlain_append]
  exact ⟨⟨⟨⟨⟨⟨⟨⟨by decide, hmessage⟩, by decide⟩, hclazz⟩, by decide⟩, hpattern⟩, by decide⟩,
    hcaptures⟩, by decide⟩

/-- The JSON of a reading is visible ASCII on one line, whatever the reading holds. -/
theorem isVisible_toJson (r : Reading) : r.toJson.toText.IsVisible := by
  rw [toJson, Json.toText]
  refine Text.isVisible_append.2 ⟨Text.isVisible_cons.2 ⟨by decide, ?_⟩, by decide⟩
  refine Json.isVisible_membersText ?_
  simp only [List.forall_mem_cons]
  refine ⟨?_, Json.isVisible_ofText? r.clazz, Json.isVisible_ofText? r.pattern, ?_,
    Json.isVisible_ofText? r.level, by simp⟩
  · rw [Json.toText]
    exact Json.isVisible_quote r.message
  · cases r.captures with
    | none => rw [Json.toText]; decide
    | some groups =>
        have hitems : ∀ v ∈ groups.map Json.ofText?, v.toText.IsVisible :=
          List.forall_mem_map.2 fun g _ => Json.isVisible_ofText? g
        dsimp only
        rw [Json.toText]
        exact Text.isVisible_append.2
          ⟨Text.isVisible_cons.2 ⟨by decide, Json.isVisible_itemsText hitems⟩, by decide⟩

end Reading

end LogHarvest
