import LogHarvest.Proofs.Json.Reader
import LogHarvest.Proofs.Reading.Texts
import LogHarvest.Proofs.Text.Lower

/-!
# Readings through JSON

A reading that is written as JSON can always be read back, and what comes back is known: texts have
their surrogates joined, and a group that took no part comes back as the text `None`. So a reading
survives exactly if all of its groups took part and none of its texts has surrogates to join.
-/

namespace LogHarvest

namespace Json

variable {members : List (Text × Json)} {name : Text}

/-! ### Fields of records -/

theorem fieldValue_of_member? {f : Field} {v : Json} (h : member? members f.name = some v) :
    fieldValue members f = convert f.type v := by
  rw [fieldValue, h]

theorem convert_ofText? (t : Option Text) : convert .text (ofText? t) = .ok (ofText? t) := by
  cases t with
  | none => rfl
  | some t => rfl

theorem textOf_eq {t : Option Text} (h : member? members name = some (ofText? t)) :
    textOf members name = t := by
  rw [textOf, h]
  cases t with
  | none => rfl
  | some t => rfl

end Json

namespace Reading

variable {ss : List Statement} {message clazz : Text} {r : Reading}

/-! ### What comes back -/

/-- A group as it comes back from JSON: one that took no part as the text `None`. -/
def groupAfter (group : Option Text) : Text := (group.map Text.rejoined).getD "None"

/-- A reading as it comes back from JSON. -/
def afterJson (r : Reading) : Reading where
  message := r.message.rejoined
  clazz := r.clazz.map Text.rejoined
  pattern := r.pattern.map Text.rejoined
  captures := r.captures.map fun groups => groups.map (some ∘ groupAfter)
  level := r.level.map Text.rejoined

/-- All texts of a reading. -/
def allTexts (r : Reading) : List Text := r.texts ++ r.level.toList

/-- What a reading must be like to come back as it was. -/
structure SurvivesJson (r : Reading) : Prop where
  complete : none ∉ r.captures.getD []
  unpaired : ∀ t ∈ r.allTexts, t.Unpaired

theorem map_rejoined_eq_self_iff (t : Option Text) :
    t.map Text.rejoined = t ↔ ∀ s, t = some s → s.Unpaired := by
  cases t with
  | none => simp
  | some s => simp [Text.rejoined_eq_self_iff]

theorem some_groupAfter_eq_self_iff (group : Option Text) :
    some (groupAfter group) = group ↔ group ≠ none ∧ ∀ t, group = some t → t.Unpaired := by
  cases group with
  | none => simp
  | some t => simp [groupAfter, Text.rejoined_eq_self_iff]

theorem map_groupAfter_eq_self_iff (groups : List (Option Text)) :
    groups.map (some ∘ groupAfter) = groups ↔
      none ∉ groups ∧ ∀ t, some t ∈ groups → t.Unpaired := by
  have heach : groups.map (some ∘ groupAfter) = groups ↔
      ∀ g ∈ groups, some (groupAfter g) = g := by
    simpa using List.map_inj_left (f := some ∘ groupAfter) (g := id) (l := groups)
  rw [heach]
  simp only [some_groupAfter_eq_self_iff]
  constructor
  · intro h
    exact ⟨fun hnone => (h none hnone).1 rfl, fun t ht => (h (some t) ht).2 t rfl⟩
  · rintro ⟨hnone, htexts⟩ g hg
    refine ⟨?_, ?_⟩
    · rintro rfl
      exact hnone hg
    · rintro t rfl
      exact htexts t hg

theorem captures_afterJson_eq_self_iff (captures : Option (List (Option Text))) :
    (captures.map fun groups => groups.map (some ∘ groupAfter)) = captures ↔
      none ∉ captures.getD [] ∧ ∀ t, some t ∈ captures.getD [] → t.Unpaired := by
  cases captures with
  | none => simp
  | some groups => simp [← map_groupAfter_eq_self_iff]

theorem mem_allTexts {t : Text} : t ∈ r.allTexts ↔
    t = r.message ∨ r.clazz = some t ∨ r.pattern = some t ∨ some t ∈ r.captures.getD [] ∨
      r.level = some t := by
  simp [allTexts, mem_texts, or_assoc]

/-- A reading comes back as it was exactly if it is one that survives. -/
theorem afterJson_eq_self_iff (r : Reading) : r.afterJson = r ↔ r.SurvivesJson := by
  obtain ⟨message, clazz, pattern, captures, level⟩ := r
  rw [afterJson, Reading.mk.injEq, Text.rejoined_eq_self_iff, map_rejoined_eq_self_iff,
    map_rejoined_eq_self_iff, map_rejoined_eq_self_iff, captures_afterJson_eq_self_iff]
  constructor
  · rintro ⟨hmessage, hclazz, hpattern, ⟨hcomplete, hgroups⟩, hlevel⟩
    refine ⟨hcomplete, fun t ht => ?_⟩
    obtain rfl | ht | ht | ht | ht := mem_allTexts.1 ht
    · exact hmessage
    · exact hclazz t ht
    · exact hpattern t ht
    · exact hgroups t ht
    · exact hlevel t ht
  · rintro ⟨hcomplete, hunpaired⟩
    exact ⟨hunpaired _ (mem_allTexts.2 (.inl rfl)),
      fun t ht => hunpaired t (mem_allTexts.2 (.inr (.inl ht))),
      fun t ht => hunpaired t (mem_allTexts.2 (.inr (.inr (.inl ht)))),
      ⟨hcomplete, fun t ht => hunpaired t (mem_allTexts.2 (.inr (.inr (.inr (.inl ht)))))⟩,
      fun t ht => hunpaired t (mem_allTexts.2 (.inr (.inr (.inr (.inr ht)))))⟩

/-- Where all texts can be encoded, as those of files can, only the captures count. -/
theorem survivesJson_iff_complete (h : ∀ t ∈ r.allTexts, ∀ c ∈ t, c.IsScalar) :
    r.SurvivesJson ↔ none ∉ r.captures.getD [] := by
  refine ⟨SurvivesJson.complete, fun hcomplete => ⟨hcomplete, fun t ht => ?_⟩⟩
  exact Text.unpaired_of_isScalar (h t ht)

/-! ### Writing and reading -/

theorem readsAs_ofText? {t : Option Text} (ht : ∀ s ∈ t, s.IsDecoded) :
    Json.ReadsAs (Json.ofText? t) (Json.ofText? (t.map Text.rejoined)) := by
  cases t with
  | none => exact Json.readsAs_null
  | some s => exact Json.readsAs_string (ht s rfl)

/-- The members of a reading, with the captures in some form. -/
def membersWith (r : Reading) (captures : Json) : List (Text × Json) := [
  ("raw_message", .string r.message), ("matched_class", Json.ofText? r.clazz),
  ("matched_pattern", Json.ofText? r.pattern), ("captures", captures),
  ("level", Json.ofText? r.level)]

/-- Captures as they are written. -/
def capturesWritten : Option (List (Option Text)) → Json
  | none => .null
  | some groups => .array (groups.map Json.ofText?)

theorem toJson_eq (r : Reading) : r.toJson = .object (r.membersWith (capturesWritten r.captures)) := by
  obtain ⟨message, clazz, pattern, captures, level⟩ := r
  cases captures with
  | none => rfl
  | some groups => rfl

/-- Captures as they are read. -/
def capturesRead (captures : Option (List (Option Text))) : Json :=
  capturesWritten (captures.map fun groups => groups.map (Option.map Text.rejoined))

theorem readsAs_capturesWritten {captures : Option (List (Option Text))}
    (h : ∀ t, some t ∈ captures.getD [] → t.IsDecoded) :
    Json.ReadsAs (capturesWritten captures) (capturesRead captures) := by
  cases captures with
  | none => exact Json.readsAs_null
  | some groups =>
      refine Json.readsAs_array ?_
      rw [List.map_map, List.forall₂_map_left_iff, List.forall₂_map_right_iff, List.forall₂_same]
      exact fun g hg => readsAs_ofText? fun s hs => h s (by rwa [← Option.mem_def.1 hs])

/-- The text of a reading is read as the members with their texts rejoined. -/
theorem readsAs_toJson (h : ∀ t ∈ r.allTexts, t.IsDecoded) :
    Json.ReadsAs r.toJson (.object (r.afterJson.membersWith (capturesRead r.captures))) := by
  have hdecoded {t : Text} (ht : t = r.message ∨ r.clazz = some t ∨ r.pattern = some t ∨
      some t ∈ r.captures.getD [] ∨ r.level = some t) : t.IsDecoded := h t (mem_allTexts.2 ht)
  rw [toJson_eq]
  refine Json.readsAs_object ?_
  exact .cons (.ofValue (by decide) (by decide) (Json.readsAs_string (hdecoded (.inl rfl))))
    (.cons (.ofValue (by decide) (by decide)
      (readsAs_ofText? fun t ht => hdecoded (.inr (.inl ht))))
    (.cons (.ofValue (by decide) (by decide)
      (readsAs_ofText? fun t ht => hdecoded (.inr (.inr (.inl ht)))))
    (.cons (.ofValue (by decide) (by decide)
      (readsAs_capturesWritten fun t ht => hdecoded (.inr (.inr (.inr (.inl ht))))))
    (.cons (.ofValue (by decide) (by decide)
      (readsAs_ofText? fun t ht => hdecoded (.inr (.inr (.inr (.inr ht)))))) .nil))))

/-- Captures as the record holds them. -/
def capturesRecorded (captures : Option (List (Option Text))) : Json :=
  match captures with
  | none => .null
  | some groups => .array (groups.map fun g => .string (groupAfter g))

theorem convert_capturesRead (captures : Option (List (Option Text))) :
    Json.convert .texts (capturesRead captures) = .ok (capturesRecorded captures) := by
  cases captures with
  | none => rfl
  | some groups =>
      have hgroup (g : Option Text) :
          Json.string (Json.ofText? (g.map Text.rejoined)).asText = .string (groupAfter g) := by
        cases g with
        | none => rfl
        | some g => rfl
      rw [capturesRead, capturesRecorded, Option.map_some, capturesWritten, Json.convert]
      · simp only [Json.asTexts, List.map_map, Function.comp_def, hgroup]
      · simp

/-- Only the captures are converted. -/
theorem recordOf_membersWith (r : Reading) {captures recorded : Json}
    (h : Json.convert .texts captures = .ok recorded) :
    Json.recordOf fields (.object (r.membersWith captures)) = .ok (r.membersWith recorded) := by
  have hmessage : Json.fieldValue (r.membersWith captures) ⟨"raw_message", .text, none⟩ =
      .ok (.string r.message) :=
    (Json.fieldValue_of_member? rfl).trans (Json.convert_ofText? (some r.message))
  have hclazz : Json.fieldValue (r.membersWith captures) ⟨"matched_class", .text, some .null⟩ =
      .ok (Json.ofText? r.clazz) :=
    (Json.fieldValue_of_member? rfl).trans (Json.convert_ofText? r.clazz)
  have hpattern : Json.fieldValue (r.membersWith captures) ⟨"matched_pattern", .text, some .null⟩ =
      .ok (Json.ofText? r.pattern) :=
    (Json.fieldValue_of_member? rfl).trans (Json.convert_ofText? r.pattern)
  have hcaptures : Json.fieldValue (r.membersWith captures) ⟨"captures", .texts, some .null⟩ =
      .ok recorded :=
    (Json.fieldValue_of_member? rfl).trans h
  have hlevel : Json.fieldValue (r.membersWith captures) ⟨"level", .text, some .null⟩ =
      .ok (Json.ofText? r.level) :=
    (Json.fieldValue_of_member? rfl).trans (Json.convert_ofText? r.level)
  simp only [Json.recordOf, fields, List.mapM_cons, List.mapM_nil, hmessage, hclazz, hpattern,
    hcaptures, hlevel]
  rfl

theorem ofRecord_membersWith (r : Reading) (captures : Option (List (Option Text))) :
    ofRecord (r.membersWith (capturesRecorded captures)) =
      { r with captures := captures.map fun groups => groups.map (some ∘ groupAfter) } := by
  have hmessage : Json.textOf (r.membersWith (capturesRecorded captures)) "raw_message" =
      some r.message :=
    Json.textOf_eq rfl
  have hclazz : Json.textOf (r.membersWith (capturesRecorded captures)) "matched_class" = r.clazz :=
    Json.textOf_eq rfl
  have hpattern : Json.textOf (r.membersWith (capturesRecorded captures)) "matched_pattern" =
      r.pattern :=
    Json.textOf_eq rfl
  have hlevel : Json.textOf (r.membersWith (capturesRecorded captures)) "level" = r.level :=
    Json.textOf_eq rfl
  have hcaptures : Json.textsOf (r.membersWith (capturesRecorded captures)) "captures" =
      captures.map (List.map groupAfter) := by
    have hmember : Json.member? (r.membersWith (capturesRecorded captures)) "captures" =
        some (capturesRecorded captures) := rfl
    rw [Json.textsOf, hmember]
    cases captures with
    | none => rfl
    | some groups => simp [capturesRecorded, Json.asText]
  rw [ofRecord, hmessage, hclazz, hpattern, hlevel, hcaptures, Option.map_map]
  simp [shownText, Function.comp_def]

/-- Every reading of decoded texts comes back. -/
theorem ofJson?_toJson (h : ∀ t ∈ r.allTexts, t.IsDecoded) :
    ofJson? r.toJson.toText = .ok r.afterJson := by
  rw [ofJson?, Json.readRecord, (readsAs_toJson h).read_toText]
  dsimp only
  rw [recordOf_membersWith r.afterJson (convert_capturesRead r.captures)]
  exact congrArg Except.ok (ofRecord_membersWith r.afterJson r.captures)

/-! ### What is read from messages and lines -/

/-- The texts that a reading can take from statements are decoded. -/
def AreDecoded (ss : List Statement) : Prop :=
  ∀ s ∈ ss, s.clazz.IsDecoded ∧ s.pattern.source.IsDecoded

theorem isDecoded_of_parts {t whole : Text} (hss : AreDecoded ss) (hwhole : whole.IsDecoded)
    (h : (∀ c ∈ t, c ∈ whole) ∨ ∃ s ∈ ss, t = s.clazz ∨ t = s.pattern.source) : t.IsDecoded := by
  obtain hpart | ⟨s, hs, rfl | rfl⟩ := h
  · exact fun c hc => hwhole c (hpart c hc)
  · exact (hss s hs).1
  · exact (hss s hs).2

theorem isDecoded_of_ofMessage? (hss : AreDecoded ss) (hmessage : message.IsDecoded)
    (h : ofMessage? (Store.ofList ss) message clazz = some r) {t : Text} (ht : t ∈ r.allTexts) :
    t.IsDecoded := by
  rw [allTexts, level_of_ofMessage? h, Option.toList_none, List.append_nil] at ht
  exact isDecoded_of_parts hss hmessage (cases_of_mem_texts h ht)

end Reading

theorem LogLine.isDecoded_level {line : Text} {l : LogLine} (h : ofText? line = some l)
    (hline : line.IsDecoded) : l.level.IsDecoded := by
  unfold ofText? at h
  split at h
  · next hsplit =>
    obtain rfl := Option.some.inj h
    refine Text.isDecoded_lower fun c hc => hline c ?_
    have hfield := Text.mem_of_mem_splitOn (by rw [hsplit]; simp) (Text.mem_of_mem_trim hc)
    exact Text.mem_of_mem_dropRightWhile hfield
  · simp at h

namespace Reading

theorem isDecoded_of_readingAt {line t : Text} (hss : AreDecoded ss) (hline : line.IsDecoded)
    (h : LogReader.readingAt (Store.ofList ss) line = some r) (ht : t ∈ r.allTexts) :
    t.IsDecoded := by
  obtain ht | ht := List.mem_append.1 ht
  · exact isDecoded_of_parts hss hline (cases_of_mem_texts_readingAt h ht)
  · obtain ⟨l, hl, h⟩ := Option.bind_eq_some_iff.1 h
    obtain ⟨read, hread, rfl⟩ := Option.map_eq_some_iff.1 h
    split at ht
    · obtain rfl : t = l.level := by simpa using ht
      exact LogLine.isDecoded_level hl hline
    · simp [level_of_ofMessage? hread] at ht

/-- Every reading of a message or of a line is written as a text that can be read back, and it comes
back as it was exactly if all groups of its pattern took part in the match and no text of it has two
surrogates next to each other that stand for one code. -/
theorem ofJson?_toJson_eq_iff_survives (hss : AreDecoded ss) :
    (∀ message clazz r, message.IsDecoded → ofMessage? (Store.ofList ss) message clazz = some r →
      ofJson? r.toJson.toText = .ok r.afterJson ∧
        (ofJson? r.toJson.toText = .ok r ↔ r.SurvivesJson)) ∧
    ∀ tally line r, line.IsDecoded →
      ((LogReader.mk (Store.ofList ss) tally).readLine line).1 = some r →
      ofJson? r.toJson.toText = .ok r.afterJson ∧
        (ofJson? r.toJson.toText = .ok r ↔ r.SurvivesJson) := by
  have hiff {r : Reading} (h : ∀ t ∈ r.allTexts, t.IsDecoded) :
      ofJson? r.toJson.toText = .ok r.afterJson ∧
        (ofJson? r.toJson.toText = .ok r ↔ r.SurvivesJson) := by
    have hread := ofJson?_toJson h
    refine ⟨hread, ?_⟩
    rw [hread, Except.ok.injEq]
    exact afterJson_eq_self_iff r
  constructor
  · intro message clazz r hmessage hr
    exact hiff fun t ht => isDecoded_of_ofMessage? hss hmessage hr ht
  · intro tally line r hline hr
    rw [LogReader.readLine_eq] at hr
    exact hiff fun t ht => isDecoded_of_readingAt hss hline hr ht

/-- A store with one statement whose only group takes part in every match. -/
def oneGroup : List Statement :=
  [⟨Text.ofString "info", ['C'], Template.pattern (Text.ofString "b \x7b\x7d")⟩]

/-- A message and a line that hold the same text are read with one capture each, and both readings
come back as they were. -/
theorem ofJson?_toJson_oneGroup :
    ∃ r r', ofMessage? (Store.ofList oneGroup) (Text.ofString "b x") ['C'] = some r ∧
      ((LogReader.ofStore (Store.ofList oneGroup)).readLine
        (Text.ofString "t | INFO | h | C | o | b x")).1 = some r' ∧
      r.captures = some [some (Text.ofString "x")] ∧ r'.level = some (Text.ofString "info") ∧
      ofJson? r.toJson.toText = .ok r ∧ ofJson? r'.toJson.toText = .ok r' := by
  have hdecoded : AreDecoded oneGroup := by
    simp only [AreDecoded, oneGroup, List.forall_mem_singleton]
    exact ⟨by decide, by decide +kernel⟩
  have hread : ofMessage? (Store.ofList oneGroup) (Text.ofString "b x") ['C'] =
      some ⟨Text.ofString "b x", some ['C'],
        some (Template.pattern (Text.ofString "b \x7b\x7d")).source,
        some [some (Text.ofString "x")], none⟩ := by
    decide +kernel
  have hline : ((LogReader.ofStore (Store.ofList oneGroup)).readLine
      (Text.ofString "t | INFO | h | C | o | b x")).1 =
      some ⟨Text.ofString "b x", some ['C'],
        some (Template.pattern (Text.ofString "b \x7b\x7d")).source, some [some (Text.ofString "x")],
        some (Text.ofString "info")⟩ := by
    decide +kernel
  obtain ⟨hmessages, hlines⟩ := ofJson?_toJson_eq_iff_survives hdecoded
  obtain ⟨-, hback⟩ := hmessages _ _ _ (by decide) hread
  obtain ⟨-, hlineBack⟩ := hlines Tally.zero _ _ (by decide) hline
  exact ⟨_, _, hread, hline, rfl, rfl, hback.2 ⟨by decide, by decide +kernel⟩,
    hlineBack.2 ⟨by decide, by decide +kernel⟩⟩

/-- A pattern whose group may be skipped reads a message without it. The reading has a group without
a text, and comes back with the text `None` in its place. -/
theorem ofJson?_toJson_skippedGroup :
    ∃ p r, Pattern.read (Text.ofString "(a)?b") = .ok p ∧
      ofMessage? (Store.ofList [⟨Text.ofString "info", ['C'], p⟩]) ['b'] ['C'] = some r ∧
      r.captures = some [none] ∧
      ofJson? r.toJson.toText = .ok { r with captures := some [some (Text.ofString "None")] } ∧
      ofJson? r.toJson.toText ≠ .ok r := by
  have hread : ((Pattern.read (Text.ofString "(a)?b")).toOption.bind fun p =>
      ofMessage? (Store.ofList [⟨Text.ofString "info", ['C'], p⟩]) ['b'] ['C']) =
        some ⟨['b'], some ['C'], some (Text.ofString "(a)?b"), some [none], none⟩ := by
    decide +kernel
  obtain ⟨p, hp, hr⟩ := Option.bind_eq_some_iff.1 hread
  have hback : ofJson? (toJson ⟨['b'], some ['C'], some (Text.ofString "(a)?b"), some [none],
      none⟩).toText =
        .ok ⟨['b'], some ['C'], some (Text.ofString "(a)?b"), some [some (Text.ofString "None")],
          none⟩ :=
    ofJson?_toJson (by decide)
  refine ⟨p, _, toOption_eq_some_iff.1 hp, hr, rfl, hback, ?_⟩
  rw [hback, ne_eq, Except.ok.injEq]
  decide

end Reading

end LogHarvest
