import LogHarvest.Proofs.Reading.Shape

/-!
# One statement more

Where a class is served from decides what one more statement does to its messages. A statement of
another class does nothing, unless it is one of the default class that serves this one too. A
statement that joins those that serve the class comes after them, so it takes the messages that none
of them took and no others. One case is left: the first statement of a class takes it over from the
default class, and with it all of its messages.
-/

namespace LogHarvest

namespace Store

variable {store : Store} {s : Statement} {clazz : Text}

/-- An added statement joins those that serve a class. A class that nothing serves yet can be joined
by statements of its own and by those of the default class. -/
def Joins (store : Store) (s : Statement) (clazz : Text) : Prop :=
  (s.clazz = clazz ∧ (store.own clazz ≠ [] ∨ store.own Statement.defaultClass = [])) ∨
    (s.clazz = Statement.defaultClass ∧ store.own clazz = [])

/-- An added statement takes a class over: it is the first one of the class, which the default class
has served so far. -/
structure TakesOver (store : Store) (s : Statement) (clazz : Text) : Prop where
  clazz_eq : s.clazz = clazz
  ne_default : clazz ≠ Statement.defaultClass
  first : store.own clazz = []
  served : store.own Statement.defaultClass ≠ []

theorem own_add_self (store : Store) (s : Statement) :
    (store.add s).own s.clazz = store.own s.clazz ++ [s] := by
  rw [own_add]
  simp [Statement.ofClass]

theorem own_add_ne (store : Store) (h : s.clazz ≠ clazz) :
    (store.add s).own clazz = store.own clazz := by
  rw [own_add]
  simp [Statement.ofClass, h]

/-- Every addition leaves a class alone, joins what serves it or takes it over. -/
theorem add_cases (store : Store) (s : Statement) (clazz : Text) :
    (s.clazz ≠ clazz ∧ ¬(s.clazz = Statement.defaultClass ∧ store.own clazz = [])) ∨
      store.Joins s clazz ∨ store.TakesOver s clazz := by
  by_cases hclazz : s.clazz = clazz
  · by_cases hjoins : store.own clazz ≠ [] ∨ store.own Statement.defaultClass = []
    · exact .inr (.inl (.inl ⟨hclazz, hjoins⟩))
    · obtain ⟨hfirst, hserved⟩ := not_or.1 hjoins
      have hnil : store.own clazz = [] := not_not.1 hfirst
      refine .inr (.inr ⟨hclazz, ?_, hnil, hserved⟩)
      rintro rfl
      exact hserved hnil
  · by_cases hdefault : s.clazz = Statement.defaultClass ∧ store.own clazz = []
    · exact .inr (.inl (.inr hdefault))
    · exact .inl ⟨hclazz, hdefault⟩

theorem candidates_add_of_ne (hclazz : s.clazz ≠ clazz)
    (hdefault : ¬(s.clazz = Statement.defaultClass ∧ store.own clazz = [])) :
    (store.add s).candidates clazz = store.candidates clazz := by
  have hown := own_add_ne store hclazz
  by_cases hnil : store.own clazz = []
  · have hother : s.clazz ≠ Statement.defaultClass := fun h => hdefault ⟨h, hnil⟩
    rw [candidates_of_own_eq_nil (hown.trans hnil), candidates_of_own_eq_nil hnil,
      own_add_ne store hother]
  · rw [candidates_of_own_ne_nil (by rwa [hown]), candidates_of_own_ne_nil hnil, hown]

/-- What joins those that serve a class comes after them. -/
theorem Joins.candidates_add (h : store.Joins s clazz) :
    (store.add s).candidates clazz = store.candidates clazz ++ [s] := by
  obtain ⟨rfl, hserved⟩ | ⟨hdefault, hnil⟩ := h
  · have hown := own_add_self store s
    have hcandidates : store.candidates s.clazz = store.own s.clazz := by
      by_cases hnil : store.own s.clazz = []
      · rw [candidates_of_own_eq_nil hnil, hnil]
        exact hserved.resolve_left (not_not.2 hnil)
      · exact candidates_of_own_ne_nil hnil
    rw [candidates_of_own_ne_nil (by simp [hown]), hown, hcandidates]
  · by_cases hclazz : s.clazz = clazz
    · subst hclazz
      have hown := own_add_self store s
      rw [candidates_of_own_ne_nil (by simp [hown]), candidates_of_own_eq_nil hnil, ← hdefault,
        hown]
    · have hown := (own_add_ne store hclazz).trans hnil
      rw [candidates_of_own_eq_nil hown, candidates_of_own_eq_nil hnil, ← hdefault,
        own_add_self]

/-- Who takes a class over serves it alone. -/
theorem TakesOver.candidates_add (h : store.TakesOver s clazz) :
    (store.add s).candidates clazz = [s] := by
  obtain ⟨rfl, -, hfirst, -⟩ := h
  have hown : (store.add s).own s.clazz = [s] := by rw [own_add_self, hfirst, List.nil_append]
  rw [candidates_of_own_ne_nil (by simp [hown]), hown]

end Store

namespace Reading

variable {store : Store} {s : Statement} {message clazz : Text}

theorem ofMessage?_eq_some (h : store.candidates clazz ≠ []) :
    ofMessage? store message clazz = some (ofCandidates message (store.candidates clazz)) := by
  obtain ⟨first, rest, hfirst⟩ := List.exists_cons_of_ne_nil h
  rw [ofMessage?, hfirst]

/-- The last of some statements reads what none of the others matches. -/
theorem ofCandidates_concat (message : Text) (ss : List Statement) (s : Statement) :
    ofCandidates message (ss ++ [s]) =
      if (ofCandidates message ss).isMatched then ofCandidates message ss
      else ofCandidates message [s] := by
  induction ss with
  | nil => rfl
  | cons first ss ih =>
      by_cases hfirst : first.Matches message
      · obtain ⟨groups, hgroups, hr⟩ := ofCandidates_cons_of_matches hfirst ss
        obtain ⟨groups', hgroups', hr'⟩ := ofCandidates_cons_of_matches hfirst (ss ++ [s])
        obtain rfl : groups = groups' := Option.some.inj (hgroups.symm.trans hgroups')
        rw [List.cons_append, hr, hr', if_pos (isMatched_ofMatch message first groups)]
      · rw [List.cons_append, ofCandidates_cons_of_not_matches hfirst,
          ofCandidates_cons_of_not_matches hfirst, ih]

/-- The reading by one statement: its match, or the message alone. -/
theorem ofCandidates_singleton_cases (message : Text) (s : Statement) :
    (∀ groups, s.pattern.fullMatch? message = some groups →
        ofCandidates message [s] = ofMatch message s groups) ∧
      (¬s.Matches message → ofCandidates message [s] = bare message) := by
  constructor
  · intro groups hgroups
    rw [ofCandidates, hgroups]
  · intro hs
    exact ofCandidates_cons_of_not_matches hs []

/-- A statement that joins those that serve a class reads the messages that are not matched yet. -/
theorem ofMessage?_add_of_joins (h : store.Joins s clazz) :
    ofMessage? (store.add s) message clazz =
      if (ofMessage? store message clazz).any isMatched then ofMessage? store message clazz
      else some (ofCandidates message [s]) := by
  have hcandidates := h.candidates_add
  rw [ofMessage?_eq_some (by simp [hcandidates]), hcandidates, ofCandidates_concat]
  by_cases hnil : store.candidates clazz = []
  · simp [ofMessage?, hnil, ofCandidates, bare, isMatched]
  · rw [ofMessage?_eq_some hnil, Option.any_some]
    split <;> rfl

theorem ofMessage?_add_of_takesOver (h : store.TakesOver s clazz) :
    ofMessage? (store.add s) message clazz = some (ofCandidates message [s]) := by
  have hcandidates := h.candidates_add
  rw [ofMessage?_eq_some (by simp [hcandidates]), hcandidates]

/-- What the default class has matched for a class is not what a statement of the class reads. -/
theorem ofMessage?_add_ne_of_takesOver {ss : List Statement}
    (h : (Store.ofList ss).TakesOver s clazz)
    (hmatched : (ofMessage? (Store.ofList ss) message clazz).any isMatched = true) :
    ofMessage? ((Store.ofList ss).add s) message clazz ≠
      ofMessage? (Store.ofList ss) message clazz := by
  obtain ⟨r, hr, hmatched⟩ := (Option.any_eq_true _ _).1 hmatched
  have hserving : Statement.servingClass ss clazz = Statement.defaultClass := by
    have hnone := Statement.ofClass_eq_nil_iff.1 ((Store.own_ofList ss clazz).symm.trans h.first)
    exact if_neg fun ⟨other, hother, hclazz⟩ => hnone other hother hclazz
  have hdefault : r.clazz = some Statement.defaultClass := by
    obtain ⟨-, rfl⟩ | ⟨winner, groups, hwinner, rfl⟩ := cases_of_ofMessage? hr
    · simp [isMatched, bare] at hmatched
    · rw [← hserving, ← hwinner.1]
      rfl
  rw [ofMessage?_add_of_takesOver h, hr]
  intro heq
  obtain rfl := Option.some.inj heq
  by_cases hs : s.Matches message
  · obtain ⟨groups, -, hread⟩ := ofCandidates_cons_of_matches hs []
    rw [hread] at hdefault
    exact h.ne_default (h.clazz_eq.symm.trans (Option.some.inj hdefault))
  · rw [(ofCandidates_singleton_cases message s).2 hs] at hmatched
    simp [isMatched, bare] at hmatched

/-- What one more statement does to the readings of a class. Nothing, if it is of another class and
does not serve this one as a statement of the default class. If it joins those that serve the class,
a message that was matched is read as before, and any other one is read by the new statement alone:
it is matched if the statement matches it, and left as the bare message if not. So a message that
was matched is read in another way exactly if the statement takes the class over from the default
class, and then the statement alone reads it. -/
theorem ofMessage?_ofList_add (ss : List Statement) (s : Statement) (message clazz : Text) :
    let store := Store.ofList ss
    let before := ofMessage? store message clazz
    let after := ofMessage? (store.add s) message clazz
    let Alone := (∀ groups, s.pattern.fullMatch? message = some groups →
        after = some (ofMatch message s groups)) ∧
      (¬s.Matches message → after = some (bare message))
    (s.clazz ≠ clazz → ¬(s.clazz = Statement.defaultClass ∧ store.own clazz = []) →
        after = before) ∧
      (store.Joins s clazz → (before.any isMatched = true → after = before) ∧
        (before.any isMatched = false → Alone)) ∧
      (before.any isMatched = true → (after ≠ before ↔ store.TakesOver s clazz)) ∧
      (store.TakesOver s clazz → Alone) := by
  intro store before after Alone
  have hframe (hclazz : s.clazz ≠ clazz)
      (hdefault : ¬(s.clazz = Statement.defaultClass ∧ store.own clazz = [])) :
      after = before := by
    simp only [after, before, ofMessage?, Store.candidates_add_of_ne hclazz hdefault]
  have hjoins (h : store.Joins s clazz) : after =
      if before.any isMatched then before else some (ofCandidates message [s]) :=
    ofMessage?_add_of_joins h
  have halone (h : after = some (ofCandidates message [s])) : Alone := by
    obtain ⟨hmatch, hbare⟩ := ofCandidates_singleton_cases message s
    exact ⟨fun groups hgroups => by rw [h, hmatch groups hgroups],
      fun hs => by rw [h, hbare hs]⟩
  refine ⟨hframe, fun h => ⟨fun hmatched => ?_, fun hmatched => ?_⟩,
    fun hmatched => ⟨fun hne => ?_, fun h => ?_⟩,
    fun h => halone (ofMessage?_add_of_takesOver h)⟩
  · rw [hjoins h, if_pos hmatched]
  · refine halone ?_
    rw [hjoins h, hmatched]
    rfl
  · obtain ⟨hclazz, hdefault⟩ | h | h := store.add_cases s clazz
    · exact absurd (hframe hclazz hdefault) hne
    · exact absurd (by rw [hjoins h, if_pos hmatched]) hne
    · exact h
  · exact ofMessage?_add_ne_of_takesOver h hmatched

/-- A statement of the default class, and the first one of another class. -/
def ofAny : Statement :=
  ⟨['w'], Statement.defaultClass, Template.pattern (Text.ofString "b \x7b\x7d")⟩

def ofZed : Statement := ⟨['i'], ['Z'], Template.pattern ['c']⟩

/-- The statement of class `Z` takes the message `b x` of its class away from the default class, and
leaves class `Y` alone. There the message `c` is not matched, also by the default statement once
more. -/
theorem ofMessage?_ofList_add_ofZed :
    (Store.ofList [ofAny]).TakesOver ofZed ['Z'] ∧ (Store.ofList [ofAny]).Joins ofAny ['Y'] ∧
      ofMessage? ((Store.ofList [ofAny]).add ofZed) (Text.ofString "b x") ['Z'] =
        some (bare (Text.ofString "b x")) ∧
      ofMessage? ((Store.ofList [ofAny]).add ofZed) (Text.ofString "b x") ['Z'] ≠
        ofMessage? (Store.ofList [ofAny]) (Text.ofString "b x") ['Z'] ∧
      ofMessage? ((Store.ofList [ofAny]).add ofZed) (Text.ofString "b x") ['Y'] =
        ofMessage? (Store.ofList [ofAny]) (Text.ofString "b x") ['Y'] ∧
      ofMessage? ((Store.ofList [ofAny]).add ofAny) (Text.ofString "b x") ['Y'] =
        ofMessage? (Store.ofList [ofAny]) (Text.ofString "b x") ['Y'] ∧
      ofMessage? ((Store.ofList [ofAny]).add ofAny) ['c'] ['Y'] = some (bare ['c']) := by
  have htakes : (Store.ofList [ofAny]).TakesOver ofZed ['Z'] :=
    ⟨by decide, by decide, by decide, by decide⟩
  have hjoins : (Store.ofList [ofAny]).Joins ofAny ['Y'] := .inr ⟨by decide, by decide⟩
  have hmatched : (ofMessage? (Store.ofList [ofAny]) (Text.ofString "b x") ['Z']).any
      isMatched = true := by decide +kernel
  have hmatched' : (ofMessage? (Store.ofList [ofAny]) (Text.ofString "b x") ['Y']).any
      isMatched = true := by decide +kernel
  obtain ⟨-, -, hchanged, halone⟩ := ofMessage?_ofList_add [ofAny] ofZed (Text.ofString "b x") ['Z']
  obtain ⟨hframe, -⟩ := ofMessage?_ofList_add [ofAny] ofZed (Text.ofString "b x") ['Y']
  obtain ⟨-, hkept, -⟩ := ofMessage?_ofList_add [ofAny] ofAny (Text.ofString "b x") ['Y']
  obtain ⟨-, hadded, -⟩ := ofMessage?_ofList_add [ofAny] ofAny ['c'] ['Y']
  refine ⟨htakes, hjoins, (halone htakes).2 ?_, (hchanged hmatched).2 htakes,
    hframe (by decide) (by decide), (hkept hjoins).1 hmatched', ((hadded hjoins).2 ?_).2 ?_⟩
  · rw [Statement.Matches]
    decide +kernel
  · decide +kernel
  · rw [Statement.Matches]
    decide +kernel

end Reading

end LogHarvest
