import LogHarvest.Java.Calls

/-!
# What the bytes of a source say

The facts of a source are those of its bytes: where it stands is kept beside them and changes none
of them. There are no facts if the bytes are no text or the text has a syntax error.
-/

namespace LogHarvest.SourceFacts

open Text.Utf8 (Bytes)

variable [Java.Parser]

/-- Facts with a path of their own. -/
def withPath (path : Text) (facts : SourceFacts) : SourceFacts := { facts with path := path }

theorem ofText_eq_map (path source : Text) (methods : List Text) :
    ofText path source methods = (ofText [] source methods).map (withPath path) := by
  unfold ofText ofTree
  cases Java.parse? source with
  | none => rfl
  | some tree =>
      dsimp only
      cases Java.logCalls source (if methods.isEmpty then Level.names else methods)
        (Java.Located.ofKind (· = .call) tree) <;> rfl

/-- The facts of a source say the same wherever it stands. -/
theorem ofBytes_eq_map (path : Text) (bytes : Bytes) (methods : List Text) :
    ofBytes path bytes methods = (ofBytes [] bytes methods).map (withPath path) := by
  unfold ofBytes
  split
  · rfl
  · next source hsource =>
    rw [ofText_eq_map]
    cases ofText [] source methods with
    | ok facts => rfl
    | error fault => cases fault <;> rfl

/-- Bytes that are no text, or a text with a syntax error. -/
def Unreadable (bytes : Bytes) : Prop :=
  ∀ source, Text.Utf8.decode bytes = .ok source → Java.parse? source = none

theorem Unreadable.exists_fault {bytes : Bytes} (h : Unreadable bytes) (path : Text)
    (methods : List Text) : ∃ fault, ofBytes path bytes methods = .error fault := by
  unfold ofBytes
  split
  · exact ⟨_, rfl⟩
  · next source hsource =>
    have hfault : ofText path source methods = .error .malformed := by
      rw [ofText, h source hsource]
    rw [hfault]
    exact ⟨_, rfl⟩

end LogHarvest.SourceFacts
