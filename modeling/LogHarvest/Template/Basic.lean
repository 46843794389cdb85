import LogHarvest.Pattern.Basic
import LogHarvest.Template.Escape

/-!
# Compiling a template

The pattern of a template has one group per marker. With the usual group every template
compiles; with a group of one's own the pattern may be refused, and then the template is
reported with the reason.
-/

namespace LogHarvest.Template

open Text (ofString)

/-- Why a template has no pattern: its pattern text is malformed, or the group asks for
something that no reader of patterns supports. -/
inductive Failure where
  | malformed (template reason : Text)
  | unsupported (refusal : Pattern.Refusal) (source : Text)

/-- A template with the reason why it does not compile. -/
def failureText (template reason : Text) : Text :=
  ofString "Cannot compile template " ++ Text.Quoted.encode template ++ ofString ": " ++ reason

/-- The pattern of a template, with a given group in the place of each marker. -/
def compileWith (group template : Text) : Except Failure Pattern :=
  let source := escapeWith group template
  match Pattern.read source with
  | .ok p => .ok p
  | .error (.malformed cause place) =>
    .error (.malformed template (Pattern.Refusal.message source (.malformed cause place)))
  | .error refusal => .error (.unsupported refusal source)

/-- The pattern of a template. -/
def compile (template : Text) : Except Failure Pattern := compileWith wordGroup template

end LogHarvest.Template
