import LogHarvest.Pattern.Match
import LogHarvest.Pattern.Reader

/-!
# Patterns

A pattern is its text together with what the text says. Patterns are made by `Pattern.read`
only, and two patterns with the same text are the same.
-/

namespace LogHarvest

/-- A pattern that has been read. -/
structure Pattern where
  source : Text
  expr : Pattern.Expr
  groupCount : Nat

namespace Pattern

/-- The first repetition in an expression, by the name that a message gives it. -/
def Expr.repeatName? : Expr → Option Text
  | .empty | .fail | .one _ | .anchor _ | .again _ _ => none
  | .seq first second | .alt first second | .ifGroup _ first second =>
    first.repeatName?.or second.repeatName?
  | .group _ body | .atomic body | .ahead _ body | .behind _ _ body => body.repeatName?
  | .many greed _ _ _ =>
    match greed with
    | .greedy => some (Text.ofString "MAX_REPEAT")
    | .lazily => some (Text.ofString "MIN_REPEAT")
    | .possessive => some (Text.ofString "POSSESSIVE_REPEAT")

/-- A reader at the start of a text. -/
def ReaderState.start (source : Text) : ReaderState :=
  ⟨0, Token.ofText source, Modes.none, [], [], none, [], false⟩

/-- More than the number of steps that reading takes: every token takes at most four. -/
def readFuel (source : Text) : Nat := 8 * source.length + 8

/-- What can only be judged once the whole pattern has been read. -/
def checkWhole (expr : Expr) (s : ReaderState) : Except Refusal Unit := do
  if s.modes.ascii && s.modes.unicode then throw .flagsClash
  if !s.tokens.isEmpty then throw (.malformed .unbalancedParenthesis (some s.place))
  match s.asked.reverse.find? fun a => a.1 > s.groups.length with
  | some (number, place) => throw (.malformed (.unknownGroupNumber number) (some place))
  | none => pure ()
  if s.modes.template then
    match expr.repeatName? with
    | some name => throw (.malformed (.templateRepeat name) none)
    | none => pure ()
  if s.uneven then throw (.malformed .unevenBehind none)

/-- So few groups open in a pattern that the stack of an engine has room for them, however they
nest. An engine makes up to three calls for a group inside another, and a thousand calls fill its
stack, those included that lead to it; where it gives up depends on these, and on the groups. -/
def FitsStack (source : Text) : Prop := source.count ('(' : Code) ≤ 250

instance (source : Text) : Decidable (FitsStack source) := Nat.decLe _ _

/-- Reads a pattern, whose groups may nest to any depth: only of patterns that fit the stack does
this say what an engine does with them. -/
def read (source : Text) : Except Refusal Pattern := do
  let start := ReaderState.start source
  Reader.checkNext start
  let (expr, s) ← Reader.readAlternatives (readFuel source) true Modes.none start
  checkWhole expr s
  pure ⟨source, expr, s.groups.length⟩

/-- The groups of a match of a whole text; a group that took no part has no text. -/
def fullMatch? (p : Pattern) (t : Text) : Option (List (Option Text)) :=
  p.expr.fullMatch? p.groupCount t

end Pattern

end LogHarvest
