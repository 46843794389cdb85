import LogHarvest.Text.Naming
import LogHarvest.Text.Quoted

/-!
# Why a pattern is refused

Most causes belong to a place in the pattern, counted in code points; the message gives the
line and column as well when the pattern has more than one line.
-/

namespace LogHarvest.Pattern

open Text (ofString)

/-- What is wrong with the text of a pattern. -/
inductive Cause where
  | danglingBackslash
  | badEscape (escape : Text)
  | incompleteEscape (escape : Text)
  | octalTooLarge (escape : Text)
  | missingBrace
  | unknownName (name : Text)
  | missingPart (what : Text)
  | unterminatedName (terminator : Code)
  | unterminatedSet
  | badRange (lo hi : Text)
  | nothingToRepeat
  | multipleRepeat
  | reversedBounds
  | unexpectedEnd
  | unknownExtension (letters : Text)
  | unterminatedComment
  | unterminatedGroup
  | unbalancedParenthesis
  | badGroupName (name : Text)
  | unknownGroup (name : Text)
  | redefinedGroup (name : Text) (number earlier : Nat)
  | badGroupNumber
  | unknownGroupNumber (number : Nat)
  | openGroup
  | groupOfSameBehind
  | threeBranches
  | lateFlags
  | byteFlag
  | clashingFlags
  | flagsNotEnded
  | unknownFlag
  | globalFlagOn
  | missingFlag
  | typeFlagOff
  | missingColon
  | globalFlagOff
  | flagOnAndOff
  | unevenBehind
  | templateRepeat (name : Text)

/-- Why a pattern is refused. The last three are faults of its numbers and modes, not of its
syntax: a reader that skips malformed patterns does not skip these. The number of a repetition is
too large to be counted to, or has too many digits to be a number at all. -/
inductive Refusal where
  | malformed (cause : Cause) (place : Option Nat)
  | repeatTooLarge {digits : Nat}
  | codeTooLarge
  | flagsClash

def Cause.text : Cause → Text
  | .danglingBackslash => "bad escape (end of pattern)"
  | .badEscape escape => ofString "bad escape " ++ escape
  | .incompleteEscape escape => ofString "incomplete escape " ++ escape
  | .octalTooLarge escape =>
    ofString "octal escape value " ++ escape ++ ofString " outside of range 0-0o377"
  | .missingBrace => "missing \x7b"
  | .unknownName name => ofString "undefined character name " ++ Text.Quoted.encode name
  | .missingPart what => ofString "missing " ++ what
  | .unterminatedName terminator =>
    ofString "missing " ++ [terminator] ++ ofString ", unterminated name"
  | .unterminatedSet => "unterminated character set"
  | .badRange lo hi => ofString "bad character range " ++ lo ++ ofString "-" ++ hi
  | .nothingToRepeat => "nothing to repeat"
  | .multipleRepeat => "multiple repeat"
  | .reversedBounds => "min repeat greater than max repeat"
  | .unexpectedEnd => "unexpected end of pattern"
  | .unknownExtension letters => ofString "unknown extension ?" ++ letters
  | .unterminatedComment => "missing ), unterminated comment"
  | .unterminatedGroup => "missing ), unterminated subpattern"
  | .unbalancedParenthesis => "unbalanced parenthesis"
  | .badGroupName name => ofString "bad character in group name " ++ Text.Quoted.encode name
  | .unknownGroup name => ofString "unknown group name " ++ Text.Quoted.encode name
  | .redefinedGroup name number earlier =>
    ofString "redefinition of group name " ++ Text.Quoted.encode name ++ ofString " as group " ++
    Text.ofNat number ++ ofString "; was group " ++ Text.ofNat earlier
  | .badGroupNumber => "bad group number"
  | .unknownGroupNumber number => ofString "invalid group reference " ++ Text.ofNat number
  | .openGroup => "cannot refer to an open group"
  | .groupOfSameBehind =>
    "cannot refer to group defined in the same lookbehind subpattern"
  | .threeBranches => "conditional backref with more than two branches"
  | .lateFlags => "global flags not at the start of the expression"
  | .byteFlag => "bad inline flags: cannot use 'L' flag with a str pattern"
  | .clashingFlags => "bad inline flags: flags 'a', 'u' and 'L' are incompatible"
  | .flagsNotEnded => "missing -, : or )"
  | .unknownFlag => "unknown flag"
  | .globalFlagOn => "bad inline flags: cannot turn on global flag"
  | .missingFlag => "missing flag"
  | .typeFlagOff => "bad inline flags: cannot turn off flags 'a', 'u' and 'L'"
  | .missingColon => "missing :"
  | .globalFlagOff => "bad inline flags: cannot turn off global flag"
  | .flagOnAndOff => "bad inline flags: flag turned on and off"
  | .unevenBehind => "look-behind requires fixed-width pattern"
  | .templateRepeat name => ofString "internal: unsupported template operator " ++ name

/-- A place, with line and column when the pattern has several lines. -/
def placeText (source : Text) (place : Nat) : Text :=
  let before := source.take place
  ofString " at position " ++ Text.ofNat place ++
  if ('\n' : Code) ∈ source then
    ofString " (line " ++ Text.ofNat (before.count ('\n' : Code) + 1) ++ ofString ", column " ++
      Text.ofNat ((before.reverse.takeWhile (· ≠ ('\n' : Code))).length + 1) ++ ofString ")"
  else []

/-- What is said about a refused pattern. -/
def Refusal.message (source : Text) : Refusal → Text
  | .malformed cause none => cause.text
  | .malformed cause (some place) => cause.text ++ placeText source place
  | @repeatTooLarge digits =>
    if digits ≤ Text.maxDigits then "the repetition number is too large"
    else
      ofString "Exceeds the limit (" ++ Text.ofNat Text.maxDigits ++
        ofString " digits) for integer string conversion: value has " ++ Text.ofNat digits ++
        ofString " digits; use sys.set_int_max_str_digits() to increase the limit"
  | .codeTooLarge => "Python int too large to convert to C int"
  | .flagsClash => "ASCII and UNICODE flags are incompatible"

end LogHarvest.Pattern
