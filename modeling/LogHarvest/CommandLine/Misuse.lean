import LogHarvest.FileTree.Basic
import LogHarvest.Text.Likeness

/-!
# Misuse of a command

What can be wrong with the arguments of a command, and how it is said.
-/

namespace LogHarvest.CommandLine

open Text (ofString)

/-- What a path has to lead to. -/
inductive PathKind where
  | file
  | dir
deriving DecidableEq

/-- The name of a kind at the start of a sentence. -/
def PathKind.title : PathKind → Text
  | .file => "File"
  | .dir => "Directory"

/-- Whether a file or directory is of a kind. -/
def PathKind.fits : PathKind → FileNode → Bool
  | .file, n => n.isFile
  | .dir, n => n.isDir

/-- What a path leads to in place of the kind wanted. -/
inductive PathFault where
  | missing
  | otherKind
deriving DecidableEq

/-- A path that a command takes. Where it does not have to lead anywhere yet, it still must not
lead to the other kind. -/
structure PathArgument where
  name : Text
  kind : PathKind
  mustExist : Bool

/-- An argument that may be left out, as it is shown. -/
def PathArgument.shown (a : PathArgument) : Text := ofString "[" ++ a.name ++ ofString "]"

/-- What is wrong with the arguments of a command. -/
inductive Misuse where
  | unknownOption (name : Text) (alike : List Text)
  | valueMissing (name : Text)
  | valueUnwanted (name : Text)
  | notAChoice (name value : Text) (choices : List Text)
  | path (argument : PathArgument) (given : Text) (fault : PathFault)
  | extraArguments (args : List Text)

/-- Looks at what a path given for an argument leads to. -/
def PathArgument.check (a : PathArgument) (tree : FileTree) (path : Text) : Except Misuse Unit :=
  match tree.get? path with
  | none => if a.mustExist then .error (.path a path .missing) else .ok ()
  | some n =>
    if a.kind.fits n then .ok () else .error (.path a path .otherKind)

namespace Misuse

/-- Words in quotes between commas. -/
def quotedList (words : List Text) : Text :=
  Text.join (ofString ", ") (words.map Text.Quoted.encode)

/-- What is said about the known names that are like an unknown one. -/
def suggestion : List Text → Text
  | [] => []
  | [name] => ofString " Did you mean " ++ Text.Quoted.encode name ++ ofString "?"
  | names => ofString " (Did you mean one of: " ++ quotedList names ++ ofString "?)"

/-- What is said about a path that leads to nothing, or to the other kind. -/
def pathMessage (kind : PathKind) (path : Text) (fault : PathFault) : Text :=
  kind.title ++ ofString " " ++ Text.Quoted.encode path ++
    ofString (match fault, kind with
      | .missing, _ => " does not exist."
      | .otherKind, .file => " is a directory."
      | .otherKind, .dir => " is a file.")

/-- What is said about the value of an option or an argument. -/
def invalid (name reason : Text) : Text :=
  ofString "Invalid value for '" ++ name ++ ofString "': " ++ reason

/-- What is said about a misuse. -/
def message : Misuse → Text
  | .unknownOption name alike =>
    ofString "No such option " ++ Text.Quoted.encode name ++ ofString "." ++ suggestion alike
  | .valueMissing name =>
    ofString "Option " ++ Text.Quoted.encode name ++ ofString " requires an argument."
  | .valueUnwanted name =>
    ofString "Option " ++ Text.Quoted.encode name ++ ofString " does not take a value."
  | .notAChoice name value choices =>
    invalid name <|
      Text.Quoted.encode value ++ ofString " is not one of " ++ quotedList choices ++ ofString "."
  | .path argument given fault => invalid argument.shown (pathMessage argument.kind given fault)
  | .extraArguments args =>
    ofString (if args.length = 1 then "Got unexpected extra argument ("
      else "Got unexpected extra arguments (") ++ Text.join [(' ' : Code)] args ++ ofString ")"

/-- Whether a value is missing or unwanted. -/
def isAboutValue : Misuse → Bool
  | .valueMissing _ | .valueUnwanted _ => true
  | _ => false

end Misuse

end LogHarvest.CommandLine
