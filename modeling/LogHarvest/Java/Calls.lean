import LogHarvest.FileTree.Basic
import LogHarvest.Java.Literal
import LogHarvest.Java.Parser
import LogHarvest.Java.Traversal
import LogHarvest.Level
import LogHarvest.Statement
import LogHarvest.Text.Utf8

/-!
# Log calls of a source file

A log call is a call of a method named for a level, whatever it is called on. With it go the
names of the types around it and the fields that each type declares directly in its body: the
call's receiver, if it is a plain name, is taken to be a field of the innermost type that
declares one of that name, and that type owns the call.
-/

namespace LogHarvest

open Text (ofString)

/-- A log call. -/
structure LogCall where
  /-- The text of the first argument if that is a string literal. -/
  template : Option Text
  method : Text
  /-- The plain name that the method is called on. -/
  receiver : Option Text
  /-- The names of the types around the call, innermost first. -/
  enclosing : List Text
  line : Nat
  argumentCount : Nat

/-- The log calls of a source file and the fields of its types, by the name of the type. -/
structure SourceFacts where
  path : Text
  calls : List LogCall
  fields : List (Text × List Text)

namespace LogCall

/-- How a call is mentioned in a message. -/
def describe (c : LogCall) : Text :=
  (match c.receiver with
    | some r => if r.isEmpty then [] else r ++ ofString "."
    | none => []) ++
  c.method ++ ofString "(...) at line " ++ Text.ofNat c.line

/-- The fields of a type. -/
def fieldsOf (fields : List (Text × List Text)) (type : Text) : List Text :=
  ((fields.find? fun f => f.1 = type).map Prod.snd).getD []

/-- The innermost type around a call that declares a field named like its receiver. -/
def owner? (c : LogCall) (fields : List (Text × List Text)) : Option Text :=
  match c.receiver with
  | none => none
  | some r => c.enclosing.find? fun type => (fieldsOf fields type).contains r

/-- The class that owns a call: the default class if no type does. -/
def owner (c : LogCall) (fields : List (Text × List Text)) : Text :=
  (c.owner? fields).getD Statement.defaultClass

end LogCall

/-- Why there are no facts of a source file. -/
inductive SourceFault where
  | file (path : Text) (fault : FileFault)
  | notText (e : Text.Utf8.DecodeError)
  | malformed

namespace SourceFault

/-- What is wrong with a source file. -/
def reason : SourceFault → Text
  | .file path fault => fault.message path
  | .notText e => e.message
  | .malformed => "syntax error"

/-- What is said about a source file without facts. -/
def message (path : Text) (fault : SourceFault) : Text :=
  ofString "Cannot parse " ++ path ++ ofString ": " ++ fault.reason

end SourceFault

namespace Java

/-- Declarations of types that own calls. -/
def isTypeDecl (k : Kind) : Bool :=
  k = .classDecl || k = .interfaceDecl || k = .enumDecl || k = .recordDecl

def isFieldDecl (k : Kind) : Bool := k = .fieldDecl || k = .constantDecl

/-- The name of a declaration. -/
def nameOf (source : Text) (t : Tree) : Option Text :=
  (t.child? .name).map fun n => n.span.text source

/-- The members of a type's body. The members of an enum after its constants stand in a node
of their own. -/
def members (body : Tree) : List Tree :=
  body.children.flatMap fun c =>
    if c.2.kind = .enumMembers then c.2.children.map Prod.snd else [c.2]

/-- The names of the fields that a type declares directly in its body. -/
def declaredFields (source : Text) (type : Tree) : List Text :=
  match type.child? .body with
  | none => []
  | some body =>
    ((members body).filter fun m => isFieldDecl m.kind).flatMap fun m =>
      (m.childrenWith .declarator).filterMap (nameOf source)

/-- The fields by type, with those of one more type. -/
def addFields (name : Text) (names : List Text) :
    List (Text × List Text) → List (Text × List Text)
  | [] => [(name, names)]
  | f :: rest =>
    if f.1 = name then (name, f.2 ++ names) :: rest else f :: addFields name names rest

/-- The fields of all types of a tree. Types of one name share theirs. -/
def fieldsByType (source : Text) (t : Tree) : List (Text × List Text) :=
  (Located.ofKind isTypeDecl t).foldl (fun fields l =>
    match nameOf source l.tree with
    | some name => addFields name (declaredFields source l.tree) fields
    | none => fields) []

/-- The arguments of a call. -/
def argumentsOf (call : Tree) : List Tree :=
  match call.child? .arguments with
  | none => []
  | some list => list.childrenWith .argument

/-- The bytes that a text was read from. -/
def bytesOf (t : Text) : Text.Utf8.Bytes :=
  t.flatMap fun c =>
    if c.val < 0x110000 then Text.Utf8.encodeCode c else [(c.val - 0x110000).toUInt8]

/-- The text of a string literal, which must be free of stray bytes. -/
def literalText (source : Text) (t : Tree) : Except Text.Utf8.DecodeError Text :=
  (Text.Utf8.decode (bytesOf (t.span.text source))).map Literal.value

/-- The text of the first argument if it is a string literal. -/
def templateOf (source : Text) (arguments : List Tree) :
    Except Text.Utf8.DecodeError (Option Text) :=
  match arguments with
  | first :: _ => if first.kind = .string then (literalText source first).map some else .ok none
  | [] => .ok none

/-- The plain name that a method is called on. -/
def receiverOf (source : Text) (call : Tree) : Option Text :=
  match call.child? .object with
  | some object =>
    if object.kind = .identifier then some (object.span.text source) else none
  | none => none

/-- The names of the types around a node, innermost first. -/
def enclosingTypes (source : Text) (l : Located) : List Text :=
  (l.around.filter fun t => isTypeDecl t.kind).filterMap (nameOf source)

/-- The log call that a call is, if its method has one of some names. -/
def logCall? (source : Text) (methods : List Text) (l : Located) :
    Except Text.Utf8.DecodeError (Option LogCall) :=
  match nameOf source l.tree with
  | none => .ok none
  | some method =>
    if methods.contains method then
      let arguments := argumentsOf l.tree
      (templateOf source arguments).map fun template => some {
        template, method
        receiver := receiverOf source l.tree
        enclosing := enclosingTypes source l
        line := l.tree.span.row + 1
        argumentCount := arguments.length }
    else .ok none

/-- The log calls among some calls. -/
def logCalls (source : Text) (methods : List Text) :
    List Located → Except Text.Utf8.DecodeError (List LogCall)
  | [] => .ok []
  | l :: rest => do
    let call ← logCall? source methods l
    let calls ← logCalls source methods rest
    pure (call.toList ++ calls)

end Java

namespace SourceFacts

/-- Why the facts of a source text cannot be had: it is malformed, or a template in it holds
bytes that are no text. -/
inductive Fault where
  | malformed
  | template (e : Text.Utf8.DecodeError)

/-- The facts of a syntax tree. -/
def ofTree (path source : Text) (methods : List Text) (tree : Java.Tree) :
    Except Text.Utf8.DecodeError SourceFacts :=
  (Java.logCalls source methods (Java.Located.ofKind (· = .call) tree)).map fun calls =>
    ⟨path, calls, Java.fieldsByType source tree⟩

variable [Java.Parser]

/-- The facts of a source text, with calls of some methods; those of the levels if none are
named. -/
def ofText (path source : Text) (methods : List Text) : Except Fault SourceFacts :=
  match Java.parse? source with
  | none => .error .malformed
  | some tree =>
    (ofTree path source (if methods.isEmpty then Level.names else methods) tree).mapError .template

/-- The facts of the bytes of a source file, which must be text. -/
def ofBytes (path : Text) (bytes : Text.Utf8.Bytes) (methods : List Text) :
    Except SourceFault SourceFacts :=
  match Text.Utf8.decode bytes with
  | .error e => .error (.notText e)
  | .ok source =>
    match ofText path source methods with
    | .ok facts => .ok facts
    | .error .malformed => .error .malformed
    | .error (.template e) => .error (.notText e)

/-- The facts of the source file at a path. -/
def ofFile (tree : FileTree) (path : Text) (methods : List Text) :
    Except SourceFault SourceFacts :=
  match tree.bytesAt (Path.tidy path) with
  | .error fault => .error (.file (Path.tidy path) fault)
  | .ok bytes => ofBytes path bytes methods

end SourceFacts

end LogHarvest
