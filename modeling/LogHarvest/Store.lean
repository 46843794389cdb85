import LogHarvest.Notice
import LogHarvest.Statement

/-!
# The store of statements

A store keeps the statements of each class in the order in which they were added, and the
classes in the order in which they were first seen. A class without statements of its own is
served by those of the default class.
-/

namespace LogHarvest

/-- Statements by class. -/
structure Store where
  buckets : List (Text × List Statement)

namespace Store

def empty : Store := ⟨[]⟩

/-- The buckets after a statement has been put at the end of the one of its class. -/
def insert (s : Statement) : List (Text × List Statement) → List (Text × List Statement)
  | [] => [(s.clazz, [s])]
  | (clazz, bucket) :: rest =>
    if clazz = s.clazz then (clazz, bucket ++ [s]) :: rest else (clazz, bucket) :: insert s rest

def add (store : Store) (s : Statement) : Store := ⟨insert s store.buckets⟩

def addAll (store : Store) (ss : List Statement) : Store := ss.foldl add store

def ofList (ss : List Statement) : Store := empty.addAll ss

/-- The statements of a class. -/
def own (store : Store) (clazz : Text) : List Statement :=
  ((store.buckets.find? fun b => b.1 = clazz).map Prod.snd).getD []

/-- The statements that serve a class: its own, or those of the default class if it has none. -/
def candidates (store : Store) (clazz : Text) : List Statement :=
  match store.own clazz with
  | [] => store.own Statement.defaultClass
  | bucket => bucket

/-- The classes in the order in which they were first seen. -/
def classes (store : Store) : List Text := store.buckets.map Prod.fst

/-- All statements, class by class. -/
def toList (store : Store) : List Statement := store.buckets.flatMap Prod.snd

def size (store : Store) : Nat := store.buckets.foldr (fun b n => b.2.length + n) 0

/-- How a store is shown: its numbers of classes and statements. -/
def describe (store : Store) : Text :=
  Text.ofString "PatternRepository(classes=" ++ Text.ofNat store.buckets.length ++
    Text.ofString ", statements=" ++ Text.ofNat store.size ++ Text.ofString ")"

/-- What is reported about a record whose pattern is refused. -/
def badRecord (number : Nat) (line : Text) (refusal : Pattern.Refusal) : Notice :=
  .warning .store <|
    Text.ofString "Skipping invalid pattern at line " ++ Text.ofNat number ++
    Text.ofString ": " ++ line.trimRight ++ Text.ofString " (" ++
    refusal.message (Statement.recordSource line) ++ Text.ofString ")"

/-- Adds the statements of the records from a line number on. A record whose pattern is
malformed is skipped with a warning; a pattern that is refused for another reason stops the
reading. -/
def addRecords (store : Store) (number : Nat) :
    List Text → List Notice × Except Pattern.Refusal Store
  | [] => ([], .ok store)
  | line :: lines =>
    match Statement.ofRecord? line with
    | .ok none => addRecords store (number + 1) lines
    | .ok (some s) => addRecords (store.add s) (number + 1) lines
    | .error (.malformed cause place) =>
      let (notices, result) := addRecords store (number + 1) lines
      (badRecord number line (.malformed cause place) :: notices, result)
    | .error refusal => ([], .error refusal)

/-- The store of the records of a pattern file, with what is reported about them. -/
def ofRecords (lines : List Text) : List Notice × Except Pattern.Refusal Store :=
  addRecords empty 1 lines

end Store

end LogHarvest
