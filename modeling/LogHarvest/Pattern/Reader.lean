import LogHarvest.Pattern.CharTest
import LogHarvest.Pattern.Mode
import LogHarvest.Pattern.Refusal
import LogHarvest.Pattern.Token
import LogHarvest.Pattern.Width
import LogHarvest.Text.Naming

/-!
# Reading a pattern

A reader walks the tokens once from the left and builds the expression as it goes. A part that
is refused is refused at once, with the place that the message names; only conditions on groups
that come later, and parts to look back on whose width is not fixed, are judged at the end.
-/

namespace LogHarvest.Pattern

/-- What a reader knows so far. -/
structure ReaderState where
  /-- The place of the next token. -/
  place : Nat
  tokens : List Token
  /-- The modes of the whole pattern. -/
  modes : Modes
  /-- The width of each group read so far, from the first on; an open group has none yet. -/
  groups : List (Option Width)
  names : List (Text × Nat)
  /-- Inside a part to look back on: the number of groups there were before it. -/
  behind : Option Nat
  /-- The groups that conditions ask for by number, with the place of the first that does. -/
  asked : List (Nat × Nat)
  /-- Some part to look back on has no fixed width. -/
  uneven : Bool

abbrev Reader := StateT ReaderState (Except Refusal)

/-- An expression that has been read, and what may follow it: a repetition repeats it unless
it is an anchor or a repetition itself. -/
structure Item where
  expr : Expr
  isAnchor : Bool
  isRepeat : Bool

namespace Item

def plain (e : Expr) : Item := ⟨e, false, false⟩

def ofAnchor (a : Anchor) : Item := ⟨.anchor a, true, false⟩

/-- The items in order, given with the last one first. -/
def toExpr (acc : List Item) : Expr := Expr.ofList (acc.reverse.map Item.expr)

end Item

namespace Reader

def refuse {α : Type} (r : Refusal) : Reader α := fun _ => .error r

def failAt {α : Type} (place : Nat) (cause : Cause) : Reader α :=
  refuse (.malformed cause (some place))

/-- Refuses the pattern, a number of codes before the next token. -/
def failBack {α : Type} (back : Nat) (cause : Cause) : Reader α := fun s =>
  .error (.malformed cause (some (s.place - back)))

def here : Reader Nat := fun s => .ok (s.place, s)

/-- The next token, which stays. -/
def peek : Reader (Option Token) := fun s => .ok (s.tokens.head?, s)

/-- Refuses a pattern whose next token is a lone backslash. -/
def checkNext (s : ReaderState) : Except Refusal Unit :=
  match s.tokens with
  | .dangling :: _ => .error (.malformed .danglingBackslash (some s.place))
  | _ => .ok ()

/-- Takes the next token. -/
def next? : Reader (Option Token) := fun s =>
  match s.tokens with
  | [] => .ok (none, s)
  | t :: rest => do
    let s' := { s with place := s.place + t.width, tokens := rest }
    checkNext s'
    pure (some t, s')

/-- Takes the next token if it is the given code. -/
def accept (c : Char) : Reader Bool := do
  if (← peek) = some (.code c) then
    let _ ← next?
    pure true
  else pure false

/-- Takes up to `count` codes that pass a test. -/
def takeUpTo (test : Code → Bool) : (count : Nat) → Reader Text
  | 0 => pure []
  | count + 1 => do
    match ← peek with
    | some (.code c) =>
      if test c then
        let _ ← next?
        return c :: (← takeUpTo test count)
      else pure []
    | _ => pure []

/-- Takes all codes that pass a test. -/
def takeAll (test : Code → Bool) : Reader Text := fun s => takeUpTo test s.tokens.length s

/-- Takes the tokens up to a terminator, and the terminator. -/
def takeUntilWith (terminator : Char) (what : Text) : (fuel : Nat) → Text → Reader Text
  | 0, _ => failBack 0 .unexpectedEnd
  | fuel + 1, taken => do
    match ← next? with
    | none =>
      if taken.isEmpty then failBack 0 (.missingPart what)
      else failBack taken.length (.unterminatedName terminator)
    | some t =>
      if t = .code terminator then
        if taken.isEmpty then failBack 1 (.missingPart what) else pure taken
      else takeUntilWith terminator what fuel (taken ++ t.text)

def takeUntil (terminator : Char) (what : Text) : Reader Text := fun s =>
  takeUntilWith terminator what (s.tokens.length + 1) [] s

/-! ### Groups -/

/-- Whether a group has been closed. -/
def isClosed (number : Nat) : Reader Bool := fun s =>
  .ok (number = 0 || ((s.groups.getD (number - 1) none).isSome), s)

/-- Inside a part to look back on, only groups from before it may be referred to. -/
def checkBehind (number : Nat) : Reader Unit := do
  match (← get).behind with
  | none => pure ()
  | some before =>
    if !(← isClosed number) then failBack 0 .openGroup
    if number > before then failBack 0 .groupOfSameBehind

/-- Opens a group and numbers it. -/
def openGroup (name : Option Text) : Reader Nat := do
  let s ← get
  let number := s.groups.length + 1
  match name with
  | none => pure ()
  | some name =>
    match s.names.find? fun n => n.1 = name with
    | some (_, earlier) => failBack (name.length + 1) (.redefinedGroup name number earlier)
    | none => modify fun s => { s with names := (name, number) :: s.names }
  modify fun s => { s with groups := s.groups ++ [none] }
  pure number

/-- The widths of the groups that have been closed. -/
def widthOf (s : ReaderState) (number : Nat) : Width :=
  (s.groups.getD (number - 1) none).getD Width.zero

/-- Closes a group. -/
def closeGroup (number : Nat) (body : Expr) : Reader Unit :=
  modify fun s => { s with groups := s.groups.set (number - 1) (some (body.width (widthOf s))) }

/-- Checks a name that is followed by a terminator. -/
def checkName (name : Text) : Reader Unit :=
  if name.isIdentifier then pure () else failBack (name.length + 1) (.badGroupName name)

/-- The number of a named group, after its name and a terminator. -/
def groupNamed (name : Text) : Reader Nat := do
  match (← get).names.find? fun n => n.1 = name with
  | some (_, number) => pure number
  | none => failBack (name.length + 1) (.unknownGroup name)

/-! ### Escapes -/

/-- Escapes that stand for one code. -/
def controlEscape? (c : Code) : Option Code :=
  if c = 'a' then some ⟨7⟩
  else if c = 'f' then some ⟨12⟩
  else if c = 'n' then some ⟨10⟩
  else if c = 'r' then some ⟨13⟩
  else if c = 't' then some ⟨9⟩
  else if c = 'v' then some ⟨11⟩
  else if c = '\\' then some '\\'
  else none

/-- Escapes that stand for a class. -/
def classEscape? (modes : Modes) (c : Code) : Option ClassTest :=
  if c = 'd' then some ⟨.digit, modes.ascii, false⟩
  else if c = 'D' then some ⟨.digit, modes.ascii, true⟩
  else if c = 's' then some ⟨.blank, modes.ascii, false⟩
  else if c = 'S' then some ⟨.blank, modes.ascii, true⟩
  else if c = 'w' then some ⟨.word, modes.ascii, false⟩
  else if c = 'W' then some ⟨.word, modes.ascii, true⟩
  else none

/-- Escapes that stand for a place. -/
def anchorEscape? (modes : Modes) (c : Code) : Option Anchor :=
  if c = 'A' then some .textStart
  else if c = 'Z' then some .textEnd
  else if c = 'b' then some (.wordEdge modes.ascii)
  else if c = 'B' then some (.noWordEdge modes.ascii)
  else none

/-- The greatest code point. -/
def lastCode : Nat := 0x10FFFF

/-- An escape that gives the code in a fixed number of hexadecimal digits. -/
def readHex (letter : Code) (count : Nat) : Reader Code := do
  let digits ← takeUpTo Code.isHexDigit count
  let escape := ('\\' : Code) :: letter :: digits
  if digits.length < count then failBack escape.length (.incompleteEscape escape)
  else
    let n := Text.toNat 16 digits
    if n ≤ lastCode then pure ⟨n⟩
    else if n < 0x80000000 then failBack escape.length (.badEscape escape)
    else refuse .codeTooLarge

/-- An escape that gives the code by its name. -/
def readNamed : Reader Code := do
  if ← accept '{' then
    let name ← takeUntil '}' "character name"
    match Text.codeOfName? name with
    | some c => pure c
    | none =>
      -- A name that cannot be encoded is not looked up: its escape is then like that of any letter.
      if name.any Code.isSurrogate then failBack 2 (.badEscape [('\\' : Code), 'N'])
      else failBack (name.length + 4) (.unknownName name)
  else failBack 0 .missingBrace

/-- An escape that stands for itself: any code but a letter or a digit of ASCII. -/
def readPlain (c : Code) : Reader Code :=
  if c.isAsciiLetter || c.isAsciiDigit then failBack 2 (.badEscape [('\\' : Code), c]) else pure c

/-- An escape that stands for one code, by number, by name or for itself. -/
def readCode (c : Code) : Reader Code :=
  if c = 'x' then readHex c 2
  else if c = 'u' then readHex c 4
  else if c = 'U' then readHex c 8
  else if c = 'N' then readNamed
  else readPlain c

/-- A reference to a group by number, of which one or two digits have been read. -/
def readReference (modes : Modes) (digits : Text) : Reader Item := do
  let number := Text.toNat 10 digits
  if number ≤ (← get).groups.length then
    if !(← isClosed number) then failBack (digits.length + 1) .openGroup
    checkBehind number
    pure (.plain (.again modes.fold number))
  else failBack digits.length (.unknownGroupNumber number)

/-- An escape that starts with a digit: a code in octal when it starts with zero or has three
octal digits, otherwise a reference to a group. -/
def readNumber (modes : Modes) (c : Code) : Reader Item := do
  let literal (n : Nat) : Item := .plain (.one (.literal modes.fold false ⟨n⟩))
  if c = '0' then
    return literal (Text.toNat 8 (c :: (← takeUpTo Code.isOctalDigit 2)))
  match ← takeUpTo Code.isAsciiDigit 1 with
  | [d] =>
    if c.isOctalDigit && d.isOctalDigit then
      match ← takeUpTo Code.isOctalDigit 1 with
      | [e] =>
        let n := Text.toNat 8 [c, d, e]
        if n > 0o377 then failBack 4 (.octalTooLarge [('\\' : Code), c, d, e])
        else return literal n
      | _ => pure ()
    readReference modes [c, d]
  | _ => readReference modes [c]

/-- The item of an escape outside a set. -/
def readEscape (modes : Modes) (c : Code) : Reader Item :=
  match anchorEscape? modes c with
  | some a => pure (.ofAnchor a)
  | none =>
    match classEscape? modes c with
    | some t => pure (.plain (.one (.set .exact false [.category t])))
    | none =>
      match controlEscape? c with
      | some d => pure (.plain (.one (.literal modes.fold false d)))
      | none =>
        if c.isAsciiDigit then readNumber modes c
        else do
          let d ← readCode c
          pure (.plain (.one (.literal modes.fold false d)))

/-! ### Sets -/

/-- A member of a set that starts with the given token. -/
def readMember (modes : Modes) : Token → Reader SetItem
  | .code c => pure (.code c)
  | .dangling => failBack 0 .danglingBackslash
  | .escape c =>
    if c = 'b' then pure (.code ⟨8⟩)
    else
      match controlEscape? c with
      | some d => pure (.code d)
      | none =>
        match classEscape? modes c with
        | some t => pure (.category t)
        | none =>
          if c.isOctalDigit then do
            let digits := c :: (← takeUpTo Code.isOctalDigit 2)
            let n := Text.toNat 8 digits
            let escape := ('\\' : Code) :: digits
            if n > 0o377 then failBack escape.length (.octalTooLarge escape)
            else pure (.code ⟨n⟩)
          else do
            let d ← readCode c
            pure (.code d)

/-- The range between two members. -/
def readRange (first last : Token) (lo hi : SetItem) : Reader SetItem :=
  let bad : Reader SetItem :=
    failBack (first.width + 1 + last.width) (.badRange first.text last.text)
  match lo, hi with
  | .code lo, .code hi => if hi.val < lo.val then bad else pure (.range lo hi)
  | _, _ => bad

/-- The members up to the closing bracket, last one first, given those before. A closing
bracket in the first place is a member. -/
def readMembers (modes : Modes) (start : Nat) : (fuel : Nat) → List SetItem → Reader (List SetItem)
  | 0, _ => failAt start .unterminatedSet
  | fuel + 1, acc => do
    match ← next? with
    | none => failAt start .unterminatedSet
    | some t =>
      if t = .code ']' ∧ !acc.isEmpty then pure acc
      else
        let lo ← readMember modes t
        if ← accept '-' then
          match ← next? with
          | none => failAt start .unterminatedSet
          | some u =>
            if u = .code ']' then pure (.code '-' :: lo :: acc)
            else
              let hi ← readMember modes u
              let range ← readRange t u lo hi
              readMembers modes start fuel (range :: acc)
        else readMembers modes start fuel (lo :: acc)

/-- A set whose opening bracket has been read. -/
def readSet (modes : Modes) : Reader Item := do
  let start := (← here) - 1
  let negated ← accept '^'
  let fuel := (← get).tokens.length + 1
  let items ← readMembers modes start fuel []
  pure (.plain (.one (CharTest.ofSet modes.fold negated items.reverse)))

/-! ### Repetitions -/

/-- The number of repetitions that digits write. -/
def countOf (digits : Text) : Reader Nat := do
  let count := Text.toNat 10 digits
  if digits.length > Text.maxDigits || count ≥ unbounded then
    refuse (@Refusal.repeatTooLarge digits.length)
  else pure count

/-- The bounds between braces, or nothing if there are none: then the brace is literal. -/
def readBounds : Reader (Option (Nat × Option Nat)) := do
  let s ← get
  let start := s.place
  if (← peek) = some (.code '}') then return none
  let lo ← takeAll Code.isAsciiDigit
  let hi ← if ← accept ',' then takeAll Code.isAsciiDigit else pure lo
  if !(← accept '}') then
    set s
    return none
  let least ← countOf lo
  if hi.isEmpty then return some (least, none)
  let most ← countOf hi
  if most < least then failAt start .reversedBounds
  return some (least, some most)

/-- Whether a repetition is lazy or possessive. -/
def readGreed : Reader Greed := do
  if ← accept '?' then pure .lazily
  else if ← accept '+' then pure .possessive
  else pure .greedy

/-- Repeats the last item; the sign of repetition ends at the given place. -/
def repeatLast (start least : Nat) (most : Option Nat) : List Item → Reader (List Item)
  | [] => failAt (start - 1) .nothingToRepeat
  | item :: acc =>
    if item.isAnchor then failAt (start - 1) .nothingToRepeat
    else if item.isRepeat then failAt (start - 1) .multipleRepeat
    else do
      let greed ← readGreed
      pure (⟨.many greed least most item.expr, false, true⟩ :: acc)

/-- A sign of repetition that has been read. -/
def readRepeat (modes : Modes) (c : Code) (acc : List Item) : Reader (List Item) := do
  let start ← here
  if c = '?' then repeatLast start 0 (some 1) acc
  else if c = '*' then repeatLast start 0 none acc
  else if c = '+' then repeatLast start 1 none acc
  else
    match ← readBounds with
    | none => pure (.plain (.one (.literal modes.fold false c)) :: acc)
    | some (least, most) => repeatLast start least most acc

/-! ### Modes -/

/-- The mode letters up to a sign that ends them, last one first, given the one just read. -/
def readLettersOn : (fuel : Nat) → ModeLetter → List ModeLetter → Reader (List ModeLetter × Code)
  | 0, _, _ => failBack 0 .flagsNotEnded
  | fuel + 1, letter, acc => do
    if letter = .locale then failBack 0 .byteFlag
    let acc := letter :: acc
    if letter.isType && acc.any fun l => l.isType && l != letter then failBack 0 .clashingFlags
    match ← next? with
    | none => failBack 0 .flagsNotEnded
    | some (.code c) =>
      if c = ')' ∨ c = '-' ∨ c = ':' then pure (acc, c)
      else
        match ModeLetter.ofCode? c with
        | some letter => readLettersOn fuel letter acc
        | none => failBack 1 (if c.isLetter then .unknownFlag else .flagsNotEnded)
    | some t => failBack t.width .flagsNotEnded

/-- The mode letters up to a colon, last one first, given the one just read. -/
def readLettersOff : (fuel : Nat) → ModeLetter → List ModeLetter → Reader (List ModeLetter)
  | 0, _, _ => failBack 0 .missingColon
  | fuel + 1, letter, acc => do
    if letter.isType then failBack 0 .typeFlagOff
    let acc := letter :: acc
    match ← next? with
    | none => failBack 0 .missingColon
    | some (.code c) =>
      if c = ':' then pure acc
      else
        match ModeLetter.ofCode? c with
        | some letter => readLettersOff fuel letter acc
        | none => failBack 1 (if c.isLetter then .unknownFlag else .missingColon)
    | some t => failBack t.width .missingColon

/-- What mode letters at the start of a group do. -/
inductive ModeChange where
  | whole (on : List ModeLetter)
  | scoped (on off : List ModeLetter)

/-- Mode letters switched off, after those switched on and a minus sign. -/
def readOff (on : List ModeLetter) : Reader ModeChange := do
  match ← next? with
  | none => failBack 0 .missingFlag
  | some (.code c) =>
    match ModeLetter.ofCode? c with
    | some letter =>
      let off ← readLettersOff ((← get).tokens.length + 1) letter []
      if off.any ModeLetter.isGlobal then failBack 1 .globalFlagOff
      if off.any on.contains then failBack 1 .flagOnAndOff
      pure (.scoped on off)
    | none => failBack 1 (if c.isLetter then .unknownFlag else .missingFlag)
  | some t => failBack t.width .missingFlag

/-- Mode letters and the sign that ends them, of which the first code has been read. -/
def readModes (c : Code) : Reader ModeChange := do
  match ModeLetter.ofCode? c with
  | none => readOff []
  | some letter =>
    let (on, sign) ← readLettersOn ((← get).tokens.length + 1) letter []
    if sign = ')' then return .whole on
    if on.any ModeLetter.isGlobal then failBack 1 .globalFlagOn
    if sign = '-' then readOff on else pure (.scoped on [])

/-! ### Groups and sequences -/

/-- Skips a comment up to the end of its line. -/
def skipLine : (fuel : Nat) → Reader Unit
  | 0 => pure ()
  | fuel + 1 => do
    match ← next? with
    | none => pure ()
    | some t => if t = .code '\n' then pure () else skipLine fuel

/-- Skips a comment up to its closing parenthesis. -/
def skipComment (start : Nat) : (fuel : Nat) → Reader Unit
  | 0 => failAt start .unterminatedComment
  | fuel + 1 => do
    match ← next? with
    | none => failAt start .unterminatedComment
    | some t => if t = .code ')' then pure () else skipComment start fuel

/-- The group that a condition asks for. -/
def readCondition : Reader Nat := do
  let name ← takeUntil ')' "group name"
  let number ←
    if name.isIdentifier then groupNamed name
    else
      match Text.toInt? name with
      | some (.ofNat number) =>
        if number = 0 then failBack (name.length + 1) .badGroupNumber
        else if number ≥ 1073741823 then failBack (name.length + 1) (.unknownGroupNumber number)
        else
          modify fun s =>
            if s.asked.any fun a => a.1 = number then s
            else { s with asked := (number, s.place - name.length - 1) :: s.asked }
          pure number
      | _ => failBack (name.length + 1) (.badGroupName name)
  checkBehind number
  pure number

/-- A reference to a named group, of which everything before the name has been read. -/
def readNamedReference (modes : Modes) : Reader Item := do
  let name ← takeUntil ')' "group name"
  checkName name
  let number ← groupNamed name
  if !(← isClosed number) then failBack (name.length + 1) .openGroup
  checkBehind number
  pure (.plain (.again modes.fold number))

/-- What the codes after an opening parenthesis announce. -/
inductive Opening where
  | capture (name : Option Text)
  | bare
  | atomic
  | ahead (negated : Bool)
  | behind (negated : Bool)
  | condition (number : Nat)
  | scoped (on off : List ModeLetter)
  | whole (on : List ModeLetter)
  | comment
  | done (item : Item)

/-- Reads what a group announces after its question mark. -/
def readExtension (modes : Modes) : Reader Opening := do
  match ← next? with
  | none => failBack 0 .unexpectedEnd
  | some (.code c) =>
    if c = 'P' then
      if ← accept '<' then
        let name ← takeUntil '>' "group name"
        checkName name
        return .capture (some name)
      if ← accept '=' then return .done (← readNamedReference modes)
      match ← next? with
      | none => failBack 0 .unexpectedEnd
      | some t => failBack (t.width + 2) (.unknownExtension (('P' : Code) :: t.text))
    else if c = ':' then return .bare
    else if c = '#' then return .comment
    else if c = '=' then return .ahead false
    else if c = '!' then return .ahead true
    else if c = '<' then
      match ← next? with
      | none => failBack 0 .unexpectedEnd
      | some t =>
        if t = .code '=' then return .behind false
        else if t = .code '!' then return .behind true
        else failBack (t.width + 2) (.unknownExtension (('<' : Code) :: t.text))
    else if c = '(' then return .condition (← readCondition)
    else if c = '>' then return .atomic
    else if (ModeLetter.ofCode? c).isSome ∨ c = '-' then
      match ← readModes c with
      | .whole on => return .whole on
      | .scoped on off => return .scoped on off
    else failBack 2 (.unknownExtension [c])
  | some t => failBack (t.width + 1) (.unknownExtension t.text)

/-- Reads what an opening parenthesis announces. -/
def readOpening (modes : Modes) : Reader Opening := do
  if ← accept '?' then readExtension modes else pure (.capture none)

/-- Takes the parenthesis that closes a group. -/
def close (start : Nat) : Reader Unit := do
  if !(← accept ')') then failAt start .unterminatedGroup

/-- Starts a part to look back on and returns what was known about the one around it. -/
def enterBehind : Reader (Option Nat) := do
  let s ← get
  if s.behind.isNone then set { s with behind := some s.groups.length }
  pure s.behind

/-- Ends a part to look back on, whose width must be fixed. -/
def leaveBehind (around : Option Nat) (negated : Bool) (body : Expr) : Reader Expr := do
  let s ← get
  let width := body.width (widthOf s)
  set { s with behind := around, uneven := s.uneven || width.least != width.most }
  pure (.behind negated width.least body)

/-- An item that is a single token by itself or starts with one, other than a group. -/
def readItem (modes : Modes) (acc : List Item) : Token → Reader (List Item)
  | .dangling => failBack 0 .danglingBackslash
  | .escape c => do pure ((← readEscape modes c) :: acc)
  | .code c =>
    if c = '[' then do pure ((← readSet modes) :: acc)
    else if c = '*' ∨ c = '+' ∨ c = '?' ∨ c = '{' then readRepeat modes c acc
    else if c = '.' then pure (.plain (.one (.any modes.dotAll)) :: acc)
    else if c = '^' then
      pure (.ofAnchor (if modes.multiLine then .lineStart else .textStart) :: acc)
    else if c = '$' then
      pure (.ofAnchor (if modes.multiLine then .lineEnd else .lastLineEnd) :: acc)
    else pure (.plain (.one (.literal modes.fold false c)) :: acc)

/-- Whether a code is skipped in verbose mode. -/
def isLayout (c : Code) : Bool := c.isAsciiBlank

mutual

/-- Reads alternatives up to a closing parenthesis or the end. At the top, modes for the whole
pattern may come first and hold for all alternatives. -/
def readAlternatives : (fuel : Nat) → (top : Bool) → Modes → Reader Expr
  | 0, _, _ => failBack 0 .unexpectedEnd
  | fuel + 1, top, modes => do
    let branches ← readBranches fuel top top modes
    pure (Expr.ofAlternatives branches)

/-- Reads the alternatives from one on. -/
def readBranches : (fuel : Nat) → (top first : Bool) → Modes → Reader (List Expr)
  | 0, _, _, _ => failBack 0 .unexpectedEnd
  | fuel + 1, top, first, modes => do
    let items ← readItems fuel first modes []
    let branch := Item.toExpr items
    if ← accept '|' then
      let s ← get
      let branches ← readBranches fuel top false (if top then s.modes else modes)
      pure (branch :: branches)
    else pure [branch]

/-- Reads the items of an alternative, last one first, given those before. -/
def readItems : (fuel : Nat) → (first : Bool) → Modes → List Item → Reader (List Item)
  | 0, _, _, _ => failBack 0 .unexpectedEnd
  | fuel + 1, first, modes, acc => do
    match ← peek with
    | none => pure acc
    | some t =>
      if t = .code '|' ∨ t = .code ')' then pure acc
      else
        let _ ← next?
        match t with
        | .code c =>
          if modes.verbose && isLayout c then readItems fuel first modes acc
          else if modes.verbose && c = '#' then
            skipLine ((← get).tokens.length + 1)
            readItems fuel first modes acc
          else if c = '(' then
            let start := (← here) - 1
            match ← readOpening modes with
            | .comment =>
              skipComment start ((← get).tokens.length + 1)
              readItems fuel first modes acc
            | .whole on =>
              modify fun s => { s with modes := s.modes.withGlobal on }
              if !first || !acc.isEmpty then failAt start .lateFlags
              let s ← get
              readItems fuel first s.modes acc
            | opening =>
              let item ← readGroup fuel start modes opening
              readItems fuel first modes (item :: acc)
          else
            let acc ← readItem modes acc t
            readItems fuel first modes acc
        | _ =>
          let acc ← readItem modes acc t
          readItems fuel first modes acc

/-- Reads the inside of a group and the parenthesis that closes it. -/
def readGroup : (fuel : Nat) → (start : Nat) → Modes → Opening → Reader Item
  | 0, _, _, _ => failBack 0 .unexpectedEnd
  | fuel + 1, start, modes, opening => do
    match opening with
    | .capture name =>
      let number ← openGroup name
      let body ← readAlternatives fuel false modes
      close start
      closeGroup number body
      pure (.plain (.group number body))
    | .bare =>
      let body ← readAlternatives fuel false modes
      close start
      pure (.plain body)
    | .scoped on off =>
      let body ← readAlternatives fuel false (modes.withScoped on off)
      close start
      pure (.plain body)
    | .atomic =>
      let body ← readAlternatives fuel false modes
      close start
      pure (.plain (.atomic body))
    | .ahead negated =>
      let body ← readAlternatives fuel false modes
      close start
      pure (.plain (.ahead negated body))
    | .behind negated =>
      let around ← enterBehind
      let body ← readAlternatives fuel false modes
      let part ← leaveBehind around negated body
      close start
      pure (.plain part)
    | .condition number =>
      let yes ← readItems fuel false modes []
      let no ←
        if ← accept '|' then
          let no ← readItems fuel false modes []
          if (← peek) = some (.code '|') then failBack 0 .threeBranches
          pure no
        else pure []
      close start
      pure (.plain (.ifGroup number (Item.toExpr yes) (Item.toExpr no)))
    | .done item => pure item
    | .whole _ | .comment => failAt start .unterminatedGroup

end

end Reader

end LogHarvest.Pattern
