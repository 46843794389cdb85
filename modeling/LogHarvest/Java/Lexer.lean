import LogHarvest.Java.Number
import LogHarvest.Java.Token
import LogHarvest.Text.Class

/-!
# Cutting Java source into tokens

Blanks and comments separate tokens and are dropped. A token is as long as it can be, except
that every closing angle bracket is one by itself, because a type may end with several of them.
A source that holds anything else is refused, and so is one that holds the code zero. A plain
string may go on over several lines.
-/

namespace LogHarvest.Java.Lexer

open Text (ofString)

def isLayout (c : Code) : Bool := c.isAsciiBlank

def isWordStart (c : Code) : Bool := c = '$' || c.isIdentifierStart

def isWordPart (c : Code) : Bool := c = '$' || c.val = 0xA2 || c.isIdentifierPart

/-- The length of a comment up to the end of its line, which stays. -/
def lineComment (t : Text) : Nat := (t.takeWhile (· ≠ ('\n' : Code))).length

/-- The length of a block comment after its opening, its closing included. -/
def blockComment? : Text → Option Nat
  | [] => none
  | c :: rest =>
    if c = '*' ∧ rest.head? = some ('/' : Code) then some 2
    else (blockComment? rest).map (· + 1)

/-- The length of the comment at the front of a text, zero if there is none. A block comment
that is never closed is no comment. -/
def comment (t : Text) : Nat :=
  if (ofString "//").isPrefixOf t then lineComment t
  else if (ofString "/*").isPrefixOf t then
    match blockComment? (t.drop 2) with
    | some n => n + 2
    | none => 0
  else 0

/-- The symbols, each before those it starts with. -/
def symbols : List Text := List.map ofString [
  "...", "<<=", "->", "++", "--", "+=", "-=", "*=", "/=", "%=", "&=", "|=", "^=", "==", "!=",
  "<=", "<<", "&&", "||", "::", "(", ")", "\x7b", "\x7d", "[", "]", ";", ",", ".", "@", "=", "<",
  ">", "!", "~", "?", ":", "+", "-", "*", "/", "&", "|", "^", "%"]

/-- The length of the symbol at the front of a text. -/
def symbol (t : Text) : Nat :=
  ((symbols.find? (·.isPrefixOf t)).map List.length).getD 0

/-- The length of a character literal: at least one code, or a backslash with one, between
single quotes. -/
def characterFrom : (escaped : Bool) → (count : Nat) → Text → Nat
  | _, _, [] => 0
  | true, count, _ :: rest => characterFrom false (count + 1) rest
  | false, count, c :: rest =>
    if c = '\'' then (if count = 1 then 0 else count + 1)
    else if c = '\n' then 0
    else characterFrom (c = '\\') (count + 1) rest

def character (t : Text) : Nat :=
  match t with
  | [] => 0
  | c :: rest => if c = '\'' then characterFrom false 1 rest else 0

/-- The length of the escape after a backslash in a plain string, zero if there is none. -/
def plainEscape (t : Text) : Nat :=
  let hex (n : Nat) (t : Text) : Bool := n ≤ (t.takeWhile Code.isHexDigit).length
  match t with
  | [] => 0
  | c :: rest =>
    if c = 'x' then (if hex 2 rest then 3 else 0)
    else if c = 'u' then
      if hex 4 rest then 5
      else
        let digits := ((rest.drop 1).takeWhile Code.isHexDigit).length
        if rest.head? = some ('{' : Code) ∧ digits > 0 ∧
            (rest.drop (1 + digits)).head? = some ('}' : Code) then digits + 3
        else 0
    else if c.isOctalDigit then min 3 (t.takeWhile Code.isOctalDigit).length
    else 1

/-- How far a string goes, and whether an embedded expression ends it. -/
structure Stretch where
  length : Nat
  embeds : Bool

def Stretch.after (n : Nat) (s : Stretch) : Stretch := { s with length := n + s.length }

/-- The rest of a plain string, up to its closing quote or an embedded expression. -/
def plainRest : (fuel : Nat) → Text → Option Stretch
  | 0, _ => none
  | fuel + 1, t =>
    match t with
    | [] => none
    | c :: rest =>
      if c = '"' then some ⟨1, false⟩
      else if c = '\\' then
        if rest.head? = some ('{' : Code) then some ⟨2, true⟩
        else
          match plainEscape rest with
          | 0 => none
          | n => (plainRest fuel (rest.drop n)).map (Stretch.after (n + 1))
      else (plainRest fuel rest).map (Stretch.after 1)

/-- The length of the next piece of a text block that holds neither quote nor backslash. A
comment that starts it, after blanks, counts if it goes beyond the piece. -/
def blockPiece (t : Text) : Nat :=
  let piece := (t.takeWhile fun c : Code => c ≠ '"' && c ≠ '\\').length
  let blanks := (t.takeWhile isLayout).length
  let note := comment (t.drop blanks)
  if note > 0 ∧ blanks + note > piece then blanks + note else piece

/-- The rest of a text block, up to its closing quotes or an embedded expression. -/
def blockRest : (fuel : Nat) → Text → Option Stretch
  | 0, _ => none
  | fuel + 1, t =>
    match t with
    | [] => none
    | c :: rest =>
      if c = '"' then
        if (ofString "\"\"").isPrefixOf rest then some ⟨3, false⟩
        else
          let n := (rest.takeWhile fun c : Code => c ≠ '"' && c ≠ '\\').length
          (blockRest fuel (rest.drop n)).map (Stretch.after (n + 1))
      else if c = '\\' then
        match rest with
        | [] => none
        | d :: rest =>
          if d = '{' then some ⟨2, true⟩
          else (blockRest fuel rest).map (Stretch.after 2)
      else
        let n := max 1 (blockPiece t)
        (blockRest fuel (t.drop n)).map (Stretch.after n)

/-- An embedded expression that is being read: whether the string around it is a text block,
and how many braces are open in the expression. -/
structure Embedding where
  isBlock : Bool
  depth : Nat

/-- The next token of a text: its kind, its length, and the embeddings after it. The fuel has to
be as long as the text. -/
def next? (fuel : Nat) (embeddings : List Embedding) (t : Text) :
    Option (TokenKind × Nat × List Embedding) :=
  let string (isBlock : Bool) (opening : Nat) (whole cut : TokenKind) (after : List Embedding) :
      Option (TokenKind × Nat × List Embedding) :=
    let rest := t.drop opening
    (if isBlock then blockRest fuel rest else plainRest fuel rest).map fun s =>
      if s.embeds then (cut, opening + s.length, ⟨isBlock, 0⟩ :: after)
      else (whole, opening + s.length, after)
  match t with
  | [] => none
  | c :: rest =>
    if isWordStart c then
      some (.word, 1 + (rest.takeWhile isWordPart).length, embeddings)
    else if c = '"' then
      if (ofString "\"\"\"").isPrefixOf t then string true 3 .string .stringHead embeddings
      else string false 1 .string .stringHead embeddings
    else if c = '\'' then
      match character t with
      | 0 => none
      | n => some (.character, n, embeddings)
    else
      match Number.literal t with
      | n + 1 => some (.number, n + 1, embeddings)
      | 0 =>
        match embeddings with
        | e :: outer =>
          if c = '{' then some (.symbol, 1, { e with depth := e.depth + 1 } :: outer)
          else if c = '}' then
            if e.depth = 0 then string e.isBlock 1 .stringTail .stringPart outer
            else some (.symbol, 1, { e with depth := e.depth - 1 } :: outer)
          else
            match symbol t with
            | 0 => none
            | n => some (.symbol, n, embeddings)
        | [] =>
          match symbol t with
          | 0 => none
          | n => some (.symbol, n, [])

/-- The number of line feeds in a text. -/
def rows (t : Text) : Nat := t.count ('\n' : Code)

/-- The tokens of a text that starts at a place in a row. -/
def tokensFrom : (fuel : Nat) → (place row : Nat) → List Embedding → Text → Option (List Token)
  | 0, _, _, _, t => if t.isEmpty then some [] else none
  | fuel + 1, place, row, embeddings, t =>
    match t with
    | [] => if embeddings.isEmpty then some [] else none
    | c :: rest =>
      if isLayout c then
        tokensFrom fuel (place + 1) (if c = '\n' then row + 1 else row) embeddings rest
      else
        match comment t with
        | n + 1 =>
          tokensFrom fuel (place + n + 1) (row + rows (t.take (n + 1))) embeddings (t.drop (n + 1))
        | 0 =>
          match next? fuel embeddings t with
          | none => none
          | some (kind, length, embeddings) =>
            let text := t.take length
            (tokensFrom fuel (place + length) (row + rows text) embeddings (t.drop length)).map
              (⟨kind, text, place, row⟩ :: ·)

/-- The tokens of a source. A byte order mark at its very start is skipped. -/
def tokens? (source : Text) : Option (List Token) :=
  if source.any (·.val = 0) then none
  else
    match source with
    | [] => some []
    | c :: rest =>
      if c.val = 0xFEFF then tokensFrom (rest.length + 1) 1 0 [] rest
      else tokensFrom (source.length + 1) 0 0 [] source

end LogHarvest.Java.Lexer
