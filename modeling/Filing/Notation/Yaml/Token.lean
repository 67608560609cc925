import Filing.Notation.Yaml.Scalar
import Filing.Notation.Yaml.Tag

/-!
The tokens of a document: its marks, dashes and scalars, and where the blocks by indentation begin
and end.

A block begins at the first token right of the margin that is a dash or a key, and ends at the first
one left of that column. That a token is a key shows at the colon after it. So the last token that
may be one is remembered (`Candidate`), and once the colon comes, the tokens that should have stood
before it are put in there.
-/
namespace Filing.Notation.Yaml

inductive Token where
  | directive (directive : Directive)
  | documentStart
  | documentEnd
  | blockSequence
  | blockMapping
  | blockEnd
  | sequenceStart
  | sequenceEnd
  | mappingStart
  | mappingEnd
  | dash
  | comma
  /-- A key comes next. -/
  | key
  /-- The value of the last key comes next. -/
  | value
  | alias (name : List Char)
  | anchor (name : List Char)
  | tag (tag : WrittenTag)
  | scalar (text : List Char) (isPlain : Bool)
  deriving DecidableEq

/-- A token that is a key if a colon follows it. -/
structure Candidate where
  place : Place
  /-- How many tokens come before it. -/
  number : Nat
  /-- Nothing but a key can stand there. -/
  isRequired : Bool

/-- How many bytes a key may take up. -/
def Candidate.maxLength : Nat := 1024

/-- A key is short and stands on one line with its colon. -/
def Candidate.isStale (c : Candidate) (now : Place) : Bool :=
  c.place.line < now.line || c.place.offset + maxLength < now.offset

structure Scanner where
  place : Place
  /-- The latest one comes first. -/
  tokens : List Token := []
  /-- One more than the column of each open block, the innermost first. -/
  margins : List Nat := []
  candidate : Option Candidate := none
  /-- The candidates before the open marks, the innermost first. -/
  outer : List (Option Candidate) := []
  mayBeginKey : Bool := true

namespace Scanner

/-- Indentation does not count between marks. -/
def inMarks (s : Scanner) : Bool := !s.outer.isEmpty

def margin (s : Scanner) : Nat := s.margins.headD 0

def emit (token : Token) (s : Scanner) : Scanner := { s with tokens := token :: s.tokens }

/-- Puts in a token where there were `number` tokens so far. -/
def emitAt (number : Nat) (token : Token) (s : Scanner) : Scanner :=
  { s with tokens := s.tokens.insertIdx (s.tokens.length - number) token }

/-- Opens a block at a column right of the margin. -/
def openBlock (column number : Nat) (kind : Token) (s : Scanner) : Scanner :=
  if !s.inMarks && s.margin ≤ column then
    { s with margins := (column + 1) :: s.margins }.emitAt number kind
  else s

/-- Closes the blocks whose margins are beyond `limit`. -/
def closeBlocks (limit : Nat) (s : Scanner) : Scanner :=
  if s.inMarks then s
  else
    let closed := s.margins.takeWhile (limit < ·)
    { s with
      margins := s.margins.dropWhile (limit < ·)
      tokens := closed.map (fun _ => .blockEnd) ++ s.tokens }

end Scanner

abbrev Scan := StateT Scanner Option

namespace Scan

def walk {α : Type} (walk : Walk α) : Scan α := do
  let s ← get
  let (a, place) ← liftM (walk s.place)
  set { s with place }
  return a

def skipOne : Scan Unit := walk (discard (Walk.one fun _ => true))

def allowKey (isAllowed : Bool) : Scan Unit := modify ({ · with mayBeginKey := isAllowed })

/-! ## Candidates for keys -/

/-- From here on the candidate is no key; where only a key can stand it has to be one. -/
def dropCandidate : Scan Unit := do
  if (← get).candidate.any (·.isRequired) then failure
  modify ({ · with candidate := none })

/-- Makes the token that comes next the candidate. At the column of a block only keys can stand. -/
def saveCandidate : Scan Unit := do
  let s ← get
  if s.mayBeginKey then
    dropCandidate
    let candidate : Candidate :=
      { place := s.place, number := s.tokens.length
        isRequired := !s.inMarks && s.margin = s.place.column + 1 }
    modify ({ · with candidate := some candidate })

def dropStale : Scan Unit := do
  let s ← get
  let isStale (c : Candidate) : Bool := c.isStale s.place
  let isMissed (c : Option Candidate) : Bool := c.any fun c => c.isRequired && isStale c
  if isMissed s.candidate || s.outer.any isMissed then failure
  set
    { s with
      candidate := s.candidate.filter (!isStale ·)
      outer := s.outer.map (Option.filter (!isStale ·)) }

/-! ## Single tokens -/

/-- A token that may be a key but is followed by none. -/
def keyLike (read : Walk Token) : Scan Unit := do
  saveCandidate
  allowKey false
  let token ← walk read
  modify (·.emit token)

def openMark (token : Token) : Scan Unit := do
  saveCandidate
  modify fun s =>
    { s with candidate := none, outer := s.candidate :: s.outer, mayBeginKey := true }.emit token
  skipOne

def closeMark (token : Token) : Scan Unit := do
  dropCandidate
  modify fun s =>
    let s := match s.outer with
      | candidate :: outer => { s with candidate, outer }
      | [] => s
    { s with mayBeginKey := false }.emit token
  skipOne

def comma : Scan Unit := do
  dropCandidate
  allowKey true
  modify (·.emit .comma)
  skipOne

/-- The start of an entry. Outside marks the first one opens the block that it belongs to. -/
def startEntry (kind : Token) : Scan Unit := do
  let s ← get
  if !s.inMarks then
    if !s.mayBeginKey then failure
    set (s.openBlock s.place.column s.tokens.length kind)

def dash : Scan Unit := do
  startEntry .blockSequence
  dropCandidate
  allowKey true
  modify (·.emit .dash)
  skipOne

def questionMark : Scan Unit := do
  startEntry .blockMapping
  dropCandidate
  allowKey !(← get).inMarks
  modify (·.emit .key)
  skipOne

def colon : Scan Unit := do
  match (← get).candidate with
  | some c =>
    modify fun s =>
      let s := (s.emitAt c.number .key).openBlock c.place.column c.number .blockMapping
      { s with candidate := none, mayBeginKey := false }
  | none =>
    startEntry .blockMapping
    allowKey !(← get).inMarks
  modify (·.emit .value)
  skipOne

/-- What separates documents, and a directive, ends all blocks. -/
def betweenDocuments (read : Walk Token) : Scan Unit := do
  modify (·.closeBlocks 0)
  dropCandidate
  allowKey false
  let token ← walk read
  modify (·.emit token)

def block (folds : Bool) : Scan Unit := do
  dropCandidate
  allowKey true
  skipOne
  let text ← walk (Yaml.block folds (← get).margin)
  modify (·.emit (.scalar text false))

/-- After a scalar that ends with its line a key may begin. -/
def plain : Scan Unit := do
  saveCandidate
  let s ← get
  let (text, isBroken) ← walk (Yaml.plain s.inMarks s.margin)
  modify (·.emit (.scalar text true))
  allowKey isBroken

end Scan

/-! ## What comes next -/

/-- The name of an anchor, after its mark. -/
def anchorName : Walk (List Char) := do
  discard (Walk.one fun _ => true)
  let name ← Walk.many isWordChar
  let next ← Walk.peek?
  let isEnd := endsWord next ||
    next.any fun c => ['?', ':', ',', ']', '\x7d', '%', '@', '\x60'].contains c
  if name.isEmpty || !isEnd then failure else return name

def quoted (quote : Char) : Walk Token := do
  Walk.char quote
  return .scalar (← quotedScalar quote) false

def documentMark (mark : Char) (token : Token) : Walk Token := do
  Walk.advance [mark, mark, mark]
  return token

namespace Scan

/-- The token that begins with `first`. -/
def token (first : Char) : Scan Unit := do
  let s ← get
  let isAlone := endsWord s.place.rest[1]?
  match first with
  | '[' => openMark .sequenceStart
  | '\x7b' => openMark .mappingStart
  | ']' => closeMark .sequenceEnd
  | '\x7d' => closeMark .mappingEnd
  | ',' => comma
  | '-' => if isAlone then dash else plain
  | '?' => if s.inMarks || isAlone then questionMark else plain
  | ':' => if s.inMarks || isAlone then colon else plain
  | '*' => keyLike (.alias <$> anchorName)
  | '&' => keyLike (.anchor <$> anchorName)
  | '!' => keyLike (.tag <$> tag s.inMarks)
  | '\'' | '"' => keyLike (quoted first)
  | '|' | '>' => if s.inMarks then failure else block (first = '>')
  | '#' | '%' | '@' | '\x60' | '\t' => failure
  | _ => plain

/--
Skips blanks, comments and ends of lines. Tabs do not count as blanks where they would be taken for
indentation.
-/
def skipToToken : (turns : Nat) → Scan Unit
  | 0 => failure
  | turns + 1 => do
    let s ← get
    if s.place.column = 0 then discard (walk (Walk.optional '\ufeff'))
    walk (Walk.skip fun c => c = ' ' || c = '\t' && (s.inMarks || !s.mayBeginKey))
    if (← walk Walk.peek?) = some '#' then walk (Walk.skip (!isBreak ·))
    if (← walk Walk.peek?).any isBreak then
      discard (walk Walk.lineBreak)
      if !s.inMarks then allowKey true
      skipToToken turns

/-- All tokens up to the end of the text. -/
def tokens : (turns : Nat) → Scan Unit
  | 0 => failure
  | turns + 1 => do
    skipToToken (← walk Walk.turns)
    dropStale
    modify fun s => s.closeBlocks (s.place.column + 1)
    match ← walk Walk.peek? with
    | none =>
      modify (·.closeBlocks 0)
      dropCandidate
    | some first =>
      if first = '%' && (← get).place.column = 0 then betweenDocuments (.directive <$> directive)
      else if ← walk (Walk.isAtMark '-') then betweenDocuments (documentMark '-' .documentStart)
      else if ← walk (Walk.isAtMark '.') then betweenDocuments (documentMark '.' .documentEnd)
      else token first
      tokens turns

end Scan

def tokens? (text : List Char) : Option (List Token) := do
  let ((), s) ← Scan.tokens (text.length + 1) { place := { rest := text } }
  return s.tokens.reverse

end Filing.Notation.Yaml
