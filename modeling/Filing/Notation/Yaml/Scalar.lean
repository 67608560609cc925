import Filing.Notation.Yaml.Place

/-!
The texts of scalars: plain, in quotes of either kind, and in blocks of lines.

A scalar may go on over several lines. Between two of its words a single line end counts as a space,
and of several line ends all but the first count (`Gap.fold`).
-/
namespace Filing.Notation.Yaml

/-! ## Gaps between words -/

/-- What stands between two words of a scalar. -/
structure Gap where
  /-- Blanks behind the first word, as long as its line goes on. -/
  blanks : List Char := []
  /-- Whether the line has ended, be it by an escaped line end. -/
  isBroken : Bool := false
  /-- How the line ended; an escaped line end leaves nothing. -/
  ending : List Char := []
  laterEndings : List Char := []

namespace Gap

def addBlank (g : Gap) (c : Char) : Gap := if g.isBroken then g else { g with blanks := g.blanks ++ [c] }

def addEnding (g : Gap) (c : Char) : Gap :=
  if g.isBroken then { g with laterEndings := g.laterEndings ++ [c] }
  else { g with isBroken := true, ending := [c] }

/-- The characters that a gap stands for. -/
def fold (g : Gap) : List Char :=
  if !g.isBroken then g.blanks
  else if g.ending = ['\n'] then (if g.laterEndings.isEmpty then [' '] else g.laterEndings)
  else g.ending ++ g.laterEndings

/-- Reads a gap to its end. On a new line a tab may not stand left of the margin. -/
def read (margin : Nat) (g : Gap) : (turns : Nat) → Walk Gap
  | 0 => failure
  | turns + 1 => do
    match ← Walk.peek? with
    | none => return g
    | some c =>
      if isBreak c then (g.addEnding (← Walk.lineBreak)).read margin turns
      else if isBlank c then
        if g.isBroken && c = '\t' && (← get).column < margin then failure
        Walk.advance [c]
        (g.addBlank c).read margin turns
      else return g

end Gap

/-! ## Plain scalars -/

def isMark (c : Char) : Bool := [',', '[', ']', '\x7b', '\x7d'].contains c

/--
A word of a plain scalar. It ends at a colon that ends a word and, inside marks, at any mark. Inside
marks a colon may not stand right before a mark or a question mark.
-/
def plainWord (inMarks : Bool) : (turns : Nat) → Walk (List Char)
  | 0 => failure
  | turns + 1 => do
    let next ← Walk.peek?
    let after ← Walk.peekAt? 1
    match next with
    | none => return []
    | some c =>
      if inMarks && c = ':' && after.any fun a => isMark a || a = '?' then failure
      else if endsWord next || c = ':' && endsWord after || inMarks && isMark c then return []
      else
        Walk.advance [c]
        return c :: (← plainWord inMarks turns)

/--
The words of a plain scalar with the gaps between them, and whether the line had ended when it did.
It ends at a comment, at a line that opens or closes a document, and at a line left of the margin.
-/
def plainAfter (inMarks : Bool) (margin : Nat) (gap : Gap) : (turns : Nat) → Walk (List Char × Bool)
  | 0 => failure
  | turns + 1 => do
    if (← Walk.isAtMark '-') || (← Walk.isAtMark '.') || (← Walk.peek?) = some '#' then
      return ([], gap.isBroken)
    let word ← plainWord inMarks (← Walk.turns)
    if word.isEmpty then return ([], gap.isBroken)
    let text := gap.fold ++ word
    let next ← Walk.peek?
    if next.isSome && endsWord next then
      let gap ← Gap.read margin {} (← Walk.turns)
      if !inMarks && (← get).column < margin then return (text, gap.isBroken)
      let (more, isBroken) ← plainAfter inMarks margin gap turns
      return (text ++ more, isBroken)
    else return (text, false)

def plain (inMarks : Bool) (margin : Nat) : Walk (List Char × Bool) := do
  plainAfter inMarks margin {} (← Walk.turns)

/-! ## Quoted scalars -/

/-- What follows a backslash in double quotes. -/
def escape : Walk Char := do
  match ← Walk.one fun _ => true with
  | '0' => return '\x00'
  | 'a' => return '\x07'
  | 'b' => return '\x08'
  | 't' | '\t' => return '\t'
  | 'n' => return '\n'
  | 'v' => return '\x0b'
  | 'f' => return '\x0c'
  | 'r' => return '\r'
  | 'e' => return '\x1b'
  | ' ' => return ' '
  | '"' => return '"'
  | '/' => return '/'
  | '\\' => return '\\'
  | 'N' => return '\u0085'
  | '_' => return '\u00a0'
  | 'L' => return '\u2028'
  | 'P' => return '\u2029'
  | 'x' => liftM (charOf? (← Walk.hexNumber 2))
  | 'u' => liftM (charOf? (← Walk.hexNumber 4))
  | 'U' => liftM (charOf? (← Walk.hexNumber 8))
  | _ => failure

/-- A word in double quotes, and whether an escaped line end ended it. -/
def doubleQuotedWord : (turns : Nat) → Walk (List Char × Bool)
  | 0 => failure
  | turns + 1 => do
    let next ← Walk.peek?
    match next with
    | none | some '"' => return ([], false)
    | some c =>
      if endsWord next then return ([], false)
      Walk.advance [c]
      if c = '\\' && (← Walk.peek?).any isBreak then
        let _ ← Walk.lineBreak
        return ([], true)
      let c ← if c = '\\' then escape else pure c
      let (word, isEscaped) ← doubleQuotedWord turns
      return (c :: word, isEscaped)

/-- A word in single quotes, in which the quote itself is written twice. -/
def singleQuotedWord : (turns : Nat) → Walk (List Char × Bool)
  | 0 => failure
  | turns + 1 => do
    let next ← Walk.peek?
    match next with
    | none => return ([], false)
    | some c =>
      let isDoubled := c = '\'' && (← Walk.peekAt? 1) = some '\''
      if endsWord next || c = '\'' && !isDoubled then return ([], false)
      Walk.advance (if isDoubled then [c, c] else [c])
      let (word, isEscaped) ← singleQuotedWord turns
      return (c :: word, isEscaped)

/-- Words and the gaps between them up to and including the closing quote. -/
def quotedWords (quote : Char) (word : Nat → Walk (List Char × Bool)) : (turns : Nat) → Walk (List Char)
  | 0 => failure
  | turns + 1 => do
    if (← Walk.isAtMark '-') || (← Walk.isAtMark '.') || (← Walk.peek?).isNone then failure
    let (text, isBroken) ← word (← Walk.turns)
    if ← Walk.optional quote then return text
    let gap ← Gap.read 0 { isBroken } (← Walk.turns)
    return text ++ gap.fold ++ (← quotedWords quote word turns)

/-- The inside of a quoted scalar whose opening quote has been taken. -/
def quotedScalar (quote : Char) : Walk (List Char) := do
  let word := if quote = '"' then doubleQuotedWord else singleQuotedWord
  quotedWords quote word (← Walk.turns)

/-! ## Blocks of lines -/

/-- What becomes of the line ends at the end of a block. -/
inductive Tail where
  /-- One of them stays. -/
  | clip
  | strip
  | keep
  deriving DecidableEq

def tail? : Walk (Option Tail) := do
  if ← Walk.optional '+' then return some .keep
  else if ← Walk.optional '-' then return some .strip
  else return none

/-- How far the block is indented against what it belongs to. -/
def increment? : Walk (Option Nat) := do
  match ← Walk.peek? with
  | some c =>
    if c = '0' then failure
    else if isDigit c then do
      Walk.advance [c]
      return digitValue? c
    else return none
  | none => return none

/-- The two may come in either order. -/
def blockHeader : Walk (Tail × Option Nat) := do
  match ← tail? with
  | some tail => return (tail, ← increment?)
  | none =>
    let increment ← increment?
    return ((← tail?).getD .clip, increment)

/-- Spaces up to the indentation; without a known one all of them. -/
def indentation (indent : Option Nat) : Walk Unit := do
  let place ← get
  let spaces := place.rest.takeWhile (· = ' ')
  match indent with
  | some indent => Walk.advance (spaces.take (indent - place.column))
  | none => Walk.advance spaces

/--
Lines without text, up to the indentation of the next one with text: their ends, and the deepest
column reached. A tab may not stand in place of the indentation.
-/
def emptyLines (indent : Option Nat) (deepest : Nat) : (turns : Nat) → Walk (List Char × Nat)
  | 0 => failure
  | turns + 1 => do
    indentation indent
    let column := (← get).column
    let next ← Walk.peek?
    if indent.all (column < ·) && next = some '\t' then failure
    let deepest := max deepest column
    if next.any isBreak then
      let ending ← Walk.lineBreak
      let (endings, deepest) ← emptyLines indent deepest turns
      return (ending :: endings, deepest)
    else return ([], deepest)

/-- What stands between two lines of a block. -/
structure Seam where
  ending : List Char
  emptyLines : List Char
  /-- The line above begins with a blank. -/
  isIndented : Bool

/-- Lines that begin with a blank are not folded, neither with the one above nor with the one below. -/
def Seam.join (s : Seam) (folds isIndented : Bool) : List Char :=
  if folds && s.ending = ['\n'] && !s.isIndented && !isIndented then
    if s.emptyLines.isEmpty then [' '] else s.emptyLines
  else s.ending ++ s.emptyLines

/-- The lines of a block after a seam, and the seam after the last one. -/
def blockLines (folds : Bool) (indent : Nat) (seam : Seam) : (turns : Nat) → Walk (List Char × Seam)
  | 0 => failure
  | turns + 1 => do
    match ← Walk.peek? with
    | none => return ([], seam)
    | some c =>
      if (← get).column ≠ indent then return ([], seam)
      let joint := seam.join folds (isBlank c)
      let text ← Walk.many (!isBreak ·)
      let ending ← if (← Walk.peek?).isSome then List.singleton <$> Walk.lineBreak else pure []
      let (empty, _) ← emptyLines (some indent) 0 (← Walk.turns)
      let next : Seam := { ending, emptyLines := empty, isIndented := isBlank c }
      let (more, last) ← blockLines folds indent next turns
      return (joint ++ text ++ more, last)

/-- A block whose indicator has been taken; `folds` tells the two kinds apart. -/
def block (folds : Bool) (margin : Nat) : Walk (List Char) := do
  let (tail, increment) ← blockHeader
  Walk.restOfLine
  let known := increment.map (margin - 1 + ·)
  let (empty, deepest) ← emptyLines known 0 (← Walk.turns)
  -- Without an indication the first line with text sets the indentation.
  let indent := known.getD (max (max deepest margin) 1)
  let seam : Seam := { ending := [], emptyLines := empty, isIndented := false }
  let (text, last) ← blockLines folds indent seam (← Walk.turns)
  match tail with
  | .strip => return text
  | .clip => return text ++ last.ending
  | .keep => return text ++ last.ending ++ last.emptyLines

end Filing.Notation.Yaml
