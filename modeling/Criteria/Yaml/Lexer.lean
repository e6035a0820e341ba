import Criteria.Yaml.Block
import Criteria.Yaml.Plain
import Criteria.Yaml.Property
import Criteria.Yaml.Quoted

/-!
# From text to YAML tokens

The lexer walks over a document once.  Outside brackets and braces the column
of a token opens and closes block collections.  A key shows itself only by the
colon behind it, so whatever may turn out to be a key is remembered together
with its place among the tokens, where it is announced later.  Such a key must
keep to one line and to `keyReach` bytes.
-/

namespace Criteria.Yaml

/-- The most bytes from the start of a key to its colon. -/
def keyReach : Nat := 1024

/--
What may turn out to be a key: its place among the tokens, and where it starts.
-/
structure PendingKey where
  place : Nat
  mark : Mark
  required : Bool

/--
Whether a key that starts at a mark cannot have its colon at a later mark.
-/
def PendingKey.isOutOfReach (key : PendingKey) (mark : Mark) : Bool :=
  key.mark.line < mark.line || key.mark.offset + keyReach < mark.offset

/--
The state of the lexer: the tokens so far with the latest first and their
number, the columns of the open block collections with the innermost first, the
pending key at this level of brackets and braces and those of the levels around
it, and whether a key may start here.
-/
structure Lexer where
  cursor : Cursor
  tokens : List Token
  count : Nat
  blocks : List Nat
  key : Option PendingKey
  outerKeys : List (Option PendingKey)
  keyAllowed : Bool

namespace Lexer

/-- The lexer at the start of a text. -/
def ofText (text : List Char) : Lexer :=
  ⟨.ofText text, [], 0, [], none, [], true⟩

/-- Whether the lexer stands within brackets or braces. -/
def inFlow (lexer : Lexer) : Bool :=
  !lexer.outerKeys.isEmpty

/--
The first column that belongs to the innermost block collection as its content.
-/
def depth (lexer : Lexer) : Nat :=
  lexer.blocks.head?.elim 0 (· + 1)

/-- Adds a token and moves on. -/
def push (token : Token) (cursor : Cursor) (lexer : Lexer) : Lexer :=
  { lexer with
    tokens := token :: lexer.tokens
    count := lexer.count + 1
    cursor }

/-- Adds the token of a mark of some characters. -/
def pushMark (token : Token) (length : Nat) (lexer : Lexer) : Lexer :=
  lexer.push token (lexer.cursor.skip length)

/-- Sets whether a key may start here. -/
def allowKey (keyAllowed : Bool) (lexer : Lexer) : Lexer :=
  { lexer with keyAllowed }

/-- Gives up the pending key, unless it has to become one. -/
def dropKey? (lexer : Lexer) : Option Lexer :=
  if lexer.key.any PendingKey.required then none
  else some { lexer with key := none }

/-- Remembers that a key may start here, where one is allowed. -/
def offerKey? (lexer : Lexer) : Option Lexer :=
  if lexer.keyAllowed then do
    let dropped ← lexer.dropKey?
    let mark := lexer.cursor.mark
    let required := !lexer.inFlow && lexer.depth == mark.column + 1
    return { dropped with key := some ⟨lexer.count, mark, required⟩ }
  else some lexer

/-- Gives up a key out of reach; one that has to become a key must not be. -/
def expireKey? (mark : Mark) : Option PendingKey → Option (Option PendingKey)
  | none => some none
  | some key =>
      if !key.isOutOfReach mark then some (some key)
      else if key.required then none
      else some none

/-- Gives up all keys out of reach. -/
def expireKeys? (lexer : Lexer) : Option Lexer := do
  let key ← expireKey? lexer.cursor.mark lexer.key
  let outerKeys ← lexer.outerKeys.mapM (expireKey? lexer.cursor.mark)
  return { lexer with key, outerKeys }

/-- Inserts tokens behind the first `place` tokens. -/
def insert (place : Nat) (inserted : List Token) (lexer : Lexer) : Lexer :=
  let later := lexer.count - place
  { lexer with
    tokens := lexer.tokens.take later ++ inserted.reverse ++
      lexer.tokens.drop later
    count := lexer.count + inserted.length }

/-- Opens a block collection at a column right of those that are open. -/
def openBlock (start : Token) (place column : Nat) (lexer : Lexer) : Lexer :=
  if lexer.inFlow || column < lexer.depth then lexer
  else { lexer.insert place [start] with blocks := column :: lexer.blocks }

/--
Opens a block collection here; an entry of one may stand only where a key may.
-/
def openBlockHere? (start : Token) (lexer : Lexer) : Option Lexer :=
  if lexer.inFlow then some lexer
  else if lexer.keyAllowed then
    some (lexer.openBlock start lexer.count lexer.cursor.mark.column)
  else none

/-- Closes the block collections from a column on. -/
def closeBlocks (column : Nat) (lexer : Lexer) : Lexer :=
  if lexer.inFlow then lexer
  else
    let closed := lexer.blocks.takeWhile (column ≤ ·)
    { lexer with
      tokens := List.replicate closed.length .blockEnd ++ lexer.tokens
      count := lexer.count + closed.length
      blocks := lexer.blocks.drop closed.length }

/-- The lexer at the next token, behind white space, comments and line ends. -/
def skipIdle : (bound : Nat) → Lexer → Lexer
  | 0, lexer => lexer
  | bound + 1, lexer =>
      let cursor := lexer.cursor
      let cursor :=
        if cursor.mark.column = 0 ∧ cursor.head? = some '\ufeff' then
          cursor.skip 1
        else cursor
      let tabs := lexer.inFlow || !lexer.keyAllowed
      let cursor := cursor.skipWhile fun character =>
        character == ' ' || (tabs && character == '\t')
      let cursor :=
        if cursor.head? = some '#' then
          cursor.skipWhile fun character => !isBreak character
        else cursor
      if cursor.head?.any isBreak then
        skipIdle bound
          { lexer with
            cursor := cursor.skip 1
            keyAllowed := lexer.keyAllowed || !lexer.inFlow }
      else { lexer with cursor }

/-- Ends all block collections, as directives and the marks of documents do. -/
def leaveDocument? (lexer : Lexer) : Option Lexer := do
  return (← (lexer.closeBlocks 0).dropKey?).allowKey false

/-- A bracket or a brace that opens. -/
def openFlow? (token : Token) (lexer : Lexer) : Option Lexer := do
  let offered ← lexer.offerKey?
  let inner :=
    { offered with key := none, outerKeys := offered.key :: offered.outerKeys }
  return (inner.allowKey true).pushMark token 1

/-- A bracket or a brace that closes; what it closes may have been a key. -/
def closeFlow? (token : Token) (lexer : Lexer) : Option Lexer := do
  let dropped ← lexer.dropKey?
  let outer :=
    { dropped with
      key := dropped.outerKeys.head?.join
      outerKeys := dropped.outerKeys.tail }
  return (outer.allowKey false).pushMark token 1

/-- The hyphen of an item. -/
def item? (lexer : Lexer) : Option Lexer := do
  let opened ← lexer.openBlockHere? .sequenceStart
  return ((← opened.dropKey?).allowKey true).pushMark .item 1

/-- The question mark that announces a key of any form. -/
def key? (lexer : Lexer) : Option Lexer := do
  let opened ← lexer.openBlockHere? .mappingStart
  return ((← opened.dropKey?).allowKey (!lexer.inFlow)).pushMark .key 1

/-- A colon, which turns the pending key into one. -/
def value? (lexer : Lexer) : Option Lexer :=
  match lexer.key with
  | some key =>
      let announced := { lexer.insert key.place [.key] with key := none }
      let opened := announced.openBlock .mappingStart key.place key.mark.column
      some ((opened.allowKey false).pushMark .value 1)
  | none => do
      let opened ← lexer.openBlockHere? .mappingStart
      return (opened.allowKey (!lexer.inFlow)).pushMark .value 1

/-- A token that may start a key, and after which none may start. -/
def content? (read : Option (Token × Cursor)) (lexer : Lexer) :
    Option Lexer := do
  let offered ← lexer.offerKey?
  let (token, after) ← read
  return (offered.allowKey false).push token after

/-- A scalar in quotes, given what reads it from behind the opening quote. -/
def quoted? (style : ScalarStyle) (read : Cursor → Option (List Char × Cursor))
    (lexer : Lexer) : Option Lexer :=
  lexer.content? do
    let (text, after) ← read (lexer.cursor.skip 1)
    return (.scalar style (String.ofList text), after)

/-- A block scalar. -/
def block? (style : ScalarStyle) (bound : Nat) (lexer : Lexer) :
    Option Lexer := do
  let dropped ← lexer.dropKey?
  let (text, after) ←
    readBlock? (style = .folded) lexer.depth bound (lexer.cursor.skip 1)
  return (dropped.allowKey true).push (.scalar style (String.ofList text)) after

/-- A plain scalar. -/
def plain? (bound : Nat) (lexer : Lexer) : Option Lexer := do
  let offered ← lexer.offerKey?
  let plain ← readPlain? lexer.inFlow lexer.depth bound lexer.cursor
  return (offered.allowKey plain.endsLine).push
    (.scalar .plain (String.ofList plain.text)) plain.after

/-- The token of a name behind a mark. -/
def named? (token : String → Token) (lexer : Lexer) : Option Lexer :=
  lexer.content? <|
    (readName? (lexer.cursor.skip 1)).map fun (name, after) =>
      (token name, after)

/--
The token that starts with a character, `rest` being the text behind that
character.
-/
def read? (bound : Nat) (character : Char) (rest : List Char) (lexer : Lexer) :
    Option Lexer :=
  if lexer.cursor.mark.column = 0 ∧ character = '%' then do
    let (directive, after) ← readDirective? lexer.cursor
    return (← lexer.leaveDocument?).push directive after
  else if lexer.cursor.atDocumentMark then do
    let mark := if character = '-' then .documentStart else .documentEnd
    return (← lexer.leaveDocument?).pushMark mark 3
  else
    match character with
    | '[' => lexer.openFlow? .bracketOpen
    | ']' => lexer.closeFlow? .bracketClose
    | '\x7b' => lexer.openFlow? .braceOpen
    | '\x7d' => lexer.closeFlow? .braceClose
    | ',' => do return ((← lexer.dropKey?).allowKey true).pushMark .comma 1
    | '-' => if startsBlank rest then lexer.item? else lexer.plain? bound
    | '?' =>
        if lexer.inFlow || startsBlank rest then lexer.key?
        else lexer.plain? bound
    | ':' =>
        if lexer.inFlow || startsBlank rest then lexer.value?
        else lexer.plain? bound
    | '*' => lexer.named? .reference
    | '&' => lexer.named? .anchor
    | '!' => lexer.content? (readTag? lexer.inFlow lexer.cursor)
    | '|' => if lexer.inFlow then none else lexer.block? .literal bound
    | '>' => if lexer.inFlow then none else lexer.block? .folded bound
    | '\x27' => lexer.quoted? .singleQuoted (readSingleQuoted? bound)
    | '\x22' => lexer.quoted? .doubleQuoted (readDoubleQuoted? bound)
    | _ =>
        if isGap character || isReserved character then none
        else lexer.plain? bound

/--
All tokens, in order; fewer characters than `bound` are left at every step.
-/
def run? : (bound : Nat) → Lexer → Option (List Token)
  | 0, _ => none
  | bound + 1, lexer => do
      let lexer ← (lexer.skipIdle (bound + 1)).expireKeys?
      let lexer := lexer.closeBlocks (lexer.cursor.mark.column + 1)
      match lexer.cursor.rest with
      | [] => return (← lexer.leaveDocument?).tokens.reverse
      | character :: rest =>
          run? bound (← lexer.read? (bound + 1) character rest)

end Lexer

/-- The tokens of a text. -/
def tokens? (text : List Char) : Option (List Token) :=
  if text.all isAllowed then
    let text := unifyBreaks text
    (Lexer.ofText text).run? (text.length + 1)
  else none

end Criteria.Yaml
