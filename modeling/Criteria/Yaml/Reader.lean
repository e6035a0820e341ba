import Criteria.Yaml.Lexer

/-!
# Reading YAML

From tokens to a document.  The readers recurse on a bound that is computed
from the number of tokens.  Every anchored node is entered under a number; a
reference keeps the number that its name has at that point, and stands for the
node that was entered under it last.
-/

namespace Criteria.Yaml

/--
What reading carries along: the tokens that are left, the number of every name,
and for each anchored node in the order of their starts the number it is entered
under; `nodes` holds those nodes that are complete, by their order.
-/
structure Reading where
  tokens : List Token
  numbers : List (String × Nat)
  starts : List Nat
  nodes : List (Nat × Yaml)

/-- A step of reading. -/
abbrev Read (α : Type) :=
  StateT Reading Option α

namespace Read

/-- The next token. -/
def next? : Read (Option Token) :=
  return (← get).tokens.head?

/-- Passes over the next token. -/
def skip : Read Unit :=
  modify fun reading => { reading with tokens := reading.tokens.tail }

/-- Passes over the next token, which must be the one given. -/
def expect (token : Token) : Read Unit := do
  if (← next?) = some token then skip else failure

/-- Whether the next token is one of some tokens. -/
def nextIsIn (tokens : List Token) : Read Bool :=
  return (← next?).any fun token => tokens.contains token

/-- The name of an anchor, if one comes next. -/
def anchor? : Read (Option String) := do
  match ← next? with
  | some (.anchor name) => do skip; return some name
  | _ => return none

/-- A tag in full, if one comes next; its handle must be known. -/
def tag? (handles : List (String × String)) : Read (Option String) := do
  match ← next? with
  | some (.tag "" suffix) => do skip; return some suffix
  | some (.tag handle suffix) => do
      skip
      match handles.lookup handle with
      | some expansion => return some (expansion ++ suffix)
      | none => failure
  | _ => return none

/-- The anchor and the tag of a node, in either order and both optional. -/
def properties (handles : List (String × String)) :
    Read (Option String × Option String) := do
  match ← anchor? with
  | some anchor => return (some anchor, ← tag? handles)
  | none => do
      match ← tag? handles with
      | some tag => return (← anchor?, some tag)
      | none => return (none, none)

/--
Enters a node under the number of its name, which is how many names were known
before.
-/
def enter (name : String) : Read Nat :=
  modifyGet fun reading =>
    let number := reading.numbers.length
    let others := reading.numbers.filter fun entry => entry.1 != name
    (reading.starts.length,
      { reading with
        numbers := (name, number) :: others
        starts := reading.starts ++ [number] })

/-- Completes an anchored node. -/
def complete (order : Nat) (node : Yaml) : Read Unit :=
  modify fun reading => { reading with nodes := (order, node) :: reading.nodes }

/-- A reference to a name, which must be known. -/
def reference (name : String) : Read Yaml := do
  match (← get).numbers.lookup name with
  | some number => return .reference number
  | none => failure

mutual

/--
A node; `block` admits block collections, `itemsAllowed` items without a start
of their own.
-/
def node (handles : List (String × String)) :
    (bound : Nat) → (block itemsAllowed : Bool) → Read Yaml
  | 0, _, _ => failure
  | bound + 1, block, itemsAllowed => do
      match ← next? with
      | some (.reference name) => do skip; reference name
      | _ => do
          let (name, tag) ← properties handles
          let order ← name.mapM enter
          let node ←
            content handles bound block itemsAllowed
              (name.isSome || tag.isSome) tag
          order.forM fun order => complete order node
          return node

/-- What a node holds; a node that has an anchor or a tag may be left out. -/
def content (handles : List (String × String)) :
    (bound : Nat) → (block itemsAllowed optional : Bool) →
      (tag : Option String) → Read Yaml
  | 0, _, _, _, _ => failure
  | bound + 1, block, itemsAllowed, optional, tag => do
      match ← next? with
      | some (.scalar style text) => do
          skip
          return .scalar style (tag.filter (· ≠ "!")) text
      | some .bracketOpen => do
          skip
          return .sequence (← flowItems handles bound true)
      | some .braceOpen => do
          skip
          return .mapping (← flowEntries handles bound true)
      | some .item =>
          if itemsAllowed then return .sequence (← looseItems handles bound)
          else if optional then return .scalar .plain tag ""
          else failure
      | some .sequenceStart =>
          if block then do
            skip
            return .sequence (← items handles bound)
          else if optional then return .scalar .plain tag ""
          else failure
      | some .mappingStart =>
          if block then do
            skip
            return .mapping (← entries handles bound)
          else if optional then return .scalar .plain tag ""
          else failure
      | _ => if optional then return .scalar .plain tag "" else failure

/--
A node in a block collection, left out where one of some tokens comes next.
-/
def blockNode (handles : List (String × String)) :
    (bound : Nat) → (itemsAllowed : Bool) → (ends : List Token) → Read Yaml
  | 0, _, _ => failure
  | bound + 1, itemsAllowed, ends => do
      if ← nextIsIn ends then return absent
      else node handles bound true itemsAllowed

/-- The items of a block sequence. -/
def items (handles : List (String × String)) : (bound : Nat) → Read (List Yaml)
  | 0 => failure
  | bound + 1 => do
      if ← nextIsIn [.item] then do
        skip
        let item ← blockNode handles bound false [.item, .blockEnd]
        return item :: (← items handles bound)
      else do
        expect .blockEnd
        return []

/--
The items of a block sequence that stands no deeper than the key in front of it.
-/
def looseItems (handles : List (String × String)) :
    (bound : Nat) → Read (List Yaml)
  | 0 => failure
  | bound + 1 => do
      if ← nextIsIn [.item] then do
        skip
        let item ←
          blockNode handles bound false [.item, .key, .value, .blockEnd]
        return item :: (← looseItems handles bound)
      else return []

/-- The entries of a block mapping. -/
def entries (handles : List (String × String)) :
    (bound : Nat) → Read (List (Yaml × Yaml))
  | 0 => failure
  | bound + 1 => do
      if ← nextIsIn [.key] then do
        skip
        let key ← blockNode handles bound true [.key, .value, .blockEnd]
        let value ← blockValue handles bound
        return (key, value) :: (← entries handles bound)
      else do
        expect .blockEnd
        return []

/-- The value behind a colon in a block mapping, if there is one. -/
def blockValue (handles : List (String × String)) : (bound : Nat) → Read Yaml
  | 0 => failure
  | bound + 1 => do
      if ← nextIsIn [.value] then do
        skip
        blockNode handles bound true [.key, .value, .blockEnd]
      else return absent

/--
The items of a sequence in brackets; a key among them makes an entry of its own.
-/
def flowItems (handles : List (String × String)) :
    (bound : Nat) → (first : Bool) → Read (List Yaml)
  | 0, _ => failure
  | bound + 1, first => do
      if ← nextIsIn [.bracketClose] then do
        skip
        return []
      else do
        if !first then expect .comma
        if ← nextIsIn [.bracketClose] then do
          skip
          return []
        else do
          let item ←
            if ← nextIsIn [.key] then do
              skip
              let key ←
                if ← nextIsIn [.value, .comma, .bracketClose] then do
                  skip
                  pure absent
                else node handles bound false false
              let value ← flowValue handles bound .bracketClose
              pure (.mapping [(key, value)])
            else node handles bound false false
          return item :: (← flowItems handles bound false)

/-- The entries of a mapping in braces. -/
def flowEntries (handles : List (String × String)) :
    (bound : Nat) → (first : Bool) → Read (List (Yaml × Yaml))
  | 0, _ => failure
  | bound + 1, first => do
      if ← nextIsIn [.braceClose] then do
        skip
        return []
      else do
        if !first then expect .comma
        if ← nextIsIn [.braceClose] then do
          skip
          return []
        else do
          let entry ←
            if ← nextIsIn [.key] then do
              skip
              let key ←
                if ← nextIsIn [.value, .comma, .braceClose] then pure absent
                else node handles bound false false
              let value ← flowValue handles bound .braceClose
              pure (key, value)
            else do
              let key ← node handles bound false false
              pure (key, absent)
          return entry :: (← flowEntries handles bound false)

/-- The value behind a colon within brackets or braces, if there is one. -/
def flowValue (handles : List (String × String)) :
    (bound : Nat) → (close : Token) → Read Yaml
  | 0, _ => failure
  | bound + 1, close => do
      if ← nextIsIn [.value] then do
        skip
        if ← nextIsIn [.comma, close] then return absent
        else node handles bound false false
      else return absent

end

/-- The handles that are known without a directive. -/
def standardHandles : List (String × String) :=
  [("!", "!"), ("!!", "tag:yaml.org,2002:")]

/--
The handles that directives add.  There may be one version, which must be
supported, and one meaning of a handle.
-/
def directives :
    (bound : Nat) → (versionSeen : Bool) → (handles : List (String × String)) →
      Read (List (String × String))
  | 0, _, _ => failure
  | bound + 1, versionSeen, handles => do
      match ← next? with
      | some (.version major minor) =>
          if versionSeen || major != 1 || (minor != 1 && minor != 2) then
            failure
          else do
            skip
            directives bound true handles
      | some (.handle name expansion) =>
          if (handles.lookup name).isSome then failure
          else do
            skip
            directives bound versionSeen ((name, expansion) :: handles)
      | _ => return handles

/-- Whether a token can stand only outside of documents. -/
def isOutside : Token → Bool
  | .version _ _ | .handle _ _ | .documentStart | .documentEnd => true
  | _ => false

/-- Passes over ends of documents. -/
def skipEnds : Read Unit :=
  modify fun reading =>
    { reading with tokens := reading.tokens.dropWhile (· == .documentEnd) }

/-- The node of the only document. -/
def root (bound : Nat) : Read Yaml := do
  match ← next? with
  | none => return absent
  | some first =>
      if isOutside first && first != .documentEnd then do
        let handles ← directives bound false []
        expect .documentStart
        if (← next?).all isOutside then return absent
        else node (handles ++ standardHandles) bound true false
      else node standardHandles bound true false

end Read

/-- The nodes that the numbers of references stand for. -/
def Reading.anchored (reading : Reading) : List (Nat × Yaml) :=
  (reading.starts.zipIdx.reverse).filterMap fun (number, order) =>
    (reading.nodes.lookup order).map fun node => (number, node)

/-- The document that tokens make up; there must be only one. -/
def Document.ofTokens? (tokens : List Token) : Option Document := do
  let bound := 4 * tokens.length + 4
  let (root, reading) ← (Read.root bound).run ⟨tokens, [], [], []⟩
  let ((), reading) ← Read.skipEnds.run reading
  if reading.tokens.isEmpty then some ⟨root, reading.anchored⟩ else none

/-- The document that a text writes. -/
def read? (text : String) : Option Document := do
  Document.ofTokens? (← tokens? text.toList)

end Criteria.Yaml
