import PhoneAccounts.Yaml.Tag
import PhoneAccounts.Yaml.Token.Lexer

/-!
Contract: the nodes of a document, and the grammar by which tokens make them.

An alias stands for the node that its anchor names; the nodes hold no aliases.  Inside
its own collection an alias is a cycle, and the node says so at that place.

Owns: `Node` and `Node.ofTokens?`.

Does not own: the value of a node (see `PhoneAccounts.Yaml.Meaning`).
-/

namespace PhoneAccounts.Yaml

/-- A document before its scalars have values. -/
inductive Node where
  | scalar (tag : Tag) (text : List Char)
  | sequence (tag : Tag) (items : List Node)
  | mapping (tag : Tag) (entries : List (Node × Node))
  | cycle (isMapping : Bool)
deriving Inhabited

/-- What an anchor names: a node, or a collection that is still being read. -/
inductive Anchored where
  | node (node : Node)
  | unfinished (isMapping : Bool)

/-- Tokens that have yet to be read, and the anchors so far. -/
structure TokenSource where
  tokens : List Token
  anchors : List (List Char × Anchored)
  handles : List (List Char × List Char)

namespace TokenSource

/-- The next token. -/
def next (source : TokenSource) : Token :=
  source.tokens.headD .streamEnd

def advance (source : TokenSource) : TokenSource :=
  { source with tokens := source.tokens.tail }

def isAt (source : TokenSource) (tokens : List Token) : Bool :=
  tokens.contains source.next

def expect (source : TokenSource) (token : Token) : Except Fault TokenSource :=
  if source.next = token then .ok source.advance else .error .unparseable

def anchored? (source : TokenSource) (name : List Char) : Option Anchored :=
  (source.anchors.find? fun anchor => anchor.1 = name).map Prod.snd

/-- Lets an anchor name something from now on. -/
def bind (source : TokenSource) (anchor : Option (List Char)) (value : Anchored) :
    TokenSource :=
  match anchor with
  | none => source
  | some name => { source with anchors := (name, value) :: source.anchors }

def tagName
    (source : TokenSource)
    (handle : Option (List Char))
    (suffix : List Char) :
    Except Fault (List Char) :=
  match handle with
  | none => .ok suffix
  | some handle =>
      match source.handles.find? fun entry => entry.1 = handle with
      | none => .error .unparseable
      | some entry => .ok (entry.2 ++ suffix)

end TokenSource

/-- The anchor and the full tag name in front of a node. -/
structure Properties where
  anchor : Option (List Char)
  tag : Option (List Char)

namespace Properties

/-- The name of the tag that leaves the kind of a node open. -/
def openTag : List Char := ['!']

def collectionTag (properties : Properties) (usual : Tag) : Tag :=
  match properties.tag with
  | none => usual
  | some name => if name = openTag then usual else Tag.ofName name

/-- The tag of a scalar: without one the look of a plain scalar decides, and an open tag
lets the look decide for every scalar. -/
def scalarTag (properties : Properties) (text : List Char) (isPlain : Bool) : Tag :=
  match properties.tag with
  | none => if isPlain then Tag.ofPlain text else .text
  | some name => if name = openTag then Tag.ofPlain text else Tag.ofName name

/-- Neither an anchor nor a tag is there. -/
def isEmpty (properties : Properties) : Bool :=
  properties.anchor.isNone && properties.tag.isNone

end Properties

namespace Node

def missing : Node := .scalar .null []

def readAnchor (source : TokenSource) : Option (List Char) × TokenSource :=
  match source.next with
  | .anchor name => (some name, source.advance)
  | _ => (none, source)

/-- The full name of a tag, if one comes next; its handle is looked up by the caller. -/
def readTag (source : TokenSource) :
    Option (Option (List Char) × List Char) × TokenSource :=
  match source.next with
  | .tag handle suffix => (some (handle, suffix), source.advance)
  | _ => (none, source)

/-- Anchor and tag in front of a node, in either order; an anchor may not be given twice. -/
def readProperties (source : TokenSource) : Except Fault (Properties × TokenSource) := do
  let (early, source) := readAnchor source
  let (tag, source) := readTag source
  let (anchor, source) := if early.isNone && tag.isSome then readAnchor source else (early, source)
  let name ← match tag with
    | none => .ok none
    | some (handle, suffix) => (source.tagName handle suffix).map some
  .ok (⟨anchor, name⟩, source)

/-- Refuses an anchor that names something already. -/
def checkAnchor (source : TokenSource) (anchor : Option (List Char)) : Except Fault Unit :=
  match anchor with
  | none => .ok ()
  | some name => if (source.anchored? name).isSome then .error .unparseable else .ok ()

/-- Where a node stands: which kinds of blocks may begin there. -/
structure Place where
  allowsBlock : Bool
  allowsBareEntries : Bool

/-- In a block, after a dash or at the root. -/
def Place.block : Place := ⟨true, false⟩

/-- In a block mapping, where a sequence need not be indented. -/
def Place.blockValue : Place := ⟨true, true⟩

def Place.flow : Place := ⟨false, false⟩

def finish
    (properties : Properties)
    (node : Node)
    (source : TokenSource) :
    Except Fault (Node × TokenSource) :=
  .ok (node, source.bind properties.anchor (.node node))

mutual

/-- Reads a node.  `fuel` bounds the depth of the calls, of which each but a few takes a
token. -/
def read : (fuel : Nat) → Place → TokenSource → Except Fault (Node × TokenSource)
  | 0, _, _ => .error .unparseable
  | fuel + 1, place, source =>
      match source.next with
      | .alias name =>
          match source.anchored? name with
          | none => .error .unparseable
          | some (.node node) => .ok (node, source.advance)
          | some (.unfinished isMapping) => .ok (.cycle isMapping, source.advance)
      | _ => do
          let (properties, source) ← readProperties source
          let asSequence := source.bind properties.anchor (.unfinished false)
          let asMapping := source.bind properties.anchor (.unfinished true)
          match source.next with
          | .scalar text isPlain => do
              checkAnchor source properties.anchor
              let node := .scalar (properties.scalarTag text isPlain) text
              finish properties node source.advance
          | .flowSequenceStart => do
              checkAnchor source properties.anchor
              let (items, source) ← readFlowItems fuel true asSequence.advance
              finish properties (.sequence (properties.collectionTag .sequence) items) source
          | .flowMappingStart => do
              checkAnchor source properties.anchor
              let (entries, source) ← readFlowEntries fuel true asMapping.advance
              finish properties (.mapping (properties.collectionTag .mapping) entries) source
          | token =>
              if place.allowsBareEntries && token == .blockEntry then do
                checkAnchor source properties.anchor
                let (items, source) ← readBareItems fuel asSequence
                finish properties (.sequence (properties.collectionTag .sequence) items) source
              else if place.allowsBlock && token == .blockSequenceStart then do
                checkAnchor source properties.anchor
                let (items, source) ← readBlockItems fuel asSequence.advance
                finish properties (.sequence (properties.collectionTag .sequence) items) source
              else if place.allowsBlock && token == .blockMappingStart then do
                checkAnchor source properties.anchor
                let (entries, source) ← readBlockEntries fuel asMapping.advance
                finish properties (.mapping (properties.collectionTag .mapping) entries) source
              else if properties.isEmpty then .error .unparseable
              else do
                checkAnchor source properties.anchor
                finish properties (.scalar (properties.scalarTag [] properties.tag.isNone) [])
                  source

def readUnless : (fuel : Nat) → List Token → Place → TokenSource →
    Except Fault (Node × TokenSource)
  | 0, _, _, _ => .error .unparseable
  | fuel + 1, ends, place, source =>
      if source.isAt ends then .ok (missing, source) else read fuel place source

/-- The items of a block sequence behind its start. -/
def readBlockItems : (fuel : Nat) → TokenSource → Except Fault (List Node × TokenSource)
  | 0, _ => .error .unparseable
  | fuel + 1, source =>
      match source.next with
      | .blockEntry => do
          let (item, source) ←
            readUnless fuel [.blockEntry, .blockEnd] .block source.advance
          let (items, source) ← readBlockItems fuel source
          .ok (item :: items, source)
      | _ => do
          let source ← source.expect .blockEnd
          .ok ([], source)

/-- The items of a sequence that is not indented; it ends before the first token that is no
dash. -/
def readBareItems : (fuel : Nat) → TokenSource → Except Fault (List Node × TokenSource)
  | 0, _ => .error .unparseable
  | fuel + 1, source =>
      match source.next with
      | .blockEntry => do
          let (item, source) ←
            readUnless fuel [.blockEntry, .key, .value, .blockEnd] .block source.advance
          let (items, source) ← readBareItems fuel source
          .ok (item :: items, source)
      | _ => .ok ([], source)

/-- The entries of a block mapping behind its start. -/
def readBlockEntries : (fuel : Nat) → TokenSource → Except Fault (List (Node × Node) × TokenSource)
  | 0, _ => .error .unparseable
  | fuel + 1, source =>
      match source.next with
      | .key => do
          let ends := [.key, .value, .blockEnd]
          let (key, source) ← readUnless fuel ends .blockValue source.advance
          let (value, source) ←
            if source.next = .value then readUnless fuel ends .blockValue source.advance
            else .ok (missing, source)
          let (entries, source) ← readBlockEntries fuel source
          .ok ((key, value) :: entries, source)
      | _ => do
          let source ← source.expect .blockEnd
          .ok ([], source)

def readFlowItems : (fuel : Nat) → (isFirst : Bool) → TokenSource →
    Except Fault (List Node × TokenSource)
  | 0, _, _ => .error .unparseable
  | fuel + 1, isFirst, source =>
      if source.next = .flowSequenceEnd then .ok ([], source.advance)
      else do
        let source ← if isFirst then .ok source else source.expect .flowEntry
        match source.next with
        | .flowSequenceEnd => .ok ([], source.advance)
        | .key => do
            let (key, source) ← readUnless fuel [.value, .flowEntry, .flowSequenceEnd] .flow
              source.advance
            let (value, source) ←
              if source.next = .value then
                readUnless fuel [.flowEntry, .flowSequenceEnd] .flow source.advance
              else .ok (missing, source)
            let (items, source) ← readFlowItems fuel false source
            .ok (.mapping .mapping [(key, value)] :: items, source)
        | _ => do
            let (item, source) ← read fuel .flow source
            let (items, source) ← readFlowItems fuel false source
            .ok (item :: items, source)

def readFlowEntries : (fuel : Nat) → (isFirst : Bool) → TokenSource →
    Except Fault (List (Node × Node) × TokenSource)
  | 0, _, _ => .error .unparseable
  | fuel + 1, isFirst, source =>
      if source.next = .flowMappingEnd then .ok ([], source.advance)
      else do
        let source ← if isFirst then .ok source else source.expect .flowEntry
        match source.next with
        | .flowMappingEnd => .ok ([], source.advance)
        | .key => do
            let (key, source) ← readUnless fuel [.value, .flowEntry, .flowMappingEnd] .flow
              source.advance
            let (value, source) ←
              if source.next = .value then
                readUnless fuel [.flowEntry, .flowMappingEnd] .flow source.advance
              else .ok (missing, source)
            let (entries, source) ← readFlowEntries fuel false source
            .ok ((key, value) :: entries, source)
        | _ => do
            let (key, source) ← read fuel .flow source
            let (entries, source) ← readFlowEntries fuel false source
            .ok ((key, missing) :: entries, source)

end

/-! ## Documents -/

/-- The handles that are known without a directive. -/
def usualHandles : List (List Char × List Char) :=
  [(['!'], ['!']), (['!', '!'], Tag.commonStart)]

/-- The directives in front of a document: the version may be given once, each handle too. -/
def readDirectives (hasVersion : Bool) (handles : List (List Char × List Char)) :
    List Token → Except Fault (List (List Char × List Char) × List Token)
  | .directive (.version major) :: rest =>
      if hasVersion || major != 1 then .error .unparseable
      else readDirectives true handles rest
  | .directive (.tagHandle handle start) :: rest =>
      if handles.any fun entry => entry.1 = handle then .error .unparseable
      else readDirectives hasVersion (handles ++ [(handle, start)]) rest
  | .directive .unknown :: rest => readDirectives hasVersion handles rest
  | tokens => .ok (handles, tokens)

/-- Depth that is enough for any number of tokens. -/
def fuelFor (tokens : List Token) : Nat := 3 * tokens.length + 3

/-- What may come after the only document: marks of its end. -/
def endsStream : List Token → Bool
  | .documentEnd :: rest => endsStream rest
  | tokens => tokens == [.streamEnd]

/-- The root node, or none if the text holds no document. -/
def ofTokens? (tokens : List Token) : Except Fault (Option Node) := do
  match tokens with
  | [.streamEnd] => .ok none
  | .directive _ :: _ | .documentStart :: _ => do
      let (handles, tokens) ← readDirectives false [] tokens
      let source ← (TokenSource.mk tokens [] (handles ++ usualHandles)).expect .documentStart
      let empty := source.next == .documentStart || source.next == .documentEnd ||
        source.next == .streamEnd || source.next matches .directive _
      let (node, source) ← if empty then .ok (missing, source)
        else read (fuelFor tokens) .block source
      if endsStream source.tokens then .ok (some node) else .error .unparseable
  | _ => do
      let (node, source) ← read (fuelFor tokens) .block ⟨tokens, [], usualHandles⟩
      if endsStream source.tokens then .ok (some node) else .error .unparseable

end Node

end PhoneAccounts.Yaml
