import TableGate.Yaml.Implicit
import TableGate.Yaml.Token

/-! The nodes of a YAML document: scalars, sequences and mappings with their tags. A name
stands for the node that was anchored with it, which is then in two places; mappings are
numbered, so that this can be told. The number of tokens bounds how deep reading goes. -/

namespace TableGate.Yaml

/-- A node with its tag. -/
inductive Node where
  | scalar (tag : Text) (text : Text)
  | sequence (tag : Text) (items : List Node)
  | mapping (tag : Text) (identity : Nat) (entries : List (Node × Node))

namespace Node

def sequenceTag : Text := ScalarType.tagBase ++ ("seq" : String)

def mappingTag : Text := ScalarType.tagBase ++ ("map" : String)

/-- The node of a value that is left out. -/
def empty : Node := .scalar ScalarType.null.tag []

/-- The rest of the tokens, and the nodes with a name. -/
structure Source where
  tokens : List Token
  handles : List (Text × Text)
  anchors : List (Text × Node) := []

namespace Source

def head? (source : Source) : Option Token := source.tokens.head?

def tail (source : Source) : Source := { source with tokens := source.tokens.tail }

/-- Whether the next token is one of some, or there is none. -/
def isAtOneOf (source : Source) (tokens : List Token) : Bool :=
  match source.head? with
  | some token => tokens.contains token
  | none => false

/-- The source behind a token, which must be the next one. -/
def expect (source : Source) (token : Token) : Option Source :=
  if source.head? == some token then some source.tail else none

end Source

/-- What stands in front of a node. -/
structure Properties where
  anchor : Option Text := none
  tag : Option Text := none

/-- The tag of a token. -/
def tagOf (source : Source) (handle : Option Text) (suffix : Text) : Option Text :=
  match handle with
  | none => some suffix
  | some handle => (source.handles.lookup handle).map (· ++ suffix)

/-- An anchor and a tag, in either order. -/
def properties (source : Source) : Option (Properties × Source) :=
  match source.tokens with
  | .anchor name :: .tag handle suffix :: _ =>
    (tagOf source handle suffix).map fun tag => (⟨some name, some tag⟩, source.tail.tail)
  | .tag handle suffix :: .anchor name :: _ =>
    (tagOf source handle suffix).map fun tag => (⟨some name, some tag⟩, source.tail.tail)
  | .anchor name :: _ => some (⟨some name, none⟩, source.tail)
  | .tag handle suffix :: _ =>
    (tagOf source handle suffix).map fun tag => (⟨none, some tag⟩, source.tail)
  | _ => some ({}, source)

/-- A tag that says something; an exclamation mark alone leaves the type open. -/
def Properties.explicit (properties : Properties) : Option Text :=
  properties.tag.filter (· ≠ ['!'])

/-- A scalar node. -/
def ofScalar (properties : Properties) (text : Text) (isPlain : Bool) : Node :=
  let type : ScalarType :=
    if isPlain || properties.tag.isSome then ScalarType.ofPlain text else .string
  .scalar (properties.explicit.getD type.tag) text

/-- The node of properties without any content. -/
def ofProperties (properties : Properties) : Node :=
  .scalar (properties.explicit.getD ScalarType.null.tag) []

/-- The source in front of a node's content. A name can be given only once; inside the node
itself it stands for a mapping that is still empty. -/
def announce (properties : Properties) (source : Source) : Option Source :=
  match properties.anchor with
  | none => some source
  | some name =>
    if source.anchors.any (·.1 == name) then none
    else some { source with anchors := (name, .mapping mappingTag 0 []) :: source.anchors }

/-- A node with its name known from now on. -/
def named (properties : Properties) (read : Node × Source) : Node × Source :=
  match properties.anchor with
  | none => read
  | some name => (read.1, { read.2 with anchors := (name, read.1) :: read.2.anchors })

mutual

/-- A node. `isBlock` tells whether it may be a block, and `isLoose` whether it may be a
sequence without an indentation of its own. -/
def read (isBlock isLoose : Bool) : Nat → Source → Option (Node × Source)
  | 0, _ => none
  | fuel + 1, source =>
    match source.head? with
    | some (.reference name) => (source.anchors.lookup name).map (·, source.tail)
    | _ => do
      let (properties, source) ← properties source
      let source ← announce properties source
      let read ←
        match source.head? with
        | some .blockItem =>
          if isLoose then do
            let (items, source) ← looseItems fuel source
            some (.sequence (properties.explicit.getD sequenceTag) items, source)
          else bare properties source
        | some (.scalar text isPlain) =>
          some (ofScalar properties text (isPlain && properties.tag.isNone), source.tail)
        | some .flowSequence => do
          let (items, source) ← flowItems true fuel source.tail
          some (.sequence (properties.explicit.getD sequenceTag) items, source)
        | some .flowMapping => do
          let (entries, rest) ← flowEntries true fuel source.tail
          some (.mapping (properties.explicit.getD mappingTag) source.tokens.length entries, rest)
        | some .blockSequence =>
          if isBlock then do
            let (items, source) ← blockItems fuel source.tail
            some (.sequence (properties.explicit.getD sequenceTag) items, source)
          else bare properties source
        | some .blockMapping =>
          if isBlock then do
            let (entries, rest) ← blockEntries fuel source.tail
            some (.mapping (properties.explicit.getD mappingTag) source.tokens.length entries, rest)
          else bare properties source
        | _ => bare properties source
      some (named properties read)

/-- A node without content, which must have properties. -/
def bare (properties : Properties) (source : Source) : Option (Node × Source) :=
  if properties.anchor.isSome || properties.tag.isSome then some (ofProperties properties, source)
  else none

/-- A node, or an empty one in front of some tokens. -/
def readUnless (isBlock isLoose : Bool) (ends : List Token) :
    Nat → Source → Option (Node × Source)
  | 0, _ => none
  | fuel + 1, source =>
    if source.isAtOneOf ends then some (empty, source) else read isBlock isLoose fuel source

/-- The items of a block sequence up to its end. -/
def blockItems : Nat → Source → Option (List Node × Source)
  | 0, _ => none
  | fuel + 1, source =>
    match source.head? with
    | some .blockItem => do
      let (item, source) ← readUnless true false [.blockItem, .blockEnd] fuel source.tail
      let (items, source) ← blockItems fuel source
      some (item :: items, source)
    | _ => (source.expect .blockEnd).map fun source => ([], source)

/-- The items of a sequence in a block mapping that is not indented. -/
def looseItems : Nat → Source → Option (List Node × Source)
  | 0, _ => none
  | fuel + 1, source =>
    match source.head? with
    | some .blockItem => do
      let (item, source) ←
        readUnless true false [.blockItem, .key, .value, .blockEnd] fuel source.tail
      let (items, source) ← looseItems fuel source
      some (item :: items, source)
    | _ => some ([], source)

/-- The value of an entry, if an indicator announces one. -/
def valueUnless (isBlock isLoose : Bool) (ends : List Token) :
    Nat → Source → Option (Node × Source)
  | 0, _ => none
  | fuel + 1, source =>
    match source.head? with
    | some .value => readUnless isBlock isLoose ends fuel source.tail
    | _ => some (empty, source)

/-- The entries of a block mapping up to its end. -/
def blockEntries : Nat → Source → Option (List (Node × Node) × Source)
  | 0, _ => none
  | fuel + 1, source =>
    match source.head? with
    | some .blockEnd => some ([], source.tail)
    | some .key => do
      let (key, source) ← readUnless true true [.key, .value, .blockEnd] fuel source.tail
      let (value, source) ← valueUnless true true [.key, .value, .blockEnd] fuel source
      let (entries, source) ← blockEntries fuel source
      some ((key, value) :: entries, source)
    | _ => none

/-- The items of a flow sequence up to its end. A key makes an item a mapping of one
entry. -/
def flowItems (isFirst : Bool) : Nat → Source → Option (List Node × Source)
  | 0, _ => none
  | fuel + 1, source =>
    if source.head? == some .flowSequenceEnd then some ([], source.tail)
    else do
      let source ← if isFirst then some source else source.expect .flowItem
      match source.head? with
      | some .flowSequenceEnd => some ([], source.tail)
      | some .key => do
        let ends : List Token := [.flowItem, .flowSequenceEnd]
        let (key, rest) ← readUnless false false (.value :: ends) fuel source.tail
        let (value, rest) ← valueUnless false false ends fuel rest
        let item := Node.mapping mappingTag source.tokens.length [(key, value)]
        let (items, rest) ← flowItems false fuel rest
        some (item :: items, rest)
      | _ => do
        let (item, source) ← read false false fuel source
        let (items, source) ← flowItems false fuel source
        some (item :: items, source)

/-- The entries of a flow mapping up to its end. A node without an indicator is a key
without a value. -/
def flowEntries (isFirst : Bool) : Nat → Source → Option (List (Node × Node) × Source)
  | 0, _ => none
  | fuel + 1, source =>
    if source.head? == some .flowMappingEnd then some ([], source.tail)
    else do
      let source ← if isFirst then some source else source.expect .flowItem
      match source.head? with
      | some .flowMappingEnd => some ([], source.tail)
      | some .key => do
        let ends : List Token := [.flowItem, .flowMappingEnd]
        let (key, source) ← readUnless false false (.value :: ends) fuel source.tail
        let (value, source) ← valueUnless false false ends fuel source
        let (entries, source) ← flowEntries false fuel source
        some ((key, value) :: entries, source)
      | _ => do
        let (key, source) ← read false false fuel source
        let (entries, source) ← flowEntries false fuel source
        some ((key, empty) :: entries, source)

end

/-- The handles of tags that every document knows. -/
def standardHandles : List (Text × Text) := [(['!'], ['!']), (['!', '!'], ScalarType.tagBase)]

/-- The directives in front of a document: at most one version, which must be the first
major one, and at most one meaning of every handle. -/
def directives : List Token → Bool → List (Text × Text) → Option (List (Text × Text) × List Token)
  | .version major :: tokens, hasVersion, handles =>
    if hasVersion || major ≠ 1 then none else directives tokens true handles
  | .tagHandle handle leading :: tokens, hasVersion, handles =>
    if handles.any (·.1 == handle) then none
    else directives tokens hasVersion ((handle, leading) :: handles)
  | .otherDirective :: tokens, hasVersion, handles => directives tokens hasVersion handles
  | tokens, _, handles => some (handles ++ standardHandles, tokens)

/-- The node of a document that starts with its mark. -/
def ofMarked (tokens : List Token) : Option (Node × Source) := do
  let (handles, tokens) ← directives tokens false []
  match tokens with
  | .documentStart :: tokens =>
    let source : Source := ⟨tokens, handles, []⟩
    match tokens with
    | [] | .version _ :: _ | .tagHandle _ _ :: _ | .otherDirective :: _ | .documentStart :: _
    | .documentEnd :: _ => some (empty, source)
    | _ => read true false (4 * tokens.length + 4) source
  | _ => none

/-- Whether nothing but marks of the end follows. -/
def isOver (tokens : List Token) : Bool := tokens.all (· == .documentEnd)

/-- The node of the only document of tokens; no node if there is none. -/
def ofTokens? (tokens : List Token) : Option (Option Node) :=
  let document : Option (Option (Node × Source)) :=
    match tokens with
    | [] => some none
    | .version _ :: _ | .tagHandle _ _ :: _ | .otherDirective :: _ | .documentStart :: _ =>
      (ofMarked tokens).map some
    | _ => (read true false (4 * tokens.length + 4) ⟨tokens, standardHandles, []⟩).map some
  match document with
  | some (some (node, source)) => if isOver source.tokens then some (some node) else none
  | some none => some none
  | none => none

end Node
end TableGate.Yaml
