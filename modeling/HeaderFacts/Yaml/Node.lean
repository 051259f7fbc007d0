import HeaderFacts.Yaml.Token

/-!
# YAML nodes

The tree that the tokens of a document stand for: scalars, sequences and mappings with their tags.
Aliases are replaced by the nodes they name.

Main definitions:

* `Node` — a node.
* `Node.ofText?` — the node of a text that holds exactly one document.
-/

namespace HeaderFacts.Yaml

/-- A YAML node with its tag, if one is written. -/
inductive Node where
  | scalar (tag : Option String) (style : ScalarStyle) (text : String)
  | sequence (tag : Option String) (items : List Node)
  | mapping (tag : Option String) (entries : List (Node × Node))
  deriving Repr, Inhabited

/-- The node that is written as nothing. -/
def Node.empty : Node := .scalar none .plain ""

/-- The tokens still to be read and the nodes that have names so far, the latest first. -/
structure Composer where
  tokens : List Token
  anchors : List (List Char × Node) := []

namespace Composer

/-- The handles of tags and what they expand to. -/
abbrev Handles := List (List Char × List Char)

/-- The handles that need no directive. -/
def standardHandles : Handles :=
  [(['!'], ['!']), (['!', '!'], "tag:yaml.org,2002:".toList)]

/-- The tag that a handle and a suffix make. -/
def resolveTag (handles : Handles) (handle suffix : List Char) : Option String :=
  if handle.isEmpty then some (String.ofList suffix)
  else (handles.lookup handle).map fun expansion => String.ofList (expansion ++ suffix)

/-- What may stand before a node: an anchor and a tag, in either order. -/
structure Properties where
  anchor : Option (List Char) := none
  tag : Option String := none

/-- Reads what stands before a node. -/
def readProperties (handles : Handles) : List Token → Option (Properties × List Token)
  | .anchor name :: .tag handle suffix :: rest =>
    (resolveTag handles handle suffix).map fun tag => (⟨some name, some tag⟩, rest)
  | .anchor name :: rest => some (⟨some name, none⟩, rest)
  | .tag handle suffix :: .anchor name :: rest =>
    (resolveTag handles handle suffix).map fun tag => (⟨some name, some tag⟩, rest)
  | .tag handle suffix :: rest =>
    (resolveTag handles handle suffix).map fun tag => (⟨none, some tag⟩, rest)
  | tokens => some ({}, tokens)

/-- Names a node. The name is given where the node begins, so names given inside it are later. -/
def bind (before : Composer) (name : Option (List Char)) (node : Node) (after : Composer) :
    Composer :=
  match name with
  | none => after
  | some name =>
    let inside := after.anchors.take (after.anchors.length - before.anchors.length)
    { after with anchors := inside ++ (name, node) :: before.anchors }

/-! ## Nodes

Each reader takes fuel that is more than four times the tokens left. Elements read so far are in
reverse. -/

mutual

/-- Reads a node. A block collection can stand only where `block` allows it, and a sequence that is
not indented only where `indentless` does. -/
def readNode (handles : Handles) (block indentless : Bool) :
    Nat → Composer → Option (Node × Composer)
  | 0, _ => none
  | fuel + 1, c =>
    match c.tokens with
    | .alias name :: rest => (c.anchors.lookup name).map (·, { c with tokens := rest })
    | tokens => do
      let (properties, tokens) ← readProperties handles tokens
      let start := { c with tokens }
      let tag := properties.tag
      let (node, after) ←
        match tokens with
        | .scalar style text :: rest =>
          some (.scalar tag style (String.ofList text), { c with tokens := rest })
        | .flowSequenceStart :: rest =>
          readFlowSequence handles tag true [] fuel { c with tokens := rest }
        | .flowMappingStart :: rest =>
          readFlowMapping handles tag true [] fuel { c with tokens := rest }
        | .blockSequenceStart :: rest =>
          if block then readBlockSequence handles tag [] fuel { c with tokens := rest } else none
        | .blockMappingStart :: rest =>
          if block then readBlockMapping handles tag [] fuel { c with tokens := rest } else none
        | _ =>
          if indentless && tokens.head? == some .blockEntry then
            readPlainSequence handles tag [] fuel start
          else if properties.anchor.isSome || tag.isSome then
            some (.scalar tag .plain "", start)
          else none
      return (node, bind c properties.anchor node after)

/-- Reads a node that may be written as nothing, which it is before one of the given tokens. -/
def readOptional (handles : Handles) (block indentless : Bool) (stops : List Token) :
    Nat → Composer → Option (Node × Composer)
  | 0, _ => none
  | fuel + 1, c =>
    match c.tokens with
    | t :: _ =>
      if stops.contains t then some (.empty, c) else readNode handles block indentless fuel c
    | [] => readNode handles block indentless fuel c

/-- Reads the entries of a block sequence. -/
def readBlockSequence (handles : Handles) (tag : Option String) (items : List Node) :
    Nat → Composer → Option (Node × Composer)
  | 0, _ => none
  | fuel + 1, c =>
    match c.tokens with
    | .blockEntry :: rest => do
      let (item, c) ←
        readOptional handles true false [.blockEntry, .blockEnd] fuel { c with tokens := rest }
      readBlockSequence handles tag (item :: items) fuel c
    | .blockEnd :: rest => some (.sequence tag items.reverse, { c with tokens := rest })
    | _ => none

/-- Reads the entries of a sequence in a mapping that is indented no deeper than the mapping. -/
def readPlainSequence (handles : Handles) (tag : Option String) (items : List Node) :
    Nat → Composer → Option (Node × Composer)
  | 0, _ => none
  | fuel + 1, c =>
    match c.tokens with
    | .blockEntry :: rest => do
      let (item, c) ←
        readOptional handles true false [.blockEntry, .key, .value, .blockEnd] fuel
          { c with tokens := rest }
      readPlainSequence handles tag (item :: items) fuel c
    | _ => some (.sequence tag items.reverse, c)

/-- Reads the entries of a block mapping. -/
def readBlockMapping (handles : Handles) (tag : Option String) (entries : List (Node × Node)) :
    Nat → Composer → Option (Node × Composer)
  | 0, _ => none
  | fuel + 1, c =>
    match c.tokens with
    | .blockEnd :: rest => some (.mapping tag entries.reverse, { c with tokens := rest })
    | .key :: rest => do
      let (key, c) ←
        readOptional handles true true [.key, .value, .blockEnd] fuel { c with tokens := rest }
      let (value, c) ← readBlockValue handles fuel c
      readBlockMapping handles tag ((key, value) :: entries) fuel c
    | .value :: _ => do
      let (value, c) ← readBlockValue handles fuel c
      readBlockMapping handles tag ((.empty, value) :: entries) fuel c
    | _ => none

/-- Reads the value of a key in a block mapping. -/
def readBlockValue (handles : Handles) : Nat → Composer → Option (Node × Composer)
  | 0, _ => none
  | fuel + 1, c =>
    match c.tokens with
    | .value :: rest =>
      readOptional handles true true [.key, .value, .blockEnd] fuel { c with tokens := rest }
    | _ => some (.empty, c)

/-- Reads the entries of a flow sequence. -/
def readFlowSequence (handles : Handles) (tag : Option String) (first : Bool) (items : List Node) :
    Nat → Composer → Option (Node × Composer)
  | 0, _ => none
  | fuel + 1, c =>
    let tokens? :=
      match c.tokens with
      | .flowSequenceEnd :: _ => some c.tokens
      | .flowEntry :: rest => if first then none else some rest
      | tokens => if first then some tokens else none
    match tokens? with
    | none => none
    | some (.flowSequenceEnd :: rest) =>
      some (.sequence tag items.reverse, { c with tokens := rest })
    | some (.key :: rest) => do
      let (key, c) ←
        readOptional handles false false [.value, .flowEntry, .flowSequenceEnd] fuel
          { c with tokens := rest }
      let (value, c) ← readFlowValue handles .flowSequenceEnd fuel c
      readFlowSequence handles tag false (.mapping none [(key, value)] :: items) fuel c
    | some tokens => do
      let (item, c) ← readNode handles false false fuel { c with tokens }
      readFlowSequence handles tag false (item :: items) fuel c

/-- Reads the entries of a flow mapping. -/
def readFlowMapping (handles : Handles) (tag : Option String) (first : Bool)
    (entries : List (Node × Node)) : Nat → Composer → Option (Node × Composer)
  | 0, _ => none
  | fuel + 1, c =>
    let tokens? :=
      match c.tokens with
      | .flowMappingEnd :: _ => some c.tokens
      | .flowEntry :: rest => if first then none else some rest
      | tokens => if first then some tokens else none
    match tokens? with
    | none => none
    | some (.flowMappingEnd :: rest) =>
      some (.mapping tag entries.reverse, { c with tokens := rest })
    | some (.key :: rest) => do
      let (key, c) ←
        readOptional handles false false [.value, .flowEntry, .flowMappingEnd] fuel
          { c with tokens := rest }
      let (value, c) ← readFlowValue handles .flowMappingEnd fuel c
      readFlowMapping handles tag false ((key, value) :: entries) fuel c
    | some tokens => do
      let (key, c) ← readNode handles false false fuel { c with tokens }
      readFlowMapping handles tag false ((key, .empty) :: entries) fuel c

/-- Reads the value of a key in a flow collection that ends with the given token. -/
def readFlowValue (handles : Handles) (final : Token) : Nat → Composer → Option (Node × Composer)
  | 0, _ => none
  | fuel + 1, c =>
    match c.tokens with
    | .value :: rest =>
      readOptional handles false false [.flowEntry, final] fuel { c with tokens := rest }
    | _ => some (.empty, c)

end

/-! ## Documents -/

/-- Reads the directives before a document: a version, which must be known, and handles of tags. No
directive may be repeated. -/
def readDirectives (version : Bool) (handles : Handles) :
    List Token → Option (Bool × Handles × List Token)
  | .versionDirective major minor :: rest =>
    if version || major != 1 || !(minor == 1 || minor == 2) then none
    else readDirectives true handles rest
  | .tagDirective handle expansion :: rest =>
    if (handles.lookup handle).isSome then none
    else readDirectives version ((handle, expansion) :: handles) rest
  | tokens => some (version || !handles.isEmpty, handles, tokens)

/-- Reads the content of a document. -/
def readContent (handles : Handles) (tokens : List Token) : Option (Node × Composer) :=
  readNode (handles ++ standardHandles) true false (4 * tokens.length + 4) { tokens }

/-- Reads a document. Without directives and marker its content begins at once; after a marker there
need not be any. -/
def readDocument (tokens : List Token) : Option (Node × List Token) := do
  let (directed, handles, tokens) ← readDirectives false [] tokens
  match tokens with
  | .documentStart :: rest =>
    match rest with
    | [] => return (.empty, [])
    | .documentStart :: _ => return (.empty, rest)
    | .documentEnd :: _ => return (.empty, rest)
    | .versionDirective _ _ :: _ => return (.empty, rest)
    | .tagDirective _ _ :: _ => return (.empty, rest)
    | _ =>
      let (node, c) ← readContent handles rest
      return (node, c.tokens)
  | _ =>
    if directed then none
    else
      let (node, c) ← readContent handles tokens
      return (node, c.tokens)

end Composer

/-- The node of a text that holds exactly one document. -/
def Node.ofText? (text : String) : Option Node := do
  let (node, rest) ← Composer.readDocument (← tokens? text.toList)
  if (rest.dropWhile (· == .documentEnd)).isEmpty then return node else none

end HeaderFacts.Yaml
