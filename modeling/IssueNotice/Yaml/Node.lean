import IssueNotice.Yaml.Lexer

/-!
# YAML nodes

The tree that the tokens of a document describe, with the full names of tags. An alias is a node of
its own: it refers to an anchor by a label.

The label of an anchor is the number of different anchor names in front of it. A name that is used
again therefore takes a new label the first time and shares it from then on with other names, and
of several anchors with one label the last one counts, for aliases in front of it too.
-/

namespace IssueNotice.Yaml

/-- A node of a document. -/
inductive Node where
  | aliasOf (label : Nat)
  | scalar (text : String) (style : ScalarStyle) (tag : Option Tag)
  | sequence (tag : Option Tag) (items : List Node)
  | mapping (tag : Option Tag) (entries : List (Node × Node))

/-- A node that aliases can refer to. -/
structure Anchor where
  label : Nat
  /-- Number of anchors in front of it. -/
  turn : Nat
  node : Node

namespace Node

/-- A node that is not written. -/
def empty : Node := scalar "" .plain none

/-- What is left of the tokens, and what is known of the anchors. -/
structure Source where
  tokens : List Token
  /-- The label that each name has by now. -/
  labels : List (String × Nat) := []
  /-- Number of anchors so far. -/
  turns : Nat := 0
  /-- The last anchor with each label whose node was read. -/
  anchors : List Anchor := []

/-- A step of reading nodes. -/
abbrev Building (α : Type) := StateT Source (Except Problem) α

/-- The next token. -/
def next? : Building (Option Token) := do
  pure (← get).tokens.head?

/-- Drops the next token. -/
def drop : Building Unit := modify fun s => { s with tokens := s.tokens.drop 1 }

/-- Drops the next token if it is a given one, and says whether it was. -/
def accept (t : Token) : Building Bool := do
  if (← next?) = some t then
    drop
    pure true
  else pure false

/-- Whether the next token is one of some tokens. -/
def atAny (ts : List Token) : Building Bool := do
  pure ((← next?).any ts.contains)

/-- The full name of a tag. -/
def fullTag (handles : List (String × Tag)) (handle : String) (suffix : Tag) :
    Except Problem Tag :=
  if handle.isEmpty then .ok suffix
  else
    match handles.lookup handle with
    | some start => .ok (start.behind suffix)
    | none => .error .unknownTagHandle

/-- Gives a name a new label; answers the label and the turn of the anchor. -/
def claimLabel (name : String) : Building (Nat × Nat) := do
  let s ← get
  let label := s.labels.length
  set { s with
    labels := (name, label) :: s.labels.filter fun l => l.1 ≠ name
    turns := s.turns + 1 }
  pure (label, s.turns)

/-- Notes the node of an anchor, unless a later one has the label. -/
def noteAnchor (a : Anchor) : Building Unit :=
  modify fun s =>
    if s.anchors.any fun b => b.label = a.label ∧ a.turn < b.turn then s
    else { s with anchors := a :: s.anchors.filter fun b => b.label ≠ a.label }

/-- Label and turn of an anchor, if there is one. -/
def anchor? : Building (Option (Nat × Nat)) := do
  match ← next? with
  | some (.anchor name) => do
    drop
    some <$> claimLabel name
  | _ => pure none

/-- A tag, if there is one. -/
def tag? (handles : List (String × Tag)) : Building (Option Tag) := do
  match ← next? with
  | some (.tag handle suffix) => do
    drop
    pure (some (← liftM (fullTag handles handle suffix)))
  | _ => pure none

/-- Anchor and tag of a node, in either order. -/
def properties (handles : List (String × Tag)) : Building (Option (Nat × Nat) × Option Tag) := do
  match ← anchor? with
  | some anchor => pure (some anchor, ← tag? handles)
  | none =>
    match ← tag? handles with
    | some tag => pure (← anchor?, some tag)
    | none => pure (none, none)

mutual

/-- A node; in a block it may be a block collection, and a sequence need not be indented. -/
def node (handles : List (String × Tag)) : Nat → Bool → Bool → Building Node
  | 0, _, _ => throw .missingContent
  | fuel + 1, block, flat => do
    match ← next? with
    | some (.aliasOf name) => do
      drop
      match (← get).labels.lookup name with
      | some label => pure (aliasOf label)
      | none => throw .unknownAnchor
    | _ => do
      let (anchor, tag) ← properties handles
      let n ← content handles fuel block flat tag (anchor.isSome || tag.isSome)
      match anchor with
      | some (label, turn) => noteAnchor ⟨label, turn, n⟩
      | none => pure ()
      pure n

/-- A node behind its anchor and tag; with one of these it may be left out. -/
def content (handles : List (String × Tag)) :
    Nat → Bool → Bool → Option Tag → Bool → Building Node
  | 0, _, _, _, _ => throw .missingContent
  | fuel + 1, block, flat, tag, mayBeEmpty => do
    match ← next? with
    | some (.scalar text style) => do
      drop
      pure (scalar text style tag)
    | some .listOpen => do
      drop
      pure (sequence tag (← listItems handles fuel true))
    | some .braceOpen => do
      drop
      pure (mapping tag (← braceEntries handles fuel true))
    | some .entry =>
      if flat then pure (sequence tag (← flatItems handles fuel))
      else if mayBeEmpty then pure (scalar "" .plain tag)
      else throw .missingContent
    | t =>
      if block && t == some .blockSequence then do
        drop
        pure (sequence tag (← blockItems handles fuel))
      else if block && t == some .blockMapping then do
        drop
        pure (mapping tag (← blockEntries handles fuel))
      else if mayBeEmpty then pure (scalar "" .plain tag)
      else throw .missingContent

/-- The entries of a block sequence. -/
def blockItems (handles : List (String × Tag)) : Nat → Building (List Node)
  | 0 => throw .expectedEntry
  | fuel + 1 => do
    if ← accept .entry then
      let item ←
        if ← atAny [.entry, .blockEnd] then pure empty else node handles fuel true false
      pure (item :: (← blockItems handles fuel))
    else if ← accept .blockEnd then pure []
    else throw .expectedEntry

/-- The entries of a block sequence that is not indented. -/
def flatItems (handles : List (String × Tag)) : Nat → Building (List Node)
  | 0 => throw .expectedEntry
  | fuel + 1 => do
    if ← accept .entry then
      let item ←
        if ← atAny [.entry, .key, .value, .blockEnd] then pure empty
        else node handles fuel true false
      pure (item :: (← flatItems handles fuel))
    else pure []

/-- The entries of a block mapping. -/
def blockEntries (handles : List (String × Tag)) : Nat → Building (List (Node × Node))
  | 0 => throw .expectedKey
  | fuel + 1 => do
    if ← accept .key then
      let key ←
        if ← atAny [.key, .value, .blockEnd] then pure empty else node handles fuel true true
      let value ←
        if ← accept .value then
          if ← atAny [.key, .value, .blockEnd] then pure empty else node handles fuel true true
        else pure empty
      pure ((key, value) :: (← blockEntries handles fuel))
    else if ← accept .blockEnd then pure []
    else throw .expectedKey

/-- The items of a list in brackets; an item may be a single entry of a mapping. -/
def listItems (handles : List (String × Tag)) : Nat → Bool → Building (List Node)
  | 0, _ => throw .expectedCommaOrBracket
  | fuel + 1, first => do
    if ← accept .listClose then pure []
    else
      if !first then
        if !(← accept .comma) then throw .expectedCommaOrBracket
      if ← accept .listClose then pure []
      else if ← accept .key then
        let key ←
          if ← atAny [.value, .comma, .listClose] then do
            drop
            pure empty
          else node handles fuel false false
        let value ←
          if ← accept .value then
            if ← atAny [.comma, .listClose] then pure empty else node handles fuel false false
          else pure empty
        pure (mapping none [(key, value)] :: (← listItems handles fuel false))
      else
        let item ← node handles fuel false false
        pure (item :: (← listItems handles fuel false))

/-- The entries of a mapping in braces. -/
def braceEntries (handles : List (String × Tag)) : Nat → Bool → Building (List (Node × Node))
  | 0, _ => throw .expectedCommaOrBrace
  | fuel + 1, first => do
    if ← accept .braceClose then pure []
    else
      if !first then
        if !(← accept .comma) then throw .expectedCommaOrBrace
      if ← accept .braceClose then pure []
      else if ← accept .key then
        let key ←
          if ← atAny [.value, .comma, .braceClose] then pure empty
          else node handles fuel false false
        let value ←
          if ← accept .value then
            if ← atAny [.comma, .braceClose] then pure empty else node handles fuel false false
          else pure empty
        pure ((key, value) :: (← braceEntries handles fuel false))
      else
        let key ← node handles fuel false false
        pure ((key, empty) :: (← braceEntries handles fuel false))

end

/-- The tag handles that every document knows. -/
def commonHandles : List (String × Tag) :=
  [("!", .nonSpecific), ("!!", .corePrefix)]

/-- The directives in front of a document; answers the tag handles that they name. -/
def directives : Nat → Nat → List (String × Tag) → Building (List (String × Tag))
  | 0, _, handles => pure handles
  | fuel + 1, versions, handles => do
    match ← next? with
    | some (.version major minor) => do
      if versions != 0 || major != 1 || !(minor == 1 || minor == 2) then throw .unknownVersion
      drop
      directives fuel (versions + 1) handles
    | some (.tagHandle handle start) => do
      if (handles.lookup handle).isSome then throw .badDirective
      drop
      directives fuel versions ((handle, start) :: handles)
    | _ => pure handles

/-- The node of the first document, if there is any. -/
def first : Building (Option Node) := do
  let fuel := 4 * (← get).tokens.length + 4
  match ← next? with
  | none => pure none
  | some t =>
    let explicit := match t with
      | .version .. | .tagHandle .. | .documentStart => true
      | _ => false
    if explicit then
      let handles ← directives fuel 0 []
      if !(← accept .documentStart) then throw .missingDocumentStart
      let atEnd := match ← next? with
        | none => true
        | some t => match t with
          | .version .. | .tagHandle .. | .documentStart | .documentEnd => true
          | _ => false
      if atEnd then pure (some empty)
      else some <$> node (handles ++ commonHandles) fuel true false
    else some <$> node commonHandles fuel true false

/-! ## Size -/

mutual

/-- Number of starts and ends in a node: two for a collection and one for any other. -/
def marks : Node → Nat
  | aliasOf _ => 1
  | scalar .. => 1
  | sequence _ items => 2 + itemMarks items
  | mapping _ entries => 2 + entryMarks entries

/-- Number of starts and ends in some nodes. -/
def itemMarks : List Node → Nat
  | [] => 0
  | n :: ns => marks n + itemMarks ns

/-- Number of starts and ends in some entries. -/
def entryMarks : List (Node × Node) → Nat
  | [] => 0
  | (k, v) :: rest => marks k + marks v + entryMarks rest

end

end Node

/-! ## Documents -/

/-- A document: its node, and the anchors that aliases in it refer to. -/
structure Document where
  root : Option Node
  anchors : List Anchor := []

namespace Document

/-- The only document of a text. -/
def ofText (s : String) : Except Problem Document := do
  let tokens ← Token.ofText s
  let (root, source) ← Node.first.run { tokens }
  if source.tokens.all (· == .documentEnd) then pure { root, anchors := source.anchors }
  else throw .severalDocuments

/-- The node that a label stands for. -/
def target? (d : Document) (label : Nat) : Option Node :=
  (d.anchors.find? fun a => a.label = label).map (·.node)

/-- Most aliases that are followed while a document is read. -/
def aliasLimit (d : Document) : Nat := 100 * ((d.root.map Node.marks).getD 1)

/-- A step of reading what nodes stand for, which has the aliases that may still be followed. -/
abbrev Resolving (α : Type) := StateT Nat Option α

/-- The node itself, or what it refers to. -/
def follow (d : Document) : Node → Resolving Node
  | .aliasOf label => do
    match ← get with
    | 0 => failure
    | left + 1 => do
      set left
      liftM (d.target? label)
  | n => pure n

end Document

end IssueNotice.Yaml
