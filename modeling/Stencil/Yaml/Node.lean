import Stencil.Yaml.Token

/-!
# Nodes of documents

A document is one node: a scalar, a sequence or a mapping. Where a node may be missing the empty
scalar stands for it. An alias stands for the node of its anchor, which must have ended before; an
anchor is given once. The functions that read nodes take fuel for their depth; every token is passed
over within a fixed number of calls.
-/

namespace Stencil.Yaml

inductive Node where
  | scalar (tag : Option Tag) (plain : Bool) (text : List Char)
  | sequence (tag : Option Tag) (items : List Node)
  | mapping (tag : Option Tag) (entries : List (Node × Node))
  deriving Inhabited

def Node.missing : Node :=
  .scalar none true []

/-- Tokens that are left, and the anchors so far with their nodes, as far as these have ended. -/
structure Reading where
  rest : List Token
  anchors : List (List Char × Option Node)

abbrev Reader (α : Type) := StateT Reading Option α

namespace Reader

variable {α : Type}

def refuse : Reader α := fun _ => none

def next (is : Token → Bool) : Reader Bool := fun r =>
  some (r.rest.head?.any is, r)

def skip : Reader Unit := fun r =>
  some ((), { r with rest := r.rest.drop 1 })

/-- Passes over the next token if it is of a kind, and says whether it is. -/
def passes (is : Token → Bool) : Reader Bool := do
  let found ← next is
  if found then skip
  return found

/-- Gives an anchor, which must be new. -/
def openAnchor (name : List Char) : Reader Unit := fun r =>
  if r.anchors.any (·.1 == name) then none
  else some ((), { r with anchors := (name, none) :: r.anchors })

def closeAnchor (name : List Char) (node : Node) : Reader Unit := fun r =>
  some ((), { r with anchors := (name, some node) :: r.anchors.filter (·.1 != name) })

/-- The node that an alias stands for. -/
def resolve (name : List Char) : Reader Node := fun r =>
  match r.anchors.find? (·.1 == name) with
  | some (_, some node) => some (node, r)
  | _ => none

def anchor? : Reader (Option (List Char)) := fun r =>
  match r.rest with
  | .anchor name :: rest => some (some name, { r with rest })
  | _ => some (none, r)

def tag? : Reader (Option Tag) := fun r =>
  match r.rest with
  | .tag tag :: rest => some (some tag, { r with rest })
  | _ => some (none, r)

/-- What may stand in front of a node: an anchor and a type, in either order. -/
structure Properties where
  anchor : Option (List Char)
  tag : Option Tag

def properties : Reader Properties := do
  match ← anchor? with
  | some name => return ⟨some name, ← tag?⟩
  | none =>
    let tag ← tag?
    if tag.isSome then return ⟨← anchor?, tag⟩ else return ⟨none, none⟩

/-- Whether a node may be missing in front of a token in a block sequence. -/
def endsItem (t : Token) : Bool :=
  t == .item || t == .blockEnd

/-- Whether a node may be missing in front of a token in a block mapping. -/
def endsPart (t : Token) : Bool :=
  t == .key || t == .value || t == .blockEnd

/-- Whether a node may be missing in front of a token in a sequence without indentation. -/
def endsLevelItem (t : Token) : Bool :=
  t == .item || endsPart t

/-- Whether a value may be missing in front of a token in a sequence in brackets. -/
def endsPairValue (t : Token) : Bool :=
  t == .comma || t == .sequenceEnd

/-- Whether a value may be missing in front of a token in a mapping in brackets. -/
def endsFlowValue (t : Token) : Bool :=
  t == .comma || t == .mappingEnd

mutual

/-- Reads a node. `block` says whether it may be set out by indentation, and `level` whether a
sequence may begin without any. -/
def node : Nat → Bool → Bool → Reader Node
  | 0, _, _ => refuse
  | fuel + 1, block, level => fun r =>
    match r.rest with
    | .alias name :: rest => resolve name { r with rest }
    | _ => anchored fuel block level r

def anchored : Nat → Bool → Bool → Reader Node
  | 0, _, _ => refuse
  | fuel + 1, block, level => do
    let p ← properties
    match p.anchor with
    | none => content fuel block level p
    | some name =>
      openAnchor name
      let read ← content fuel block level p
      closeAnchor name read
      return read

def content : Nat → Bool → Bool → Properties → Reader Node
  | 0, _, _, _ => refuse
  | fuel + 1, block, level, p => fun r =>
    let goOn : Reading := { r with rest := r.rest.drop 1 }
    match r.rest with
    | .item :: _ =>
      if level then (levelItems fuel).map (.sequence p.tag) r else bare p r
    | .scalar plain text :: _ => some (.scalar p.tag plain text, goOn)
    | .sequence :: _ => (flowItems fuel true).map (.sequence p.tag) goOn
    | .mapping :: _ => (flowEntries fuel true).map (.mapping p.tag) goOn
    | .blockSequence :: _ =>
      if block then (blockItems fuel).map (.sequence p.tag) goOn else bare p r
    | .blockMapping :: _ =>
      if block then (blockEntries fuel).map (.mapping p.tag) goOn else bare p r
    | _ => bare p r

def bare (p : Properties) : Reader Node :=
  if p.anchor.isSome || p.tag.isSome then pure (.scalar p.tag true []) else refuse

/-- Reads a node, or the empty scalar in front of a token that ends it. -/
def orMissing : Nat → (Token → Bool) → Bool → Bool → Reader Node
  | 0, _, _, _ => refuse
  | fuel + 1, ends, block, level => do
    if ← next ends then return .missing
    node fuel block level

def blockItems : Nat → Reader (List Node)
  | 0 => refuse
  | fuel + 1 => do
    if ← passes (· == .item) then
      let item ← orMissing fuel endsItem true false
      return item :: (← blockItems fuel)
    if ← passes (· == .blockEnd) then return []
    refuse

/-- Reads the items of a sequence without indentation, which ends where no item follows. -/
def levelItems : Nat → Reader (List Node)
  | 0 => refuse
  | fuel + 1 => do
    if ← passes (· == .item) then
      let item ← orMissing fuel endsLevelItem true false
      return item :: (← levelItems fuel)
    return []

def blockEntries : Nat → Reader (List (Node × Node))
  | 0 => refuse
  | fuel + 1 => do
    if ← passes (· == .key) then
      let key ← orMissing fuel endsPart true true
      let value ← blockValue fuel
      return (key, value) :: (← blockEntries fuel)
    if ← passes (· == .blockEnd) then return []
    refuse

def blockValue : Nat → Reader Node
  | 0 => refuse
  | fuel + 1 => do
    if ← passes (· == .value) then orMissing fuel endsPart true true
    else return .missing

/-- Reads the items of a sequence in brackets and its end. Between items stands a comma; one may
follow the last. -/
def flowItems : Nat → Bool → Reader (List Node)
  | 0, _ => refuse
  | fuel + 1, first => do
    if ← passes (· == .sequenceEnd) then return []
    if !first then
      if !(← passes (· == .comma)) then refuse
    if ← passes (· == .sequenceEnd) then return []
    let item ← flowItem fuel
    return item :: (← flowItems fuel false)

/-- Reads an item of a sequence in brackets. A key begins a mapping of one entry. -/
def flowItem : Nat → Reader Node
  | 0 => refuse
  | fuel + 1 => do
    if ← passes (· == .key) then
      let key ← pairKey fuel
      let value ← flowValue fuel endsPairValue
      return .mapping none [(key, value)]
    node fuel false false

/-- Reads the key of a mapping of one entry. If the key is missing, the token in its place is
passed over. -/
def pairKey : Nat → Reader Node
  | 0 => refuse
  | fuel + 1 => do
    if ← passes fun t => t == .value || endsPairValue t then return .missing
    node fuel false false

def flowValue : Nat → (Token → Bool) → Reader Node
  | 0, _ => refuse
  | fuel + 1, ends => do
    if ← passes (· == .value) then orMissing fuel ends false false
    else return .missing

/-- Reads the entries of a mapping in brackets and its end. A node without a key mark is a key
without a value. -/
def flowEntries : Nat → Bool → Reader (List (Node × Node))
  | 0, _ => refuse
  | fuel + 1, first => do
    if ← passes (· == .mappingEnd) then return []
    if !first then
      if !(← passes (· == .comma)) then refuse
    if ← passes (· == .mappingEnd) then return []
    let entry ← flowEntry fuel
    return entry :: (← flowEntries fuel false)

def flowEntry : Nat → Reader (Node × Node)
  | 0 => refuse
  | fuel + 1 => do
    if ← passes (· == .key) then
      let key ← orMissing fuel (fun t => t == .value || endsFlowValue t) false false
      return (key, ← flowValue fuel endsFlowValue)
    return (← node fuel false false, .missing)

end

def endsDocument (t : Token) : Bool :=
  t == .directive || t == .documentStart || t == .documentEnd

/-- Reads the node behind the mark that begins a document. -/
def marked (fuel : Nat) : Reader Node := fun r =>
  match r.rest with
  | [] => some (.missing, r)
  | t :: _ => if endsDocument t then some (.missing, r) else node fuel true false r

def directives : Reader Unit := fun r =>
  some ((), { r with rest := r.rest.dropWhile (· == .directive) })

/-- Reads a document: directives and a mark, or no mark at all. -/
def document (fuel : Nat) : Reader Node := do
  let directed ← next (· == .directive)
  directives
  if ← passes (· == .documentStart) then marked fuel
  else if directed then refuse
  else node fuel true false

end Reader

/-- The node of the only document that tokens hold, if they hold one. Behind it only marks of its
end may follow. -/
def Node.ofTokens (tokens : List Token) : Option (Option Node) :=
  if tokens.isEmpty then some none
  else do
    let (node, r) ← Reader.document (8 * tokens.length + 8) ⟨tokens, []⟩
    if r.rest.all (· == .documentEnd) then return some node else none

end Stencil.Yaml
