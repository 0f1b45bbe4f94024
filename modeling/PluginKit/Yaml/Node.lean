import PluginKit.Yaml.Scalar
import PluginKit.Yaml.Token

/-!
The nodes of a configuration file, from its tokens. A file holds one document at most. Nodes are numbered in
the order in which they start, and a name stands for the number of the node that it was given to, also
inside of that node.
-/

namespace PluginKit.Yaml

inductive Content where
  | scalar (text : String)
  | sequence (items : List Nat)
  | mapping (pairs : List (Nat × Nat))
  deriving DecidableEq

structure Node where
  tag : Tag
  content : Content
  deriving DecidableEq

def Node.empty : Node := ⟨.null, .scalar ""⟩

abbrev Graph := Array Node

namespace Graph

def node (g : Graph) (id : Nat) : Node := g.getD id .empty

def tag (g : Graph) (id : Nat) : Tag := (g.node id).tag

def content (g : Graph) (id : Nat) : Content := (g.node id).content

def setContent (g : Graph) (id : Nat) (content : Content) : Graph :=
  g.modify id fun node => { node with content := content }

def setTag (g : Graph) (id : Nat) (tag : Tag) : Graph := g.modify id fun node => { node with tag := tag }

end Graph

/-! ## Tokens to nodes -/

/-- What is left of the tokens and why there are no more, how many collections are open, the nodes so far,
what names stand for, and what tag handles stand for. -/
structure Place where
  tokens : List Token
  ending : Error
  depth : Nat
  nodes : Graph
  names : List (String × Nat)
  handles : List (String × String)

abbrev Parse := StateT Place Reading

namespace Parse

def refuse {α : Type} : Parse α := throw .malformed

def peek : Parse Token := do
  match (← get).tokens with
  | t :: _ => return t
  | [] => throw (← get).ending

def skip : Parse Unit := modify fun p => { p with tokens := p.tokens.drop 1 }

def expect (t : Token) : Parse Unit := do
  if (← peek) = t then skip else refuse

def among (ts : List Token) : Parse Bool := return ts.contains (← peek)

def resolveTag (handle : Option String) (suffix : String) : Parse String :=
  match handle with
  | none => return suffix
  | some h => do
    match (← get).handles.lookup h with
    | some start => return start ++ suffix
    | none => refuse

def properties : Parse (Option String × Option String) := do
  match ← peek with
  | .anchor name =>
    skip
    match ← peek with
    | .tag handle suffix => skip; return (some name, some (← resolveTag handle suffix))
    | _ => return (some name, none)
  | .tag handle suffix =>
    skip
    match ← peek with
    | .anchor name => skip; return (some name, some (← resolveTag handle suffix))
    | _ => return (none, some (← resolveTag handle suffix))
  | _ => return (none, none)

def checkName : Option String → Parse Unit
  | none => pure ()
  | some n => do if ((← get).names.lookup n).isSome then refuse

def add (given : Option String) (node : Node) : Parse Nat := do
  let id := (← get).nodes.size
  modify fun p => { p with
    nodes := p.nodes.push node
    names := match given with
      | some n => (n, id) :: p.names
      | none => p.names }
  return id

def addEmpty : Parse Nat := add none .empty

def deepest : Nat := 489

def addCollection {α : Type} (given : Option String) (tag : Tag) (indented : Bool)
    (content : List α → Content) (parts : Parse (List α)) : Parse Nat := do
  let depth := (← get).depth
  if deepest ≤ depth then throw (.tooDeep indented)
  let id ← add given ⟨tag, content []⟩
  modify fun p => { p with depth := depth + 1 }
  let found ← parts
  modify fun p => { p with depth := depth, nodes := p.nodes.setContent id (content found) }
  return id

def addSequence (given : Option String) (tag : Tag) (items : Parse (List Nat)) : Parse Nat :=
  addCollection given tag false .sequence items

def addMapping (given : Option String) (tag : Tag) (indented : Bool) (pairs : Parse (List (Nat × Nat))) :
    Parse Nat :=
  addCollection given tag indented .mapping pairs

def named (n : String) : Parse Nat := do
  match (← get).names.lookup n with
  | some id => return id
  | none => refuse

def tagOf (default : Tag) : Option String → Tag
  | none => default
  | some name => if name = "!" then default else .ofName name

def wordTag (tag : Option String) (text : String) (plain : Bool) : Tag :=
  tagOf (if plain || tag = some "!" then .ofWord text else .text) tag

def blockStops : List Token := [.blockEntry, .key, .value, .blockEnd]

mutual

def nodeWithin (block unindented : Bool) : Nat → Parse Nat
  | 0 => refuse
  | steps + 1 => do
    match ← peek with
    | .reference n => skip; named n
    | _ =>
      let (given, tag) ← properties
      contentWithin block unindented given tag steps

def contentWithin (block unindented : Bool) (given tag : Option String) : Nat → Parse Nat
  | 0 => refuse
  | steps + 1 => do
    let here ← peek
    checkName given
    let list := tagOf .sequence tag
    let map := tagOf .mapping tag
    if unindented && here = .blockEntry then
      return ← addSequence given list (unindentedWithin steps)
    match here with
    | .scalar text plain => skip; add given ⟨wordTag tag text plain, .scalar text⟩
    | .flowSequenceStart => skip; addSequence given list (flowItemsWithin true steps)
    | .flowMappingStart => skip; addMapping given map false (flowPairsWithin true steps)
    | .blockSequenceStart =>
      if block then skip; addSequence given list (blockItemsWithin steps) else refuse
    | .blockMappingStart =>
      if block then skip; addMapping given map true (blockPairsWithin steps) else refuse
    | _ =>
      if given.isSome || tag.isSome then add given ⟨wordTag tag "" true, .scalar ""⟩ else refuse

def unlessWithin (stops : List Token) (block unindented : Bool) : Nat → Parse Nat
  | 0 => refuse
  | steps + 1 => do
    if ← among stops then return ← addEmpty
    nodeWithin block unindented steps

def blockItemsWithin : Nat → Parse (List Nat)
  | 0 => refuse
  | steps + 1 => do
    if (← peek) = .blockEntry then
      skip
      let item ← unlessWithin [.blockEntry, .blockEnd] true false steps
      return item :: (← blockItemsWithin steps)
    expect .blockEnd
    return []

def unindentedWithin : Nat → Parse (List Nat)
  | 0 => refuse
  | steps + 1 => do
    if (← peek) = .blockEntry then
      skip
      let item ← unlessWithin blockStops true false steps
      return item :: (← unindentedWithin steps)
    return []

def blockPairsWithin : Nat → Parse (List (Nat × Nat))
  | 0 => refuse
  | steps + 1 => do
    if (← peek) = .key then
      skip
      let key ← unlessWithin [.key, .value, .blockEnd] true true steps
      let value ← if (← peek) = .value then
          skip
          unlessWithin [.key, .value, .blockEnd] true true steps
        else addEmpty
      return (key, value) :: (← blockPairsWithin steps)
    expect .blockEnd
    return []

def flowItemsWithin (first : Bool) : Nat → Parse (List Nat)
  | 0 => refuse
  | steps + 1 => do
    if (← peek) = .flowSequenceEnd then skip; return []
    if !first then expect .flowEntry
    match ← peek with
    | .flowSequenceEnd => skip; return []
    | .key =>
      skip
      let item ← addMapping none .mapping false do
        let key ← unlessWithin [.value, .flowEntry, .flowSequenceEnd] false false steps
        let value ← if (← peek) = .value then
            skip
            unlessWithin [.flowEntry, .flowSequenceEnd] false false steps
          else addEmpty
        return [(key, value)]
      return item :: (← flowItemsWithin false steps)
    | _ =>
      let item ← nodeWithin false false steps
      return item :: (← flowItemsWithin false steps)

def flowPairsWithin (first : Bool) : Nat → Parse (List (Nat × Nat))
  | 0 => refuse
  | steps + 1 => do
    if (← peek) = .flowMappingEnd then skip; return []
    if !first then expect .flowEntry
    match ← peek with
    | .flowMappingEnd => skip; return []
    | .key =>
      skip
      let key ← unlessWithin [.value, .flowEntry, .flowMappingEnd] false false steps
      let value ← if (← peek) = .value then
          skip
          unlessWithin [.flowEntry, .flowMappingEnd] false false steps
        else addEmpty
      return (key, value) :: (← flowPairsWithin false steps)
    | _ =>
      let key ← nodeWithin false false steps
      let value ← addEmpty
      return (key, value) :: (← flowPairsWithin false steps)

end

/-! ## Documents -/

def defaultHandles : List (String × String) := [("!", "!"), ("!!", "tag:yaml.org,2002:")]

def directives : Bool → List (String × String) → Nat → Parse Unit
  | _, _, 0 => refuse
  | versioned, handles, steps + 1 => do
    match ← peek with
    | .directive (.version major _) =>
      skip
      if versioned || major ≠ 1 then refuse
      directives true handles steps
    | .directive (.handle name start) =>
      skip
      if (handles.lookup name).isSome then refuse
      directives versioned ((name, start) :: handles) steps
    | .directive .other => skip; directives versioned handles steps
    | _ => modify fun p => { p with handles := handles ++ defaultHandles }

def skipDocumentEnds : Nat → Parse Unit
  | 0 => pure ()
  | steps + 1 => do
    if (← peek) = .documentEnd then
      skip
      skipDocumentEnds steps

def ending (steps : Nat) : Parse Unit := do
  skipDocumentEnds steps
  if (← peek) = .streamEnd then return
  directives false [] steps
  refuse

def document (steps : Nat) : Parse (Option Nat) := do
  let here ← peek
  if here = .streamEnd then return none
  let explicit := match here with
    | .directive _ => true
    | .documentStart => true
    | _ => false
  let id ← if explicit then
      directives false [] steps
      expect .documentStart
      match ← peek with
      | .directive _ => addEmpty
      | _ => unlessWithin [.documentStart, .documentEnd, .streamEnd] true false steps
    else nodeWithin true false steps
  ending steps
  return some id

end Parse

def Graph.ofTokens (tokens : List Token) (failure : Option Error) : Reading (Graph × Option Nat) := do
  -- Every level of nesting takes at most three steps, and every item takes a token.
  let (id, place) ← (Parse.document (4 * tokens.length + 8)).run
    { tokens := tokens, ending := failure.getD .malformed, depth := 0, nodes := #[], names := [],
      handles := Parse.defaultHandles }
  return (place.nodes, id)

end PluginKit.Yaml
