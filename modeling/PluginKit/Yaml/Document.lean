import PluginKit.Value.Mapping
import PluginKit.Yaml.Merge

/-!
The document that a configuration file stands for. Nodes are built in rounds: a word is read at once, while a
collection is made empty first and filled when everything before it is done. So of several errors the one
that is least deep counts, and of equally deep ones the first; a name may be used inside of the node it was
given to; and a node that is used in several places is built once.
-/

namespace PluginKit.Yaml

/-! ## What is built -/

inductive Built where
  | word (value : Value)
  | list (items : List Nat)
  | pairs (items : List (Nat × Nat))
  | object (fields : List (Nat × Nat))
  | set (members : List Nat)

structure Site where
  nodes : Graph
  built : Array (Option Built)
  waiting : List Nat

abbrev Build := StateT Site Reading

namespace Build

def refuse {α : Type} : Build α := throw .malformed

def found (id : Nat) : Build (Option Built) := return ((← get).built.getD id none)

def put (id : Nat) (b : Built) : Build Unit :=
  modify fun site => { site with built := site.built.setIfInBounds id (some b) }

def defer (id : Nat) (b : Built) : Build Unit := do
  put id b
  modify fun site => { site with waiting := id :: site.waiting }

/-! ## Words -/

def wordWithin (g : Graph) : Nat → Nat → Reading String
  | 0, _ => malformed
  | steps + 1, id =>
    match g.content id with
    | .scalar text => .ok text
    | .mapping pairs => match pairs.find? fun pair => g.tag pair.1 = .value with
      | some (_, value) => wordWithin g steps value
      | none => malformed
    | .sequence _ => malformed

def wordOf (g : Graph) (id : Nat) : Reading Value := do
  let text ← wordWithin g (g.size + 1) id
  match g.tag id, g.content id with
  | .timestamp, .mapping _ => .error .nestedTimestamp
  | tag, _ => wordValue tag text

/-! ## Nodes -/

def start (id : Nat) : Build Unit := do
  if (← found id).isSome then return
  let nodes := (← get).nodes
  match nodes.tag id with
  | .sequence => defer id (.list [])
  | .pairs => defer id (.pairs [])
  | .mapping => defer id (.object [])
  | .set => defer id (.set [])
  | _ => put id (.word (← wordOf nodes id))

def startKey (id : Nat) : Build Unit := do
  start id
  match ← found id with
  | some (.word _) => pure ()
  | _ => refuse

def startPairs (pairs : List (Nat × Nat)) : Build Unit :=
  pairs.forM fun (key, value) => do
    startKey key
    start value

def onlyPair (id : Nat) : Build (Nat × Nat) := do
  match (← get).nodes.content id with
  | .mapping [pair] => return pair
  | _ => refuse

def mergedPairs (id : Nat) : Build (List (Nat × Nat)) := do
  match (← get).nodes.content id with
  | .mapping _ =>
    let nodes ← (← get).nodes.merge id
    modify fun site => { site with nodes := nodes }
    startPairs (nodes.pairs id)
    return nodes.pairs id
  | _ => refuse

def fill (id : Nat) : Build Unit := do
  match (← get).nodes.tag id, (← get).nodes.content id with
  | .sequence, .sequence items =>
    items.forM start
    put id (.list items)
  | .pairs, .sequence items =>
    let pairs ← items.mapM fun item => do
      let (key, value) ← onlyPair item
      start key
      start value
      return (key, value)
    put id (.pairs pairs)
  | .mapping, _ => put id (.object (← mergedPairs id))
  | .set, _ => put id (.set ((← mergedPairs id).map Prod.fst))
  | _, _ => refuse

def fillAll : Nat → Build Unit
  | 0 => pure ()
  | rounds + 1 => do
    match (← get).waiting.reverse with
    | [] => pure ()
    | round =>
      modify fun site => { site with waiting := [] }
      round.forM fill
      fillAll rounds

end Build

/-! ## Values -/

def keyOf (built : Array (Option Built)) (id : Nat) : Key :=
  match built.getD id none with
  | some (.word value) => value.toKey?.getD .null
  | _ => .null

/-- Pairs of which those with one node as their key are one pair with the last value. Only keys that differ
from themselves need this. -/
def withoutRepeats (built : Array (Option Built)) : List (Nat × Nat) → List (Nat × Nat)
  | [] => []
  | (key, value) :: rest =>
    let rest := withoutRepeats built rest
    match keyOf built key with
    | .float x => match x.isNaN, rest.lookup key with
      | true, some last => (key, last) :: rest.filter fun pair => pair.1 ≠ key
      | _, _ => (key, value) :: rest
    | _ => (key, value) :: rest

def fieldsOf (built : Array (Option Built)) (part : Nat → Value) (pairs : List (Nat × Nat)) : Fields :=
  Fields.ofPairs ((withoutRepeats built pairs).map fun pair => (keyOf built pair.1, part pair.2))

def valueWithin (built : Array (Option Built)) : Nat → List Nat → Nat → Value
  | 0, _, _ => .null
  | steps + 1, outer, id =>
    let part := valueWithin built steps (id :: outer)
    if outer.contains id then .null
    else match built.getD id none with
      | some (.word value) => value
      | some (.list items) => .list (items.map part)
      | some (.pairs items) => .list (items.map fun pair => .pair (part pair.1) (part pair.2))
      | some (.object fields) => .object (fieldsOf built part fields)
      | some (.set members) =>
        .set ((fieldsOf built (fun _ => .null) (members.map fun id => (id, id))).map Prod.fst)
      | none => .null

/-! ## Documents -/

structure Document where
  built : Array (Option Built)
  root : Option Nat

namespace Document

def empty : Document := ⟨#[], none⟩

def valueOf (d : Document) (id : Nat) : Value := valueWithin d.built (d.built.size + 1) [] id

def value (d : Document) : Value := (d.root.map d.valueOf).getD .null

def object? (d : Document) (id : Nat) : Option (List (Nat × Nat)) :=
  match d.built.getD id none with
  | some (.object fields) => some fields
  | _ => none

def hasName (d : Document) (name : String) (field : Nat × Nat) : Bool := keyOf d.built field.1 = .text name

def field? (d : Document) (name : String) (id : Nat) : Option Nat := do
  let fields ← d.object? id
  return (← fields.reverse.find? (d.hasName name)).2

def erase (d : Document) (name : String) (id : Nat) : Document :=
  match d.object? id with
  | some fields =>
    let kept := fields.filter fun field => !d.hasName name field
    { d with built := d.built.setIfInBounds id (some (.object kept)) }
  | none => d

/-- The value of a node that was copied down to some level before the document changed. What lies deeper has
changed with the document. -/
def copied (before after : Document) : Nat → Nat → Value
  | 0, id => after.valueOf id
  | levels + 1, id =>
    match before.object? id with
    | some fields => .object (fieldsOf before.built (copied before after levels) fields)
    | none => after.valueOf id

end Document

def Graph.build (nodes : Graph) (id : Nat) : Reading Document := do
  let building : Build Unit := do
    Build.start id
    Build.fillAll (nodes.size + 1)
  let (_, site) ← building.run ⟨nodes, Array.replicate nodes.size none, []⟩
  return ⟨site.built, some id⟩

def parse (data : List UInt8) : Reading Document := do
  let (tokens, failure) := scan (.ofBytes data)
  match ← Graph.ofTokens tokens failure with
  | (_, none) => return .empty
  | (nodes, some id) => nodes.build id

end PluginKit.Yaml
