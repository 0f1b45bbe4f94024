import PluginKit.Yaml.Node

/-!
Merging mappings. A merge key brings the pairs of other mappings into one, in front of its own pairs. The
nodes themselves change, so whoever else uses a mapping by its name finds it merged; the mark of a value
turns into a text where it is a key.
-/

namespace PluginKit.Yaml.Graph

def pairs (g : Graph) (id : Nat) : List (Nat × Nat) :=
  match g.content id with
  | .mapping pairs => pairs
  | _ => []

def setPairs (g : Graph) (id : Nat) (pairs : List (Nat × Nat)) : Graph := g.setContent id (.mapping pairs)

mutual

/-- Merges what a mapping asks for. The pairs before `index` are looked at already, and `brought` came in
for merge keys that are gone. -/
def mergeFrom (index : Nat) (brought : List (Nat × Nat)) (id : Nat) : Nat → Graph → Reading Graph
  | 0, _ => malformed
  | steps + 1, g =>
    match (g.pairs id)[index]? with
    | none => .ok (if brought.isEmpty then g else g.setPairs id (brought ++ g.pairs id))
    | some (key, value) =>
      if g.tag key = .merge then do
        let (more, merged) ← broughtBy value steps (g.setPairs id ((g.pairs id).eraseIdx index))
        mergeFrom index (brought ++ more) id steps merged
      else
        let g := if g.tag key = .value then g.setTag key .text else g
        mergeFrom (index + 1) brought id steps g

def broughtBy (value : Nat) : Nat → Graph → Reading (List (Nat × Nat) × Graph)
  | 0, _ => malformed
  | steps + 1, g =>
    match g.content value with
    | .mapping _ => do
      let g ← mergeFrom 0 [] value steps g
      return (g.pairs value, g)
    | .sequence items => broughtByAll items steps g
    | .scalar _ => malformed

def broughtByAll (items : List Nat) : Nat → Graph → Reading (List (Nat × Nat) × Graph)
  | 0, _ => malformed
  | steps + 1, g =>
    match items with
    | [] => .ok ([], g)
    | item :: rest =>
      match g.content item with
      | .mapping _ => do
        let g ← mergeFrom 0 [] item steps g
        let own := g.pairs item
        let (later, g) ← broughtByAll rest steps g
        return (later ++ own, g)
      | _ => malformed

end

def mergeSteps : Nat := 1000000000

def merge (g : Graph) (id : Nat) : Reading Graph := mergeFrom 0 [] id mergeSteps g

end PluginKit.Yaml.Graph
