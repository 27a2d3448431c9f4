import Downlevel.Yaml.Node
import Downlevel.Yaml.Plain
/-!
# The data of YAML documents

A node means what its tag says, and without a tag what it looks like. Mappings named under the merge
key are laid under the mapping that names them. A key is a scalar; a repeated key keeps its place and
takes the later value.
-/
namespace Downlevel.Yaml

/-- The failure of a text that is no YAML, or YAML without a meaning here. -/
def malformed (reason : String) : Failure :=
  ⟨.malformed reason, []⟩

/-- The namespace of the tags of the format. -/
def coreTags : String := "tag:yaml.org,2002:"

/-- Whether a node has a certain tag of the format written. -/
def Tag.isCore (t : Tag) (name : String) : Bool :=
  t = .named (coreTags ++ name)

/-- Whether a tag leaves a collection what it is by default. -/
def Tag.allows (t : Tag) (name : String) : Bool :=
  t = .none || t = .non || t.isCore name

/-- The tags of scalars and the looks that they stand for. -/
def scalarTags : List (String × Look) :=
  [("null", .null), ("bool", .bool), ("int", .int), ("float", .float), ("merge", .merge),
   ("value", .value), ("timestamp", .date), ("str", .text)]

/-- What a scalar is to be read as. The tag decides, then the look if the scalar is plain. -/
def scalarLook? (tag : Tag) (plain : Bool) (s : String) : Option Look :=
  match tag with
  | .none => some (if plain then lookOf s else .text)
  | .non => some (lookOf s)
  | .named uri => (scalarTags.find? fun t => uri = coreTags ++ t.1).map (·.2)

/-- The data of a scalar. The marks of the format mean nothing by themselves. -/
def scalarData (tag : Tag) (plain : Bool) (s : String) : Except Failure Data :=
  match scalarLook? tag plain s with
  | none => .error (malformed "unknown tag of a scalar")
  | some .null => .ok .null
  | some .bool => (readBool s).map .bool
  | some .int => (readInt s).map .int
  | some .float => (readFloat s).map .float
  | some .date => readDate s
  | some .text => .ok (.text s)
  | some .merge => .error (malformed "misplaced merge key")
  | some .value => .error (malformed "misplaced value key")

/-- What a key node is to be read as. -/
def Node.look? : Node → Option Look
  | .scalar tag plain s => scalarLook? tag plain s
  | _ => none

/-- The entries that a value under the merge key brings along. -/
def Node.mergeEntries? : Node → Option (List (Node × Node))
  | .mapping _ entries => some entries
  | .sequence _ items => go items
  | .scalar _ _ _ => none
where
  /-- The entries of several mappings; those of the first come last, so that they win. -/
  go : List Node → Option (List (Node × Node))
    | [] => some []
    | .mapping _ entries :: rest => (go rest).map (· ++ entries)
    | _ => none

mutual

/-- A node with all merge keys carried out. -/
def Node.merged? : Node → Option Node
  | .scalar tag plain s => some (.scalar tag plain s)
  | .sequence tag items => (mergedItems? items).map (.sequence tag)
  | .mapping tag entries => (mergedEntries? entries).map fun r => .mapping tag (r.1 ++ r.2)

/-- The items of a sequence with all merge keys carried out. -/
def mergedItems? : List Node → Option (List Node)
  | [] => some []
  | n :: rest =>
    match n.merged?, mergedItems? rest with
    | some n', some rest' => some (n' :: rest')
    | _, _ => none

/-- The entries that merge keys bring along, and the entries of a mapping itself. -/
def mergedEntries? : List (Node × Node) → Option (List (Node × Node) × List (Node × Node))
  | [] => some ([], [])
  | (k, v) :: rest =>
    match k.merged?, v.merged?, mergedEntries? rest with
    | some k', some v', some (brought, own) =>
      match k.look? with
      | some .merge => v'.mergeEntries?.map fun es => (es ++ brought, own)
      | some .value => some (brought, (.scalar .none false "=", v') :: own)
      | _ => some (brought, (k', v') :: own)
    | _, _, _ => none

end

/-- Whether data can be a key. -/
def isKey : Data → Bool
  | .list _ => false
  | .map _ => false
  | _ => true

/-- Mappings of one entry each as pairs. -/
def pairsOf? : List Data → Option (List Data)
  | [] => some []
  | .map [(k, v)] :: rest => (pairsOf? rest).map (.list [k, v] :: ·)
  | _ => none

mutual

/-- The data of a node. -/
def Node.data : Node → Except Failure Data
  | .scalar tag plain s => scalarData tag plain s
  | .sequence tag items =>
    match itemsData items with
    | .error e => .error e
    | .ok ds =>
      if tag.allows "seq" then .ok (.list ds)
      else if tag.isCore "omap" || tag.isCore "pairs" then
        match pairsOf? ds with
        | some ps => .ok (.list ps)
        | none => .error (malformed "an item that is no pair")
      else .error (malformed "unknown tag of a sequence")
  | .mapping tag entries =>
    if tag.allows "map" then (entriesData [] entries).map .map
    else .error (malformed "unknown tag of a mapping")

/-- The data of items. -/
def itemsData : List Node → Except Failure (List Data)
  | [] => .ok []
  | n :: rest =>
    match n.data with
    | .error e => .error e
    | .ok d => (itemsData rest).map (d :: ·)

/-- The data of entries, added to those already read. -/
def entriesData (done : List (Data × Data)) : List (Node × Node) → Except Failure (List (Data × Data))
  | [] => .ok done
  | (k, v) :: rest =>
    match k.data with
    | .error e => .error e
    | .ok key =>
      if isKey key then
        match v.data with
        | .error e => .error e
        | .ok value => entriesData (Data.insert key value done) rest
      else .error (malformed "a key that is a collection")

end

/-- The data of a text. A text without a document means nothing. -/
def parse (cs : List Char) : Except Failure Data :=
  match tokens? cs with
  | none => .error (malformed "no tokens")
  | some ts =>
    match document? ts with
    | none => .error (malformed "no document")
    | some none => .ok .null
    | some (some n) =>
      match n.merged? with
      | none => .error (malformed "a merge key with no mapping")
      | some n' => n'.data

end Downlevel.Yaml
