import Downlevel.Yaml.Token
/-!
# Nodes of YAML

Tokens are put together into scalars, sequences and mappings with their tags. An alias stands for the
node with its anchor. A text holds at most one document.
-/
namespace Downlevel.Yaml

/-- The written tag of a node. -/
inductive Tag where
  /-- No tag, or the one that asks for the usual reading. -/
  | none
  | non
  | named (uri : String)
  deriving DecidableEq, Repr

/-- A node. -/
inductive Node where
  | scalar (tag : Tag) (plain : Bool) (text : String)
  | sequence (tag : Tag) (items : List Node)
  | mapping (tag : Tag) (entries : List (Node × Node))

/-- The node of something left out. -/
def Node.absent : Node :=
  .scalar .none true ""

/-- What the nodes read so far are known by. An anchor is taken from where it stands on, also while its
node is still read. -/
structure Names where
  anchors : List (String × Node) := []
  taken : List String := []
  handles : List (String × String)

/-- The handles that every document has. -/
def standardHandles : List (String × String) :=
  [("!", "!"), ("!!", "tag:yaml.org,2002:")]

/-- The tag of a handle and a suffix. -/
def tagOf? (names : Names) (handle : Option String) (suffix : String) : Option Tag :=
  match handle with
  | none => some (if suffix = "!" then .non else .named suffix)
  | some h => (names.handles.lookup h).map fun p => .named (p ++ suffix)

/-- The anchor and the tag in front of a node, in any order. -/
def readProperties (names : Names) : List Token → Option (Option String × Tag × List Token)
  | .anchor a :: .tag h s :: rest => (tagOf? names h s).map fun t => (some a, t, rest)
  | .tag h s :: .anchor a :: rest => (tagOf? names h s).map fun t => (some a, t, rest)
  | .anchor a :: rest => some (some a, .none, rest)
  | .tag h s :: rest => (tagOf? names h s).map fun t => (none, t, rest)
  | rest => some (none, .none, rest)

/-- Notes the anchor of a node. -/
def Names.note (names : Names) (anchor : Option String) (n : Node) : Names :=
  match anchor with
  | some a => { names with anchors := (a, n) :: names.anchors }
  | none => names

/-- Takes an anchor for a node that follows; nothing if it is taken already. -/
def Names.take? (names : Names) (anchor : Option String) : Option Names :=
  match anchor with
  | some a => if names.taken.contains a then none else some { names with taken := a :: names.taken }
  | none => some names

/-- A node, the names after it, and the rest of the tokens. -/
abbrev NodeResult := Option (Node × Names × List Token)

/-- Whether an entry of a block ends before a token. -/
def endsBlockEntry : List Token → Bool
  | .blockEntry :: _ => true
  | .blockEnd :: _ => true
  | _ => false

/-- Whether a key or value of a block mapping is left out before a token. -/
def endsBlockPair : List Token → Bool
  | .key :: _ => true
  | .value :: _ => true
  | .blockEnd :: _ => true
  | _ => false

/-- Whether a value in brackets or braces is left out before a token. -/
def endsFlowPair : List Token → Bool
  | .flowEntry :: _ => true
  | .flowSequenceEnd :: _ => true
  | .flowMappingEnd :: _ => true
  | _ => false

mutual

/-- A node. `block` tells whether blocks may stand here, `indentless` whether entries may follow
without more indentation. -/
def readNode (fuel : Nat) (block indentless : Bool) (names : Names) (ts : List Token) :
    NodeResult :=
  match fuel with
  | 0 => none
  | fuel + 1 =>
    match ts with
    | .alias a :: rest => (names.anchors.lookup a).map fun n => (n, names, rest)
    | _ =>
      match readProperties names ts with
      | none => none
      | some (anchor, tag, body) =>
        match names.take? anchor with
        | none => none
        | some names =>
          let finish (r : NodeResult) : NodeResult :=
            r.map fun (n, names', rest) => (n, names'.note anchor n, rest)
          match body with
          | .scalar text plain :: rest =>
            finish (some (.scalar tag plain text, names, rest))
          | .flowSequenceStart :: rest =>
            finish ((readFlowItems fuel true names rest).map fun r =>
              (.sequence tag r.1, r.2))
          | .flowMappingStart :: rest =>
            finish ((readFlowPairs fuel true names rest).map fun r => (.mapping tag r.1, r.2))
          | .blockSequenceStart :: rest =>
            if block then
              finish ((readItems fuel names rest).map fun r => (.sequence tag r.1, r.2))
            else none
          | .blockMappingStart :: rest =>
            if block then
              finish ((readPairs fuel names rest).map fun r => (.mapping tag r.1, r.2))
            else none
          | .blockEntry :: _ =>
            if indentless then
              finish ((readIndentless fuel names body).map fun r => (.sequence tag r.1, r.2))
            else if anchor.isSome || tag ≠ .none then finish (some (.scalar tag true "", names, body))
            else none
          | _ =>
            if anchor.isSome || tag ≠ .none then finish (some (.scalar tag true "", names, body))
            else none

/-- The entries of a block sequence up to its end. -/
def readItems (fuel : Nat) (names : Names) (ts : List Token) :
    Option (List Node × Names × List Token) :=
  match fuel with
  | 0 => none
  | fuel + 1 =>
    match ts with
    | .blockEnd :: rest => some ([], names, rest)
    | .blockEntry :: rest =>
      let item : NodeResult :=
        if endsBlockEntry rest then some (.absent, names, rest)
        else readNode fuel true false names rest
      match item with
      | none => none
      | some (n, names', rest') =>
        (readItems fuel names' rest').map fun r => (n :: r.1, r.2)
    | _ => none

/-- The entries of a sequence that is not indented more than its key. -/
def readIndentless (fuel : Nat) (names : Names) (ts : List Token) :
    Option (List Node × Names × List Token) :=
  match fuel with
  | 0 => none
  | fuel + 1 =>
    match ts with
    | .blockEntry :: rest =>
      let item : NodeResult :=
        if endsBlockEntry rest || endsBlockPair rest then some (.absent, names, rest)
        else readNode fuel true false names rest
      match item with
      | none => none
      | some (n, names', rest') =>
        (readIndentless fuel names' rest').map fun r => (n :: r.1, r.2)
    | _ => some ([], names, ts)

/-- The pairs of a block mapping up to its end. -/
def readPairs (fuel : Nat) (names : Names) (ts : List Token) :
    Option (List (Node × Node) × Names × List Token) :=
  match fuel with
  | 0 => none
  | fuel + 1 =>
    match ts with
    | .blockEnd :: rest => some ([], names, rest)
    | _ =>
      let keyPart : NodeResult := match ts with
        | .key :: rest =>
          if endsBlockPair rest then some (.absent, names, rest)
          else readNode fuel true true names rest
        | .value :: _ => some (.absent, names, ts)
        | _ => none
      match keyPart with
      | none => none
      | some (k, names', rest) =>
        let valuePart : NodeResult := match rest with
          | .value :: rest' =>
            if endsBlockPair rest' then some (.absent, names', rest')
            else readNode fuel true true names' rest'
          | _ => some (.absent, names', rest)
        match valuePart with
        | none => none
        | some (v, names'', rest') =>
          (readPairs fuel names'' rest').map fun r => ((k, v) :: r.1, r.2)

/-- The value after a key in brackets or braces. -/
def readFlowValue (fuel : Nat) (names : Names) (ts : List Token) : NodeResult :=
  match fuel with
  | 0 => none
  | fuel + 1 =>
    match ts with
    | .value :: rest =>
      if endsFlowPair rest then some (.absent, names, rest)
      else readNode fuel false false names rest
    | _ => some (.absent, names, ts)

/-- The items in brackets up to the closing one. -/
def readFlowItems (fuel : Nat) (first : Bool) (names : Names) (ts : List Token) :
    Option (List Node × Names × List Token) :=
  match fuel with
  | 0 => none
  | fuel + 1 =>
    match ts with
    | .flowSequenceEnd :: rest => some ([], names, rest)
    | _ =>
      let start : Option (List Token) :=
        if first then some ts
        else match ts with
          | .flowEntry :: rest => some rest
          | _ => none
      match start with
      | none => none
      | some (.flowSequenceEnd :: rest) => if first then none else some ([], names, rest)
      | some (.key :: rest) =>
        let keyPart : NodeResult := match rest with
          | .value :: _ => some (.absent, names, rest)
          | _ => if endsFlowPair rest then some (.absent, names, rest)
            else readNode fuel false false names rest
        match keyPart with
        | none => none
        | some (k, names', rest') =>
          match readFlowValue fuel names' rest' with
          | none => none
          | some (v, names'', rest'') =>
            (readFlowItems fuel false names'' rest'').map fun r =>
              (.mapping .none [(k, v)] :: r.1, r.2)
      | some body =>
        match readNode fuel false false names body with
        | none => none
        | some (n, names', rest) =>
          (readFlowItems fuel false names' rest).map fun r => (n :: r.1, r.2)

/-- The pairs in braces up to the closing one. -/
def readFlowPairs (fuel : Nat) (first : Bool) (names : Names) (ts : List Token) :
    Option (List (Node × Node) × Names × List Token) :=
  match fuel with
  | 0 => none
  | fuel + 1 =>
    match ts with
    | .flowMappingEnd :: rest => some ([], names, rest)
    | _ =>
      let start : Option (List Token) :=
        if first then some ts
        else match ts with
          | .flowEntry :: rest => some rest
          | _ => none
      match start with
      | none => none
      | some (.flowMappingEnd :: rest) => if first then none else some ([], names, rest)
      | some (.key :: rest) =>
        let keyPart : NodeResult := match rest with
          | .value :: _ => some (.absent, names, rest)
          | _ => if endsFlowPair rest then some (.absent, names, rest)
            else readNode fuel false false names rest
        match keyPart with
        | none => none
        | some (k, names', rest') =>
          match readFlowValue fuel names' rest' with
          | none => none
          | some (v, names'', rest'') =>
            (readFlowPairs fuel false names'' rest'').map fun r => ((k, v) :: r.1, r.2)
      | some body =>
        match readNode fuel false false names body with
        | none => none
        | some (n, names', rest) =>
          (readFlowPairs fuel false names' rest).map fun r => ((n, .absent) :: r.1, r.2)

end

/-- The handles that directives define, if the directives are in order. -/
def readDirectives (version : Bool) (handles : List (String × String)) :
    List Token → Option (List (String × String) × List Token)
  | .directive "YAML" [v] :: rest =>
    if version || (Text.parts '.' v).head? ≠ some "1" then none else readDirectives true handles rest
  | .directive "TAG" [h, p] :: rest =>
    if (handles.lookup h).isSome then none else readDirectives version ((h, p) :: handles) rest
  | .directive _ _ :: rest => readDirectives version handles rest
  | rest => some (handles, rest)

/-- Drops the marks that end a document. -/
def skipEnds : List Token → List Token
  | .documentEnd :: rest => skipEnds rest
  | ts => ts

/-- The content of a document, up to its end. -/
def readContent (handles : List (String × String)) (ts : List Token) : Option (Node × List Token) :=
  let absent := match ts with
    | [] => true
    | .directive _ _ :: _ => true
    | .documentStart :: _ => true
    | .documentEnd :: _ => true
    | _ => false
  if absent then some (.absent, ts)
  else (readNode (4 * ts.length + 4) true false { handles } ts).map fun r => (r.1, r.2.2)

/-- The only document of the tokens, if there is one. A mark that ends a document may not come first. -/
def document? (ts : List Token) : Option (Option Node) :=
  let start : Option (Option (List (String × String) × List Token)) := match ts with
    | .directive _ _ :: _ => explicit ts
    | .documentStart :: _ => explicit ts
    | .documentEnd :: _ => none
    | [] => some none
    | _ => some (some (standardHandles, ts))
  match start with
  | none => none
  | some none => some none
  | some (some (handles, body)) =>
    match readContent handles body with
    | none => none
    | some (n, rest) => if (skipEnds rest).isEmpty then some (some n) else none
where
  /-- A document that opens with directives and a mark. -/
  explicit (ts : List Token) : Option (Option (List (String × String) × List Token)) :=
    match readDirectives false [] ts with
    | some (handles, .documentStart :: rest) =>
      some (some (handles ++ standardHandles, rest))
    | _ => none

end Downlevel.Yaml
