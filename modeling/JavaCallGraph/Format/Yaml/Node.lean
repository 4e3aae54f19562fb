import JavaCallGraph.Format.Yaml.Token

/-!
# YAML documents

* `Yaml.Node` — a text, a list or a map.
* `Yaml.documents?` — the documents of a text.
-/

namespace JavaCallGraph.Yaml

inductive Node where
  | scalar (text : String) (plain : Bool)
  | list (items : List Node)
  | map (entries : List (Node × Node))
  deriving Repr, Inhabited

namespace Node

/-- What stands where nothing is written. -/
def nothing : Node := .scalar "" true

abbrev Anchors := List (String × Node)

abbrev Parsed := Node × List Token × Anchors

def properties : List Token → Option String × Bool × List Token
  | .anchor name :: .tag :: rest => (some name, true, rest)
  | .tag :: .anchor name :: rest => (some name, true, rest)
  | .anchor name :: rest => (some name, true, rest)
  | .tag :: rest => (none, true, rest)
  | rest => (none, false, rest)

/-- Does a block entry end before this token, so that nothing is written for it? -/
def endsBlockEntry (t : Option Token) : Bool :=
  t == some .key || t == some .value || t == some .blockEnd || t == none

mutual

/-- Reads a node. In `block` context it may be a block; with `loose` it may be a list whose dashes are not
indented. -/
def parse (block loose : Bool) : (fuel : Nat) → List Token → Anchors → Option Parsed
  | 0, _, _ => none
  | fuel + 1, tokens, anchors =>
    match tokens with
    | .alias name :: rest => (anchors.lookup name).map fun node => (node, rest, anchors)
    | _ => do
      let (name, marked, tokens) := properties tokens
      let (node, rest, anchors) ←
        match tokens with
        | .item :: _ =>
          if loose then parseLooseItems fuel tokens anchors []
          else if marked then some (nothing, tokens, anchors)
          else none
        | .scalar text plain :: rest => some (.scalar text plain, rest, anchors)
        | .flowListStart :: rest => parseFlowItems fuel true rest anchors []
        | .flowMapStart :: rest => parseFlowEntries fuel true rest anchors []
        | .blockListStart :: rest =>
          if block then parseItems fuel rest anchors []
          else if marked then some (nothing, tokens, anchors)
          else none
        | .blockMapStart :: rest =>
          if block then parseEntries fuel rest anchors []
          else if marked then some (nothing, tokens, anchors)
          else none
        | _ => if marked then some (nothing, tokens, anchors) else none
      match name with
      | some name => return (node, rest, (name, node) :: anchors)
      | none => return (node, rest, anchors)

def parseBlockNode (loose : Bool) : (fuel : Nat) → List Token → Anchors → Option Parsed
  | 0, _, _ => none
  | fuel + 1, tokens, anchors =>
    if endsBlockEntry tokens.head? || (!loose && tokens.head? == some .item) then
      some (nothing, tokens, anchors)
    else parse true loose fuel tokens anchors

def parseItems : (fuel : Nat) → List Token → Anchors → List Node → Option Parsed
  | 0, _, _, _ => none
  | fuel + 1, tokens, anchors, items =>
    match tokens with
    | .item :: rest => do
      let (node, rest, anchors) ← parseBlockNode false fuel rest anchors
      parseItems fuel rest anchors (items ++ [node])
    | .blockEnd :: rest => some (.list items, rest, anchors)
    | _ => none

def parseLooseItems : (fuel : Nat) → List Token → Anchors → List Node → Option Parsed
  | 0, _, _, _ => none
  | fuel + 1, tokens, anchors, items =>
    match tokens with
    | .item :: rest => do
      let (node, rest, anchors) ← parseBlockNode false fuel rest anchors
      parseLooseItems fuel rest anchors (items ++ [node])
    | _ => some (.list items, tokens, anchors)

def parseEntries : (fuel : Nat) → List Token → Anchors → List (Node × Node) → Option Parsed
  | 0, _, _, _ => none
  | fuel + 1, tokens, anchors, entries =>
    match tokens with
    | .key :: rest => do
      let (key, rest, anchors) ← parseBlockNode true fuel rest anchors
      match rest with
      | .value :: rest =>
        let (value, rest, anchors) ← parseBlockNode true fuel rest anchors
        parseEntries fuel rest anchors (entries ++ [(key, value)])
      | _ => parseEntries fuel rest anchors (entries ++ [(key, nothing)])
    | .blockEnd :: rest => some (.map entries, rest, anchors)
    | _ => none

def parseFlowNode : (fuel : Nat) → List Token → Anchors → Option Parsed
  | 0, _, _ => none
  | fuel + 1, tokens, anchors =>
    match tokens with
    | .value :: _ => some (nothing, tokens, anchors)
    | .comma :: _ => some (nothing, tokens, anchors)
    | .flowListEnd :: _ => some (nothing, tokens, anchors)
    | .flowMapEnd :: _ => some (nothing, tokens, anchors)
    | _ => parse false false fuel tokens anchors

def parseFlowEntry : (fuel : Nat) → List Token → Anchors →
    Option ((Node × Node) × List Token × Anchors)
  | 0, _, _ => none
  | fuel + 1, tokens, anchors => do
    let (key, rest, anchors) ← parseFlowNode fuel tokens anchors
    match rest with
    | .value :: rest =>
      let (value, rest, anchors) ← parseFlowNode fuel rest anchors
      return ((key, value), rest, anchors)
    | _ => return ((key, nothing), rest, anchors)

/-- Reads the items of a list in brackets. A key among them makes a map with one entry. -/
def parseFlowItems : (fuel : Nat) → (first : Bool) → List Token → Anchors → List Node →
    Option Parsed
  | 0, _, _, _, _ => none
  | fuel + 1, first, tokens, anchors, items => do
    match tokens with
    | .flowListEnd :: rest => return (.list items, rest, anchors)
    | _ =>
      let tokens ← match first, tokens with
        | true, _ => some tokens
        | false, .comma :: rest => some rest
        | false, _ => none
      match tokens with
      | .flowListEnd :: rest => return (.list items, rest, anchors)
      | .key :: rest =>
        let (entry, rest, anchors) ← parseFlowEntry fuel rest anchors
        parseFlowItems fuel false rest anchors (items ++ [.map [entry]])
      | _ =>
        let (node, rest, anchors) ← parse false false fuel tokens anchors
        parseFlowItems fuel false rest anchors (items ++ [node])

def parseFlowEntries : (fuel : Nat) → (first : Bool) → List Token → Anchors →
    List (Node × Node) → Option Parsed
  | 0, _, _, _, _ => none
  | fuel + 1, first, tokens, anchors, entries => do
    match tokens with
    | .flowMapEnd :: rest => return (.map entries, rest, anchors)
    | _ =>
      let tokens ← match first, tokens with
        | true, _ => some tokens
        | false, .comma :: rest => some rest
        | false, _ => none
      match tokens with
      | .flowMapEnd :: rest => return (.map entries, rest, anchors)
      | .key :: rest =>
        let (entry, rest, anchors) ← parseFlowEntry fuel rest anchors
        parseFlowEntries fuel false rest anchors (entries ++ [entry])
      | _ =>
        let (node, rest, anchors) ← parse false false fuel tokens anchors
        parseFlowEntries fuel false rest anchors (entries ++ [(node, nothing)])

end

end Node

/-- Reads a document: without a start mark only if it is the first. -/
def document? (first : Bool) (tokens : List Token) : Option (Node × List Token) :=
  let body (tokens : List Token) : Option (Node × List Token) :=
    (Node.parse true false (4 * tokens.length + 4) tokens []).map fun (node, rest, _) => (node, rest)
  match tokens.dropWhile (· == .directive), tokens.head? with
  | .documentStart :: rest, _ =>
    match rest.head? with
    | none => some (.nothing, rest)
    | some .directive => some (.nothing, rest)
    | some .documentStart => some (.nothing, rest)
    | some .documentEnd => some (.nothing, rest)
    | _ => body rest
  | _, some .directive => none
  | _, _ => if first then body tokens else none

def documentsFrom : (fuel : Nat) → (first : Bool) → List Token → Option (List Node)
  | 0, _, _ => none
  | fuel + 1, first, tokens =>
    let tokens := if first then tokens else tokens.dropWhile (· == .documentEnd)
    if tokens.isEmpty then some []
    else do
      let (node, rest) ← document? first tokens
      return node :: (← documentsFrom fuel false rest)

def documents? (text : String) : Option (List Node) := do
  let tokens ← tokens? text
  documentsFrom (tokens.length + 1) true tokens

end JavaCallGraph.Yaml
