import Annotator.Yaml.Token

/-! A document is a tree of scalars, lists and maps. -/

namespace Annotator

/-- A node of a document. -/
inductive YamlNode
  /-- A scalar, which is plain when it was written without quotes. -/
  | scalar (plain : Bool) (text : String)
  /-- A list of nodes. -/
  | list (items : List YamlNode)
  /-- Pairs of nodes in the order in which they were written. -/
  | map (pairs : List (YamlNode × YamlNode))
  deriving Inhabited

namespace YamlNode

open Yaml (Token)

/-- The node that stands for something left out. -/
def missing : YamlNode :=
  -- It is an empty plain scalar.
  .scalar true ""

/-- What a list item or a key or value by indentation may end at. -/
def endsBlock : List Token → Bool
  -- The end of the text is no token of its own and leads to an error later.
  | .key :: _ => true
  | .value :: _ => true
  | .blockEnd :: _ => true
  | _ => false

/-- Where an item of a list by indentation is left out. -/
def endsItem : List Token → Bool
  -- The next item or the end of the list follows.
  | .blockItem :: _ => true
  | .blockEnd :: _ => true
  | _ => false

/-- Where a value between braces is left out. -/
def endsFlowValue : List Token → Bool
  -- The next pair or the end of the map follows.
  | .flowItem :: _ => true
  | .flowMapEnd :: _ => true
  | _ => false

/-- Where the value of a pair between brackets is left out. -/
def endsFlowPair : List Token → Bool
  -- The next item or the end of the list follows.
  | .flowItem :: _ => true
  | .flowListEnd :: _ => true
  | _ => false

mutual

/-- A node, which by indentation may be a list at the column of its key. -/
def parseNode (block dashes : Bool) :
    Nat → List Token → Except YamlError (YamlNode × List Token)
  -- What begins the node decides its kind.
  | 0, _ => .error .unexpectedToken
  | fuel + 1, tokens =>
    match tokens with
    | .scalar plain text :: rest => .ok (.scalar plain (String.ofList text), rest)
    | .flowListStart :: rest =>
      (parseFlowList true fuel rest).map fun (items, rest) => (.list items, rest)
    | .flowMapStart :: rest =>
      (parseFlowMap true fuel rest).map fun (pairs, rest) => (.map pairs, rest)
    | .blockListStart :: rest =>
      if block then (parseBlockList fuel rest).map fun (items, rest) => (.list items, rest)
      else .error .unexpectedToken
    | .blockMapStart :: rest =>
      if block then (parseBlockMap fuel rest).map fun (pairs, rest) => (.map pairs, rest)
      else .error .unexpectedToken
    | .blockItem :: _ =>
      if dashes then (parseDashes fuel tokens).map fun (items, rest) => (.list items, rest)
      else .error .unexpectedToken
    | _ => .error .unexpectedToken

/-- The items of a list by indentation. -/
def parseBlockList : Nat → List Token → Except YamlError (List YamlNode × List Token)
  -- The list is closed by its indentation.
  | 0, _ => .error .unexpectedToken
  | fuel + 1, tokens =>
    match tokens with
    | .blockEnd :: rest => .ok ([], rest)
    | .blockItem :: rest => do
      let (item, rest) ←
        if endsItem rest then pure (missing, rest) else parseNode true false fuel rest
      let (items, rest) ← parseBlockList fuel rest
      return (item :: items, rest)
    | _ => .error .unexpectedToken

/-- The items of a list at the column of its key. -/
def parseDashes : Nat → List Token → Except YamlError (List YamlNode × List Token)
  -- The list ends where no further dash follows.
  | 0, _ => .error .unexpectedToken
  | fuel + 1, tokens =>
    match tokens with
    | .blockItem :: rest => do
      let (item, rest) ←
        if endsItem rest || endsBlock rest then pure (missing, rest)
        else parseNode true false fuel rest
      let (items, rest) ← parseDashes fuel rest
      return (item :: items, rest)
    | _ => .ok ([], tokens)

/-- The pairs of a map by indentation. -/
def parseBlockMap :
    Nat → List Token → Except YamlError (List (YamlNode × YamlNode) × List Token)
  -- The map is closed by its indentation.
  | 0, _ => .error .unexpectedToken
  | fuel + 1, tokens =>
    match tokens with
    | .blockEnd :: rest => .ok ([], rest)
    | .key :: rest => do
      let (key, rest) ←
        if endsBlock rest then pure (missing, rest) else parseNode true true fuel rest
      let (value, rest) ← parseBlockValue fuel rest
      let (pairs, rest) ← parseBlockMap fuel rest
      return ((key, value) :: pairs, rest)
    | _ => .error .unexpectedToken

/-- The value of a pair by indentation. -/
def parseBlockValue : Nat → List Token → Except YamlError (YamlNode × List Token)
  -- Both the colon and what follows it may be left out.
  | 0, _ => .error .unexpectedToken
  | fuel + 1, tokens =>
    match tokens with
    | .value :: rest =>
      if endsBlock rest then .ok (missing, rest) else parseNode true true fuel rest
    | _ => .ok (missing, tokens)

/-- The items of a list between brackets, separated by commas. -/
def parseFlowList (first : Bool) :
    Nat → List Token → Except YamlError (List YamlNode × List Token)
  -- A comma may stand behind the last item.
  | 0, _ => .error .unexpectedToken
  | fuel + 1, tokens =>
    match tokens with
    | .flowListEnd :: rest => .ok ([], rest)
    | _ => do
      let tokens ← match first, tokens with
        | true, _ => pure tokens
        | false, .flowItem :: rest => pure rest
        | false, _ => throw YamlError.unexpectedToken
      match tokens with
      | .flowListEnd :: rest => return ([], rest)
      | .key :: rest =>
        let (pair, rest) ← parseFlowPair fuel rest
        let (items, rest) ← parseFlowList false fuel rest
        return (.map [pair] :: items, rest)
      | _ =>
        let (item, rest) ← parseNode false false fuel tokens
        let (items, rest) ← parseFlowList false fuel rest
        return (item :: items, rest)

/-- A pair between brackets, which stands for a map of its own. -/
def parseFlowPair : Nat → List Token → Except YamlError ((YamlNode × YamlNode) × List Token)
  -- A key that is left out takes the token behind it along.
  | 0, _ => .error .unexpectedToken
  | fuel + 1, tokens => do
    let leftOut := endsFlowPair tokens || tokens.head? == some .value
    let (key, rest) ←
      if leftOut then pure (missing, tokens.drop 1) else parseNode false false fuel tokens
    match rest with
    | .value :: rest =>
      if endsFlowPair rest then return ((key, missing), rest)
      else
        let (value, rest) ← parseNode false false fuel rest
        return ((key, value), rest)
    | _ => return ((key, missing), rest)

/-- The pairs of a map between braces, separated by commas. -/
def parseFlowMap (first : Bool) :
    Nat → List Token → Except YamlError (List (YamlNode × YamlNode) × List Token)
  -- A key without a colon has no value.
  | 0, _ => .error .unexpectedToken
  | fuel + 1, tokens =>
    match tokens with
    | .flowMapEnd :: rest => .ok ([], rest)
    | _ => do
      let tokens ← match first, tokens with
        | true, _ => pure tokens
        | false, .flowItem :: rest => pure rest
        | false, _ => throw YamlError.unexpectedToken
      match tokens with
      | .flowMapEnd :: rest => return ([], rest)
      | .key :: rest =>
        let leftOut := endsFlowValue rest || rest.head? == some .value
        let (key, rest) ←
          if leftOut then pure (missing, rest) else parseNode false false fuel rest
        let (value, rest) ← parseFlowValue fuel rest
        let (pairs, rest) ← parseFlowMap false fuel rest
        return ((key, value) :: pairs, rest)
      | _ =>
        let (key, rest) ← parseNode false false fuel tokens
        let (pairs, rest) ← parseFlowMap false fuel rest
        return ((key, missing) :: pairs, rest)

/-- The value of a pair between braces. -/
def parseFlowValue : Nat → List Token → Except YamlError (YamlNode × List Token)
  -- Both the colon and what follows it may be left out.
  | 0, _ => .error .unexpectedToken
  | fuel + 1, tokens =>
    match tokens with
    | .value :: rest =>
      if endsFlowValue rest then .ok (missing, rest) else parseNode false false fuel rest
    | _ => .ok (missing, tokens)

end

/-- The content of a document behind its start, which may be left out. -/
def parseContent (tokens : List Token) : Except YamlError (YamlNode × List Token) :=
  -- Nothing stands in front of the end or of another document.
  match tokens with
  | [] => .ok (missing, [])
  | .version :: _ => .ok (missing, tokens)
  | .documentStart :: _ => .ok (missing, tokens)
  | .documentEnd :: _ => .ok (missing, tokens)
  | _ => parseNode true false (2 * tokens.length + 2) tokens

/-- A document that begins with its marker, behind any directives. -/
def parseMarked (tokens : List Token) : Except YamlError (YamlNode × List Token) :=
  -- A version may be given no more than once.
  let behind := match tokens with
    | .version :: rest => rest
    | other => other
  match behind with
  | .documentStart :: rest => parseContent rest
  | _ => .error .unexpectedToken

/-- The only document of a text, if there is one. -/
def ofTokens? (tokens : List Token) : Except YamlError (Option YamlNode) := do
  -- The first document needs no marker, and none may follow it.
  if tokens.isEmpty then return none
  let (node, rest) ← match tokens with
    | .version :: _ => parseMarked tokens
    | .documentStart :: _ => parseMarked tokens
    | _ => parseNode true false (2 * tokens.length + 2) tokens
  if (rest.dropWhile (· == .documentEnd)).isEmpty then return some node
  else throw .severalDocuments

/-- The only document of a text, if it has one. -/
def read? (text : String) : Except YamlError (Option YamlNode) := do
  -- The text is cut into tokens before any of it is understood.
  ofTokens? (← Yaml.tokens (← Yaml.prepare text))

end YamlNode

end Annotator
