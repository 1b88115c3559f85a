import RouteDocs.Yaml.Token.Scan

/-!
# The tree of nodes of a document

* `Node`: scalars, sequences and mappings, with their kinds and anchors;
* `checkAnchors`: tokens in which every alias follows its anchor;
* `Node.ofTokens`: the tree that a list of tokens describes, if they describe one;
* `Node.ofText`: the tree of a text.

Every function that reads a part of a document gives the tokens it leaves. At most three steps of
the recursion go by before one takes a token, so three times the number of tokens bounds its depth.
-/

namespace RouteDocs.Yaml

inductive Node where
  | scalar (anchor : Option String) (tag : Tag) (text : String)
  | sequence (anchor : Option String) (tag : Tag) (items : List Node)
  | mapping (anchor : Option String) (tag : Tag) (entries : List (Node × Node))
  | alias (name : String)
  deriving Inhabited

/-- The tokens of a node whose anchor was given before: they can be used up to its content. -/
def refuse : List Token → List Token
  | .tag handle suffix :: rest => .tag handle suffix :: refuse rest
  | .fault cause :: _ => [.fault cause]
  | _ => [.fault .malformed]

/-- The tokens up to the first alias of an anchor that is not among `known` and not given before it,
and up to the content of the first node with an anchor that was given before. -/
def checkAnchors (known : List String) : List Token → List Token
  | [] => []
  | .alias name :: rest =>
    if known.contains name then .alias name :: checkAnchors known rest else [.fault .malformed]
  | .anchor name :: rest =>
    if known.contains name then .anchor name :: refuse rest
    else .anchor name :: checkAnchors (name :: known) rest
  | token :: rest => token :: checkAnchors known rest

/-- The failure where the next token cannot stand. -/
def unexpected {α : Type} : List Token → Except Failure α
  | .fault cause :: _ => .error cause
  | _ => malformed

namespace Node

/-- The scalar that stands where a node is left out. -/
def absent : Node := .scalar none .null ""

/-- The leads that tag handles stand for. -/
abbrev Handles := List (String × String)

/-- The handles that every document has. -/
def defaultHandles : Handles := [("!", "!"), ("!!", "tag:yaml.org,2002:")]

/-- A node and the tokens after it. -/
abbrev Parsed := Except Failure (Node × List Token)

/-- What may stand before a node's content. -/
structure Properties where
  anchor : Option String
  tag : Option String

/-- The full name of a tag. -/
def resolveTag (handles : Handles) (handle : Option String) (suffix : String) :
    Except Failure String :=
  match handle with
  | none => .ok suffix
  | some h =>
    match handles.lookup h with
    | some lead => .ok (lead ++ suffix)
    | none => malformed

/-- An anchor and a tag, in either order and each at most once. -/
def properties (handles : Handles) : List Token → Except Failure (Properties × List Token)
  | .anchor a :: .tag h s :: rest => do return (⟨some a, some (← resolveTag handles h s)⟩, rest)
  | .tag h s :: .anchor a :: rest => do return (⟨some a, some (← resolveTag handles h s)⟩, rest)
  | .tag _ _ :: .fault cause :: _ => .error cause
  | .anchor a :: rest => .ok (⟨some a, none⟩, rest)
  | .tag h s :: rest => do return (⟨none, some (← resolveTag handles h s)⟩, rest)
  | rest => .ok (⟨none, none⟩, rest)

/-- The kind of a scalar. Without a tag a plain one is what its spelling says and a quoted one is a
text; the tag `!` leaves the kind to the spelling. -/
def scalarTag (tag : Option String) (isPlain : Bool) (text : String) : Tag :=
  match tag with
  | none => if isPlain then .ofPlain text else .text
  | some "!" => .ofPlain text
  | some name => .ofName name

/-- The kind of a collection. -/
def collectionTag (tag : Option String) (usual : Tag) : Tag :=
  match tag with
  | none => usual
  | some "!" => usual
  | some name => .ofName name

/-- Whether a block mapping goes on with a key or a value, or ends here. -/
def atMappingPart : List Token → Bool
  | .key :: _ => true
  | .value :: _ => true
  | .blockEnd :: _ => true
  | _ => false

/-- Whether an entry of a flow sequence has no value. -/
def atSequenceStop : List Token → Bool
  | .flowEntry :: _ => true
  | .flowSequenceEnd :: _ => true
  | _ => false

/-- Whether an entry of a flow mapping has no value. -/
def atMappingStop : List Token → Bool
  | .flowEntry :: _ => true
  | .flowMappingEnd :: _ => true
  | _ => false

mutual

/-- A node. `inBlock` says whether it may be a block collection, and `besideKey` whether it may be
a block sequence that is not indented. -/
def parse (handles : Handles) : Nat → Bool → Bool → List Token → Parsed
  | 0, _, _, _ => malformed
  | fuel + 1, inBlock, besideKey, tokens =>
    match tokens with
    | .alias name :: rest => .ok (.alias name, rest)
    | _ => do
      let (p, rest) ← properties handles tokens
      let sequence (parsed : Except Failure (List Node × List Token)) : Parsed := do
        let (items, left) ← parsed
        return (.sequence p.anchor (collectionTag p.tag .sequence) items, left)
      let mapping (parsed : Except Failure (List (Node × Node) × List Token)) : Parsed := do
        let (entries, left) ← parsed
        return (.mapping p.anchor (collectionTag p.tag .mapping) entries, left)
      match rest, inBlock, besideKey with
      | .blockEntry :: _, _, true => sequence (parseLooseItems handles fuel rest)
      | .scalar text isPlain :: left, _, _ =>
        return (.scalar p.anchor (scalarTag p.tag isPlain text) text, left)
      | .flowSequenceStart :: left, _, _ => sequence (parseFlowItems handles fuel true left)
      | .flowMappingStart :: left, _, _ => mapping (parseFlowEntries handles fuel true left)
      | .blockSequenceStart :: left, true, _ => sequence (parseItems handles fuel left)
      | .blockMappingStart :: left, true, _ => mapping (parseEntries handles fuel left)
      | left, _, _ =>
        if p.anchor.isSome || p.tag.isSome then
          match left with
          | .fault cause :: _ => .error cause
          | _ => return (.scalar p.anchor (scalarTag p.tag true "") "", left)
        else unexpected left

/-- The items of a block sequence up to its end. -/
def parseItems (handles : Handles) : Nat → List Token → Except Failure (List Node × List Token)
  | 0, _ => malformed
  | fuel + 1, tokens =>
    match tokens with
    | .blockEntry :: rest => do
      let (item, rest) ← match rest with
        | .blockEntry :: _ => pure (absent, rest)
        | .blockEnd :: _ => pure (absent, rest)
        | _ => parse handles fuel true false rest
      let (items, left) ← parseItems handles fuel rest
      return (item :: items, left)
    | .blockEnd :: left => .ok ([], left)
    | _ => unexpected tokens

/-- The items of a block sequence that is not indented; it ends where no hyphen follows. -/
def parseLooseItems (handles : Handles) : Nat → List Token →
    Except Failure (List Node × List Token)
  | 0, _ => malformed
  | fuel + 1, tokens =>
    match tokens with
    | .blockEntry :: rest => do
      let (item, rest) ← match rest with
        | .blockEntry :: _ => pure (absent, rest)
        | _ =>
          if atMappingPart rest then pure (absent, rest) else parse handles fuel true false rest
      let (items, left) ← parseLooseItems handles fuel rest
      return (item :: items, left)
    | left => .ok ([], left)

def parseEntries (handles : Handles) : Nat → List Token →
    Except Failure (List (Node × Node) × List Token)
  | 0, _ => malformed
  | fuel + 1, tokens =>
    match tokens with
    | .blockEnd :: left => .ok ([], left)
    | .key :: rest => do
      let (key, rest) ←
        if atMappingPart rest then pure (absent, rest) else parse handles fuel true true rest
      let (value, rest) ← match rest with
        | .value :: rest =>
          if atMappingPart rest then pure (absent, rest) else parse handles fuel true true rest
        | _ => pure (absent, rest)
      let (entries, left) ← parseEntries handles fuel rest
      return ((key, value) :: entries, left)
    | _ => unexpected tokens

/-- The items of a flow sequence up to its end. `isFirst` says that no comma is due. -/
def parseFlowItems (handles : Handles) : Nat → Bool → List Token →
    Except Failure (List Node × List Token)
  | 0, _, _ => malformed
  | fuel + 1, isFirst, tokens =>
    match tokens, isFirst with
    | .flowSequenceEnd :: left, _ => .ok ([], left)
    | .flowEntry :: .flowSequenceEnd :: left, false => .ok ([], left)
    | .flowEntry :: rest, false => parseFlowItem handles fuel rest
    | _, false => unexpected tokens
    | _, true => parseFlowItem handles fuel tokens

/-- An item of a flow sequence and those after it. A key makes it a mapping of one entry. -/
def parseFlowItem (handles : Handles) : Nat → List Token → Except Failure (List Node × List Token)
  | 0, _ => malformed
  | fuel + 1, tokens => do
    let (item, rest) ← match tokens with
      | .key :: rest => do
        let (key, rest) ← match rest with
          | .value :: _ => pure (absent, rest)
          | _ => if atSequenceStop rest then pure (absent, rest)
                 else parse handles fuel false false rest
        let (value, rest) ← match rest with
          | .value :: rest =>
            if atSequenceStop rest then pure (absent, rest)
            else parse handles fuel false false rest
          | _ => pure (absent, rest)
        pure (Node.mapping none .mapping [(key, value)], rest)
      | _ => parse handles fuel false false tokens
    let (items, left) ← parseFlowItems handles fuel false rest
    return (item :: items, left)

/-- The entries of a flow mapping up to its end. `isFirst` says that no comma is due. -/
def parseFlowEntries (handles : Handles) : Nat → Bool → List Token →
    Except Failure (List (Node × Node) × List Token)
  | 0, _, _ => malformed
  | fuel + 1, isFirst, tokens =>
    match tokens, isFirst with
    | .flowMappingEnd :: left, _ => .ok ([], left)
    | .flowEntry :: .flowMappingEnd :: left, false => .ok ([], left)
    | .flowEntry :: rest, false => parseFlowEntry handles fuel rest
    | _, false => unexpected tokens
    | _, true => parseFlowEntry handles fuel tokens

/-- An entry of a flow mapping and those after it. A node without a mark for keys has no value. -/
def parseFlowEntry (handles : Handles) : Nat → List Token →
    Except Failure (List (Node × Node) × List Token)
  | 0, _ => malformed
  | fuel + 1, tokens => do
    let (entry, rest) ← match tokens with
      | .key :: rest => do
        let (key, rest) ← match rest with
          | .value :: _ => pure (absent, rest)
          | _ => if atMappingStop rest then pure (absent, rest)
                 else parse handles fuel false false rest
        let (value, rest) ← match rest with
          | .value :: rest =>
            if atMappingStop rest then pure (absent, rest)
            else parse handles fuel false false rest
          | _ => pure (absent, rest)
        pure ((key, value), rest)
      | _ => do
        let (key, rest) ← parse handles fuel false false tokens
        pure ((key, absent), rest)
    let (entries, left) ← parseFlowEntries handles fuel false rest
    return (entry :: entries, left)

end

/-- The directives before a document: at most one version, which must be 1, and handles, each at
most once. -/
def directives (hasVersion : Bool) (handles : Handles) : List Token →
    Except Failure (Handles × List Token)
  | .versionDirective major :: rest =>
    if hasVersion || major ≠ 1 then malformed else directives true handles rest
  | .tagDirective handle lead :: rest =>
    if (handles.lookup handle).isSome then malformed
    else directives hasVersion ((handle, lead) :: handles) rest
  | .otherDirective :: rest => directives hasVersion handles rest
  | rest => .ok (handles ++ defaultHandles, rest)

def atDirective : List Token → Bool
  | .versionDirective _ :: _ => true
  | .tagDirective .. :: _ => true
  | .otherDirective :: _ => true
  | _ => false

/-- Whether the content of a document is left out. -/
def atDocumentBoundary (tokens : List Token) : Bool :=
  atDirective tokens ||
    match tokens with
    | [] => true
    | .documentStart :: _ => true
    | .documentEnd :: _ => true
    | _ => false

/-- Requires that no further document begins. -/
def atEnd (tokens : List Token) : Except Failure Unit := do
  let rest := tokens.dropWhile (· = .documentEnd)
  if rest.isEmpty then return
  else
    let (_, rest) ← directives false [] rest
    unexpected rest

/-- The tree of a document, or nothing for a text without one. A text holds one document at
most. -/
def ofTokens (tokens : List Token) : Except Failure (Option Node) := do
  let bound := 3 * tokens.length + 3
  match tokens with
  | [] => return none
  | _ =>
    let (node, rest) ←
      if atDirective tokens || tokens.head? == some .documentStart then do
        let (handles, rest) ← directives false [] tokens
        match rest with
        | .documentStart :: content =>
          if atDocumentBoundary content then pure (absent, content)
          else parse handles bound true false content
        | _ => unexpected rest
      else parse defaultHandles bound true false tokens
    atEnd rest
    return some node

def ofText (s : String) : Except Failure (Option Node) := ofTokens (checkAnchors [] (tokens s))

end Node
end RouteDocs.Yaml
