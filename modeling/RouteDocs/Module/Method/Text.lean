import RouteDocs.Module.Method.Arguments
import RouteDocs.Module.Template
import RouteDocs.Module.Token
import RouteDocs.Text.Casing
import RouteDocs.Text.Encoding
import RouteDocs.Text.Identifier
import RouteDocs.Text.Lines

namespace RouteDocs.Module.TextMethod

/-! ### Searching -/

/-- The places in which a pattern stands. `place` is that of the first character. -/
def occurrences {α : Type} [BEq α] (pattern : List α) (place : Nat) : List α → List Nat
  | [] => if pattern.isEmpty then [place] else []
  | x :: xs =>
    let rest := occurrences pattern (place + 1) xs
    if pattern.isPrefixOf (x :: xs) then place :: rest else rest

/-- The number of places in which a pattern stands, none overlapping the one before it. -/
def countFrom {α : Type} [BEq α] (pattern : List α) : Nat → List α → Nat
  | _, [] => if pattern.isEmpty then 1 else 0
  | skip + 1, _ :: xs => countFrom pattern skip xs
  | 0, x :: xs =>
    if pattern.isPrefixOf (x :: xs) then 1 + countFrom pattern (pattern.length - 1) xs
    else countFrom pattern 0 xs

/-- A list with others in the places of a pattern, at most `n` of them, none overlapping the one
before it. -/
def replaceFrom {α : Type} [BEq α] (pattern new : List α) : Nat → Nat → List α → List α
  | n, _, [] => if pattern.isEmpty && n ≠ 0 then new else []
  | n, skip + 1, _ :: xs => replaceFrom pattern new n skip xs
  | 0, 0, xs => xs
  | n + 1, 0, x :: xs =>
    if pattern.isEmpty then new ++ x :: replaceFrom pattern new n 0 xs
    else if pattern.isPrefixOf (x :: xs) then
      new ++ replaceFrom pattern new n (pattern.length - 1) xs
    else x :: replaceFrom pattern new (n + 1) 0 xs

/-- The parts of a list between the places of a separator, which is cut at most `n` times. `part` is
the part so far, backwards. -/
def splitFrom {α : Type} [BEq α] (sep : List α) : Nat → Nat → List α → List α → List (List α)
  | _, _, part, [] => [part.reverse]
  | n, skip + 1, part, _ :: xs => splitFrom sep n skip part xs
  | 0, 0, part, xs => [part.reverse ++ xs]
  | n + 1, 0, part, x :: xs =>
    if sep.isPrefixOf (x :: xs) then
      part.reverse :: splitFrom sep n (sep.length - 1) [] xs
    else splitFrom sep (n + 1) 0 (x :: part) xs

/-- The words of a list, of which at most `n` are cut off. -/
def wordsFrom {α : Type} (isBlank : α → Bool) : Nat → Nat → List α → List (List α)
  | 0, _, _ => []
  | fuel + 1, n, xs =>
    let xs := xs.dropWhile isBlank
    if xs.isEmpty then []
    else if n = 0 then [(xs.reverse.dropWhile isBlank).reverse]
    else
      let word := xs.takeWhile fun x => ! isBlank x
      word :: wordsFrom isBlank fuel (n - 1) (xs.drop word.length)

/-- The most cuts that are made; a negative number stands for any number. -/
def cuts (n : Int) (length : Nat) : Nat := if n < 0 then length + 1 else n.toNat

/-- The parts of a list around the first place of a separator. -/
def partition? {α : Type} [BEq α] (sep xs : List α) : Option (List α × List α) :=
  (occurrences sep 0 xs).head?.map fun i => (xs.take i, xs.drop (i + sep.length))

/-- The parts of a list around the last place of a separator. -/
def lastPartition? {α : Type} [BEq α] (sep xs : List α) : Option (List α × List α) :=
  (occurrences sep 0 xs).getLast?.map fun i => (xs.take i, xs.drop (i + sep.length))

/-! ### Characters -/

def isLetter (c : Char) : Bool := c ≠ '_' && Text.isIdentifierStart c

def isDecimal (c : Char) : Bool := (Text.decimalDigit? c).isSome

/-- Whether a character has an upper case of its own. -/
def isLower (c : Char) : Bool := Text.upperChar c ≠ [c]

/-- Whether a character has a lower case of its own. -/
def isUpper (c : Char) : Bool := Text.lowerChar c ≠ [c]

/-- Whether a text is not empty and all its characters are of a kind. -/
def areAll (p : Char → Bool) (s : String) : Bool := ! s.isEmpty && s.toList.all p

def capitalize (s : String) : String :=
  match s.toList with
  | [] => ""
  | c :: _ => .ofList (Text.upperChar c ++ (Text.lower s).toList.drop (Text.lowerChar c).length)

/-- Each word with its first letter in upper case. `inWord` says that a letter stands before. -/
def titleFrom (inWord : Bool) : List Char → List Char
  | [] => []
  | c :: cs =>
    let cased := isLower c || isUpper c
    (if inWord then Text.lowerChar c else Text.upperChar c) ++ titleFrom cased cs

def isTitle (inWord seen : Bool) : List Char → Bool
  | [] => seen
  | c :: cs =>
    if isUpper c then ! inWord && isTitle true true cs
    else if isLower c then inWord && isTitle true true cs
    else isTitle false seen cs

/-- A text with blanks in place of its tabs. -/
def expandFrom (size column : Nat) : List Char → List Char
  | [] => []
  | c :: cs =>
    if c = '\t' then
      let n := if size = 0 then 0 else size - column % size
      List.replicate n ' ' ++ expandFrom size (column + n) cs
    else if c = '\n' || c = '\r' then c :: expandFrom size 0 cs
    else c :: expandFrom size (column + 1) cs

def linesWithEnds : List Char → List (List Char)
  | [] => []
  | '\r' :: '\n' :: cs => ['\r', '\n'] :: linesWithEnds cs
  | c :: cs =>
    if Text.isLineEnd c then [c] :: linesWithEnds cs
    else
      match linesWithEnds cs with
      | [] => [[c]]
      | l :: ls => (c :: l) :: ls

/-! ### Bytes -/

/-- The name of an encoding without what its spelling leaves open. -/
def encodingName (s : String) : String :=
  let plain := s.toLower.toList.map fun c => if c = '_' || c = ' ' then '-' else c
  match String.ofList plain with
  | "utf8" => "utf-8"
  | "u8" => "utf-8"
  | "utf" => "utf-8"
  | "latin-1" => "latin-1"
  | "latin1" => "latin-1"
  | "iso-8859-1" => "latin-1"
  | "l1" => "latin-1"
  | "us-ascii" => "ascii"
  | "646" => "ascii"
  | other => other

def encoded (s encoding errors : String) : Run Object := do
  let name := encodingName encoding
  if name = "utf-8" then
    if Text.hasHalves s && errors = "strict" then
      throw (← newException "UnicodeEncodeError"
        [.text "utf-8", .text s, .int 0, .int 1, .text "surrogates not allowed"] [])
    else return .bytes s.toUTF8.toList
  else if name = "ascii" || name = "latin-1" then
    let limit := if name = "ascii" then 0x80 else 0x100
    let cs := s.toList
    if cs.all fun c => Text.codeOf c < limit then
      return .bytes (cs.map fun c => .ofNat c.toNat)
    else if errors = "ignore" then
      return .bytes ((cs.filter fun c => Text.codeOf c < limit).map fun c => .ofNat c.toNat)
    else if errors = "replace" then
      return .bytes (cs.map fun c => if Text.codeOf c < limit then .ofNat c.toNat else 63)
    else
      let place := (cs.takeWhile fun c => Text.codeOf c < limit).length
      throw (← newException "UnicodeEncodeError"
        [.text name, .text s, .int place, .int (place + 1),
          .text ("ordinal not in range(" ++ toString limit ++ ")")] [])
  else if name.startsWith "utf-16" || name.startsWith "utf-32" ||
      (Text.Encoding.ofName? encoding).isSome then return .unknown
  else fail "LookupError" ("unknown encoding: " ++ encoding)

def failDecode (name : String) (content : List UInt8) (place : Nat) (reason : String) :
    Run Object := do
  throw (← newException "UnicodeDecodeError"
    [.text name, .bytes content, .int place, .int (place + 1), .text reason]
    [("encoding", .text name), ("object", .bytes content), ("start", .int place),
      ("end", .int (place + 1)), ("reason", .text reason)])

/-- The number of bytes at the start that are UTF-8. -/
def validPart (content : List UInt8) : Nat :=
  let size := content.length
  ((List.range (size + 1)).reverse.find? fun n =>
    (String.fromUTF8? ⟨(content.take n).toArray⟩).isSome).getD 0

def decoded (content : List UInt8) (encoding errors : String) : Run Object := do
  let name := encodingName encoding
  if name = "utf-8" then
    match String.fromUTF8? ⟨content.toArray⟩ with
    | some s => return .text s
    | none =>
      if errors = "strict" then failDecode name content (validPart content) "invalid start byte"
      else return .unknown
  else if name = "latin-1" then return .text (.ofList (content.map fun b => .ofNat b.toNat))
  else if name = "ascii" then
    let place := (content.takeWhile (· < 0x80)).length
    if place = content.length then return .text (.ofList (content.map fun b => .ofNat b.toNat))
    else if errors = "strict" then
      failDecode name content place "ordinal not in range(128)"
    else return .unknown
  else if name.startsWith "utf-16" || name.startsWith "utf-32" then return .unknown
  else
    match Text.Encoding.ofName? encoding with
    | some found =>
      match Text.Encoding.decode? found content with
      | some cs => return .text (.ofList cs)
      | none =>
        if errors = "strict" then failDecode name content 0 "illegal multibyte sequence"
        else return .unknown
    | none => fail "LookupError" ("unknown encoding: " ++ encoding)

/-! ### Calls -/

/-- The part of a list between two places, with the first of them; none, if there is no such
part. -/
def between (h : Hooks) {α : Type} (xs : List α) (bounds : List Object) :
    Run (Option (Nat × List α)) := do
  let first ← match bounds[0]? with
    | some o => o.boundOf h
    | none => pure none
  let last ← match bounds[1]? with
    | some o => o.boundOf h
    | none => pure none
  let size : Int := xs.length
  let bound (i : Int) : Int := if i < 0 then max (i + size) 0 else i
  let low := ((first.map bound).getD 0).toNat
  let high := (min ((last.map bound).getD size) size).toNat
  return if low ≤ high then some (low, (xs.take high).drop low) else none

/-- The first or last place of a pattern between two places. -/
def findBetween (h : Hooks) {α : Type} [BEq α] (isLast : Bool) (pattern xs : List α)
    (bounds : List Object) : Run (Option Nat) := do
  match ← between h xs bounds with
  | none => return none
  | some (low, part) =>
    let places := occurrences pattern 0 part
    return ((if isLast then places.getLast? else places.head?).map (· + low))

/-- The texts that an argument names: one, or those of a tuple. -/
def alternatives (o : Object) : Run (List String) := do
  match (← get).content o with
  | .tuple items => items.mapM expectString
  | _ => return [← expectString o]

def expectStrings (h : Hooks) (o : Object) : Run (List String) := do
  (← o.items h).mapM expectString

def listOf (parts : List (List Char)) : Run Object :=
  newList (parts.map fun cs => .text (.ofList cs))

def three (a b c : List Char) : Object :=
  .tuple [.text (.ofList a), .text (.ofList b), .text (.ofList c)]

def padded (left right : Nat) (fill : Char) (s : String) : Object :=
  .text (.ofList (List.replicate (min left Format.mostFill) fill ++ s.toList ++
    List.replicate (min right Format.mostFill) fill))

/-- The width and the filling of a wider field. -/
def field (h : Hooks) (a : Arguments) : Run (Nat × Char) := do
  let all ← a.take 1 2
  let width ← (all.head?.getD .null).indexOf h
  match all[1]? with
  | none => return (width.toNat, ' ')
  | some o =>
    match (← expectString o).toList with
    | [c] => return (width.toNat, c)
    | _ => fail "TypeError" "The fill character must be exactly one character long"

/-- The characters to take off the ends of a text. -/
def ends (o : Option Object) : Run (Char → Bool) := do
  match o with
  | none => return Text.isBlank
  | some .null => return Text.isBlank
  | some o =>
    let cs := (← expectString o).toList
    return fun c => cs.contains c

/-- A text in lower case, for comparison: that of its letters in upper case, apart from the `i` without
a dot. -/
def folded (s : String) : String :=
  .ofList (s.toList.flatMap fun c =>
    if c.toNat = 0x131 then [c] else (Text.upperChar c).flatMap Text.lowerChar)

/-- What stands for a character in a text whose characters are replaced. -/
def replacement (h : Hooks) (table : Object) (c : Char) : Run (List Char) := do
  let found ← tryCatch (do return some (← table.index h (.int (Text.codeOf c)))) fun e => do
    if (← get).isInstance e (.library "LookupError") then return none else throw e
  match found with
  | none => return [c]
  | some .null => return []
  | some (.text t) => return t.toList
  | some o =>
    match o.int? with
    | some n =>
      if n < 0 ∨ 0x110000 ≤ n then
        fail "ValueError" "character mapping must be in range(0x110000)"
      else return [Text.ofCode n.toNat]
    | none => fail "TypeError" "character mapping must return integer, None or str"

/-- The result of a method of a text; none, if the method is not followed. -/
def call? (h : Hooks) (name : String) (s : String) (a : Arguments) : Option (Run Object) :=
  let cs := s.toList
  let text (cs : List Char) : Run Object := return .text (.ofList cs)
  let test (b : Bool) : Option (Run Object) := some do
    a.none
    return .bool b
  let change (t : String) : Option (Run Object) := some do
    a.none
    return .text t
  match name with
  | "upper" => change (Text.upper s)
  | "lower" => change (Text.lower s)
  | "casefold" => change (folded s)
  | "capitalize" => change (capitalize s)
  | "title" => change (.ofList (titleFrom false cs))
  | "swapcase" =>
    change (.ofList (cs.flatMap fun c =>
      if isUpper c then Text.lowerChar c else if isLower c then Text.upperChar c else [c]))
  | "isalpha" => test (areAll isLetter s)
  | "isdecimal" => test (areAll isDecimal s)
  | "isdigit" => test (areAll isDecimal s)
  | "isnumeric" => test (areAll isDecimal s)
  | "isalnum" => test (areAll (fun c => isLetter c || isDecimal c) s)
  | "isspace" => test (areAll Text.isBlank s)
  | "isascii" => test (cs.all fun c => c.toNat < 0x80)
  | "isprintable" => test (cs.all Text.isPrintable)
  | "isidentifier" =>
    test (match cs with
      | c :: rest => Text.isIdentifierStart c && rest.all Text.isIdentifierChar
      | [] => false)
  | "islower" => test (cs.any isLower && ! cs.any isUpper)
  | "isupper" => test (cs.any isUpper && ! cs.any isLower)
  | "istitle" => test (isTitle false false cs)
  | "strip" => some do
    let p ← ends (← a.optional)
    text ((cs.dropWhile p).reverse.dropWhile p).reverse
  | "lstrip" => some do
    let p ← ends (← a.optional)
    text (cs.dropWhile p)
  | "rstrip" => some do
    let p ← ends (← a.optional)
    text (cs.reverse.dropWhile p).reverse
  | "split" => some do
    let given ← a.forNames ["sep", "maxsplit"]
    let n := cuts (← ((given "maxsplit").getD (.int (-1))).indexOf h) cs.length
    match given "sep" with
    | none => listOf (wordsFrom Text.isBlank (cs.length + 1) n cs)
    | some .null => listOf (wordsFrom Text.isBlank (cs.length + 1) n cs)
    | some o =>
      let sep := (← expectString o).toList
      if sep.isEmpty then fail "ValueError" "empty separator"
      else listOf (splitFrom sep n 0 [] cs)
  | "rsplit" => some do
    let given ← a.forNames ["sep", "maxsplit"]
    let n := cuts (← ((given "maxsplit").getD (.int (-1))).indexOf h) cs.length
    let back (parts : List (List Char)) : Run Object :=
      listOf (parts.reverse.map List.reverse)
    match given "sep" with
    | none => back (wordsFrom Text.isBlank (cs.length + 1) n cs.reverse)
    | some .null => back (wordsFrom Text.isBlank (cs.length + 1) n cs.reverse)
    | some o =>
      let sep := (← expectString o).toList
      if sep.isEmpty then fail "ValueError" "empty separator"
      else back (splitFrom sep.reverse n 0 [] cs.reverse)
  | "splitlines" => some do
    let given ← a.forNames ["keepends"]
    if ← ((given "keepends").getD (.bool false)).truth h then listOf (linesWithEnds cs)
    else listOf (Text.lines cs)
  | "join" => some do
    let parts ← expectStrings h (← a.one)
    return .text (s.intercalate parts)
  | "replace" => some do
    let all ← a.take 2 3
    match all with
    | old :: new :: rest =>
      let old := (← expectString old).toList
      let new := (← expectString new).toList
      let n ← match rest with
        | o :: _ => o.indexOf h
        | [] => pure (-1)
      text (replaceFrom old new (cuts n cs.length) 0 cs)
    | _ => return .null
  | "find" => some (search false false)
  | "rfind" => some (search true false)
  | "index" => some (search false true)
  | "rindex" => some (search true true)
  | "count" => some do
    match ← a.take 1 3 with
    | o :: bounds =>
      let pattern := (← expectString o).toList
      match ← between h cs bounds with
      | some (_, part) => return .int (countFrom pattern 0 part)
      | none => return .int 0
    | [] => return .null
  | "startswith" => some do
    match ← a.take 1 3 with
    | o :: bounds =>
      let parts ← alternatives o
      match ← between h cs bounds with
      | some (_, part) => return .bool (parts.any fun p => p.toList.isPrefixOf part)
      | none => return .bool false
    | [] => return .null
  | "endswith" => some do
    match ← a.take 1 3 with
    | o :: bounds =>
      let parts ← alternatives o
      match ← between h cs bounds with
      | some (_, part) => return .bool (parts.any fun p => p.toList.isSuffixOf part)
      | none => return .bool false
    | [] => return .null
  | "removeprefix" => some do
    let p := (← expectString (← a.one)).toList
    text (if p.isPrefixOf cs then cs.drop p.length else cs)
  | "removesuffix" => some do
    let p := (← expectString (← a.one)).toList
    text (if p.isSuffixOf cs then cs.take (cs.length - p.length) else cs)
  | "partition" => some do
    let sep := (← expectString (← a.one)).toList
    if sep.isEmpty then fail "ValueError" "empty separator"
    else
      match partition? sep cs with
      | some (before, after) => return three before sep after
      | none => return three cs [] []
  | "rpartition" => some do
    let sep := (← expectString (← a.one)).toList
    if sep.isEmpty then fail "ValueError" "empty separator"
    else
      match lastPartition? sep cs with
      | some (before, after) => return three before sep after
      | none => return three [] [] cs
  | "ljust" => some do
    let (width, fill) ← field h a
    return padded 0 (width - cs.length) fill s
  | "rjust" => some do
    let (width, fill) ← field h a
    return padded (width - cs.length) 0 fill s
  | "center" => some do
    let (width, fill) ← field h a
    let missing := width - cs.length
    let left := missing / 2 + (missing % 2) * (width % 2)
    return padded left (missing - left) fill s
  | "zfill" => some do
    let width ← (← a.one).indexOf h
    let missing := width.toNat - cs.length
    match cs with
    | '+' :: rest => return padded 0 0 '0' (.ofList ('+' :: (List.replicate missing '0' ++ rest)))
    | '-' :: rest => return padded 0 0 '0' (.ofList ('-' :: (List.replicate missing '0' ++ rest)))
    | _ => return padded missing 0 '0' s
  | "expandtabs" => some do
    let given ← a.forNames ["tabsize"]
    let size ← ((given "tabsize").getD (.int 8)).indexOf h
    text (expandFrom size.toNat 0 cs)
  | "format" => some (Template.fillOut h s a)
  | "translate" => some do
    let table ← a.one
    text (← cs.mapM (replacement h table)).flatten
  | "format_map" => some do
    let mapping ← a.one
    match entriesOf (← get) mapping with
    | some entries =>
      Template.fillOut h s ⟨[], entries.filterMap fun (k, v) =>
        match k with
        | .text key => some (key, v)
        | _ => none⟩
    | none => if cs.contains '\x7b' then return .unknown else Template.fillOut h s ⟨[], []⟩
  | "encode" => some do
    let given ← a.forNames ["encoding", "errors"]
    encoded s (← expectString ((given "encoding").getD (.text "utf-8")))
      (← expectString ((given "errors").getD (.text "strict")))
  | _ => none
where
  /-- The entries of a mapping. -/
  entriesOf (w : World) : Object → Option (List (Object × Object))
    | .entity id =>
      match w.kind? id with
      | some (.mapping entries) => some entries
      | _ => none
    | _ => none
  /-- The place of a pattern, or what stands for none. -/
  search (isLast mustBe : Bool) : Run Object := do
    match ← a.take 1 3 with
    | o :: bounds =>
      let pattern := (← expectString o).toList
      match ← findBetween h isLast pattern s.toList bounds with
      | some i => return .int i
      | none => if mustBe then fail "ValueError" "substring not found" else return .int (-1)
    | [] => return .null

/-- A byte as a character; one that is no ASCII character has neither case nor kind. -/
def ofByte (b : UInt8) : Char := .ofNat (if b < 0x80 then b.toNat else 0xF700 + b.toNat)

def toByte (c : Char) : UInt8 := .ofNat (c.toNat % 256)

/-- Bytes as a text of as many characters. -/
def textOfBytes (bytes : List UInt8) : String := .ofList (bytes.map ofByte)

/-- A result in which texts stand for bytes. -/
def bytesOfText : Object → Object
  | .text s => .bytes (s.toList.map toByte)
  | .tuple items => .tuple (items.map one)
  | o => o
where
  /-- A text as bytes. -/
  one : Object → Object
    | .text s => .bytes (s.toList.map toByte)
    | o => o

/-- An argument with bytes as texts, where no text can be given. -/
def textArgument (o : Object) : Object :=
  match o with
  | .bytes bytes => .text (textOfBytes bytes)
  | .text _ => .ellipsis
  | .tuple items => .tuple (items.map fun item =>
      match item with
      | .bytes bytes => .text (textOfBytes bytes)
      | .text _ => .ellipsis
      | item => item)
  | o => o

/-- Methods of bytes that can be given a number for a byte. -/
def searching : List String := ["find", "rfind", "index", "rindex", "count"]

/-- Methods of bytes that do what those of texts do. -/
def shared : List String := searching ++ [
  "upper", "lower", "strip", "lstrip", "rstrip", "replace", "startswith", "endswith",
  "removeprefix", "removesuffix", "title", "capitalize", "swapcase", "isdigit", "isalpha",
  "isalnum", "isspace", "islower", "isupper", "istitle", "isascii", "zfill", "ljust", "rjust",
  "center", "partition", "rpartition", "expandtabs"]

/-- Methods of bytes that give lists of parts. -/
def dividing : List String := ["split", "rsplit", "splitlines"]

/-- The lines of bytes, without their ends or with them. -/
def byteLines (keeps : Bool) (part : List UInt8) : List UInt8 → List (List UInt8)
  | [] => if part.isEmpty then [] else [part.reverse]
  | 13 :: 10 :: bs => (part.reverse ++ if keeps then [13, 10] else []) :: byteLines keeps [] bs
  | b :: bs =>
    if b = 10 ∨ b = 13 then
      (part.reverse ++ if keeps then [b] else []) :: byteLines keeps [] bs
    else byteLines keeps (b :: part) bs

/-- The arguments of a method of bytes, for the one of texts. -/
def textArguments (name : String) (a : Arguments) : Run Arguments := do
  let placed ← match a.placed with
    | o :: rest =>
      match searching.contains name, o.int? with
      | true, some n =>
        if n < 0 ∨ 255 < n then fail "ValueError" "byte must be in range(0, 256)"
        else pure (.text (.ofList [ofByte (.ofNat n.toNat)]) :: rest)
      | _, _ => pure (textArgument o :: rest.map textArgument)
    | [] => pure []
  return ⟨placed, a.named.map fun (key, o) => (key, textArgument o)⟩

/-- The result of a method of bytes; none, if the method is not followed. -/
def callBytes? (h : Hooks) (name : String) (content : List UInt8) (a : Arguments) :
    Option (Run Object) :=
  let ofTexts (a : Arguments) : Run Object :=
    (call? h name (textOfBytes content) a).getD (return .unknown)
  match name with
  | "decode" => some do
    let given ← a.forNames ["encoding", "errors"]
    decoded content (← expectString ((given "encoding").getD (.text "utf-8")))
      (← expectString ((given "errors").getD (.text "strict")))
  | "hex" => some do
    return .text (.ofList (content.flatMap fun b => Text.hexDigits b.toNat 2))
  | "join" => some do
    let parts := (← (← a.one).items h).map textArgument
    let list ← newList parts
    return bytesOfText (← ofTexts (.of [list]))
  | "splitlines" => some do
    let given ← a.forNames ["keepends"]
    let keeps ← ((given "keepends").getD (.bool false)).truth h
    newList ((byteLines keeps [] content).map .bytes)
  | _ =>
    if dividing.contains name then some do
      newList ((← (← ofTexts (← textArguments name a)).items h).map bytesOfText)
    else if shared.contains name then some do
      return bytesOfText (← ofTexts (← textArguments name a))
    else none

end RouteDocs.Module.TextMethod
