import RouteDocs.Field
import RouteDocs.Text.Blank
import RouteDocs.Text.Lines
import RouteDocs.Text.Cut

namespace RouteDocs

inductive Marker where
  | description
  | parameter
  | error
  | response
  deriving DecidableEq, Repr

namespace Marker

/-- The markers in the order in which a line is searched for them: the first that it contains is
its marker, wherever in the line it stands. -/
def all : List Marker := [.description, .parameter, .error, .response]

/-- The word that marks an annotation. -/
def word : Marker → String
  | .description => "@apiDesc"
  | .parameter => "@apiParam"
  | .error => "@apiErr"
  | .response => "@apiResp"

/-- The annotation of a line: its marker and the trimmed text after the marker's first
occurrence. -/
def ofLine? (line : String) : Option (Marker × String) :=
  all.findSome? fun marker =>
    (Text.cut? marker.word line).map fun (_, after) => (marker, Text.strip after)

end Marker

/-- The annotations of one action. -/
structure Block where
  description : Option String
  params : List String
  responses : List String
  deriving DecidableEq, Repr, Inhabited

namespace Block

def empty : Block := ⟨none, [], []⟩

def isEmpty (b : Block) : Bool :=
  b.description.isNone && b.params.isEmpty && b.responses.isEmpty

/-- The block with one more annotation. A description replaces the one before. -/
def add (b : Block) (marker : Marker) (text : String) : Block :=
  match marker with
  | .description => { b with description := some text }
  | .parameter => { b with params := b.params ++ [text] }
  | .error => { b with responses := b.responses ++ [text] }
  | .response => { b with responses := b.responses ++ [text] }

/-- The block with the annotation of a line, if it has one with a text. -/
def addLine (b : Block) (line : String) : Block :=
  match Marker.ofLine? line with
  | some (marker, text) => if text.isEmpty then b else b.add marker text
  | none => b

def ofText (doc : String) : Block := (Text.splitLines doc).foldl addLine empty

def ofText? : Option String → Block
  | some doc => ofText doc
  | none => empty

def line (marker : Marker) (text : String) : String := marker.word ++ " " ++ text

/-- The block with these fields, or all their issues. -/
def ofFields (fields : Fields) : Checked Block :=
  let checked :=
    (Field.optionalText false "desc" (fields.lookup "desc")).and <|
    (Field.optionalTexts "params" (fields.lookup "params")).and <|
    Field.optionalTexts "responses" (fields.lookup "responses")
  checked.map fun (description, params, responses) => { description, params, responses }

end Block
end RouteDocs
