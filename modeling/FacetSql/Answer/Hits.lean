import FacetSql.Answer.Tree
import FacetSql.Heading.Basic
/-!
# Hits — the documents of an answer

A field may be written with points in its name, or nested in objects along the path.  The name as a whole goes first.
-/
namespace FacetSql.Answer

/-- The parts of a path between its points. -/
def pathParts : List Char → List (List Char)
  | [] => [[]]
  | c :: cs =>
    match pathParts cs with
    | [] => [[c]]
    | part :: parts => if c = '.' then [] :: part :: parts else (c :: part) :: parts

/-- The value at the end of a path through objects. -/
def along : List String → Json → Option Json
  | [], j => some j
  | part :: parts, j => (j.member? part).bind (along parts)

/-- **The value of a field in a document.** -/
def fieldValue (document : Json) (field : String) : Option Json :=
  (document.member? field) <|> along ((pathParts field.toList).map String.ofList) document

/-- The cell of a column in a document. -/
def hitCell (document : Json) (c : Column) : Cell :=
  match c.field.bind (fieldValue document) with
  | some j => .ofJson j
  | none => .null

/-- The row of a hit. -/
def hitRow (h : Heading) (hit : Json) : Row :=
  h.columns.map (hitCell ((hit.member? "_source").getD .null))

/-- The hits of an answer. -/
def hits (response : Json) : List Json :=
  (((response.member? "hits").bind (Json.member? "hits")).bind Json.items?).getD []

/-- **The rows of the hits**, one cell for each column. -/
def hitRows (h : Heading) (response : Json) : Except Failure (List Row) := do
  checkError response
  return (hits response).map (hitRow h)

end FacetSql.Answer
