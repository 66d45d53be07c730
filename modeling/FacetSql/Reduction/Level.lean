import FacetSql.Reduction.Reading
import FacetSql.Query.Plan
/-!
# Level — rows from the rows of a subquery

Without keys all rows of the subquery become one row.  With keys the rows fall into groups, in the order in which their
keys first appear, and each group becomes one row.  The keys are looked up before any row is read.
-/
namespace FacetSql.Reduction

/-- **One row from all rows under a cursor.** -/
def reduce (cursor : Cursor) (outer : Heading) : Except Failure Row := do
  return (← readColumns outer.columns cursor).1

/-- **Rows with one key.** -/
structure Group where
  key : List Cell
  rows : List Row

/-- Two keys are the same, cell by cell. -/
def sameKey : List Cell → List Cell → Bool
  | [], [] => true
  | a :: as, b :: bs => a.same b && sameKey as bs
  | _, _ => false

/-- Puts a row into the first group of its key, or into a new group behind all others. -/
def addToGroups (key : List Cell) (row : Row) : List Group → List Group
  | [] => [⟨key, [row]⟩]
  | g :: gs => if sameKey g.key key then ⟨g.key, g.rows ++ [row]⟩ :: gs else g :: addToGroups key row gs

/-- The key of a row. -/
def keyOf (places : List Nat) (row : Row) : List Cell := places.map row.cell

/-- **The groups of rows**, in the order of their first rows. -/
def groupsOf (places : List Nat) (rows : List Row) : List Group :=
  rows.foldl (fun groups row => addToGroups (keyOf places row) row groups) []

/-- Reads the groups of all rows. -/
def readGroups (places : List Nat) (cursor : Cursor) : List Group × Cursor :=
  cursor.rewind.scan (fun groups row => .yield (addToGroups (keyOf places row) row groups)) []

/-- **One row from each group of rows under a cursor.** -/
def reduceGrouped (cursor : Cursor) (outer : Heading) (keys : List Column) : Except Failure (List Row) := do
  let places ← keys.mapM (readPlace cursor.heading)
  let (groups, behind) := readGroups places cursor
  groups.mapM (fun g => reduce (.ofTable ⟨behind.heading, g.rows⟩) outer)

/-- **The rows of a level** from the table of its subquery. -/
def levelRows (inner : Table) (level : Level) : Except Failure (List Row) :=
  match level.groupBy with
  | [] => do return [← reduce (.ofTable inner) level.heading]
  | keys => reduceGrouped (.ofTable inner) level.heading keys

/-- **The table of a level.** -/
def apply (inner : Table) (level : Level) : Except Failure Table := do
  Table.ofRows level.heading (← levelRows inner level)

end FacetSql.Reduction
