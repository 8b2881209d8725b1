import StreamStore.ArrivalMap
import StreamStore.Error
import StreamStore.Text.Blank
import StreamStore.Text.Pieces

/-!
# Projections: which columns a scan fetches

A request names its output columns, and columns that are fetched only so that a
filter can look at them, in two comma-separated lists.  `Projection.resolve`
turns the lists into the qualifiers that are fetched, and the projection maps
the fetched qualifiers back to column names.

Blanks are taken out of names, also from their middle, empty names are dropped,
and a repeated name counts where it first stands.  A column in both lists is an
output column.  So the fetched columns are distinct and at least one of them is
an output column; both facts are fields of the type.
-/

namespace StreamStore

/-- The columns of a comma-separated list, in order, without blanks and without
empty names. -/
def columnsOf (list : String) : List String :=
  ((Text.pieces ',' list.toList).map fun p =>
    String.ofList (p.filter fun c => !Text.isBlank c)).filter fun c => !c.isEmpty

/-- What a scan fetches and how the fetched cells map to columns. -/
structure Projection where
  /-- The column family of every qualifier. -/
  family : String
  /-- The columns that results show, in request order. -/
  output : List String
  /-- The columns that are fetched for filters only. -/
  hidden : List String
  /-- Some column is shown. -/
  output_ne_nil : output ≠ []
  /-- No column is fetched twice. -/
  distinct : (output ++ hidden).Nodup
  deriving DecidableEq

namespace Projection

/-- Resolves the list of output columns and the list of query-only columns. -/
def resolve (columns queryOnly family : String) : Except RequestFault Projection :=
  let output := firstOccurrences (columnsOf columns)
  let hidden := (firstOccurrences (columnsOf queryOnly)).filter fun c => !output.contains c
  if h : output = [] then .error .noOutputColumn
  else
    .ok {
      family
      output
      hidden
      output_ne_nil := h
      distinct := by
        refine List.nodup_append.2 ⟨nodup_firstOccurrences _,
          (nodup_firstOccurrences _).filter _, fun a ha b hb hab => ?_⟩
        simp only [hidden, List.mem_filter, Bool.not_eq_true'] at hb
        rw [← hab, List.contains_iff_mem.2 ha] at hb
        exact absurd hb.2 (by decide)
    }

/-- The columns that are fetched, output columns first. -/
def fetched (p : Projection) : List String :=
  p.output ++ p.hidden

/-- The qualifier of a column. -/
def qualify (p : Projection) (column : String) : String :=
  s!"{p.family}:{column}"

/-- The qualifiers that are fetched, in order. -/
def qualifiers (p : Projection) : List String :=
  p.fetched.map p.qualify

/-- The place of a qualifier among those that are fetched. -/
def position? (p : Projection) (qualifier : String) : Option Nat :=
  p.qualifiers.findIdx? (· == qualifier)

/-- Whether a qualifier is fetched for filters only. -/
def isHidden (p : Projection) (qualifier : String) : Bool :=
  (p.hidden.map p.qualify).contains qualifier

/-- The column that a fetched qualifier stands for: what follows its first colon. -/
def column? (p : Projection) (qualifier : String) : Option String :=
  if (p.position? qualifier).isSome then
    (Text.cutOnce ':' qualifier.toList).map fun (_, column) => String.ofList column
  else none

/-- The output columns with their places. -/
def index (p : Projection) : ArrivalMap Nat :=
  ArrivalMap.ofList p.output.zipIdx

end Projection

end StreamStore
