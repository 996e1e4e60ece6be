/-!
# Queries

A query says how to order the products, how many to keep, and which month and year to keep
them from.  The type also holds combinations that no command means, and `validate` tells them
apart.
-/

namespace SpokenSales

inductive Kind
  | top
  | bottom
  | all
  | unrecognized
deriving DecidableEq, Repr

namespace Kind

def label : Kind → String
  | top => "top"
  | bottom => "bottom"
  | all => "all"
  | unrecognized => "none"

def isRanked : Kind → Bool
  | top | bottom => true
  | all | unrecognized => false

def ofLabel? (label : List Char) : Option Kind :=
  [top, bottom, all, unrecognized].find? fun kind => kind.label.toList = label

end Kind

/-- A query: its kind, a limit, and filters by month and year. -/
structure Query where
  kind : Kind
  count : Option UInt32
  month : Option UInt32
  year : Option Int32
deriving DecidableEq, Repr

inductive QueryError
  | missingCount (kind : Kind)
  | unexpectedCount (kind : Kind)
  | filterOnUnrecognized
  | monthOutOfRange (month : UInt32)
deriving DecidableEq, Repr

def QueryError.message : QueryError → String
  | missingCount kind => s!"`{kind.label}` query requires a positive count"
  | unexpectedCount kind => s!"`{kind.label}` query must not carry a count"
  | filterOnUnrecognized => "unrecognized query must not carry month/year filters"
  | monthOutOfRange month => s!"month {month.toNat} is outside 1-12"

namespace Query

def top (count : UInt32) (month : Option UInt32) (year : Option Int32) : Query :=
  ⟨.top, some count, month, year⟩

def bottom (count : UInt32) (month : Option UInt32) (year : Option Int32) : Query :=
  ⟨.bottom, some count, month, year⟩

def all (month : Option UInt32) (year : Option Int32) : Query :=
  ⟨.all, none, month, year⟩

def unrecognized : Query :=
  ⟨.unrecognized, none, none, none⟩

def isRecognized (query : Query) : Bool :=
  query.kind != .unrecognized

def checkCount (query : Query) : Except QueryError Unit :=
  match query.kind.isRanked, query.count with
  | true, none => .error (.missingCount query.kind)
  | true, some count => if count = 0 then .error (.missingCount query.kind) else .ok ()
  | false, some _ => .error (.unexpectedCount query.kind)
  | false, none => .ok ()

def checkFilters (query : Query) : Except QueryError Unit :=
  if query.kind = .unrecognized && (query.month.isSome || query.year.isSome) then
    .error .filterOnUnrecognized
  else
    match query.month with
    | none => .ok ()
    | some month => if 1 ≤ month && month ≤ 12 then .ok () else .error (.monthOutOfRange month)

/-- The first fault of a query, the count being looked at before the filters. -/
def validate (query : Query) : Except QueryError Unit :=
  match checkCount query with
  | .error fault => .error fault
  | .ok () => checkFilters query

end Query
end SpokenSales
