import TableFerry.Schema.Table
/-!
How rows are cut into pages and tables are dealt to workers.
-/
namespace TableFerry

open Number (Double)

/-- The number of pages for a number of rows: their quotient as a double, rounded up. There is none for a
quotient beyond every double. -/
def countPages (rows : Int) (pageSize : Nat) : Except Fault Nat :=
  if rows ≤ 0 then .ok 0
  else
    match (Double.ofQuotient rows pageSize).ceiling? with
    | some pages => .ok pages.toNat
    | none => .error (.single .tooLarge "integer division result too large for a float")

/-- The number of pages that are copied; of tables beyond every double none are. -/
def pageCount (rows : Int) (pageSize : Nat) : Nat := (countPages rows pageSize).toOption.getD 0

/-- Every `buckets`-th table from number `bucket` on. -/
def dealt (buckets bucket : Nat) (tables : List SizedTable) : List SizedTable :=
  (tables.zipIdx.filter fun entry => entry.2 % buckets == bucket).map (·.1)

def bucketCount (tables : Nat) (workers : Int) : Nat := (max 1 (min workers tables)).toNat

/-- Deals the tables to the workers in turn, the largest first. -/
def partition (tables : List SizedTable) (workers : Int) : List (List SizedTable) :=
  if tables.isEmpty then []
  else
    let sorted := tables.mergeSort fun a b => b.count ≤ a.count
    let buckets := bucketCount tables.length workers
    (List.range buckets).map fun bucket => dealt buckets bucket sorted

end TableFerry
