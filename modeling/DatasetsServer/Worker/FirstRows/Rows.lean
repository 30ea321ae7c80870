import DatasetsServer.Worker.FirstRows.Retry
import Mathlib.Data.List.Forall2

namespace DatasetsServer.Worker.FirstRows

abbrev Row := List (String × Json)

abbrev Features := List (String × Json)

inductive DatasetClass where
  | dataset
  | iterableDataset
  | other
  deriving DecidableEq

/-- What `load_dataset` returns: iterating it yields `rows`, then raises `stop` or ends on `none`. -/
structure LoadedDataset where
  datasetClass : DatasetClass
  features : Option Features
  rows : List Row
  stop : Option PyException

def islice (ds : LoadedDataset) (count : Nat) : Except PyException (List Row) :=
  if count ≤ ds.rows.length then .ok (ds.rows.take count)
  else
    match ds.stop with
    | none => .ok ds.rows
    | some err => .error err

def checkDatasetClass (streaming : Bool) (ds : LoadedDataset) : Except PyException Unit :=
  if streaming then
    raiseIf (ds.datasetClass ≠ .iterableDataset)
      (.typeError (some "load_dataset should return an IterableDataset in streaming mode"))
  else
    raiseIf (ds.datasetClass ≠ .dataset)
      (.typeError (some "load_dataset should return a Dataset in normal mode"))

def getRowsBody (loaded : Except PyException LoadedDataset) (streaming : Bool)
    (rowsMaxNumber : Nat) : Except PyException (List Row) := do
  let ds ← loaded
  checkDatasetClass streaming ds
  let rowsPlusOne ← islice ds (rowsMaxNumber + 1)
  pure (rowsPlusOne.take rowsMaxNumber)

/-- `get_rows` under `retry`; `loadDataset k` is what `load_dataset` does at the `k`-th attempt. -/
def getRows (loadDataset : Nat → Except PyException LoadedDataset) (streaming : Bool)
    (rowsMaxNumber : Nat) : Run (List Row) :=
  retry fun attempt => getRowsBody (loadDataset attempt) streaming rowsMaxNumber

def transformRows (getCellValue : Nat → Json → String → Json → Except PyException Json)
    (rows : List Row) (features : Option Features) : Except PyException (List Row) :=
  rows.enum.mapM fun (rowIdx, row) =>
    match features with
    | none => .error (.other "AttributeError")
    | some features =>
      features.mapM fun (featureName, fieldType) => do
        let cell ← getCellValue rowIdx ((row.lookup featureName).getD .null) featureName fieldType
        pure (featureName, cell)

theorem islice_ok {ds : LoadedDataset} {count : Nat} {rows : List Row}
    (sliced : islice ds count = .ok rows) : rows = ds.rows.take count := by
  unfold islice at sliced
  split at sliced
  · exact (Except.ok.inj sliced).symm
  · rename_i longer
    cases stop : ds.stop <;> simp only [stop, Except.ok.injEq, reduceCtorEq] at sliced
    rw [← sliced, List.take_of_length_le (by omega)]

theorem getRowsBody_ok {loaded : Except PyException LoadedDataset} {streaming : Bool}
    {rowsMaxNumber : Nat} {rows : List Row}
    (done : getRowsBody loaded streaming rowsMaxNumber = .ok rows) :
    ∃ ds, loaded = .ok ds ∧ rows = ds.rows.take rowsMaxNumber := by
  unfold getRowsBody at done
  cases loaded with
  | error e => cases done
  | ok ds =>
    refine ⟨ds, rfl, ?_⟩
    cases checking : checkDatasetClass streaming ds <;>
      cases sliced : islice ds (rowsMaxNumber + 1) <;>
      simp only [checking, sliced, bind, Except.bind, pure, Except.pure, reduceCtorEq,
        Except.ok.injEq] at done
    rw [← done, islice_ok sliced, List.take_take, min_eq_left (Nat.le_succ _)]

theorem getRows_ok {loadDataset : Nat → Except PyException LoadedDataset} {streaming : Bool}
    {rowsMaxNumber : Nat} {rows : List Row}
    (done : (getRows loadDataset streaming rowsMaxNumber).result = .ok rows) :
    ∃ attempt < MAX_ATTEMPTS, ∃ ds, loadDataset attempt = .ok ds ∧
      rows = ds.rows.take rowsMaxNumber := by
  rcases retry_result _ _ done with ⟨attempt, bound, body⟩ | ⟨lastErr, impossible⟩
  · obtain ⟨ds, loaded, taken⟩ := getRowsBody_ok body
    exact ⟨attempt, bound, ds, loaded, taken⟩
  · cases impossible

/-- A row as `transform_rows` returns it: per feature, what `get_cell_value` gave for the row's cell. -/
def TransformedRow (getCellValue : Nat → Json → String → Json → Except PyException Json)
    (features : Option Features) (rowIdx : Nat) (row transformedRow : Row) : Prop :=
  ∃ columns, features = some columns ∧ List.Forall₂ (fun (column cell : String × Json) =>
    cell.1 = column.1 ∧
      getCellValue rowIdx ((row.lookup column.1).getD .null) column.1 column.2 = .ok cell.2)
    columns transformedRow

theorem transformRows_ok {getCellValue : Nat → Json → String → Json → Except PyException Json}
    {rows transformed : List Row} {features : Option Features}
    (done : transformRows getCellValue rows features = .ok transformed) :
    List.Forall₂ (fun (indexed : Nat × Row) transformedRow =>
      TransformedRow getCellValue features indexed.1 indexed.2 transformedRow) rows.enum transformed := by
  refine (mapM_ok done).imp fun {indexed transformedRow} transforming => ?_
  cases features with
  | none => cases transforming
  | some columns =>
    refine ⟨columns, rfl, (mapM_ok transforming).imp fun {column cell} computing => ?_⟩
    obtain ⟨value, got, computed⟩ := bind_ok computing
    cases computed
    exact ⟨rfl, got⟩

end DatasetsServer.Worker.FirstRows