import DatasetsServer.Worker.FirstRows.Upstream
import DatasetsServer.Worker.FirstRows.Rows

namespace DatasetsServer.Worker.FirstRows

open Cache

structure SplitFirstRowsResponse where
  dataset : String
  config : String
  split : String
  features : Json
  rows : Json

structure DatasetInfo where
  features : Option Features
  sizeInBytes : Option Nat

/-- The helpers of `worker.utils` that `compute_first_rows_response` calls outside any `try`. -/
structure WorkerUtils where
  toFeaturesList : Option Features → Except PyException Json
  getJsonSize : SplitFirstRowsResponse → Except PyException Nat
  createTruncatedRowItems : List Row → Nat → Nat → Nat → Except PyException Json

/-- The cache and the datasets library; `loadDataset streaming k` is the `k`-th attempt of `get_rows`. -/
structure FirstRowsWorld where
  cache : Collection
  getDatasetConfigInfo : Except PyException DatasetInfo
  loadIterableDataset : Except PyException LoadedDataset
  resolveFeatures : Except PyException LoadedDataset
  loadDataset : Bool → Nat → Except PyException LoadedDataset
  getCellValue : Nat → Json → String → Json → Except PyException Json

def MAX_SIZE_FALLBACK : Nat := 100000000

def truthy : Option Features → Bool
  | some features => !features.isEmpty
  | none => false

def columnCount (features : Option Features) : Nat :=
  (features.map List.length).getD 0

section

variable (world : FirstRowsWorld) (config split : String)

def resolveStreamingFeatures : Except PyException (Option Features) := do
  let iterableDataset ← world.loadIterableDataset
  raiseIf (iterableDataset.datasetClass ≠ .iterableDataset)
    (.typeError (some "load_dataset should return an IterableDataset."))
  let iterableDataset ← world.resolveFeatures
  raiseIf (iterableDataset.datasetClass ≠ .iterableDataset)
    (.typeError (some "load_dataset should return an IterableDataset."))
  pure iterableDataset.features

def getFeatures (info : DatasetInfo) : Except PyException (Option Features) :=
  if !truthy info.features then
    (resolveStreamingFeatures world).mapError fun err =>
      featuresError ("Cannot extract the features (columns) for the split '" ++ split ++
        "' of the config '" ++ config ++ "' of the dataset.") (some err)
  else .ok info.features

def getFirstRows (info : DatasetInfo) (rowsMaxNumber : Nat) : Except PyException (List Row) :=
  match (getRows (world.loadDataset true) true rowsMaxNumber).result with
  | .ok rows => .ok rows
  | .error err =>
    let streamingError := streamingRowsError
      "Cannot load the dataset split (in streaming mode) to extract the first rows." (some err)
    match info.sizeInBytes with
    | none => .error streamingError
    | some sizeInBytes =>
      if sizeInBytes > MAX_SIZE_FALLBACK then .error streamingError
      else
        match (getRows (world.loadDataset false) false rowsMaxNumber).result with
        | .ok rows => .ok rows
        | .error err => .error (normalRowsError
            "Cannot load the dataset split (in normal download mode) to extract the first rows."
            (some err))

end

def computeFirstRowsResponse (utils : WorkerUtils) (world : FirstRowsWorld)
    (dataset config split : String)
    (minCellBytes rowsMaxBytes rowsMaxNumber rowsMinNumber columnsMaxNumber : Nat) :
    Except PyException SplitFirstRowsResponse := do
  checkUpstream (entriesOf world.cache dataset config) config split
  let info ← world.getDatasetConfigInfo.mapError fun err =>
    infoError ("The info cannot be fetched for the config '" ++ config ++ "' of the dataset.")
      (some err)
  let features ← getFeatures world config split info
  raiseIf (truthy features ∧ columnCount features > columnsMaxNumber)
    (tooManyColumnsError ("The number of columns (" ++ toString (columnCount features) ++
      ") exceeds the maximum supported number of columns (" ++ toString columnsMaxNumber ++
      "). This is a current limitation of the datasets viewer. You can reduce the number" ++
      " of columns if you want the viewer to work.") none)
  let featuresList ← utils.toFeaturesList features
  let responseFeaturesOnly : SplitFirstRowsResponse := ⟨dataset, config, split, featuresList, .arr []⟩
  let surroundingJsonSize ← utils.getJsonSize responseFeaturesOnly
  raiseIf (surroundingJsonSize > rowsMaxBytes)
    (tooBigContentError ("The size of the content of the first rows (" ++
      toString surroundingJsonSize ++ " B) exceeds the maximum supported size (" ++
      toString rowsMaxBytes ++ " B) even after truncation. Please report the issue.") none)
  let rows ← getFirstRows world info rowsMaxNumber
  let transformedRows ← (transformRows world.getCellValue rows features).mapError fun err =>
    rowsPostProcessingError "Server error while post-processing the split rows. Please report the issue."
      (some err)
  let rowItems ← utils.createTruncatedRowItems transformedRows minCellBytes
    (rowsMaxBytes - surroundingJsonSize) rowsMinNumber
  pure { responseFeaturesOnly with rows := rowItems }

/-- An exception of a `worker.utils` helper, which leaves `compute_first_rows_response` unwrapped. -/
def RaisedByUtils (utils : WorkerUtils) (e : PyException) : Prop :=
  (∃ features, utils.toFeaturesList features = .error e) ∨
  (∃ response, utils.getJsonSize response = .error e) ∨
  ∃ rows minCellBytes rowsMaxBytes rowsMinNumber,
    utils.createTruncatedRowItems rows minCellBytes rowsMaxBytes rowsMinNumber = .error e

section

variable {utils : WorkerUtils} {world : FirstRowsWorld} {dataset config split : String}
  {minCellBytes rowsMaxBytes rowsMaxNumber rowsMinNumber columnsMaxNumber : Nat}

theorem getFeatures_error {info : DatasetInfo} {e : PyException}
    (failed : getFeatures world config split info = .error e) : e.name = "FeaturesError" := by
  unfold getFeatures at failed
  split at failed
  · obtain ⟨cause, rfl⟩ := mapError_error failed
    rfl
  · cases failed

theorem getFeatures_ok {info : DatasetInfo} {features : Option Features}
    (read : getFeatures world config split info = .ok features) :
    (truthy info.features → features = info.features) ∧
      (truthy info.features = false →
        ∃ resolved, world.resolveFeatures = .ok resolved ∧ features = resolved.features) := by
  unfold getFeatures at read
  split at read
  · rename_i untruthy
    obtain ⟨_, -, resolving⟩ := bind_ok (mapError_ok read)
    obtain ⟨⟨⟩, -, resolving⟩ := bind_ok resolving
    obtain ⟨resolved, found, resolving⟩ := bind_ok resolving
    obtain ⟨⟨⟩, -, resolving⟩ := bind_ok resolving
    cases resolving
    exact ⟨fun given => absurd given (by simpa using untruthy), fun _ => ⟨resolved, found, rfl⟩⟩
  · rename_i given
    cases read
    exact ⟨fun _ => rfl, fun untruthy => absurd untruthy (by simpa using given)⟩

theorem getFirstRows_ok {info : DatasetInfo} {rowsMaxNumber : Nat} {rows : List Row}
    (done : getFirstRows world info rowsMaxNumber = .ok rows) :
    ∃ streaming, (getRows (world.loadDataset streaming) streaming rowsMaxNumber).result = .ok rows ∧
      (streaming = false →
        (∃ err, (getRows (world.loadDataset true) true rowsMaxNumber).result = .error err) ∧
        ∃ sizeInBytes, info.sizeInBytes = some sizeInBytes ∧ sizeInBytes ≤ MAX_SIZE_FALLBACK) := by
  unfold getFirstRows at done
  cases streamed : (getRows (world.loadDataset true) true rowsMaxNumber).result with
  | ok streamedRows =>
    simp only [streamed, Except.ok.injEq] at done
    exact ⟨true, done ▸ streamed, nofun⟩
  | error err =>
    simp only [streamed] at done
    cases size : info.sizeInBytes with
    | none => simp only [size, reduceCtorEq] at done
    | some sizeInBytes =>
      simp only [size] at done
      split at done
      · cases done
      · cases normal : (getRows (world.loadDataset false) false rowsMaxNumber).result <;>
          simp only [normal, reduceCtorEq, Except.ok.injEq] at done
        subst done
        exact ⟨false, normal, fun _ => ⟨⟨err, rfl⟩, sizeInBytes, rfl, by omega⟩⟩

theorem getFirstRows_error {info : DatasetInfo} {rowsMaxNumber : Nat} {e : PyException}
    (failed : getFirstRows world info rowsMaxNumber = .error e) :
    (∃ err, (getRows (world.loadDataset true) true rowsMaxNumber).result = .error err) ∧
      (e.name = "NormalRowsError" ∧
          (∃ sizeInBytes, info.sizeInBytes = some sizeInBytes ∧ sizeInBytes ≤ MAX_SIZE_FALLBACK) ∨
        e.name = "StreamingRowsError" ∧
          ∀ sizeInBytes, info.sizeInBytes = some sizeInBytes → sizeInBytes > MAX_SIZE_FALLBACK) := by
  unfold getFirstRows at failed
  cases streamed : (getRows (world.loadDataset true) true rowsMaxNumber).result with
  | ok rows => simp only [streamed, reduceCtorEq] at failed
  | error err =>
    refine ⟨⟨err, rfl⟩, ?_⟩
    simp only [streamed] at failed
    cases size : info.sizeInBytes with
    | none =>
      simp only [size, Except.error.injEq] at failed
      exact .inr ⟨by rw [← failed]; rfl, nofun⟩
    | some sizeInBytes =>
      simp only [size] at failed
      split at failed
      · exact .inr ⟨by rw [← Except.error.inj failed]; rfl, fun _ same => Option.some.inj same ▸ ‹_›⟩
      · cases normal : (getRows (world.loadDataset false) false rowsMaxNumber).result <;>
          simp only [normal, reduceCtorEq, Except.error.injEq] at failed
        exact .inl ⟨by rw [← failed]; rfl, sizeInBytes, rfl, by omega⟩

theorem computeFirstRowsResponse_ok {response : SplitFirstRowsResponse}
    (done : computeFirstRowsResponse utils world dataset config split minCellBytes rowsMaxBytes
      rowsMaxNumber rowsMinNumber columnsMaxNumber = .ok response) :
    checkUpstream (entriesOf world.cache dataset config) config split = .ok () ∧
    ∃ info features featuresList size rows transformedRows rowItems,
      world.getDatasetConfigInfo = .ok info ∧
      getFeatures world config split info = .ok features ∧
      ¬ (truthy features ∧ columnCount features > columnsMaxNumber) ∧
      utils.toFeaturesList features = .ok featuresList ∧
      utils.getJsonSize ⟨dataset, config, split, featuresList, .arr []⟩ = .ok size ∧
      size ≤ rowsMaxBytes ∧
      getFirstRows world info rowsMaxNumber = .ok rows ∧
      transformRows world.getCellValue rows features = .ok transformedRows ∧
      utils.createTruncatedRowItems transformedRows minCellBytes (rowsMaxBytes - size) rowsMinNumber =
        .ok rowItems ∧
      response = ⟨dataset, config, split, featuresList, rowItems⟩ := by
  unfold computeFirstRowsResponse at done
  obtain ⟨⟨⟩, upstream, done⟩ := bind_ok done
  obtain ⟨info, infoRead, done⟩ := bind_ok done
  obtain ⟨features, featuresRead, done⟩ := bind_ok done
  obtain ⟨⟨⟩, columns, done⟩ := bind_ok done
  obtain ⟨featuresList, listed, done⟩ := bind_ok done
  obtain ⟨size, sized, done⟩ := bind_ok done
  obtain ⟨⟨⟩, fits, done⟩ := bind_ok done
  obtain ⟨rows, fetched, done⟩ := bind_ok done
  obtain ⟨transformedRows, transformed, done⟩ := bind_ok done
  obtain ⟨rowItems, truncated, done⟩ := bind_ok done
  exact ⟨upstream, info, features, featuresList, size, rows, transformedRows, rowItems,
    mapError_ok infoRead, featuresRead, raiseIf_ok columns, listed, sized,
    Nat.le_of_not_gt (raiseIf_ok fits), fetched, mapError_ok transformed, truncated,
    (Except.ok.inj done).symm⟩

/-- A response is the truncation of one load's first rows, each cell as `get_cell_value` gave it. -/
theorem computeFirstRowsResponse_spec {response : SplitFirstRowsResponse}
    (done : computeFirstRowsResponse utils world dataset config split minCellBytes rowsMaxBytes
      rowsMaxNumber rowsMinNumber columnsMaxNumber = .ok response) :
    response.dataset = dataset ∧ response.config = config ∧ response.split = split ∧
    checkUpstream (entriesOf world.cache dataset config) config split = .ok () ∧
    ∃ info features size transformedRows,
      world.getDatasetConfigInfo = .ok info ∧
      (truthy info.features → features = info.features) ∧
      (truthy info.features = false →
        ∃ resolved, world.resolveFeatures = .ok resolved ∧ features = resolved.features) ∧
      utils.toFeaturesList features = .ok response.features ∧
      (truthy features → columnCount features ≤ columnsMaxNumber) ∧
      utils.getJsonSize { response with rows := .arr [] } = .ok size ∧ size ≤ rowsMaxBytes ∧
      utils.createTruncatedRowItems transformedRows minCellBytes (rowsMaxBytes - size) rowsMinNumber =
        .ok response.rows ∧
      ∃ streaming, ∃ attempt < MAX_ATTEMPTS, ∃ ds,
        world.loadDataset streaming attempt = .ok ds ∧
        List.Forall₂ (fun (indexed : Nat × Row) transformedRow =>
            TransformedRow world.getCellValue features indexed.1 indexed.2 transformedRow)
          (ds.rows.take rowsMaxNumber).enum transformedRows ∧
        (streaming = false →
          (∃ err, (getRows (world.loadDataset true) true rowsMaxNumber).result = .error err) ∧
          ∃ sizeInBytes, info.sizeInBytes = some sizeInBytes ∧ sizeInBytes ≤ MAX_SIZE_FALLBACK) := by
  obtain ⟨upstream, info, features, featuresList, size, rows, transformedRows, rowItems, infoRead,
    featuresRead, columns, listed, sized, fits, fetched, transformed, truncated, rfl⟩ :=
    computeFirstRowsResponse_ok done
  obtain ⟨streaming, loaded, fallback⟩ := getFirstRows_ok fetched
  obtain ⟨attempt, bound, ds, loadedDs, rfl⟩ := getRows_ok loaded
  exact ⟨rfl, rfl, rfl, upstream, info, features, size, transformedRows, infoRead,
    (getFeatures_ok featuresRead).1, (getFeatures_ok featuresRead).2, listed,
    fun given => Nat.le_of_not_gt fun more => columns ⟨given, more⟩, sized, fits, truncated,
    streaming, attempt, bound, ds, loadedDs, transformRows_ok transformed, fallback⟩

theorem computeFirstRowsResponse_error {e : PyException}
    (failed : computeFirstRowsResponse utils world dataset config split minCellBytes rowsMaxBytes
      rowsMaxNumber rowsMinNumber columnsMaxNumber = .error e) :
    checkUpstream (entriesOf world.cache dataset config) config split = .error e ∨
    e.name ∈ ["InfoError", "FeaturesError", "TooManyColumnsError", "TooBigContentError",
      "StreamingRowsError", "NormalRowsError", "RowsPostProcessingError"] ∨
    RaisedByUtils utils e := by
  unfold computeFirstRowsResponse at failed
  rcases bind_error failed with upstream | ⟨⟨⟩, -, failed⟩
  · exact .inl upstream
  rcases bind_error failed with infoRead | ⟨info, -, failed⟩
  · obtain ⟨cause, rfl⟩ := mapError_error infoRead
    exact .inr (.inl (by simp [infoError]))
  rcases bind_error failed with featuresRead | ⟨features, -, failed⟩
  · exact .inr (.inl (by simp [getFeatures_error featuresRead]))
  rcases bind_error failed with columns | ⟨⟨⟩, -, failed⟩
  · exact .inr (.inl (by simp [raiseIf_error columns, tooManyColumnsError]))
  rcases bind_error failed with listed | ⟨featuresList, -, failed⟩
  · exact .inr (.inr (.inl ⟨features, listed⟩))
  rcases bind_error failed with sized | ⟨size, -, failed⟩
  · exact .inr (.inr (.inr (.inl ⟨_, sized⟩)))
  rcases bind_error failed with fits | ⟨⟨⟩, -, failed⟩
  · exact .inr (.inl (by simp [raiseIf_error fits, tooBigContentError]))
  rcases bind_error failed with fetched | ⟨rows, -, failed⟩
  · rcases (getFirstRows_error fetched).2 with ⟨names, -⟩ | ⟨names, -⟩ <;>
      exact .inr (.inl (by simp [names]))
  rcases bind_error failed with transformed | ⟨transformedRows, -, failed⟩
  · obtain ⟨cause, rfl⟩ := mapError_error transformed
    exact .inr (.inl (by simp [rowsPostProcessingError]))
  rcases bind_error failed with truncated | ⟨rowItems, -, failed⟩
  · exact .inr (.inr (.inr (.inr ⟨_, _, _, _, truncated⟩)))
  · cases failed

/-- The exceptions of the upstream check, of the later steps, and of the `worker.utils` helpers. -/
theorem raised_computeFirstRowsResponse :
    raised (computeFirstRowsResponse utils world dataset config split minCellBytes rowsMaxBytes
        rowsMaxNumber rowsMinNumber columnsMaxNumber) ∈
      [none, some "ConfigNotFoundError", some "PreviousStepFormatError",
        some "PreviousStepStatusError", some "SplitNotFoundError", some "KeyError", some "TypeError",
        some "InfoError", some "FeaturesError", some "TooManyColumnsError",
        some "TooBigContentError", some "StreamingRowsError", some "NormalRowsError",
        some "RowsPostProcessingError"] ∨
    ∃ e, RaisedByUtils utils e ∧
      raised (computeFirstRowsResponse utils world dataset config split minCellBytes rowsMaxBytes
        rowsMaxNumber rowsMinNumber columnsMaxNumber) = some e.name := by
  cases computing : computeFirstRowsResponse utils world dataset config split minCellBytes
    rowsMaxBytes rowsMaxNumber rowsMinNumber columnsMaxNumber with
  | ok response => exact .inl (List.mem_cons_self _ _)
  | error e =>
    rcases computeFirstRowsResponse_error computing with upstream | names | helper
    · have checked := raised_checkUpstream_mem (entriesOf world.cache dataset config) config split
      rw [upstream] at checked
      exact .inl (List.mem_append_left _ checked)
    · refine .inl (List.mem_append_right [none, some "ConfigNotFoundError",
        some "PreviousStepFormatError", some "PreviousStepStatusError", some "SplitNotFoundError",
        some "KeyError", some "TypeError"] ?_)
      simpa using names
    · exact .inr ⟨e, helper, rfl⟩

end

def oneRowWorld : FirstRowsWorld where
  cache := ⟨[⟨"/split-names-from-streaming", "dataset", some "config", none, 200,
    .obj [("splits", .arr [.obj [("dataset", .str "dataset"), ("config", .str "config"),
      ("split", .str "train")]])]⟩], by decide⟩
  getDatasetConfigInfo := .ok ⟨some [("text", .obj [("dtype", .str "string")])], some 10⟩
  loadIterableDataset := .error (.fileNotFoundError "FileNotFoundError")
  resolveFeatures := .error (.fileNotFoundError "FileNotFoundError")
  loadDataset := fun streaming _ =>
    .ok ⟨if streaming then .iterableDataset else .dataset, none, [[("text", .str "hello")]], none⟩
  getCellValue := fun _ cell _ _ => .ok cell

def keepAllUtils : WorkerUtils where
  toFeaturesList := fun _ => .ok (.arr [])
  getJsonSize := fun _ => .ok 100
  createTruncatedRowItems := fun rows _ _ _ => .ok (.arr (rows.map .obj))

theorem computeFirstRowsResponse_spec_oneRow :
    computeFirstRowsResponse keepAllUtils oneRowWorld "dataset" "config" "train" 0 1000 100 0 10 =
      .ok ⟨"dataset", "config", "train", .arr [], .arr [.obj [("text", .str "hello")]]⟩ ∧
    checkUpstream (entriesOf oneRowWorld.cache "dataset" "config") "config" "train" = .ok () := by
  have done : computeFirstRowsResponse keepAllUtils oneRowWorld "dataset" "config" "train" 0 1000
      100 0 10 = .ok ⟨"dataset", "config", "train", .arr [], .arr [.obj [("text", .str "hello")]]⟩ := by
    unfold computeFirstRowsResponse getFirstRows getRows
    rw [retry_first] <;> rfl
  exact ⟨done, (computeFirstRowsResponse_spec done).2.2.2.1⟩

structure FirstRowsConfig where
  minCellBytes : Nat
  maxBytes : Nat
  maxNumber : Nat
  minNumber : Nat
  columnsMaxNumber : Nat

structure SplitFullName where
  dataset : String
  config : String
  split : String

structure SplitFirstRowsFromStreamingJobRunner where
  dataset : String
  config : Option String
  split : Option String
  firstRowsConfig : FirstRowsConfig

namespace SplitFirstRowsFromStreamingJobRunner

def getJobType : String := "split-first-rows-from-streaming"

def compute (utils : WorkerUtils) (world : FirstRowsWorld)
    (raiseIfParallelResponseExists : String → Except PyException Unit)
    (jobRunner : SplitFirstRowsFromStreamingJobRunner) : Except PyException SplitFirstRowsResponse :=
  match jobRunner.config, jobRunner.split with
  | some config, some split => do
    raiseIfParallelResponseExists "split-first-rows-from-parquet"
    computeFirstRowsResponse utils world jobRunner.dataset config split
      jobRunner.firstRowsConfig.minCellBytes jobRunner.firstRowsConfig.maxBytes
      jobRunner.firstRowsConfig.maxNumber jobRunner.firstRowsConfig.minNumber
      jobRunner.firstRowsConfig.columnsMaxNumber
  | _, _ => .error (.valueError "config and split are required")

def getNewSplits (jobRunner : SplitFirstRowsFromStreamingJobRunner) :
    Except PyException (List SplitFullName) :=
  match jobRunner.config, jobRunner.split with
  | some config, some split => .ok [⟨jobRunner.dataset, config, split⟩]
  | _, _ => .error (.valueError "config and split are required")

end SplitFirstRowsFromStreamingJobRunner

end DatasetsServer.Worker.FirstRows
