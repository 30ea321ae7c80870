import DatasetsServer.Worker.FirstRows.Compute

namespace DatasetsServer.Worker.SplitNamesFromStreaming

open Cache FirstRows

structure SplitItem where
  dataset : String
  config : String
  split : String

structure SplitsList where
  splits : List SplitItem

def SplitItem.toJson (splitItem : SplitItem) : Json :=
  .obj [("dataset", .str splitItem.dataset), ("config", .str splitItem.config),
    ("split", .str splitItem.split)]

def SplitsList.toJson (splitsList : SplitsList) : Json :=
  .obj [("splits", .arr (splitsList.splits.map SplitItem.toJson))]

def splitNamesFromStreamingJobRunnerError (message : String) (statusCode : Nat) (code : String)
    (cause : Option PyException) (discloseCause : Bool) : PyException :=
  .jobRunnerError message statusCode code cause discloseCause

def splitNamesFromStreamingError (message : String) (cause : Option PyException) : PyException :=
  splitNamesFromStreamingJobRunnerError message HTTPStatus.INTERNAL_SERVER_ERROR
    "SplitNamesFromStreamingError" cause true

def emptyDatasetError (message : String) (cause : Option PyException) : PyException :=
  splitNamesFromStreamingJobRunnerError message HTTPStatus.INTERNAL_SERVER_ERROR
    "EmptyDatasetError" cause true

/-- `isinstance(err, datasets.data_files.EmptyDatasetError)`, a subclass of `FileNotFoundError`. -/
def isDatasetsEmptyDatasetError : PyException → Bool
  | .fileNotFoundError name => name == "datasets.data_files.EmptyDatasetError"
  | _ => false

def computeSplitNamesFromStreamingResponse (dataset config : String)
    (getDatasetSplitNames : Except PyException (List String)) : Except PyException SplitsList :=
  match getDatasetSplitNames with
  | .ok splits => .ok ⟨splits.map fun split => ⟨dataset, config, split⟩⟩
  | .error err =>
    if isDatasetsEmptyDatasetError err then .error (emptyDatasetError "The dataset is empty." (some err))
    else .error (splitNamesFromStreamingError
      ("Cannot get the split names for the config '" ++ config ++ "' of the dataset.") (some err))

def getJobType : String := "/split-names-from-streaming"

def parallelJobType : String := "/split-names-from-dataset-info"

theorem checkSplitListed_toJson (config split : String) (splitsList : SplitsList) :
    ∃ splitsContent, splitsList.toJson.getItem "splits" = .ok splitsContent ∧
      checkSplitListed config split splitsContent =
        if splitsList.splits.any (fun splitItem => splitItem.split == split) then .ok ()
        else .error (splitNotFoundError ("The split '" ++ split ++
          "' does not exist for the config '" ++ config ++ "' of the dataset.")) := by
  refine ⟨_, rfl, ?_⟩
  have naming : (splitsList.splits.map SplitItem.toJson).mapM (fun splitItem => splitItem.getItem "split") =
      .ok (splitsList.splits.map fun splitItem => .str splitItem.split) := by
    induction splitsList.splits with
    | nil => rfl
    | cons splitItem splitItems ih =>
      simp only [List.map_cons, List.mapM_cons, ih]
      rfl
  have listed : ((splitsList.splits.map fun splitItem => Json.str splitItem.split).any
      fun splitName => splitName.eqStr split) = splitsList.splits.any fun splitItem => splitItem.split == split := by
    induction splitsList.splits with
    | nil => rfl
    | cons splitItem splitItems ih => simp only [List.map_cons, List.any_cons, ih, Json.eqStr_str]
  simp only [checkSplitListed, Json.iter_arr, bind, Except.bind, naming, listed, raiseIf]
  cases splitsList.splits.any (fun splitItem => splitItem.split == split) <;> rfl

theorem checkUpstream_of_written {entries : String → Option CachedResponse} {config split : String}
    {splitsList : SplitsList} {response : CachedResponse}
    (stored : entries getJobType = some response) (success : response.httpStatus = HTTPStatus.OK)
    (written : response.content = splitsList.toJson) :
    checkUpstream entries config split =
      if splitsList.splits.any (fun splitItem => splitItem.split == split) then .ok ()
      else .error (splitNotFoundError ("The split '" ++ split ++
        "' does not exist for the config '" ++ config ++ "' of the dataset.")) := by
  obtain ⟨splitsContent, reading, listed⟩ := checkSplitListed_toJson config split splitsList
  have chosen : selected entries = some (response, splitsContent) :=
    selected_of_streaming entries (getSplits_ok_iff.mpr ⟨stored, written ▸ reading⟩)
  rw [checkUpstream_of_selected entries config split chosen success, listed]

theorem any_split_of_computed {dataset config split : String} {splitNames : List String}
    {splitsList : SplitsList}
    (computed : computeSplitNamesFromStreamingResponse dataset config (.ok splitNames) =
      .ok splitsList) :
    splitsList.splits.any (fun splitItem => splitItem.split == split) = decide (split ∈ splitNames) := by
  simp only [computeSplitNamesFromStreamingResponse, Except.ok.injEq] at computed
  subst computed
  rw [Bool.eq_iff_iff, List.any_eq_true, decide_eq_true_iff]
  simp only [List.mem_map, beq_iff_eq]
  constructor
  · rintro ⟨_, ⟨name, member, rfl⟩, rfl⟩
    exact member
  · exact fun member => ⟨_, ⟨split, member, rfl⟩, rfl⟩

/-- A first-rows job goes on exactly for the splits a stored split-names response listed. -/
theorem checkUpstream_splitNames (entries : String → Option CachedResponse)
    (dataset config split : String) (splitNames : List String) (splitsList : SplitsList)
    (response : CachedResponse) (computed : computeSplitNamesFromStreamingResponse dataset config
      (.ok splitNames) = .ok splitsList)
    (stored : entries getJobType = some response) (success : response.httpStatus = HTTPStatus.OK)
    (written : response.content = splitsList.toJson) :
    checkUpstream entries config split =
      if split ∈ splitNames then .ok ()
      else .error (splitNotFoundError ("The split '" ++ split ++
        "' does not exist for the config '" ++ config ++ "' of the dataset.")) := by
  rw [checkUpstream_of_written stored success written, any_split_of_computed computed]
  simp only [decide_eq_true_eq]

def trainAndTest : String → Option CachedResponse := fun kind =>
  if kind = getJobType then
    some ⟨getJobType, "dataset", some "config", none, 200,
      SplitsList.toJson ⟨[⟨"dataset", "config", "train"⟩, ⟨"dataset", "config", "test"⟩]⟩⟩
  else none

theorem checkUpstream_splitNames_trainAndTest :
    checkUpstream trainAndTest "config" "train" = .ok () ∧
    checkUpstream trainAndTest "config" "validation" =
      .error (splitNotFoundError "The split 'validation' does not exist for the config 'config' of the dataset.") :=
  ⟨checkUpstream_splitNames trainAndTest "dataset" "config" "train" ["train", "test"] _ _ rfl rfl rfl rfl,
    checkUpstream_splitNames trainAndTest "dataset" "config" "validation" ["train", "test"] _ _ rfl rfl rfl rfl⟩

section

variable {utils : WorkerUtils} {world : FirstRowsWorld} {dataset config split : String}
  {minCellBytes rowsMaxBytes rowsMaxNumber rowsMinNumber columnsMaxNumber : Nat}

/-- For a listed split, no upstream error: a return, a later step's error, or a helper's. -/
theorem computeFirstRowsResponse_of_splitNames {splitNames : List String} {splitsList : SplitsList}
    {response : CachedResponse}
    (computed : computeSplitNamesFromStreamingResponse dataset config (.ok splitNames) =
      .ok splitsList)
    (stored : entriesOf world.cache dataset config getJobType = some response)
    (success : response.httpStatus = HTTPStatus.OK) (written : response.content = splitsList.toJson)
    (listed : split ∈ splitNames) :
    raised (computeFirstRowsResponse utils world dataset config split minCellBytes rowsMaxBytes
        rowsMaxNumber rowsMinNumber columnsMaxNumber) ∈
      [none, some "InfoError", some "FeaturesError", some "TooManyColumnsError",
        some "TooBigContentError", some "StreamingRowsError", some "NormalRowsError",
        some "RowsPostProcessingError"] ∨
    ∃ e, RaisedByUtils utils e ∧
      raised (computeFirstRowsResponse utils world dataset config split minCellBytes rowsMaxBytes
        rowsMaxNumber rowsMinNumber columnsMaxNumber) = some e.name := by
  have upstream : checkUpstream (entriesOf world.cache dataset config) config split = .ok () := by
    rw [checkUpstream_of_written stored success written, any_split_of_computed computed]
    simp [listed]
  cases computing : computeFirstRowsResponse utils world dataset config split minCellBytes
    rowsMaxBytes rowsMaxNumber rowsMinNumber columnsMaxNumber with
  | ok firstRows => exact .inl (List.mem_cons_self _ _)
  | error e =>
    rcases computeFirstRowsResponse_error computing with failed | names | helper
    · rw [upstream] at failed
      cases failed
    · exact .inl (List.mem_cons_of_mem _ (by simpa using names))
    · exact .inr ⟨e, helper, rfl⟩

theorem computeFirstRowsResponse_of_splitNames_oneRow :
    computeSplitNamesFromStreamingResponse "dataset" "config" (.ok ["train"]) =
      .ok ⟨[⟨"dataset", "config", "train"⟩]⟩ ∧
    (raised (computeFirstRowsResponse keepAllUtils oneRowWorld "dataset" "config" "train" 0 1000 100
        0 10) ∈
      [none, some "InfoError", some "FeaturesError", some "TooManyColumnsError",
        some "TooBigContentError", some "StreamingRowsError", some "NormalRowsError",
        some "RowsPostProcessingError"] ∨
    ∃ e, RaisedByUtils keepAllUtils e ∧
      raised (computeFirstRowsResponse keepAllUtils oneRowWorld "dataset" "config" "train" 0 1000 100
        0 10) = some e.name) :=
  have computed : computeSplitNamesFromStreamingResponse "dataset" "config" (.ok ["train"]) =
      .ok ⟨[⟨"dataset", "config", "train"⟩]⟩ := rfl
  ⟨computed, computeFirstRowsResponse_of_splitNames computed rfl rfl rfl (List.mem_singleton_self _)⟩

end

end DatasetsServer.Worker.SplitNamesFromStreaming
