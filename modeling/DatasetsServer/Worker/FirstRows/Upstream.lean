import DatasetsServer.Worker.FirstRows.Errors
import DatasetsServer.Cache.SimpleCache

namespace DatasetsServer.Worker.FirstRows

open Cache

def getSplits (entries : String → Option CachedResponse) (kind : String) :
    Except PyException (CachedResponse × Json) := do
  let upstreamResponse ← getResponse entries kind
  let splitsContent ← upstreamResponse.content.getItem "splits"
  pure (upstreamResponse, splitsContent)

/-- The two nested `try` blocks of `compute_first_rows_response`. -/
def getUpstream (entries : String → Option CachedResponse) (config : String) :
    Except PyException (CachedResponse × Json) :=
  match getSplits entries "/split-names-from-streaming" with
  | .ok upstream => .ok upstream
  | .error _ =>
    match getSplits entries "/split-names-from-dataset-info" with
    | .ok upstream => .ok upstream
    | .error .doesNotExist =>
      .error (configNotFoundError
        ("The config '" ++ config ++ "' does not exist for the dataset.'") (some .doesNotExist))
    | .error e =>
      .error (previousStepFormatError "Previous step did not return the expected content." (some e))

def checkSplitListed (config split : String) (splitsContent : Json) : Except PyException Unit := do
  let splitItems ← splitsContent.iter
  let splitNames ← splitItems.mapM fun splitItem => splitItem.getItem "split"
  raiseIf (!splitNames.any fun splitName => splitName.eqStr split)
    (splitNotFoundError
      ("The split '" ++ split ++ "' does not exist for the config '" ++ config ++ "' of the dataset."))

/-- The code of `compute_first_rows_response` before the features are fetched. -/
def checkUpstream (entries : String → Option CachedResponse) (config split : String) :
    Except PyException Unit := do
  let (upstreamResponse, splitsContent) ← getUpstream entries config
  raiseIf (upstreamResponse.httpStatus ≠ HTTPStatus.OK)
    (previousStepStatusError ("Previous step gave an error: " ++
      toString upstreamResponse.httpStatus ++ ". This job should not have been created.") none)
  checkSplitListed config split splitsContent

/-- The entry and `splits` the check goes on with: the streaming one if it has `splits`, else the other. -/
def selected (entries : String → Option CachedResponse) : Option (CachedResponse × Json) :=
  match getSplits entries "/split-names-from-streaming" with
  | .ok upstream => some upstream
  | .error _ => (getSplits entries "/split-names-from-dataset-info").toOption

section

variable {entries : String → Option CachedResponse} {kind : String}

theorem getSplits_none (missing : entries kind = none) :
    getSplits entries kind = .error .doesNotExist := by
  simp [getSplits, missing, bind, Except.bind]

theorem getSplits_some {response : CachedResponse} (found : entries kind = some response) :
    getSplits entries kind = (response.content.getItem "splits").map (response, ·) := by
  simp only [getSplits, getResponse_some found, bind, Except.bind, pure, Except.pure]
  cases response.content.getItem "splits" <;> rfl

theorem getSplits_error_ne_doesNotExist {response : CachedResponse} {e : PyException}
    (found : entries kind = some response) (failed : getSplits entries kind = .error e) :
    e ≠ .doesNotExist := by
  rw [getSplits_some found] at failed
  cases getting : response.content.getItem "splits" with
  | ok _ => simp [getting, Except.map] at failed
  | error e' =>
    simp only [getting, Except.map, Except.error.injEq] at failed
    rcases Json.getItem_error getting with rfl | rfl <;> subst failed <;> nofun

def HasSplits (entries : String → Option CachedResponse) (kind : String) : Prop :=
  ∃ response splitsContent, entries kind = some response ∧
    response.content.getItem "splits" = .ok splitsContent

theorem getSplits_ok_iff {response : CachedResponse} {splitsContent : Json} :
    getSplits entries kind = .ok (response, splitsContent) ↔
      entries kind = some response ∧ response.content.getItem "splits" = .ok splitsContent := by
  cases found : entries kind with
  | none => simp [getSplits_none found]
  | some found' =>
    rw [getSplits_some found]
    constructor
    · intro reading
      cases getting : found'.content.getItem "splits" <;>
        simp only [getting, Except.map, reduceCtorEq, Except.ok.injEq, Prod.mk.injEq] at reading
      obtain ⟨rfl, rfl⟩ := reading
      exact ⟨rfl, getting⟩
    · rintro ⟨same, getting⟩
      cases same
      simp [getting, Except.map]

theorem hasSplits_iff : HasSplits entries kind ↔ ∃ upstream, getSplits entries kind = .ok upstream := by
  simp only [HasSplits, Prod.exists, getSplits_ok_iff]

end

section

variable (entries : String → Option CachedResponse) (config split : String)

theorem checkUpstream_eq :
    checkUpstream entries config split =
      match getUpstream entries config with
      | .error e => .error e
      | .ok (upstreamResponse, splitsContent) =>
        if upstreamResponse.httpStatus ≠ HTTPStatus.OK then
          .error (previousStepStatusError ("Previous step gave an error: " ++
            toString upstreamResponse.httpStatus ++ ". This job should not have been created.") none)
        else checkSplitListed config split splitsContent := by
  unfold checkUpstream
  rcases getUpstream entries config with _ | ⟨upstreamResponse, splitsContent⟩
  · rfl
  · by_cases ok : upstreamResponse.httpStatus = HTTPStatus.OK <;>
      simp [ok, raiseIf, bind, Except.bind]

theorem getUpstream_of_selected {upstream : CachedResponse × Json}
    (chosen : selected entries = some upstream) : getUpstream entries config = .ok upstream := by
  unfold selected at chosen
  unfold getUpstream
  split at chosen
  · simp_all
  · cases reading : getSplits entries "/split-names-from-dataset-info" <;> simp_all [Except.toOption]

theorem raised_getUpstream_of_not_selected (none_chosen : selected entries = none) :
    raised (getUpstream entries config) =
      if (entries "/split-names-from-dataset-info").isNone then some "ConfigNotFoundError"
      else some "PreviousStepFormatError" := by
  unfold selected at none_chosen
  unfold getUpstream
  split at none_chosen
  · cases none_chosen
  · cases reading : getSplits entries "/split-names-from-dataset-info" with
    | ok upstream => simp [reading, Except.toOption] at none_chosen
    | error e =>
      cases found : entries "/split-names-from-dataset-info" with
      | none =>
        rw [getSplits_none found] at reading
        cases reading
        rfl
      | some response =>
        have other := getSplits_error_ne_doesNotExist found reading
        simp only [reading, found, Option.isNone_some]
        split
        · contradiction
        · rfl

theorem checkSplitListed_ok {splitsContent : Json}
    (listed : checkSplitListed config split splitsContent = .ok ()) :
    ∃ splitItems, splitsContent = .arr splitItems ∧
      ∃ splitItem ∈ splitItems, splitItem.getItem "split" = .ok (.str split) := by
  obtain ⟨splitItems, iterating, listed⟩ := bind_ok listed
  obtain ⟨splitNames, naming, found⟩ := bind_ok listed
  have found : splitNames.any (fun splitName => splitName.eqStr split) = true := by
    simpa using raiseIf_ok found
  obtain ⟨splitName, member, same⟩ := List.any_eq_true.mp found
  obtain ⟨splitItem, within, reading⟩ := mapM_ok_mem naming member
  rcases Json.iter_ok iterating with shape | strings
  · exact ⟨splitItems, shape, splitItem, within, Json.eqStr_iff.mp same ▸ reading⟩
  · obtain ⟨text, rfl⟩ := strings splitItem within
    simp at reading

theorem selected_eq : selected entries = (getUpstream entries config).toOption := by
  unfold selected getUpstream
  split
  · rfl
  · split <;> simp_all [Except.toOption]

theorem selected_of_streaming {upstream : CachedResponse × Json}
    (reading : getSplits entries "/split-names-from-streaming" = .ok upstream) :
    selected entries = some upstream := by
  simp [selected, reading]

theorem selected_eq_none_iff :
    selected entries = none ↔
      ¬ HasSplits entries "/split-names-from-streaming" ∧
        ¬ HasSplits entries "/split-names-from-dataset-info" := by
  simp only [hasSplits_iff, not_exists, selected]
  cases getSplits entries "/split-names-from-streaming" <;>
    cases getSplits entries "/split-names-from-dataset-info" <;> simp [Except.toOption]

theorem selected_mem {upstreamResponse : CachedResponse} {splitsContent : Json}
    (chosen : selected entries = some (upstreamResponse, splitsContent)) :
    (entries "/split-names-from-streaming" = some upstreamResponse ∨
      entries "/split-names-from-dataset-info" = some upstreamResponse) ∧
    upstreamResponse.content.getItem "splits" = .ok splitsContent := by
  unfold selected at chosen
  split at chosen
  · rename_i reading
    cases chosen
    exact (getSplits_ok_iff.mp reading).imp_left .inl
  · cases reading : getSplits entries "/split-names-from-dataset-info" <;>
      simp only [reading, Except.toOption, reduceCtorEq, Option.some.injEq] at chosen
    subst chosen
    exact (getSplits_ok_iff.mp reading).imp_left .inr

theorem raised_checkUpstream :
    raised (checkUpstream entries config split) =
      match selected entries with
      | none =>
        if (entries "/split-names-from-dataset-info").isNone then some "ConfigNotFoundError"
        else some "PreviousStepFormatError"
      | some (upstreamResponse, splitsContent) =>
        if upstreamResponse.httpStatus ≠ HTTPStatus.OK then some "PreviousStepStatusError"
        else raised (checkSplitListed config split splitsContent) := by
  rw [checkUpstream_eq, selected_eq entries config]
  cases reading : getUpstream entries config with
  | error e =>
    have := raised_getUpstream_of_not_selected entries config
      (by rw [selected_eq entries config, reading]; rfl)
    rw [reading] at this
    exact this
  | ok upstream =>
    obtain ⟨upstreamResponse, splitsContent⟩ := upstream
    by_cases ok : upstreamResponse.httpStatus = HTTPStatus.OK <;>
      simp [ok, Except.toOption, previousStepStatusError]

theorem raised_checkSplitListed (splitsContent : Json) :
    raised (checkSplitListed config split splitsContent) = none ∨
      raised (checkSplitListed config split splitsContent) = some "SplitNotFoundError" ∨
      raised (checkSplitListed config split splitsContent) = some "KeyError" ∨
      raised (checkSplitListed config split splitsContent) = some "TypeError" := by
  cases checking : checkSplitListed config split splitsContent with
  | ok => exact .inl rfl
  | error e =>
    refine .inr ?_
    rcases bind_error checking with iterating | ⟨splitItems, -, checking⟩
    · simp [Json.iter_error iterating, PyException.name]
    rcases bind_error checking with naming | ⟨splitNames, -, checking⟩
    · obtain ⟨_, _, failed⟩ := mapM_error naming
      rcases Json.getItem_error failed with rfl | rfl <;> simp [PyException.name]
    · simp [raiseIf_error checking]

theorem raised_checkUpstream_mem :
    raised (checkUpstream entries config split) ∈
      [none, some "ConfigNotFoundError", some "PreviousStepFormatError",
        some "PreviousStepStatusError", some "SplitNotFoundError", some "KeyError",
        some "TypeError"] := by
  rw [raised_checkUpstream]
  split
  · split <;> simp
  · split
    · simp
    · rcases raised_checkSplitListed config split ‹_› with names | names | names | names <;>
        simp [names]

theorem checkUpstream_eq_of_agree (other : String → Option CachedResponse)
    (streaming : entries "/split-names-from-streaming" = other "/split-names-from-streaming")
    (datasetInfo : entries "/split-names-from-dataset-info" = other "/split-names-from-dataset-info") :
    checkUpstream entries config split = checkUpstream other config split := by
  simp only [checkUpstream, getUpstream, getSplits, getResponse, streaming, datasetInfo]

theorem checkUpstream_of_selected {upstreamResponse : CachedResponse} {splitsContent : Json}
    (chosen : selected entries = some (upstreamResponse, splitsContent))
    (ok : upstreamResponse.httpStatus = HTTPStatus.OK) :
    checkUpstream entries config split = checkSplitListed config split splitsContent := by
  rw [checkUpstream_eq, getUpstream_of_selected entries config chosen]
  simp [ok]

/-- The check passes only when a split-names entry succeeded and its `splits` list names the split. -/
theorem checkUpstream_ok (passed : checkUpstream entries config split = .ok ()) :
    ∃ upstreamResponse splitItems,
      (entries "/split-names-from-streaming" = some upstreamResponse ∨
        entries "/split-names-from-dataset-info" = some upstreamResponse) ∧
      upstreamResponse.httpStatus = HTTPStatus.OK ∧
      upstreamResponse.content.getItem "splits" = .ok (.arr splitItems) ∧
      ∃ splitItem ∈ splitItems, splitItem.getItem "split" = .ok (.str split) := by
  obtain ⟨⟨upstreamResponse, splitsContent⟩, reading, passed⟩ := bind_ok passed
  obtain ⟨⟨⟩, ok, passed⟩ := bind_ok passed
  have chosen : selected entries = some (upstreamResponse, splitsContent) := by
    rw [selected_eq entries config, reading]; rfl
  obtain ⟨entry, content⟩ := selected_mem entries chosen
  obtain ⟨splitItems, rfl, listed⟩ := checkSplitListed_ok config split passed
  exact ⟨upstreamResponse, splitItems, entry, of_not_not (raiseIf_ok ok), content, listed⟩

def trainListed : String → Option CachedResponse := fun kind =>
  if kind = "/split-names-from-streaming" then
    some ⟨"/split-names-from-streaming", "dataset", some "config", none, 200,
      .obj [("splits", .arr [.obj [("split", .str "train")]])]⟩
  else none

theorem checkUpstream_ok_trainListed :
    checkUpstream trainListed "config" "train" = .ok () ∧
    ∃ upstreamResponse splitItems,
      (trainListed "/split-names-from-streaming" = some upstreamResponse ∨
        trainListed "/split-names-from-dataset-info" = some upstreamResponse) ∧
      upstreamResponse.httpStatus = HTTPStatus.OK ∧
      upstreamResponse.content.getItem "splits" = .ok (.arr splitItems) ∧
      ∃ splitItem ∈ splitItems, splitItem.getItem "split" = .ok (.str "train") :=
  ⟨rfl, checkUpstream_ok trainListed "config" "train" rfl⟩

theorem hasSplits_of_selected {upstreamResponse : CachedResponse} {splitsContent : Json}
    (chosen : selected entries = some (upstreamResponse, splitsContent)) :
    HasSplits entries "/split-names-from-streaming" ∨
      HasSplits entries "/split-names-from-dataset-info" := by
  obtain ⟨entry | entry, content⟩ := selected_mem entries chosen
  · exact .inl ⟨_, _, entry, content⟩
  · exact .inr ⟨_, _, entry, content⟩

theorem raised_checkUpstream_of_selected {upstreamResponse : CachedResponse} {splitsContent : Json}
    (chosen : selected entries = some (upstreamResponse, splitsContent)) :
    raised (checkUpstream entries config split) ∈
      [some "PreviousStepStatusError", none, some "SplitNotFoundError", some "KeyError",
        some "TypeError"] := by
  rw [raised_checkUpstream, chosen]
  dsimp only
  split
  · simp
  · rcases raised_checkSplitListed config split splitsContent with names | names | names | names <;>
      simp [names]

theorem checkUpstream_configNotFound_iff :
    raised (checkUpstream entries config split) = some "ConfigNotFoundError" ↔
      ¬ HasSplits entries "/split-names-from-streaming" ∧
        entries "/split-names-from-dataset-info" = none := by
  cases chosen : selected entries with
  | none =>
    obtain ⟨streaming, datasetInfo⟩ := (selected_eq_none_iff entries).mp chosen
    rw [raised_checkUpstream, chosen]
    cases entries "/split-names-from-dataset-info" <;> simp [streaming]
  | some upstream =>
    obtain ⟨upstreamResponse, splitsContent⟩ := upstream
    have checked := raised_checkUpstream_of_selected entries config split chosen
    constructor
    · intro raisedConfig
      simp [raisedConfig] at checked
    · rintro ⟨streaming, absent⟩
      rcases hasSplits_of_selected entries chosen with has | ⟨_, _, present, _⟩
      · exact absurd has streaming
      · simp [absent] at present

theorem checkUpstream_previousStepFormat_iff :
    raised (checkUpstream entries config split) = some "PreviousStepFormatError" ↔
      ¬ HasSplits entries "/split-names-from-streaming" ∧
        entries "/split-names-from-dataset-info" ≠ none ∧
        ¬ HasSplits entries "/split-names-from-dataset-info" := by
  cases chosen : selected entries with
  | none =>
    obtain ⟨streaming, datasetInfo⟩ := (selected_eq_none_iff entries).mp chosen
    rw [raised_checkUpstream, chosen]
    cases entries "/split-names-from-dataset-info" <;> simp [streaming, datasetInfo]
  | some upstream =>
    obtain ⟨upstreamResponse, splitsContent⟩ := upstream
    have checked := raised_checkUpstream_of_selected entries config split chosen
    constructor
    · intro raisedFormat
      simp [raisedFormat] at checked
    · rintro ⟨streaming, -, datasetInfo⟩
      rcases hasSplits_of_selected entries chosen with has | has
      · exact absurd has streaming
      · exact absurd has datasetInfo

theorem checkUpstream_previousStepStatus_iff :
    raised (checkUpstream entries config split) = some "PreviousStepStatusError" ↔
      ∃ upstreamResponse splitsContent,
        selected entries = some (upstreamResponse, splitsContent) ∧
        upstreamResponse.httpStatus ≠ HTTPStatus.OK := by
  cases chosen : selected entries with
  | none =>
    rw [raised_checkUpstream, chosen]
    cases (entries "/split-names-from-dataset-info").isNone <;> simp
  | some upstream =>
    obtain ⟨upstreamResponse, splitsContent⟩ := upstream
    rw [raised_checkUpstream, chosen]
    by_cases ok : upstreamResponse.httpStatus = HTTPStatus.OK
    · rcases raised_checkSplitListed config split splitsContent with names | names | names | names <;>
        simp [ok, names]
    · simp [ok]

end

/-- The streaming step failed, and its error entry has no `splits`; the dataset-info step never ran. -/
def failedStreamingOnly : String → Option CachedResponse := fun kind =>
  if kind = "/split-names-from-streaming" then
    some ⟨"/split-names-from-streaming", "dataset", some "config", none, 500,
      .obj [("error", .str "Cannot get the split names for the config 'config' of the dataset.")]⟩
  else none

def itemWithoutSplit : String → Option CachedResponse := fun kind =>
  if kind = "/split-names-from-streaming" then
    some ⟨"/split-names-from-streaming", "dataset", some "config", none, 200,
      .obj [("splits", .arr [.obj [("dataset", .str "dataset"), ("config", .str "config")]])]⟩
  else none

theorem checkUpstream_failedStreamingOnly_itemWithoutSplit :
    checkUpstream failedStreamingOnly "config" "train" =
      .error (configNotFoundError "The config 'config' does not exist for the dataset.'"
        (some .doesNotExist)) ∧
    checkUpstream itemWithoutSplit "config" "train" = .error (.keyError "split") :=
  ⟨rfl, rfl⟩

end DatasetsServer.Worker.FirstRows