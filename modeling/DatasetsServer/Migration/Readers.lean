import DatasetsServer.Migration.CacheDatasetInfo
import DatasetsServer.Api.Valid
import DatasetsServer.Worker.FirstRows.Compute

namespace DatasetsServer.Migration.MigrationCacheUpdateDatasetInfo

open Cache Api Worker.FirstRows

/-- The kind under which the code before the migration stored what `kind` names after it. -/
def kindBefore (kind : String) : String :=
  if kind = datasetInfoUpdated then datasetInfo else kind

@[simp] theorem rename_dataset (response : CachedResponse) :
    (rename datasetInfo datasetInfoUpdated response).dataset = response.dataset := by
  unfold rename
  split <;> rfl

@[simp] theorem rename_httpStatus (response : CachedResponse) :
    (rename datasetInfo datasetInfoUpdated response).httpStatus = response.httpStatus := by
  unfold rename
  split <;> rfl

theorem rename_kind_eq_iff {response : CachedResponse} {kind : String} (old : kind ≠ datasetInfo)
    (fresh : response.kind ≠ datasetInfoUpdated) :
    (rename datasetInfo datasetInfoUpdated response).kind = kind ↔
      response.kind = kindBefore kind := by
  have distinct : datasetInfo ≠ datasetInfoUpdated := by decide
  unfold rename kindBefore
  by_cases renamed : response.kind = datasetInfo <;> by_cases new : kind = datasetInfoUpdated <;>
    simp_all [eq_comm]

theorem up_ok_of_fresh (collection : Collection)
    (fresh : ∀ response ∈ collection.documents, response.kind ≠ datasetInfoUpdated) :
    (up collection).1.documents = collection.documents.map (rename datasetInfo datasetInfoUpdated) ∧
      (up collection).2 = .ok () :=
  updateMany_of_not_collide _ _ collection
    fun ⟨_, _, target, targetMember, _, targetKind, _⟩ => fresh target targetMember targetKind

theorem getValidDatasets_up (collection : Collection) {kind : String} (old : kind ≠ datasetInfo)
    (fresh : ∀ response ∈ collection.documents, response.kind ≠ datasetInfoUpdated) :
    getValidDatasets (up collection).1 kind = getValidDatasets collection (kindBefore kind) := by
  ext dataset
  simp only [mem_getValidDatasets, (up_ok_of_fresh collection fresh).1, List.mem_map]
  constructor
  · rintro ⟨_, ⟨response, member, rfl⟩, kindOf, status, named⟩
    exact ⟨response, member, (rename_kind_eq_iff old (fresh response member)).mp kindOf,
      by simpa using status, by simpa using named⟩
  · rintro ⟨response, member, kindOf, status, named⟩
    exact ⟨_, ⟨response, member, rfl⟩, (rename_kind_eq_iff old (fresh response member)).mpr kindOf,
      by simpa using status, by simpa using named⟩

/-- After `up`, the graph naming `dataset-info` lists what the one naming `/dataset-info` listed before. -/
theorem getValid_up (collection : Collection) (processingGraph graphBefore : ProcessingGraph)
    (fresh : ∀ response ∈ collection.documents, response.kind ≠ datasetInfoUpdated)
    (renamed : List.Forall₂ (fun step stepBefore =>
      step.cacheKind ≠ datasetInfo ∧ stepBefore.cacheKind = kindBefore step.cacheKind)
      processingGraph.getProcessingStepsRequiredByDatasetViewer
      graphBefore.getProcessingStepsRequiredByDatasetViewer) :
    getValid (getValidDatasets (up collection).1) processingGraph =
      getValid (getValidDatasets collection) graphBefore :=
  getValid_congr _ (renamed.imp fun {_ _} ⟨old, before⟩ => by
    rw [getValidDatasets_up collection old fresh, before])

def beforeMigration : Collection :=
  ⟨[⟨datasetInfo, "squad", none, none, 200, .obj []⟩,
    ⟨"/config-names", "squad", none, none, 200, .obj []⟩,
    ⟨datasetInfo, "glue", none, none, 500, .obj []⟩,
    ⟨"/config-names", "glue", none, none, 200, .obj []⟩], by decide⟩

theorem getValid_up_beforeMigration :
    getValid (getValidDatasets (up beforeMigration).1) ⟨[⟨datasetInfoUpdated⟩, ⟨"/config-names"⟩]⟩ =
      getValid (getValidDatasets beforeMigration) ⟨[⟨datasetInfo⟩, ⟨"/config-names"⟩]⟩ :=
  getValid_up beforeMigration _ _ (by decide)
    (.cons ⟨by decide, rfl⟩ (.cons ⟨by decide, rfl⟩ .nil))

theorem getValidDatasets_up_datasetInfo {collection : Collection} (migrated : (up collection).2 = .ok ()) :
    getValidDatasets (up collection).1 datasetInfo = ∅ := by
  refine Finset.eq_empty_of_forall_not_mem fun dataset member => ?_
  obtain ⟨_, renamedMember, kindOf, -⟩ := mem_getValidDatasets.mp member
  rw [up, updateMany_ok _ _ migrated] at renamedMember
  obtain ⟨response, -, rfl⟩ := List.mem_map.mp renamedMember
  exact rename_kind_ne datasetInfo datasetInfoUpdated (by decide) response kindOf

/-- Code still reading `/dataset-info` lists no valid dataset once the migration completed. -/
theorem getValid_up_kindBefore (collection : Collection) (processingGraph : ProcessingGraph)
    (migrated : (up collection).2 = .ok ())
    (stale : ∃ step ∈ processingGraph.getProcessingStepsRequiredByDatasetViewer,
      step.cacheKind = datasetInfo) :
    getValid (getValidDatasets (up collection).1) processingGraph = [] := by
  obtain ⟨step, required, old⟩ := stale
  refine List.eq_nil_iff_forall_not_mem.mpr fun dataset member => ?_
  have valid := ((mem_getValid _ processingGraph dataset).mp member).2 step required
  rw [old, getValidDatasets_up_datasetInfo migrated] at valid
  exact Finset.not_mem_empty dataset valid

theorem getValid_up_kindBefore_beforeMigration :
    getValid (getValidDatasets (up beforeMigration).1) ⟨[⟨datasetInfo⟩, ⟨"/config-names"⟩]⟩ = [] :=
  getValid_up_kindBefore beforeMigration _ rfl ⟨⟨datasetInfo⟩, List.mem_cons_self _ _, rfl⟩

/-- The migration, completed or stopped, changes nothing that a first-rows job computes. -/
theorem computeFirstRowsResponse_up (utils : WorkerUtils) (world : FirstRowsWorld)
    (dataset config split : String)
    (minCellBytes rowsMaxBytes rowsMaxNumber rowsMinNumber columnsMaxNumber : Nat) :
    computeFirstRowsResponse utils { world with cache := (up world.cache).1 } dataset config split
        minCellBytes rowsMaxBytes rowsMaxNumber rowsMinNumber columnsMaxNumber =
      computeFirstRowsResponse utils world dataset config split minCellBytes rowsMaxBytes
        rowsMaxNumber rowsMinNumber columnsMaxNumber := by
  have unchanged : ∀ kind, kind ≠ datasetInfo → kind ≠ datasetInfoUpdated →
      entriesOf (up world.cache).1 dataset config kind = entriesOf world.cache dataset config kind :=
    fun kind => entriesOf_updateMany_other _ _ world.cache kind dataset config
  have upstream := checkUpstream_eq_of_agree (entriesOf (up world.cache).1 dataset config) config split
    (entriesOf world.cache dataset config) (unchanged _ (by decide) (by decide))
    (unchanged _ (by decide) (by decide))
  unfold computeFirstRowsResponse
  dsimp only
  rw [upstream]
  rfl

end DatasetsServer.Migration.MigrationCacheUpdateDatasetInfo
