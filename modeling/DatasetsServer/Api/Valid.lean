import Mathlib.Data.String.Basic
import Mathlib.Data.Finset.Sort

namespace DatasetsServer.Api

structure ProcessingStep where
  cacheKind : String

structure ProcessingGraph where
  getProcessingStepsRequiredByDatasetViewer : List ProcessingStep

section

variable (getValidDatasets : String → Finset String)

/-- One iteration of `get_valid`: the first step fills the set, the next ones intersect it. -/
def getValidStep (datasets : Option (Finset String)) (processingStep : ProcessingStep) :
    Option (Finset String) :=
  let kindDatasets := getValidDatasets processingStep.cacheKind
  match datasets with
  | none => some kindDatasets
  | some datasets => some (datasets ∩ kindDatasets)

def getValid (processingGraph : ProcessingGraph) : List String :=
  match processingGraph.getProcessingStepsRequiredByDatasetViewer.foldl
      (getValidStep getValidDatasets) none with
  | none => []
  | some datasets => datasets.sort (· ≤ ·)

def keepValid (datasets : Finset String) (steps : List ProcessingStep) : Finset String :=
  steps.foldl (fun datasets step => datasets ∩ getValidDatasets step.cacheKind) datasets

theorem foldl_getValidStep_some (steps : List ProcessingStep) (datasets : Finset String) :
    steps.foldl (getValidStep getValidDatasets) (some datasets) =
      some (keepValid getValidDatasets datasets steps) := by
  induction steps generalizing datasets with
  | nil => rfl
  | cons step steps ih => exact ih _

theorem mem_keepValid (steps : List ProcessingStep) (datasets : Finset String) (dataset : String) :
    dataset ∈ keepValid getValidDatasets datasets steps ↔
      dataset ∈ datasets ∧ ∀ step ∈ steps, dataset ∈ getValidDatasets step.cacheKind := by
  induction steps generalizing datasets with
  | nil => simp [keepValid]
  | cons step steps ih =>
    simp only [keepValid, List.foldl_cons] at ih ⊢
    rw [ih, Finset.mem_inter, List.forall_mem_cons]
    tauto

theorem getValid_eq (processingGraph : ProcessingGraph) :
    getValid getValidDatasets processingGraph =
      match processingGraph.getProcessingStepsRequiredByDatasetViewer with
      | [] => []
      | step :: steps =>
        (keepValid getValidDatasets (getValidDatasets step.cacheKind) steps).sort (· ≤ ·) := by
  obtain ⟨_ | ⟨step, steps⟩⟩ := processingGraph
  · rfl
  · simp [getValid, getValidStep, foldl_getValidStep_some]

theorem getValid_sorted (processingGraph : ProcessingGraph) :
    (getValid getValidDatasets processingGraph).Sorted (· < ·) := by
  obtain ⟨_ | ⟨step, steps⟩⟩ := processingGraph
  · exact List.sorted_nil
  · rw [getValid_eq]
    exact Finset.sort_sorted_lt _

theorem mem_getValid (processingGraph : ProcessingGraph) (dataset : String) :
    dataset ∈ getValid getValidDatasets processingGraph ↔
      processingGraph.getProcessingStepsRequiredByDatasetViewer ≠ [] ∧
      ∀ step ∈ processingGraph.getProcessingStepsRequiredByDatasetViewer,
        dataset ∈ getValidDatasets step.cacheKind := by
  obtain ⟨_ | ⟨step, steps⟩⟩ := processingGraph
  · simp [getValid_eq]
  · simp [getValid_eq, mem_keepValid]

theorem foldl_getValidStep_congr {otherValidDatasets : String → Finset String}
    {steps otherSteps : List ProcessingStep}
    (agree : List.Forall₂ (fun step otherStep =>
      getValidDatasets step.cacheKind = otherValidDatasets otherStep.cacheKind) steps otherSteps)
    (datasets : Option (Finset String)) :
    steps.foldl (getValidStep getValidDatasets) datasets =
      otherSteps.foldl (getValidStep otherValidDatasets) datasets := by
  induction agree generalizing datasets with
  | nil => rfl
  | cons same _ ih =>
    simp only [List.foldl_cons, getValidStep, same]
    exact ih _

/-- `get_valid` reads the valid sets only at the cache kinds of the required steps. -/
theorem getValid_congr {otherValidDatasets : String → Finset String}
    {processingGraph otherGraph : ProcessingGraph}
    (agree : List.Forall₂ (fun step otherStep =>
      getValidDatasets step.cacheKind = otherValidDatasets otherStep.cacheKind)
      processingGraph.getProcessingStepsRequiredByDatasetViewer
      otherGraph.getProcessingStepsRequiredByDatasetViewer) :
    getValid getValidDatasets processingGraph = getValid otherValidDatasets otherGraph := by
  unfold getValid
  rw [foldl_getValidStep_congr getValidDatasets agree]

/-- `get_valid` lists, strictly ascending, the datasets valid for every required step. -/
theorem getValid_spec (processingGraph : ProcessingGraph) :
    (getValid getValidDatasets processingGraph).Sorted (· < ·) ∧
    (getValid getValidDatasets processingGraph).Nodup ∧
    (∀ dataset, dataset ∈ getValid getValidDatasets processingGraph ↔
      processingGraph.getProcessingStepsRequiredByDatasetViewer ≠ [] ∧
      ∀ step ∈ processingGraph.getProcessingStepsRequiredByDatasetViewer,
        dataset ∈ getValidDatasets step.cacheKind) ∧
    (processingGraph.getProcessingStepsRequiredByDatasetViewer = [] →
      getValid getValidDatasets processingGraph = []) := by
  refine ⟨getValid_sorted _ _, (getValid_sorted _ _).nodup, mem_getValid _ _, fun empty => ?_⟩
  rw [getValid_eq, empty]

end

end DatasetsServer.Api
