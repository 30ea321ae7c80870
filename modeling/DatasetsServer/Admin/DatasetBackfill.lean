import DatasetsServer.Python.Runtime

namespace DatasetsServer.Admin

/-- What the endpoint calls on a queue `σ`; `backfill` returns the queue it leaves, even when it raised. -/
structure AdminWorld (σ : Type) where
  areValidParameters : List (Option String) → Bool
  authCheck : Except PyException Unit
  getDatasetGitRevision : String → Except PyException (Option String)
  backfill : String → Option String → σ → σ × Except PyException (List String)
  isDatasetOrAdminCustomError : PyException → Bool

section

variable {σ : Type} (world : AdminWorld σ)

end

end DatasetsServer.Admin
