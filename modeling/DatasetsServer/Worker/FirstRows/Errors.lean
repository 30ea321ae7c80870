import DatasetsServer.Python.Runtime

namespace DatasetsServer.Worker.FirstRows

/-- `SplitFirstRowsFromStreamingJobRunnerError(message, status_code, code, cause, disclose_cause)`. -/
def splitFirstRowsFromStreamingJobRunnerError (message : String) (statusCode : Nat) (code : String)
    (cause : Option PyException) (discloseCause : Bool) : PyException :=
  .jobRunnerError message statusCode code cause discloseCause

def infoError (message : String) (cause : Option PyException) : PyException :=
  splitFirstRowsFromStreamingJobRunnerError message HTTPStatus.INTERNAL_SERVER_ERROR
    "InfoError" cause true

def featuresError (message : String) (cause : Option PyException) : PyException :=
  splitFirstRowsFromStreamingJobRunnerError message HTTPStatus.INTERNAL_SERVER_ERROR
    "FeaturesError" cause true

def streamingRowsError (message : String) (cause : Option PyException) : PyException :=
  splitFirstRowsFromStreamingJobRunnerError message HTTPStatus.INTERNAL_SERVER_ERROR
    "StreamingRowsError" cause true

def normalRowsError (message : String) (cause : Option PyException) : PyException :=
  splitFirstRowsFromStreamingJobRunnerError message HTTPStatus.INTERNAL_SERVER_ERROR
    "NormalRowsError" cause true

def rowsPostProcessingError (message : String) (cause : Option PyException) : PyException :=
  splitFirstRowsFromStreamingJobRunnerError message HTTPStatus.INTERNAL_SERVER_ERROR
    "RowsPostProcessingError" cause false

def tooManyColumnsError (message : String) (cause : Option PyException) : PyException :=
  splitFirstRowsFromStreamingJobRunnerError message HTTPStatus.INTERNAL_SERVER_ERROR
    "TooManyColumnsError" cause true

def tooBigContentError (message : String) (cause : Option PyException) : PyException :=
  splitFirstRowsFromStreamingJobRunnerError message HTTPStatus.INTERNAL_SERVER_ERROR
    "TooBigContentError" cause false

def previousStepStatusError (message : String) (cause : Option PyException) : PyException :=
  splitFirstRowsFromStreamingJobRunnerError message HTTPStatus.INTERNAL_SERVER_ERROR
    "PreviousStepStatusError" cause false

def previousStepFormatError (message : String) (cause : Option PyException) : PyException :=
  splitFirstRowsFromStreamingJobRunnerError message HTTPStatus.INTERNAL_SERVER_ERROR
    "PreviousStepFormatError" cause false

/-- `ConfigNotFoundError` of `worker.job_runner`, known here by its name, message and cause. -/
def configNotFoundError (message : String) (cause : Option PyException) : PyException :=
  .custom "ConfigNotFoundError" message cause

/-- `SplitNotFoundError` of `worker.job_runner`, known here by its name and message. -/
def splitNotFoundError (message : String) : PyException :=
  .custom "SplitNotFoundError" message none

@[simp] theorem splitFirstRowsFromStreamingJobRunnerError_name (message : String) (statusCode : Nat)
    (code : String) (cause : Option PyException) (discloseCause : Bool) :
    (splitFirstRowsFromStreamingJobRunnerError message statusCode code cause discloseCause).name =
      code := rfl

@[simp] theorem splitNotFoundError_name (message : String) :
    (splitNotFoundError message).name = "SplitNotFoundError" := rfl

end DatasetsServer.Worker.FirstRows
