import DatasetsServer.Python.Runtime

namespace DatasetsServer.PreviewBackend

structure Config (Split Info : Type) where
  configName : String
  splits : List Split
  info : Info

def status404Error (message : String) (cause : Option PyException) : PyException :=
  .custom "Status404Error" message cause

def status400Error (message : String) (cause : Option PyException) : PyException :=
  .custom "Status400Error" message cause

/-- `isinstance(err, FileNotFoundError)`, true of its subclasses such as `EmptyDatasetError`. -/
def isFileNotFoundError : PyException → Bool
  | .fileNotFoundError _ => true
  | _ => false

/-- The datasets library, the `info` and `split` models, and `DEFAULT_CONFIG_NAME`. -/
structure Backend (Split Info : Type) where
  getDatasetConfigNames : String → Except PyException (List String)
  getInfo : String → String → Except PyException Info
  getSplits : String → String → Info → Except PyException (List Split)
  DEFAULT_CONFIG_NAME : String

section

variable {Split Info : Type}

/-- `filter_configs`, given the Python value passed as `config_name`, `None` being `null`. -/
def filterConfigs (configs : List (Config Split Info)) :
    Json → Except PyException (List (Config Split Info))
  | .null => .ok configs
  | .str configName =>
    let configs := configs.filter fun config => config.configName == configName
    if configs.isEmpty then .error (status404Error "config not found in dataset" none)
    else .ok configs
  | _ => .error (.typeError (some "config argument should be a string"))

def getConfig (backend : Backend Split Info) (datasetName : String) :
    Json → Except PyException (Config Split Info)
  | .str configName => do
    let info ← backend.getInfo datasetName configName
    let splits ← backend.getSplits datasetName configName info
    pure ⟨configName, splits, info⟩
  | _ => .error (.typeError (some "config_name argument should be a string"))

def getConfigNames (backend : Backend Split Info) (datasetName : String) :
    Except PyException (List String) :=
  match backend.getDatasetConfigNames datasetName with
  | .ok [] => .ok [backend.DEFAULT_CONFIG_NAME]
  | .ok configNames => .ok configNames
  | .error err =>
    if isFileNotFoundError err then
      .error (status404Error "The dataset could not be found." (some err))
    else .error (status400Error "The config names could not be parsed from the dataset." (some err))

def getConfigs (backend : Backend Split Info) (datasetName : String) :
    Except PyException (List (Config Split Info)) := do
  let configNames ← getConfigNames backend datasetName
  configNames.mapM fun configName => getConfig backend datasetName (.str configName)

end

end DatasetsServer.PreviewBackend
