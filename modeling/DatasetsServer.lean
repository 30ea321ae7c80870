import DatasetsServer.Python.Runtime
import DatasetsServer.Cache.SimpleCache
import DatasetsServer.Api.Valid
import DatasetsServer.Migration.CacheDatasetInfo
import DatasetsServer.Migration.Readers
import DatasetsServer.Worker.FirstRows.Retry
import DatasetsServer.Worker.FirstRows.Errors
import DatasetsServer.Worker.FirstRows.Upstream
import DatasetsServer.Worker.FirstRows.Rows
import DatasetsServer.Worker.FirstRows.Compute
import DatasetsServer.Worker.SplitNamesFromStreaming
import DatasetsServer.PreviewBackend.Config
import DatasetsServer.Admin.DatasetBackfill
