import DatasetsServer.Python.Runtime
import Mathlib.Data.Finset.Dedup

namespace DatasetsServer.Cache

structure CachedResponse where
  kind : String
  dataset : String
  config : Option String
  split : Option String
  httpStatus : Nat
  content : Json

namespace CachedResponse

def key (response : CachedResponse) : String × String × Option String × Option String :=
  (response.kind, response.dataset, response.config, response.split)

/-- `get_response(kind, dataset, config)`: the entry of `kind` for a config, without a split. -/
def matchesQuery (kind dataset config : String) (response : CachedResponse) : Bool :=
  decide (response.key = (kind, dataset, some config, none))

theorem kind_of_matchesQuery {kind dataset config : String} {response : CachedResponse}
    (found : response.matchesQuery kind dataset config = true) : response.kind = kind := by
  simp only [matchesQuery, key, decide_eq_true_eq, Prod.mk.injEq] at found
  exact found.1

end CachedResponse

def UniqueKeys (documents : List CachedResponse) : Prop :=
  (documents.map CachedResponse.key).Nodup

instance (documents : List CachedResponse) : Decidable (UniqueKeys documents) :=
  inferInstanceAs (Decidable (documents.map CachedResponse.key).Nodup)

/-- The cache collection, whose unique index on `(kind, dataset, config, split)` keeps one document per key. -/
@[ext] structure Collection where
  documents : List CachedResponse
  unique : UniqueKeys documents

/-- Modelled from the spec: `get(key) -> entry | NotFound` of the cache store, as `get_response` reads it. -/
def entriesOf (collection : Collection) (dataset config : String) : String → Option CachedResponse :=
  fun kind => collection.documents.find? (CachedResponse.matchesQuery kind dataset config)

/-- Modelled from the spec: `find_valid_keys(kind)`, the datasets with a successful entry of the kind. -/
def getValidDatasets (collection : Collection) (kind : String) : Finset String :=
  ((collection.documents.filter fun response =>
    response.kind == kind && response.httpStatus == HTTPStatus.OK).map CachedResponse.dataset).toFinset

theorem mem_getValidDatasets {collection : Collection} {kind dataset : String} :
    dataset ∈ getValidDatasets collection kind ↔ ∃ response ∈ collection.documents,
      response.kind = kind ∧ response.httpStatus = HTTPStatus.OK ∧ response.dataset = dataset := by
  simp [getValidDatasets, and_assoc]

def getResponse (entries : String → Option CachedResponse) (kind : String) :
    Except PyException CachedResponse :=
  match entries kind with
  | some response => .ok response
  | none => .error .doesNotExist

@[simp] theorem getResponse_some {entries : String → Option CachedResponse} {kind : String}
    {response : CachedResponse} (found : entries kind = some response) :
    getResponse entries kind = .ok response := by
  simp [getResponse, found]

@[simp] theorem getResponse_none {entries : String → Option CachedResponse} {kind : String}
    (missing : entries kind = none) : getResponse entries kind = .error .doesNotExist := by
  simp [getResponse, missing]

end DatasetsServer.Cache
