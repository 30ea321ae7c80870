import DatasetsServer.Cache.SimpleCache
import Mathlib.Data.List.Nodup
import Mathlib.Data.List.Forall2

namespace DatasetsServer.Migration

open Cache

def datasetInfo : String := "/dataset-info"

def datasetInfoUpdated : String := "dataset-info"

def duplicateKeyError : PyException := .other "DuplicateKeyError"

/-- Some dataset, config and split has an entry of kind `fromKind` and one of kind `toKind`. -/
def Collide (fromKind toKind : String) (documents : List CachedResponse) : Prop :=
  ∃ source ∈ documents, ∃ target ∈ documents, source.kind = fromKind ∧ target.kind = toKind ∧
    source.dataset = target.dataset ∧ source.config = target.config ∧ source.split = target.split

section

variable (fromKind toKind : String)

def rename (response : CachedResponse) : CachedResponse :=
  if response.kind = fromKind then { response with kind := toKind } else response

/-- `update_many` past the documents `done`, which the unique index stops at the first new key taken. -/
def updateManyFrom : List CachedResponse → List CachedResponse →
    List CachedResponse × Except PyException Unit
  | done, [] => (done, .ok ())
  | done, response :: todo =>
    if response.kind = fromKind ∧
        (rename fromKind toKind response).key ∈ (done ++ todo).map CachedResponse.key then
      (done ++ response :: todo, .error duplicateKeyError)
    else updateManyFrom (done ++ [rename fromKind toKind response]) todo

theorem uniqueKeys_middle {done todo : List CachedResponse} {response : CachedResponse} :
    UniqueKeys (done ++ response :: todo) ↔
      response.key ∉ (done ++ todo).map CachedResponse.key ∧ UniqueKeys (done ++ todo) := by
  simp only [UniqueKeys, List.map_append, List.map_cons, List.nodup_middle, List.nodup_cons]

theorem updateManyFrom_unique (done todo : List CachedResponse) (unique : UniqueKeys (done ++ todo)) :
    UniqueKeys (updateManyFrom fromKind toKind done todo).1 := by
  induction todo generalizing done with
  | nil => simpa [updateManyFrom] using unique
  | cons response todo ih =>
    rw [updateManyFrom]
    split
    · exact unique
    · rename_i free
      have rest := uniqueKeys_middle.mp unique
      refine ih _ ?_
      rw [List.append_assoc, List.singleton_append, uniqueKeys_middle]
      refine ⟨fun taken => ?_, rest.2⟩
      by_cases matched : response.kind = fromKind
      · exact free ⟨matched, taken⟩
      · rw [rename, if_neg matched] at taken
        exact rest.1 taken

def updateMany (collection : Collection) : Collection × Except PyException Unit :=
  let run := updateManyFrom fromKind toKind [] collection.documents
  (⟨run.1, updateManyFrom_unique fromKind toKind [] _ collection.unique⟩, run.2)

@[simp] theorem updateMany_documents (collection : Collection) :
    (updateMany fromKind toKind collection).1.documents =
      (updateManyFrom fromKind toKind [] collection.documents).1 := rfl

@[simp] theorem updateMany_outcome (collection : Collection) :
    (updateMany fromKind toKind collection).2 =
      (updateManyFrom fromKind toKind [] collection.documents).2 := rfl

/-- A run renames every document it passes, and stops only at one whose new key is taken. -/
theorem updateManyFrom_eq (done todo : List CachedResponse) :
    updateManyFrom fromKind toKind done todo = (done ++ todo.map (rename fromKind toKind), .ok ()) ∨
    ∃ before response after, todo = before ++ response :: after ∧ response.kind = fromKind ∧
      (rename fromKind toKind response).key ∈
        (done ++ before.map (rename fromKind toKind) ++ after).map CachedResponse.key ∧
      updateManyFrom fromKind toKind done todo =
        (done ++ before.map (rename fromKind toKind) ++ response :: after, .error duplicateKeyError) := by
  induction todo generalizing done with
  | nil => exact .inl (by simp [updateManyFrom])
  | cons response todo ih =>
    rw [updateManyFrom]
    split
    · rename_i tripped
      exact .inr ⟨[], response, todo, rfl, tripped.1, by simpa using tripped.2, by simp⟩
    · rcases ih (done ++ [rename fromKind toKind response]) with
        renamed | ⟨before, stop, after, rfl, matched, taken, stopped⟩
      · exact .inl (by simp [renamed])
      · exact .inr ⟨response :: before, stop, after, rfl, matched, by simpa using taken,
          by simp [stopped]⟩

theorem rename_kind_ne (distinct : fromKind ≠ toKind) (response : CachedResponse) :
    (rename fromKind toKind response).kind ≠ fromKind := by
  unfold rename
  split
  · exact Ne.symm distinct
  · assumption

theorem rename_rename (response : CachedResponse) (fresh : response.kind ≠ toKind) :
    rename toKind fromKind (rename fromKind toKind response) = response := by
  cases response
  unfold rename
  split <;> simp_all

theorem updateManyFrom_skip (done before todo : List CachedResponse)
    (unmatched : ∀ response ∈ before, response.kind ≠ fromKind) :
    updateManyFrom fromKind toKind done (before ++ todo) =
      updateManyFrom fromKind toKind (done ++ before) todo := by
  induction before generalizing done with
  | nil => simp
  | cons response before ih =>
    have skipped := unmatched response (List.mem_cons_self _ _)
    rw [List.cons_append, updateManyFrom, if_neg fun tripped => skipped tripped.1, rename,
      if_neg skipped, ih _ fun other member => unmatched other (List.mem_cons_of_mem _ member)]
    simp

theorem updateManyFrom_unmatched (done todo : List CachedResponse)
    (unmatched : ∀ response ∈ todo, response.kind ≠ fromKind) :
    updateManyFrom fromKind toKind done todo = (done ++ todo, .ok ()) := by
  simpa [updateManyFrom] using updateManyFrom_skip fromKind toKind done todo [] unmatched

theorem updateManyFrom_collide (distinct : fromKind ≠ toKind) {source target : CachedResponse}
    (sourceKind : source.kind = fromKind) (taken : target.key = (rename fromKind toKind source).key)
    (done todo : List CachedResponse) (sourceMember : source ∈ todo)
    (targetMember : target ∈ done ++ todo) :
    (updateManyFrom fromKind toKind done todo).2 = .error duplicateKeyError := by
  have targetKind : target.kind = toKind := by
    simpa [rename, sourceKind, CachedResponse.key] using congrArg Prod.fst taken
  induction todo generalizing done with
  | nil => cases sourceMember
  | cons response todo ih =>
    rw [updateManyFrom]
    split
    · rfl
    · rename_i free
      have unrenamed : rename fromKind toKind target = target := by
        rw [rename, if_neg (targetKind ▸ Ne.symm distinct)]
      have targetOther : target = response ∨ target ∈ done ++ todo := by
        rw [List.mem_append, List.mem_cons] at targetMember
        exact (or_left_comm.mp targetMember).imp_right List.mem_append.mpr
      refine ih _ ?_ ?_
      · rcases List.mem_cons.mp sourceMember with rfl | inTodo
        · rcases targetOther with same | inRest
          · exact absurd (sourceKind.symm.trans (same ▸ targetKind)) distinct
          · exact absurd ⟨sourceKind, List.mem_map.mpr ⟨target, inRest, taken⟩⟩ free
        · exact inTodo
      · rcases targetOther with rfl | inRest
        · simp [unrenamed]
        · exact List.mem_append.mpr ((List.mem_append.mp inRest).imp (List.mem_append_left _) id)

theorem collide_of_taken {documents : List CachedResponse} {source target : CachedResponse}
    (sourceMember : source ∈ documents) (targetMember : target ∈ documents)
    (sourceKind : source.kind = fromKind) (taken : target.key = (rename fromKind toKind source).key) :
    Collide fromKind toKind documents := by
  simp only [rename, sourceKind, if_true, CachedResponse.key, Prod.mk.injEq] at taken
  exact ⟨source, sourceMember, target, targetMember, sourceKind, taken.1, taken.2.1.symm,
    taken.2.2.1.symm, taken.2.2.2.symm⟩

theorem updateMany_of_collide (distinct : fromKind ≠ toKind) (collection : Collection)
    (collide : Collide fromKind toKind collection.documents) :
    (updateMany fromKind toKind collection).2 = .error duplicateKeyError := by
  obtain ⟨source, sourceMember, target, targetMember, sourceKind, targetKind, sameDataset,
    sameConfig, sameSplit⟩ := collide
  refine updateManyFrom_collide fromKind toKind distinct sourceKind ?_ [] _ sourceMember targetMember
  simp [rename, sourceKind, CachedResponse.key, targetKind, sameDataset, sameConfig, sameSplit]

theorem updateMany_of_not_collide (collection : Collection)
    (apart : ¬ Collide fromKind toKind collection.documents) :
    (updateMany fromKind toKind collection).1.documents =
        collection.documents.map (rename fromKind toKind) ∧
      (updateMany fromKind toKind collection).2 = .ok () := by
  rcases updateManyFrom_eq fromKind toKind [] collection.documents with
    renamed | ⟨before, stop, after, parts, matched, taken, -⟩
  · simp [renamed]
  · exfalso
    have stopMember : stop ∈ collection.documents := by simp [parts]
    obtain ⟨other, otherMember, otherKey⟩ := List.mem_map.mp taken
    simp only [List.nil_append, List.mem_append] at otherMember
    rcases otherMember with renamedBefore | inAfter
    · obtain ⟨response, member, rfl⟩ := List.mem_map.mp renamedBefore
      have responseMember : response ∈ collection.documents := by simp [parts, member]
      by_cases responseKind : response.kind = fromKind
      · have unique := collection.unique
        rw [parts] at unique
        refine (uniqueKeys_middle.mp unique).1 (List.mem_map.mpr ⟨response, by simp [member], ?_⟩)
        simp only [rename, responseKind, matched, if_true, CachedResponse.key, Prod.mk.injEq,
          true_and] at otherKey ⊢
        exact otherKey
      · rw [rename, if_neg responseKind] at otherKey
        exact apart (collide_of_taken fromKind toKind stopMember responseMember matched otherKey)
    · exact apart (collide_of_taken fromKind toKind stopMember (by simp [parts, inAfter]) matched otherKey)

theorem updateMany_ok {collection : Collection}
    (migrated : (updateMany fromKind toKind collection).2 = .ok ()) :
    (updateMany fromKind toKind collection).1.documents =
      collection.documents.map (rename fromKind toKind) := by
  rw [updateMany_outcome] at migrated
  rcases updateManyFrom_eq fromKind toKind [] collection.documents with
    renamed | ⟨_, _, _, _, _, _, stopped⟩
  · simp [renamed]
  · rw [stopped] at migrated
    cases migrated

def Renamed (response migrated : CachedResponse) : Prop :=
  migrated = response ∨ response.kind = fromKind ∧ migrated = { response with kind := toKind }

theorem renamed_rename (response : CachedResponse) :
    Renamed fromKind toKind response (rename fromKind toKind response) := by
  unfold rename
  split
  · exact .inr ⟨‹_›, rfl⟩
  · exact .inl rfl

theorem updateMany_renamed (collection : Collection) :
    List.Forall₂ (Renamed fromKind toKind) collection.documents
      (updateMany fromKind toKind collection).1.documents := by
  have renamedAll : ∀ documents : List CachedResponse,
      List.Forall₂ (Renamed fromKind toKind) documents (documents.map (rename fromKind toKind)) :=
    fun documents => List.forall₂_map_right_iff.mpr
      (List.forall₂_same.mpr fun response _ => renamed_rename fromKind toKind response)
  rcases updateManyFrom_eq fromKind toKind [] collection.documents with
    renamed | ⟨before, stop, after, parts, -, -, stopped⟩
  · simpa [renamed] using renamedAll collection.documents
  · rw [updateMany_documents, stopped, parts, List.nil_append]
    exact List.rel_append (renamedAll before) (.cons (.inl rfl) (List.forall₂_same.mpr fun _ _ => .inl rfl))

theorem updateMany_idempotent (distinct : fromKind ≠ toKind) (collection : Collection) :
    updateMany fromKind toKind (updateMany fromKind toKind collection).1 =
      updateMany fromKind toKind collection := by
  have unmatched : ∀ documents : List CachedResponse,
      ∀ response ∈ documents.map (rename fromKind toKind), response.kind ≠ fromKind := by
    intro documents response member
    obtain ⟨original, -, rfl⟩ := List.mem_map.mp member
    exact rename_kind_ne fromKind toKind distinct original
  have fixed : updateManyFrom fromKind toKind [] (updateManyFrom fromKind toKind [] collection.documents).1 =
      updateManyFrom fromKind toKind [] collection.documents := by
    rcases updateManyFrom_eq fromKind toKind [] collection.documents with
      renamed | ⟨before, stop, after, -, matched, taken, stopped⟩
    · rw [renamed, updateManyFrom_unmatched fromKind toKind _ _ (by simpa using unmatched _)]
      rfl
    · simp only [stopped, List.nil_append] at taken ⊢
      rw [updateManyFrom_skip fromKind toKind [] _ _ (unmatched before), List.nil_append, updateManyFrom,
        if_pos ⟨matched, taken⟩]
  refine Prod.ext (Collection.ext ?_) ?_ <;> simp only [updateMany_documents, updateMany_outcome, fixed]

theorem updateMany_updateMany (distinct : fromKind ≠ toKind) (collection : Collection)
    (fresh : ∀ response ∈ collection.documents, response.kind ≠ toKind) :
    updateMany toKind fromKind (updateMany fromKind toKind collection).1 = (collection, .ok ()) := by
  obtain ⟨renamedDocuments, -⟩ := updateMany_of_not_collide fromKind toKind collection
    fun ⟨_, _, target, targetMember, _, targetKind, _⟩ => fresh target targetMember targetKind
  have back : ¬ Collide toKind fromKind (updateMany fromKind toKind collection).1.documents := by
    rintro ⟨-, -, target, targetMember, -, targetKind, -⟩
    rw [renamedDocuments] at targetMember
    obtain ⟨response, -, rfl⟩ := List.mem_map.mp targetMember
    exact rename_kind_ne fromKind toKind distinct response targetKind
  obtain ⟨restored, restoredOk⟩ := updateMany_of_not_collide toKind fromKind _ back
  refine Prod.ext (Collection.ext ?_) restoredOk
  rw [restored, renamedDocuments, List.map_map]
  exact (List.map_congr_left fun response member =>
    rename_rename fromKind toKind response (fresh response member)).trans (List.map_id _)

theorem matchesQuery_eq_false {kind dataset config : String} {response : CachedResponse}
    (other : response.kind ≠ kind) : response.matchesQuery kind dataset config = false :=
  Bool.eq_false_iff.mpr fun found => other (CachedResponse.kind_of_matchesQuery found)

theorem find?_renamed {kind dataset config : String} (old : kind ≠ fromKind) (new : kind ≠ toKind)
    {documents migrated : List CachedResponse}
    (renamed : List.Forall₂ (Renamed fromKind toKind) documents migrated) :
    migrated.find? (CachedResponse.matchesQuery kind dataset config) =
      documents.find? (CachedResponse.matchesQuery kind dataset config) := by
  induction renamed with
  | nil => rfl
  | cons same _ ih =>
    rcases same with rfl | ⟨matched, rfl⟩
    · simp only [List.find?_cons, ih]
    · rw [List.find?_cons, List.find?_cons, matchesQuery_eq_false (Ne.symm new),
        matchesQuery_eq_false (matched ▸ Ne.symm old)]
      exact ih

theorem entriesOf_updateMany_other (collection : Collection) (kind dataset config : String)
    (old : kind ≠ fromKind) (new : kind ≠ toKind) :
    entriesOf (updateMany fromKind toKind collection).1 dataset config kind =
      entriesOf collection dataset config kind :=
  find?_renamed fromKind toKind old new (updateMany_renamed fromKind toKind collection)

theorem matchesQuery_rename {dataset config : String} (response : CachedResponse)
    (fresh : response.matchesQuery toKind dataset config = false) :
    (rename fromKind toKind response).matchesQuery toKind dataset config =
      response.matchesQuery fromKind dataset config := by
  cases response
  unfold rename
  split <;> simp_all [CachedResponse.matchesQuery, CachedResponse.key]

theorem find?_map_rename (documents : List CachedResponse) (dataset config : String)
    (fresh : ∀ response ∈ documents, response.matchesQuery toKind dataset config = false) :
    (documents.map (rename fromKind toKind)).find? (CachedResponse.matchesQuery toKind dataset config) =
      (documents.find? (CachedResponse.matchesQuery fromKind dataset config)).map
        (rename fromKind toKind) := by
  rw [List.find?_map]
  induction documents with
  | nil => rfl
  | cons response documents ih =>
    rw [List.forall_mem_cons] at fresh
    simp only [List.find?_cons, Function.comp_apply,
      matchesQuery_rename fromKind toKind response fresh.1]
    split <;> simp_all

end

namespace MigrationCacheUpdateDatasetInfo

def up (collection : Collection) : Collection × Except PyException Unit :=
  updateMany datasetInfo datasetInfoUpdated collection

def down (collection : Collection) : Collection × Except PyException Unit :=
  updateMany datasetInfoUpdated datasetInfo collection

/-- `up` keeps the index, renames all old entries unless one collides, and `down` undoes it on fresh data. -/
theorem up_spec (collection : Collection) :
    UniqueKeys (up collection).1.documents ∧
    List.Forall₂ (fun response migrated => migrated = response ∨
        response.kind = datasetInfo ∧ migrated = { response with kind := datasetInfoUpdated })
      collection.documents (up collection).1.documents ∧
    (¬ Collide datasetInfo datasetInfoUpdated collection.documents →
      (up collection).1.documents = collection.documents.map (rename datasetInfo datasetInfoUpdated) ∧
        (up collection).2 = .ok ()) ∧
    (Collide datasetInfo datasetInfoUpdated collection.documents →
      (up collection).2 = .error duplicateKeyError) ∧
    ((∀ response ∈ collection.documents, response.kind ≠ datasetInfoUpdated) →
      down (up collection).1 = (collection, .ok ())) :=
  ⟨(up collection).1.unique, updateMany_renamed _ _ collection,
    updateMany_of_not_collide _ _ collection, updateMany_of_collide _ _ (by decide) collection,
    updateMany_updateMany _ _ (by decide) collection⟩

def oldOnly : Collection := ⟨[⟨datasetInfo, "dataset", none, none, 200, .obj []⟩], by decide⟩

theorem up_spec_oldOnly :
    (up oldOnly).1.documents = [⟨datasetInfoUpdated, "dataset", none, none, 200, .obj []⟩] ∧
    (up oldOnly).2 = .ok () ∧ down (up oldOnly).1 = (oldOnly, .ok ()) :=
  have spec := up_spec oldOnly
  have apart : ¬ Collide datasetInfo datasetInfoUpdated oldOnly.documents := by
    simp [Collide, oldOnly, datasetInfo, datasetInfoUpdated]
  ⟨(spec.2.2.1 apart).1.trans rfl, (spec.2.2.1 apart).2,
    spec.2.2.2.2 (by simp [oldOnly, datasetInfo, datasetInfoUpdated])⟩

def bothKinds : Collection :=
  ⟨[⟨datasetInfo, "dataset", none, none, 200, .obj []⟩,
    ⟨datasetInfoUpdated, "dataset", none, none, 200, .obj []⟩], by decide⟩

example : up bothKinds = (bothKinds, .error duplicateKeyError) := rfl

def newOnly : Collection := ⟨[⟨datasetInfoUpdated, "dataset", none, none, 200, .obj []⟩], by decide⟩

theorem down_up_newOnly : (up newOnly).2 = .ok () ∧ (down (up newOnly).1).1 ≠ newOnly :=
  ⟨rfl, fun same => absurd (congrArg (fun collection => collection.documents.map CachedResponse.kind) same)
    (by decide)⟩

theorem up_idempotent (collection : Collection) : up (up collection).1 = up collection :=
  updateMany_idempotent _ _ (by decide) collection

/-- What the worker reads after `up`: the renamed old entry once it completed, other kinds in any case. -/
theorem entriesOf_up (collection : Collection) (dataset config : String)
    (fresh : ∀ response ∈ collection.documents,
      response.matchesQuery datasetInfoUpdated dataset config = false) :
    ((up collection).2 = .ok () →
      entriesOf (up collection).1 dataset config datasetInfoUpdated =
        (entriesOf collection dataset config datasetInfo).map
          (fun response => { response with kind := datasetInfoUpdated }) ∧
      entriesOf (up collection).1 dataset config datasetInfo = none) ∧
    ∀ kind, kind ≠ datasetInfo → kind ≠ datasetInfoUpdated →
      entriesOf (up collection).1 dataset config kind = entriesOf collection dataset config kind := by
  refine ⟨fun migrated => ?_, fun kind old new =>
    entriesOf_updateMany_other _ _ collection kind dataset config old new⟩
  have renamedDocuments := updateMany_ok _ _ migrated
  unfold entriesOf
  rw [up, renamedDocuments]
  refine ⟨?_, List.find?_eq_none.mpr fun migratedResponse member found => ?_⟩
  · rw [find?_map_rename _ _ _ dataset config fresh]
    cases found : collection.documents.find? (CachedResponse.matchesQuery datasetInfo dataset config) with
    | none => rfl
    | some response =>
      have old := CachedResponse.kind_of_matchesQuery (List.find?_some found)
      simp [rename, old]
  · obtain ⟨response, -, rfl⟩ := List.mem_map.mp member
    exact rename_kind_ne datasetInfo datasetInfoUpdated (by decide) response (CachedResponse.kind_of_matchesQuery (by simpa using found))

def oldConfigEntry : Collection :=
  ⟨[⟨datasetInfo, "dataset", some "config", none, 200, .obj []⟩], by decide⟩

theorem entriesOf_up_oldConfigEntry :
    entriesOf (up oldConfigEntry).1 "dataset" "config" datasetInfoUpdated =
      some ⟨datasetInfoUpdated, "dataset", some "config", none, 200, .obj []⟩ ∧
    entriesOf (up oldConfigEntry).1 "dataset" "config" datasetInfo = none :=
  have found := (entriesOf_up oldConfigEntry "dataset" "config" (by decide)).1 rfl
  ⟨found.1.trans rfl, found.2⟩

end MigrationCacheUpdateDatasetInfo

end DatasetsServer.Migration
