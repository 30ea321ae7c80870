import Mathlib.Data.String.Basic

namespace DatasetsServer

/-- A JSON value as the worker reads it; objects keep their keys in insertion order, as a dict. -/
inductive Json where
  | null
  | bool (value : Bool)
  | num (value : Int)
  | str (value : String)
  | arr (items : List Json)
  | obj (fields : List (String × Json))

/-- The exceptions the model raises or catches; one caught with its subclasses keeps the subclass's name. -/
inductive PyException where
  | connectionError (name : String)
  | fileNotFoundError (name : String)
  | keyError (key : String)
  | typeError (message : Option String)
  | indexError
  | valueError (message : String)
  | doesNotExist
  | runtimeError (message : String) (cause : Option PyException)
  | jobRunnerError (message : String) (statusCode : Nat) (code : String)
      (cause : Option PyException) (discloseCause : Bool)
  | custom (name : String) (message : String) (cause : Option PyException)
  | other (name : String)

namespace PyException

def isConnectionError : PyException → Bool
  | .connectionError _ => true
  | _ => false

def name : PyException → String
  | .connectionError name => name
  | .fileNotFoundError name => name
  | .keyError _ => "KeyError"
  | .typeError _ => "TypeError"
  | .indexError => "IndexError"
  | .valueError _ => "ValueError"
  | .doesNotExist => "DoesNotExist"
  | .runtimeError _ _ => "RuntimeError"
  | .jobRunnerError _ _ code _ _ => code
  | .custom name _ _ => name
  | .other name => name

end PyException

def raised {α : Type} : Except PyException α → Option String
  | .ok _ => none
  | .error e => some e.name

@[simp] theorem raised_error {α : Type} (e : PyException) :
    raised (.error e : Except PyException α) = some e.name := rfl

/-- `if condition: raise error`. -/
def raiseIf (condition : Prop) [Decidable condition] (error : PyException) :
    Except PyException Unit :=
  if condition then .error error else .ok ()

theorem raiseIf_ok {condition : Prop} [Decidable condition] {error : PyException} {u : Unit}
    (passed : raiseIf condition error = .ok u) : ¬ condition := by
  intro holds
  simp [raiseIf, holds] at passed

theorem raiseIf_error {condition : Prop} [Decidable condition] {error e : PyException}
    (failed : raiseIf condition error = .error e) : e = error := by
  by_cases holds : condition <;> simp [raiseIf, holds] at failed
  exact failed.symm

section

variable {α β : Type} {f : α → Except PyException β}

theorem bind_ok {x : Except PyException α} {g : α → Except PyException β} {b : β}
    (done : x >>= g = .ok b) : ∃ a, x = .ok a ∧ g a = .ok b := by
  cases x with
  | error e => cases done
  | ok a => exact ⟨a, rfl, done⟩

theorem bind_error {x : Except PyException α} {g : α → Except PyException β} {e : PyException}
    (failed : x >>= g = .error e) : x = .error e ∨ ∃ a, x = .ok a ∧ g a = .error e := by
  cases x with
  | error e' => exact .inl (congrArg Except.error (Except.error.inj failed))
  | ok a => exact .inr ⟨a, rfl, failed⟩

theorem mapError_ok {x : Except PyException α} {wrap : PyException → PyException} {a : α}
    (done : x.mapError wrap = .ok a) : x = .ok a := by
  cases x <;> simp_all [Except.mapError]

theorem mapError_error {x : Except PyException α} {wrap : PyException → PyException}
    {e : PyException} (failed : x.mapError wrap = .error e) : ∃ cause, e = wrap cause := by
  cases x with
  | error cause => exact ⟨cause, (Except.error.inj failed).symm⟩
  | ok a => cases failed

theorem mapM_ok {xs : List α} {ys : List β} (done : xs.mapM f = .ok ys) :
    List.Forall₂ (fun x y => f x = .ok y) xs ys := by
  induction xs generalizing ys with
  | nil => cases done; exact .nil
  | cons x xs ih =>
    simp only [List.mapM_cons] at done
    cases hx : f x <;> cases hxs : xs.mapM f <;>
      simp only [hx, hxs, bind, Except.bind, pure, Except.pure, Except.ok.injEq, reduceCtorEq] at done
    subst done
    exact .cons hx (ih hxs)

theorem mapM_ok_mem {xs : List α} {ys : List β} (done : xs.mapM f = .ok ys) {y : β}
    (member : y ∈ ys) : ∃ x ∈ xs, f x = .ok y := by
  have pairs := mapM_ok done
  clear done
  induction pairs with
  | nil => cases member
  | cons first _ ih =>
    rcases List.mem_cons.mp member with rfl | member
    · exact ⟨_, List.mem_cons_self _ _, first⟩
    · obtain ⟨x, within, result⟩ := ih member
      exact ⟨x, List.mem_cons_of_mem _ within, result⟩

theorem mapM_error {xs : List α} {e : PyException} (failed : xs.mapM f = .error e) :
    ∃ x ∈ xs, f x = .error e := by
  induction xs with
  | nil => cases failed
  | cons x xs ih =>
    simp only [List.mapM_cons] at failed
    cases hx : f x <;> cases hxs : xs.mapM f <;>
      simp only [hx, hxs, bind, Except.bind, pure, Except.pure, Except.error.injEq,
        reduceCtorEq] at failed
    · exact ⟨x, List.mem_cons_self _ _, failed ▸ hx⟩
    · exact ⟨x, List.mem_cons_self _ _, failed ▸ hx⟩
    · obtain ⟨y, member, hy⟩ := ih (failed ▸ hxs)
      exact ⟨y, List.mem_cons_of_mem _ member, hy⟩

end

namespace HTTPStatus

def OK : Nat := 200
def INTERNAL_SERVER_ERROR : Nat := 500

end HTTPStatus

namespace Json

def getItem : Json → String → Except PyException Json
  | .obj fields, key =>
    match fields.lookup key with
    | some value => .ok value
    | none => .error (.keyError key)
  | _, _ => .error (.typeError none)

/-- The items a `for` loop visits: a list its items, a dict its keys, a string its characters. -/
def iter : Json → Except PyException (List Json)
  | .arr items => .ok items
  | .obj fields => .ok (fields.map fun field => .str field.1)
  | .str value => .ok (value.data.map fun c => .str (String.singleton c))
  | _ => .error (.typeError none)

def eqStr : Json → String → Bool
  | .str value, text => value == text
  | _, _ => false

@[simp] theorem iter_arr (items : List Json) : (Json.arr items).iter = .ok items := rfl

@[simp] theorem eqStr_str (value text : String) : (Json.str value).eqStr text = (value == text) := rfl

theorem eqStr_iff {value : Json} {text : String} : value.eqStr text = true ↔ value = .str text := by
  cases value <;> simp [eqStr]

theorem iter_ok {value : Json} {items : List Json} (iterating : value.iter = .ok items) :
    value = .arr items ∨ ∀ item ∈ items, ∃ text, item = .str text := by
  cases value <;> simp only [iter, Except.ok.injEq, reduceCtorEq] at iterating <;> subst iterating
  case arr => exact .inl rfl
  case str text =>
    refine .inr fun item member => ?_
    obtain ⟨c, -, rfl⟩ := List.mem_map.mp member
    exact ⟨_, rfl⟩
  case obj fields =>
    refine .inr fun item member => ?_
    obtain ⟨field, -, rfl⟩ := List.mem_map.mp member
    exact ⟨_, rfl⟩

theorem iter_error {value : Json} {e : PyException} (failed : value.iter = .error e) :
    e = .typeError none := by
  cases value <;> simp only [iter, Except.error.injEq, reduceCtorEq] at failed <;> exact failed.symm

@[simp] theorem getItem_str (text key : String) :
    (Json.str text).getItem key = .error (.typeError none) := rfl

theorem getItem_error {value : Json} {key : String} {e : PyException}
    (failed : value.getItem key = .error e) : e = .keyError key ∨ e = .typeError none := by
  cases value <;> simp only [getItem, Except.error.injEq] at failed
  case obj fields =>
    cases found : fields.lookup key <;> simp only [found, reduceCtorEq, Except.error.injEq] at failed
    exact .inl failed.symm
  all_goals exact .inr failed.symm

end Json

end DatasetsServer
