import DatasetsServer.Python.Runtime

namespace DatasetsServer.Worker.FirstRows

def SLEEPS : List Nat := [1, 7, 70, 7 * 60, 70 * 60]

def MAX_ATTEMPTS : Nat := SLEEPS.length

/-- What a call of the decorated function does that its caller can observe, in order. -/
inductive Event where
  | sleep (duration : Nat)
  | call (attempt : Nat)

structure Run (α : Type) where
  events : List Event
  result : Except PyException α

section

variable {α : Type} (func : Nat → Except PyException α)

def giveUp (attempt : Nat) (lastErr : Option PyException) : PyException :=
  .runtimeError ("Give up after " ++ toString attempt ++ " attempts with ConnectionError") lastErr

/-- The `while` loop of `decorator` from `attempt` on; `func k` is what the `k`-th call does. -/
def decoratorFrom (attempt : Nat) (lastErr : Option PyException) : Run α :=
  if attempt < MAX_ATTEMPTS then
    match SLEEPS[attempt]? with
    | none => ⟨[], .error .indexError⟩
    | some duration =>
      match func attempt with
      | .ok value => ⟨[.sleep duration, .call attempt], .ok value⟩
      | .error err =>
        if err.isConnectionError then
          let rest := decoratorFrom (attempt + 1) (some err)
          ⟨.sleep duration :: .call attempt :: rest.events, rest.result⟩
        else ⟨[.sleep duration, .call attempt], .error err⟩
  else ⟨[], .error (giveUp attempt lastErr)⟩
termination_by MAX_ATTEMPTS - attempt

def retry : Run α := decoratorFrom func 0 none

def raisesConnectionError (attempt : Nat) : Bool :=
  match func attempt with
  | .ok _ => false
  | .error err => err.isConnectionError

def errorOf : Except PyException α → Option PyException
  | .ok _ => none
  | .error err => some err

def callCount : Nat :=
  match (List.range MAX_ATTEMPTS).find? (fun attempt => !raisesConnectionError func attempt) with
  | some attempt => attempt + 1
  | none => MAX_ATTEMPTS

end

def sleepsAndCalls (first count : Nat) : List Event :=
  (((SLEEPS.drop first).take count).enumFrom first).flatMap
    fun step => [.sleep step.2, .call step.1]

theorem sleepsAndCalls_zero (first : Nat) : sleepsAndCalls first 0 = [] := rfl

theorem sleepsAndCalls_succ {first duration : Nat} (count : Nat)
    (at_first : SLEEPS[first]? = some duration) :
    sleepsAndCalls first (count + 1) =
      .sleep duration :: .call first :: sleepsAndCalls (first + 1) count := by
  have bound : first < SLEEPS.length := (List.getElem?_eq_some_iff.mp at_first).1
  rw [sleepsAndCalls, List.drop_eq_getElem_cons bound, List.getElem?_eq_getElem bound] at *
  cases at_first
  rfl

def sleptSeconds : List Event → Nat
  | [] => 0
  | .sleep duration :: events => duration + sleptSeconds events
  | .call _ :: events => sleptSeconds events

theorem getElem?_SLEEPS {attempt : Nat} (bound : attempt < MAX_ATTEMPTS) :
    ∃ duration, SLEEPS[attempt]? = some duration :=
  ⟨_, List.getElem?_eq_getElem bound⟩

section

variable {α : Type} (func : Nat → Except PyException α)

theorem decoratorFrom_max (lastErr : Option PyException) :
    decoratorFrom func MAX_ATTEMPTS lastErr = ⟨[], .error (giveUp MAX_ATTEMPTS lastErr)⟩ := by
  rw [decoratorFrom]
  simp

theorem decoratorFrom_stop {attempt duration : Nat} (lastErr : Option PyException)
    (bound : attempt < MAX_ATTEMPTS) (at_attempt : SLEEPS[attempt]? = some duration)
    (stop : raisesConnectionError func attempt = false) :
    decoratorFrom func attempt lastErr = ⟨[.sleep duration, .call attempt], func attempt⟩ := by
  rw [decoratorFrom, if_pos bound]
  simp only [at_attempt]
  unfold raisesConnectionError at stop
  cases h : func attempt <;> simp_all

theorem decoratorFrom_retry {attempt duration : Nat} {err : PyException}
    (lastErr : Option PyException) (bound : attempt < MAX_ATTEMPTS)
    (at_attempt : SLEEPS[attempt]? = some duration) (failed : func attempt = .error err)
    (connection : err.isConnectionError = true) :
    decoratorFrom func attempt lastErr =
      ⟨.sleep duration :: .call attempt :: (decoratorFrom func (attempt + 1) (some err)).events,
        (decoratorFrom func (attempt + 1) (some err)).result⟩ := by
  rw [decoratorFrom, if_pos bound, at_attempt]
  simp only [failed, connection, if_true]

/-- The calls up to the first without a `ConnectionError` decide the result; running out gives up. -/
theorem decoratorFrom_spec (count attempt : Nat) (lastErr : Option PyException)
    (remaining : attempt + count = MAX_ATTEMPTS) :
    decoratorFrom func attempt lastErr =
      match (List.range' attempt count).find? (fun k => !raisesConnectionError func k) with
      | some k => ⟨sleepsAndCalls attempt (k + 1 - attempt), func k⟩
      | none => ⟨sleepsAndCalls attempt count, .error (giveUp MAX_ATTEMPTS
          (if count = 0 then lastErr else errorOf (func (MAX_ATTEMPTS - 1))))⟩ := by
  induction count generalizing attempt lastErr with
  | zero =>
    subst remaining
    simp [decoratorFrom_max, sleepsAndCalls_zero]
  | succ count ih =>
    have bound : attempt < MAX_ATTEMPTS := by omega
    obtain ⟨duration, at_attempt⟩ := getElem?_SLEEPS bound
    cases stop : raisesConnectionError func attempt
    · rw [decoratorFrom_stop func lastErr bound at_attempt stop]
      simp [List.range'_succ, stop, sleepsAndCalls_succ 0 at_attempt, sleepsAndCalls_zero]
    · obtain ⟨err, failed, connection⟩ : ∃ err, func attempt = .error err ∧
          err.isConnectionError = true := by
        unfold raisesConnectionError at stop
        split at stop
        · cases stop
        · exact ⟨_, ‹_›, stop⟩
      rw [decoratorFrom_retry func lastErr bound at_attempt failed connection,
        ih (attempt + 1) (some err) (by omega)]
      simp only [List.range'_succ, List.find?_cons, stop, Bool.not_true]
      cases found : (List.range' (attempt + 1) count).find? (fun k => !raisesConnectionError func k) with
      | some k =>
        have later : attempt + 1 ≤ k := (List.mem_range'_1.mp (List.mem_of_find?_eq_some found)).1
        dsimp only
        rw [show k + 1 - attempt = k - attempt + 1 by omega, sleepsAndCalls_succ _ at_attempt,
          show k + 1 - (attempt + 1) = k - attempt by omega]
      | none =>
        dsimp only
        rw [sleepsAndCalls_succ _ at_attempt]
        cases count with
        | zero =>
          have last : attempt = MAX_ATTEMPTS - 1 := by omega
          simp [← last, failed, errorOf]
        | succ count => rfl

theorem retry_first (stop : raisesConnectionError func 0 = false) :
    retry func = ⟨[.sleep 1, .call 0], func 0⟩ :=
  decoratorFrom_stop func none (by decide) rfl stop

theorem retry_result (result : Except PyException α) (finished : (retry func).result = result) :
    (∃ attempt < MAX_ATTEMPTS, func attempt = result) ∨
      ∃ lastErr, result = .error (giveUp MAX_ATTEMPTS lastErr) := by
  have run := decoratorFrom_spec func MAX_ATTEMPTS 0 none (by omega)
  unfold retry at finished
  rw [run] at finished
  split at finished
  · rename_i attempt found
    exact .inl ⟨attempt, (List.mem_range'_1.mp (List.mem_of_find?_eq_some found)).2, finished⟩
  · exact .inr ⟨_, finished.symm⟩

/-- A run of `retry` sleeps at most 4698 s, and that long when all five calls raise `ConnectionError`. -/
theorem sleptSeconds_retry :
    sleptSeconds (retry func).events ≤ 4698 ∧
      ((∀ attempt < MAX_ATTEMPTS, raisesConnectionError func attempt = true) →
        sleptSeconds (retry func).events = 4698) := by
  have run := decoratorFrom_spec func MAX_ATTEMPTS 0 none (by omega)
  unfold retry
  rw [run]
  split <;> dsimp only
  · rename_i attempt found
    have bound : attempt < 5 := (List.mem_range'_1.mp (List.mem_of_find?_eq_some found)).2
    refine ⟨?_, fun all => ?_⟩
    · obtain rfl | rfl | rfl | rfl | rfl : attempt = 0 ∨ attempt = 1 ∨ attempt = 2 ∨ attempt = 3 ∨
          attempt = 4 := by omega
      all_goals decide
    · have stop := List.find?_some found
      rw [all attempt bound] at stop
      cases stop
  · exact ⟨by decide, fun _ => by decide⟩

/-- `retry` calls once to five times after `SLEEPS[i]` and ends as the first call without a `ConnectionError`. -/
theorem retry_spec :
    1 ≤ callCount func ∧ callCount func ≤ MAX_ATTEMPTS ∧
    (retry func).events = sleepsAndCalls 0 (callCount func) ∧
    (∀ attempt < callCount func - 1, raisesConnectionError func attempt = true) ∧
    (retry func).result =
      if ∀ attempt < MAX_ATTEMPTS, raisesConnectionError func attempt = true then
        .error (giveUp MAX_ATTEMPTS (errorOf (func (MAX_ATTEMPTS - 1))))
      else func (callCount func - 1) := by
  have run := decoratorFrom_spec func MAX_ATTEMPTS 0 none (by omega)
  rw [← List.range_eq_range'] at run
  unfold retry callCount
  split
  · rename_i first found
    rw [run, found]
    obtain ⟨stop, bound, earlier⟩ := List.find?_range_eq_some.mp found
    simp only [List.mem_range, Bool.not_eq_eq_eq_not, Bool.not_true] at stop bound earlier
    refine ⟨by omega, by omega, rfl, fun attempt below => ?_, ?_⟩
    · simpa using earlier attempt (by omega)
    · have not_all : ¬ ∀ attempt < MAX_ATTEMPTS, raisesConnectionError func attempt = true :=
        fun all => by simp [all first bound] at stop
      rw [if_neg not_all]
      rfl
  · rename_i none_found
    have all : ∀ attempt < MAX_ATTEMPTS, raisesConnectionError func attempt = true := by
      simpa using List.find?_range_eq_none.mp none_found
    rw [run, none_found]
    refine ⟨by decide, le_refl _, rfl, fun attempt below => all attempt (by omega), ?_⟩
    rw [if_pos all]
    rfl

end

end DatasetsServer.Worker.FirstRows
