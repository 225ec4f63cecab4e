import ProxyChain.Session.Close
import Mathlib.Tactic.Common

/-!
# What closing does

Taking a session down makes one call for each task, in their order and whatever fails, and the report
has an entry for each call that failed and no other (`CarriedOut`). A session that is closed stays as it
is.
-/

namespace ProxyChain

variable {ω : Type} {env : Environment ω} {r : Run ω}

/-- The call of an event that failed, with the fault. -/
def Event.failure? (e : Event) : Option (Call × String) :=
  match e.outcome with
  | .ok _ => none
  | .error fault => some (e.call, fault)

namespace Session

/-- Tasks were carried out, one call each in their order, and those that failed were noted down. -/
structure CarriedOut (tasks : List TeardownTask) (r : Run ω) (failures : List TeardownFailure)
    (events : List Event) (r' : Run ω) : Prop where
  trace : r'.trace = r.trace ++ events
  calls : events.map Event.call = tasks.map TeardownTask.call
  failures : failures.map (fun f => (f.task.call, f.fault)) = events.filterMap Event.failure?

/-- Nothing else is done. -/
lemma CarriedOut.exists_task {tasks : List TeardownTask} {r r' : Run ω}
    {failures : List TeardownFailure} {events : List Event}
    (done : CarriedOut tasks r failures events r') {e : Event} (mem : e ∈ events) :
    ∃ task ∈ tasks, task.call = e.call :=
  List.mem_map.1 (done.calls ▸ List.mem_map_of_mem mem)

/-- The calls that take a session down, group by group. -/
lemma map_call_teardown (s : Session) :
    s.teardown.map TeardownTask.call =
      s.externals.map Call.closeExternal ++ s.cacheFiles.map Call.deleteFile
        ++ (if s.stage = .unconfigured then [] else [.closeHelpers])
        ++ if s.coreLoaded then [.closeCore] else [] := by
  unfold teardown
  rw [List.map_append, List.map_append, List.map_append, List.map_map, List.map_map,
    apply_ite (List.map _), apply_ite (List.map _)]
  rfl

/-- The first of several tasks is carried out, then the others, whether it failed or not. -/
lemma carryOut_cons (env : Environment ω) (task : TeardownTask) (tasks : List TeardownTask)
    (r : Run ω) :
    carryOut env (task :: tasks) r =
      (match (r.perform env task.call).1 with
        | .ok _ => (carryOut env tasks (r.perform env task.call).2).1
        | .error fault => ⟨task, fault⟩ :: (carryOut env tasks (r.perform env task.call).2).1,
      (carryOut env tasks (r.perform env task.call).2).2) := by
  cases step : r.perform env task.call with
  | mk outcome r' => cases outcome <;> simp only [carryOut, step]

/-- All tasks are carried out, and the session is left alone. -/
lemma carriedOut_carryOut (env : Environment ω) (tasks : List TeardownTask) (r : Run ω) :
    (∃ events, CarriedOut tasks r (carryOut env tasks r).1 events (carryOut env tasks r).2) ∧
      (carryOut env tasks r).2.session = r.session := by
  induction tasks generalizing r with
  | nil => exact ⟨⟨[], (List.append_nil _).symm, rfl, rfl⟩, rfl⟩
  | cons task tasks ih =>
    obtain ⟨⟨events, done⟩, session⟩ := ih (r.perform env task.call).2
    rw [carryOut_cons]
    refine ⟨⟨⟨task.call, (r.perform env task.call).1⟩ :: events, ?_, ?_, ?_⟩, session⟩
    · exact done.trace.trans (List.append_assoc r.trace [_] events)
    · rw [List.map_cons, List.map_cons, done.calls]
    · -- Whether the first task failed shows in the failures alone.
      cases outcome : (r.perform env task.call).1 with
      | ok reply => exact done.failures
      | error fault => exact congrArg ((task.call, fault) :: ·) done.failures

/-- A session that is not closed is taken down and then closed. -/
lemma carriedOut_close (env : Environment ω) (opened : r.session.stage ≠ .closed) :
    (∃ events, CarriedOut r.session.teardown r (close env r).1.failures events (close env r).2) ∧
      (close env r).2.session = r.session.closed := by
  obtain ⟨⟨events, done⟩, session⟩ := carriedOut_carryOut env r.session.teardown r
  unfold close
  rw [if_neg opened]
  exact ⟨⟨events, done.trace, done.calls, done.failures⟩, congrArg Session.closed session⟩

/-- A session that is closed stays as it is, and there is nothing to report. -/
lemma close_of_closed (env : Environment ω) (closed : r.session.stage = .closed) :
    close env r = ({}, r) := by
  unfold close
  rw [if_pos closed]

end Session

end ProxyChain
