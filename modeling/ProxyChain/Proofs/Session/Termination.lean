import ProxyChain.Proofs.Session.Lifetime

/-!
# When the process ends itself

A timeline watches a session from its beginning: it notes when the core failed to close and under which
policy, and the times at which the process was ended, which a scheduled end allows from its deadline on
(`Timeline`). However long the session lives and whatever fails, an end is scheduled exactly for a core
that failed to close under a policy that is not primary, so that there is one at most and it never comes
before its deadline (`Timeline.ended`).
-/

namespace ProxyChain

open SessionM

variable {ω : Type} {env : Environment ω} {r r' : Run ω} {events : List Event}

/-- Whether a core was to be closed and failed to. -/
def Event.coreFailed (e : Event) : Bool := decide (e.call = .closeCore) && !e.succeeded

/-- A core that failed to close. -/
structure CoreFailure where
  time : Nat
  /-- The policy that the session was under. -/
  policy : ShutdownPolicy
  deriving DecidableEq

/-- When the process has to end itself for it. -/
def CoreFailure.deadline? (f : CoreFailure) : Option Nat :=
  if f.policy.isPrimary then none else some (f.time + f.policy.delayMs)

/-- The core that failed to close in a step, which was the last thing to be done. -/
def Run.coreFailure? (env : Environment ω) (r r' : Run ω) : Option CoreFailure :=
  ((r'.trace.drop r.trace.length).getLast?.filter Event.coreFailed).map fun _ =>
    { time := env.now r'.world, policy := r'.session.policy }

/-- What was noted about a session: the cores that failed to close and the times at which the process was
ended, both in order. -/
inductive Timeline (env : Environment ω) : Run ω → List CoreFailure → List Nat → Prop where
  | fresh (chain : List Record) (settings : Settings) (policy : ShutdownPolicy) (forTest : Bool)
      (world : ω) : Timeline env (.fresh chain settings policy forTest world) [] []
  | step {r r' : Run ω} {failures : List CoreFailure} {ends : List Nat}
      (timeline : Timeline env r failures ends) (happens : Happens env r r') :
      Timeline env r' (failures ++ (r.coreFailure? env r').toList) ends
  /-- The next end that is scheduled comes, now that its time has been reached. -/
  | expire {r : Run ω} {failures : List CoreFailure} {ends : List Nat} {deadline : Nat}
      (timeline : Timeline env r failures ends)
      (scheduled : r.terminations[ends.length]? = some deadline)
      (reached : deadline ≤ env.now r.world) :
      Timeline env r failures (ends ++ [env.now r.world])

/-- When and why the process was ended. -/
structure Ended (env : Environment ω) (r : Run ω) (failures : List CoreFailure) (ends : List Nat) :
    Prop where
  /-- Every core that failed to close was noted, and was loaded before. -/
  noted : r.trace.countP Event.coreFailed = failures.length
  loaded : failures.length ≤ r.trace.countP Event.loadsCore
  /-- An end is scheduled for each of them, at its deadline, unless the policy was primary. -/
  scheduled : r.terminations = failures.filterMap CoreFailure.deadline?
  once : r.terminations.length ≤ 1
  /-- No more ends come than are scheduled, and none before its deadline. -/
  ends_le : ends.length ≤ r.terminations.length
  due : ∀ (i : Nat) (came : i < ends.length) (deadline : Nat),
    r.terminations[i]? = some deadline → deadline ≤ ends[i]
  /-- If the policy was primary, or no core was loaded, or the core closed, the process is not ended,
  whatever else has failed. -/
  spared : (∀ f ∈ failures, f.policy.isPrimary = true) ∨ (∀ e ∈ r.trace, e.loadsCore = false) ∨
    (∀ e ∈ r.trace, e.call = .closeCore → e.succeeded = true) → r.terminations = [] ∧ ends = []
  /-- Closing now would report the end that it schedules. -/
  reported : (Session.close env r).1.termination
    = (r.coreFailure? env (Session.close env r).2).bind CoreFailure.deadline?

/-- No core fails to close where none is to be closed. -/
lemma coreFailed_of_ne (calls : ∀ e ∈ events, e.call ≠ .closeCore) :
    ∀ e ∈ events, ¬e.coreFailed = true := by
  intro e mem
  rw [Event.coreFailed, decide_eq_false (calls e mem), Bool.false_and]
  exact Bool.false_ne_true

/-- Whether closing the core has failed is told by the last event. -/
lemma Run.coreFailure?_eq (env : Environment ω) (trace : r'.trace = r.trace ++ events) :
    r.coreFailure? env r' = (events.getLast?.filter Event.coreFailed).map fun _ =>
      { time := env.now r'.world, policy := r'.session.policy } := by
  rw [coreFailure?, trace, List.drop_left]

namespace Session

/-- The core is closed by the last of some events at most. -/
def ClosesCoreLast (events : List Event) : Prop := ∀ e ∈ events.dropLast, e.call ≠ .closeCore

/-- Then it has failed to close if the last one has. -/
lemma ClosesCoreLast.failed (last : ClosesCoreLast events) :
    events.any Event.coreFailed = (events.getLast?.filter Event.coreFailed).isSome ∧
      events.countP Event.coreFailed = (events.getLast?.filter Event.coreFailed).toList.length := by
  obtain rfl | ⟨front, e, rfl⟩ := events.eq_nil_or_concat'
  · exact ⟨rfl, rfl⟩
  · rw [ClosesCoreLast, List.dropLast_concat] at last
    have none := coreFailed_of_ne last
    rw [List.getLast?_concat, List.any_append, List.any_eq_false.2 none, List.countP_append,
      List.countP_eq_zero.2 none, List.countP_singleton, Option.filter_some]
    cases failed : e.coreFailed <;> simp [failed]

/-- Nothing that is taken down before the core is the core. -/
lemma closeCore_notMem (externals : List External) (files : List Path) {helpers : List Call}
    (other : Call.closeCore ∉ helpers) :
    Call.closeCore ∉ externals.map Call.closeExternal ++ files.map Call.deleteFile ++ helpers := by
  simp only [List.mem_append, List.mem_map, not_or]
  refine ⟨⟨?_, ?_⟩, other⟩
  all_goals
    rintro ⟨_, -, same⟩
    cases same

/-- Closing a session closes its core last. -/
lemma CarriedOut.closesCoreLast {failures : List TeardownFailure}
    (done : CarriedOut r.session.teardown r failures events r') : ClosesCoreLast events := by
  intro e mem closes
  have among : Call.closeCore ∈ (events.map Event.call).dropLast := by
    rw [← List.map_dropLast, ← closes]
    exact List.mem_map_of_mem mem
  have other : Call.closeCore ∉ if r.session.stage = .unconfigured then [] else [Call.closeHelpers] := by
    split <;> decide
  have before := closeCore_notMem r.session.externals r.session.cacheFiles other
  rw [done.calls, map_call_teardown] at among
  cases loaded : r.session.coreLoaded with
  | false =>
    rw [loaded, if_neg Bool.false_ne_true, List.append_nil] at among
    exact before (List.dropLast_subset _ among)
  | true =>
    rw [loaded, if_pos rfl, List.dropLast_concat] at among
    exact before among

/-- Among the calls that failed is that to close the core exactly if one such call did. -/
lemma any_failure? (events : List Event) :
    (events.filterMap Event.failure?).any (fun failed => decide (failed.1 = .closeCore))
      = events.any Event.coreFailed := by
  induction events with
  | nil => rfl
  | cons e events ih =>
    obtain ⟨call, outcome⟩ := e
    rw [List.any_cons, ← ih]
    cases outcome with
    | ok reply =>
      have answered : Event.coreFailed ⟨call, .ok reply⟩ = false := Bool.and_false _
      rw [answered, Bool.false_or]
      rfl
    | error fault =>
      have failed : Event.coreFailed ⟨call, .error fault⟩ = decide (call = .closeCore) :=
        Bool.and_true _
      rw [failed]
      rfl

/-- The report names the core exactly if it failed to close. -/
lemma CarriedOut.coreFailed {tasks : List TeardownTask} {failures : List TeardownFailure}
    (done : CarriedOut tasks r failures events r') :
    (TeardownReport.mk failures none).coreFailed = events.any Event.coreFailed := by
  have task (f : TeardownFailure) : (f.task == .core) = decide (f.task.call = .closeCore) := by
    cases f.task <;> rfl
  rw [← any_failure?, ← done.failures, List.any_map, TeardownReport.coreFailed]
  simp only [task]
  rfl

/-- Carrying out a teardown schedules nothing. -/
lemma terminations_carryOut (env : Environment ω) (tasks : List TeardownTask) (r : Run ω) :
    (carryOut env tasks r).2.terminations = r.terminations := by
  induction tasks generalizing r with
  | nil => rfl
  | cons task tasks ih =>
    rw [carryOut_cons]
    exact ih _

/-- Closing schedules what it reports, which is the deadline of the core that has failed to close. -/
lemma termination_close (env : Environment ω) (r : Run ω) :
    (close env r).1.termination = (r.coreFailure? env (close env r).2).bind CoreFailure.deadline? ∧
      (close env r).2.terminations = r.terminations ++ (close env r).1.termination.toList := by
  by_cases closed : r.session.stage = .closed
  · have nothing : r.coreFailure? env r = none := by
      rw [Run.coreFailure?_eq env (List.append_nil _).symm]
      rfl
    rw [close_of_closed env closed, nothing]
    exact ⟨rfl, (List.append_nil _).symm⟩
  · obtain ⟨⟨events, done⟩, -⟩ := carriedOut_carryOut env r.session.teardown r
    have last := done.closesCoreLast.failed.1
    have core := done.coreFailed
    have terminations := terminations_carryOut env r.session.teardown r
    have trace : (close env r).2.trace = r.trace ++ events := by
      unfold close
      rw [if_neg closed]
      exact done.trace
    rw [Run.coreFailure?_eq env trace]
    unfold close
    rw [if_neg closed]
    generalize carryOut env r.session.teardown r = carried at *
    obtain ⟨failures, r₁⟩ := carried
    dsimp only at core terminations ⊢
    rw [core, last, terminations]
    cases events.getLast?.filter Event.coreFailed with
    | none => exact ⟨rfl, rfl⟩
    | some e => exact ⟨rfl, rfl⟩

end Session

/-- What a step schedules is the deadline of the core that has failed to close in it, if one has. -/
lemma Happens.schedules (happens : Happens env r r') :
    r'.terminations
        = r.terminations ++ ((r.coreFailure? env r').bind CoreFailure.deadline?).toList ∧
      r'.trace.countP Event.coreFailed
        = r.trace.countP Event.coreFailed + (r.coreFailure? env r').toList.length := by
  obtain ⟨events, trace, spares⟩ | rfl := happens.spares
  · have none := coreFailed_of_ne spares.calls
    have nothing : r.coreFailure? env r' = Option.none := by
      rw [Run.coreFailure?_eq env trace, Option.map_eq_none_iff, Option.filter_eq_none_iff]
      exact fun e last => none e (List.mem_of_getLast? last)
    rw [nothing, spares.terminations, trace, List.countP_append, List.countP_eq_zero.2 none]
    exact ⟨(List.append_nil _).symm, rfl⟩
  · obtain ⟨reported, scheduled⟩ := Session.termination_close env r
    refine ⟨by rw [scheduled, reported], ?_⟩
    by_cases closed : r.session.stage = .closed
    · rw [Session.close_of_closed env closed, Run.coreFailure?_eq env (List.append_nil _).symm]
      rfl
    · obtain ⟨⟨events, done⟩, -⟩ := Session.carriedOut_close env closed
      rw [Run.coreFailure?_eq env done.trace, done.trace, List.countP_append,
        done.closesCoreLast.failed.2]
      cases events.getLast?.filter Event.coreFailed <;> rfl

/-- Of a session that keeps hold of what it has brought about no core fails to close that was not
loaded, and there is one at most. -/
lemma Run.InHand.countP_coreFailed (h : r.InHand) :
    r.trace.countP Event.coreFailed ≤ r.trace.countP Event.loadsCore ∧
      r.trace.countP Event.coreFailed ≤ 1 := by
  have spared {events : List Event} (calls : ∀ e ∈ events, e.call.isTeardown = false) :
      events.countP Event.coreFailed = 0 := by
    refine List.countP_eq_zero.2 (coreFailed_of_ne fun e mem closes => ?_)
    have keeps := calls e mem
    rw [closes] at keeps
    cases keeps
  by_cases closed : r.session.stage = .closed
  · obtain ⟨work, closing, released⟩ := h.released closed
    obtain ⟨externals, calls⟩ := released.closing
    -- As many cores are to be closed as were loaded.
    have asked : closing.countP Event.coreFailed ≤ work.countP Event.loadsCore := by
      have closes : closing.countP Event.coreFailed ≤ (closing.map Event.call).count .closeCore := by
        rw [List.count, List.countP_map]
        refine List.countP_mono_left fun e _ failed => ?_
        rw [Event.coreFailed, Bool.and_eq_true, decide_eq_true_eq] at failed
        exact beq_iff_eq.2 failed.1
      have other : Call.closeCore ∉ if r.session.compiled.isSome then [Call.closeHelpers] else [] := by
        split <;> decide
      have before := Session.closeCore_notMem externals (written work) other
      rwa [calls, List.count_append, List.count_eq_zero.2 before, List.count_replicate_self,
        Nat.zero_add] at closes
    rw [released.trace, List.countP_append, List.countP_append, spared released.calls, Nat.zero_add]
    exact ⟨Nat.le_add_right_of_le asked, Nat.le_trans asked released.cores⟩
  · rw [spared (h.pending closed).calls]
    exact ⟨Nat.zero_le _, Nat.zero_le _⟩

namespace Timeline

variable {failures : List CoreFailure} {ends : List Nat}

/-- What is on a timeline lived. -/
lemma lived (timeline : Timeline env r failures ends) : Lived env r := by
  induction timeline with
  | fresh => exact .fresh _ _ _ _ _
  | step _ happens ih => exact ih.step happens
  | expire _ _ _ ih => exact ih

/-- Every failure of a core is noted. -/
lemma noted (timeline : Timeline env r failures ends) :
    r.trace.countP Event.coreFailed = failures.length := by
  induction timeline with
  | fresh => rfl
  | step _ happens ih => rw [happens.schedules.2, ih, List.length_append]
  | expire _ _ _ ih => exact ih

/-- What is scheduled are the deadlines of failures. -/
lemma scheduled (timeline : Timeline env r failures ends) :
    r.terminations = failures.filterMap CoreFailure.deadline? := by
  induction timeline with
  | fresh => rfl
  | @step r r' failures ends _ happens ih =>
    rw [happens.schedules.1, ih, List.filterMap_append]
    cases r.coreFailure? env r' with
    | none => rfl
    | some f => cases deadline : f.deadline? <;> simp [deadline]
  | expire _ _ _ ih => exact ih

/-- Ends come one by one, each after its deadline. -/
lemma due (timeline : Timeline env r failures ends) :
    ends.length ≤ r.terminations.length ∧ ∀ (i : Nat) (came : i < ends.length) (deadline : Nat),
      r.terminations[i]? = some deadline → deadline ≤ ends[i] := by
  induction timeline with
  | fresh => exact ⟨Nat.le_refl _, nofun⟩
  | @step r r' failures ends _ happens ih =>
    obtain ⟨fewer, due⟩ := ih
    rw [happens.schedules.1]
    refine ⟨?_, fun i came deadline found => due i came deadline ?_⟩
    · rw [List.length_append]
      exact Nat.le_add_right_of_le fewer
    · rwa [List.getElem?_append_left (Nat.lt_of_lt_of_le came fewer)] at found
  | @expire r failures ends deadline _ next reached ih =>
    obtain ⟨fewer, due⟩ := ih
    obtain ⟨more, -⟩ := List.getElem?_eq_some_iff.1 next
    refine ⟨?_, fun i came deadline' found => ?_⟩
    · rw [List.length_append]
      exact more
    · by_cases before : i < ends.length
      · rw [List.getElem_append_left before]
        exact due i before deadline' found
      · obtain rfl : i = ends.length := by
          rw [List.length_append, List.length_singleton] at came
          omega
        rw [next] at found
        rw [List.getElem_concat_length rfl, ← Option.some.inj found]
        exact reached

/-- Whatever is asked of a session and whatever fails, an end of the process is scheduled exactly for a
core that has failed to close under a policy that is not primary, so that there is one at most, and it
does not come before its deadline. -/
theorem ended (timeline : Timeline env r failures ends) : Ended env r failures ends := by
  obtain ⟨loaded, once⟩ := timeline.lived.inHand.countP_coreFailed
  rw [timeline.noted] at loaded once
  refine ⟨timeline.noted, loaded, timeline.scheduled, ?_, timeline.due.1, timeline.due.2, ?_,
    (Session.termination_close env r).1⟩
  · rw [timeline.scheduled]
    exact Nat.le_trans (List.length_filterMap_le _ _) once
  · intro reason
    have primary : ∀ f ∈ failures, f.policy.isPrimary = true := by
      have none (counted : failures.length = 0) : ∀ f ∈ failures, f.policy.isPrimary = true := by
        rw [List.length_eq_zero_iff.1 counted]
        exact nofun
      obtain primary | unloaded | closed := reason
      · exact primary
      · have cores : r.trace.countP Event.loadsCore = 0 := by
          rw [List.countP_eq_zero]
          exact fun e mem => Bool.eq_false_iff.1 (unloaded e mem)
        exact none (Nat.le_zero.1 (cores ▸ loaded))
      · have cores : r.trace.countP Event.coreFailed = 0 := by
          rw [List.countP_eq_zero]
          intro e mem failed
          rw [Event.coreFailed, Bool.and_eq_true, decide_eq_true_eq] at failed
          rw [closed e mem failed.1] at failed
          exact absurd failed.2 Bool.false_ne_true
        exact none (timeline.noted ▸ cores)
    have unscheduled : r.terminations = [] := by
      rw [timeline.scheduled, List.filterMap_eq_nil_iff]
      intro f mem
      rw [CoreFailure.deadline?, primary f mem, if_pos rfl]
    have fewer := timeline.due.1
    rw [unscheduled, List.length_nil] at fewer
    exact ⟨unscheduled, List.length_eq_zero_iff.1 (Nat.le_zero.1 fewer)⟩

/-- Surroundings in which every call takes ten milliseconds and the core cannot be closed. -/
def stuck : Environment Nat where
  perform c clock :=
    (match c with
      | .closeCore => .error "busy"
      | c => (Reachable.willing.perform c ()).1, clock + 10)
  systemPorts _ _ := .error ""
  freshName clock := ("", clock)
  helperCount _ := 0
  wait ms clock := clock + ms
  now clock := clock

/-- A session over a direct way out that is closed after it was prepared. -/
def closedRun : Run Nat :=
  Operation.close.perform stuck <| (Operation.prepare false).perform stuck <|
    Operation.build.perform stuck <|
      .fresh [{ uuid := "", profile := ⟨{}, .direct⟩ }] { cacheDir := "" } {} false 0

/-- Its core fails to close at thirty milliseconds, and the process may end half a second later. -/
theorem ended_closedRun :
    ∃ failures, Timeline stuck { closedRun with world := 530 } failures [530] ∧
      failures = [⟨30, {}⟩] ∧ closedRun.terminations = [530] ∧
        Ended stuck { closedRun with world := 530 } failures [530] := by
  have closed : Timeline stuck closedRun _ [] :=
    .step (.step (.step (.fresh _ _ _ _ _) (.perform .build)) (.perform (.prepare false)))
      (.perform .close)
  have scheduled : closedRun.terminations = [530] := by decide +kernel
  have timeline : Timeline stuck { closedRun with world := 530 } _ [530] :=
    .expire (closed.step (.drift 530)) (congrArg (·[0]?) scheduled) (Nat.le_refl 530)
  exact ⟨_, timeline, by decide +kernel, scheduled, timeline.ended⟩

end Timeline

end ProxyChain
