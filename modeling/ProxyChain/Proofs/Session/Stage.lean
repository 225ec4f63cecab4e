import ProxyChain.Proofs.Session.Later

/-!
# The stages of a session

A session goes through its stages in order, one phase at a time, and never back (`Leads.stage_forward`).
A phase that fails leaves the stage as it was and may be tried again; one that is not open to the stage
fails without a call and without a change of any kind.
-/

namespace ProxyChain

variable {ω : Type} {env : Environment ω} {drifts : ω → ω → Prop}

/-- How many stages come before a stage. -/
def Stage.rank : Stage → Nat
  | unconfigured => 0
  | configured => 1
  | loaded => 2
  | running => 3
  | closed => 4

/-- A phase leads to the next stage. -/
lemma Phase.rank_after (phase : Phase) : phase.after.rank = phase.before.rank + 1 := by
  cases phase <;> rfl

/-- No stage is later than the last one. -/
lemma Stage.rank_le_closed (stage : Stage) : stage.rank ≤ Stage.closed.rank := by
  cases stage <;> decide

/-- An operation keeps to the order of the stages. -/
structure Operation.InOrder (env : Environment ω) (op : Operation) (r : Run ω) : Prop where
  /-- A phase that succeeds leads from the stage that it is open to to the next one. -/
  advances : ∀ phase, op.phase? = some phase → op.outcome env r = .ok () →
    r.session.stage = phase.before ∧ (op.perform env r).session.stage = phase.after ∧
      phase.after.rank = phase.before.rank + 1
  /-- What fails leaves the stage as it was. -/
  stays : ∀ e, op.outcome env r = .error e → (op.perform env r).session.stage = r.session.stage
  /-- A phase that is not open to the stage says so and does nothing. -/
  refuses : ∀ phase, op.phase? = some phase → r.session.stage ≠ phase.before →
    op.outcome env r = .error (.wrongStage phase r.session.stage) ∧ op.perform env r = r
  closes : op = .close → (op.perform env r).session.stage = .closed
  attaches : ∀ external, op = .attach external →
    (op.perform env r).session.stage = r.session.stage

namespace Operation

/-- Every operation goes by the order of stages. -/
lemma inOrder (env : Environment ω) (op : Operation) (r : Run ω) : op.InOrder env r where
  advances phase is ok := by
    obtain ⟨events, -, passed⟩ := passes is env r
    have stage := passed.stage
    rw [ok] at stage
    exact ⟨passed.entered (by rw [ok]; rfl), stage, phase.rank_after⟩
  stays e failed := by
    obtain ⟨phase, is⟩ | rfl | ⟨external, rfl⟩ := op.kinds
    · obtain ⟨events, -, passed⟩ := passes is env r
      have stage := passed.stage
      rwa [failed] at stage
    · cases failed
    · cases failed
  refuses phase is other := perform_of_ne is other
  closes := by
    rintro rfl
    exact stage_close env r
  attaches := by
    rintro external rfl
    rfl

/-- No operation leads back. -/
lemma rank_le (env : Environment ω) (op : Operation) (r : Run ω) :
    r.session.stage.rank ≤ (op.perform env r).session.stage.rank := by
  obtain ⟨phase, is⟩ | rfl | ⟨external, rfl⟩ := op.kinds
  · cases ends : op.outcome env r with
    | ok _ =>
      obtain ⟨before, after, next⟩ := (inOrder env op r).advances phase is ends
      rw [before, after, next]
      exact Nat.le_succ _
    | error e => exact Nat.le_of_eq (congrArg Stage.rank ((inOrder env op r).stays e ends)).symm
  · rw [stage_close]
    exact Stage.rank_le_closed _
  · exact Nat.le_refl _

end Operation

/-- From any run on, whatever is asked of a session in whatever order and whatever fails: its stage only
moves forward, and at every moment each operation keeps to the order of the stages. -/
theorem Leads.stage_forward {r r' : Run ω} (leads : Leads env drifts r r') :
    r.session.stage.rank ≤ r'.session.stage.rank ∧ ∀ op : Operation, op.InOrder env r' := by
  refine ⟨?_, fun op => op.inOrder env r'⟩
  induction leads with
  | now => exact Nat.le_refl _
  | perform op _ ih => exact Nat.le_trans ih (op.rank_le env _)
  | drift _ _ ih => exact ih

/-- A session over one hop that was built and refuses to start before it is prepared. -/
theorem Leads.stage_forward_unprepared :
    let r : Run Unit := .fresh [{ uuid := "", profile := ⟨{}, .direct⟩ }] { cacheDir := "" } {} false ()
    let r' := Operation.build.perform Reachable.willing r
    Leads Reachable.willing (fun _ _ => True) r r' ∧ r.session.stage.rank ≤ r'.session.stage.rank ∧
      r'.session.stage = .configured ∧
      Operation.start.outcome Reachable.willing r' = .error (.wrongStage .start .configured) ∧
      Operation.start.perform Reachable.willing r' = r' := by
  intro r r'
  have leads : Leads Reachable.willing (fun _ _ => True) r r' := .perform .build .now
  have stage : r'.session.stage = .configured := by decide +kernel
  obtain ⟨forward, inOrder⟩ := leads.stage_forward
  have other : r'.session.stage ≠ Phase.start.before := by
    rw [stage]
    decide
  have refused := (inOrder .start).refuses .start rfl other
  rw [stage] at refused
  exact ⟨leads, forward, stage, refused⟩

end ProxyChain
