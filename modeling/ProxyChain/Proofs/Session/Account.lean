import ProxyChain.Proofs.Session.Stage

/-!
# What a session accounts for

A session keeps account of what there is to take down. Until it is closed, its files are those that it
wrote or tried to write, and it holds a core if and only if it has loaded one (`Reachable.accounts`).
`Follows env log r` is about the same runs, with a log of the operations that led to them and of how
these ended: the chain was compiled if and only if building has succeeded (`Follows.built_iff`), and the
instances attached are the latest for each port, one for a port (`Follows.mem_externals_iff`).
-/

namespace ProxyChain

variable {ω : Type} {env : Environment ω} {r : Run ω}

/-- The account of a session is in line with the calls made. -/
structure Run.Accounts (r : Run ω) : Prop where
  files : r.session.cacheFiles = written r.trace
  core : r.session.coreLoaded = r.trace.any Event.loadsCore

namespace Operation

/-- No operation opens a session again. -/
lemma stage_perform_of_closed (env : Environment ω) (op : Operation)
    (closed : r.session.stage = .closed) : (op.perform env r).session.stage = .closed := by
  obtain same | ⟨external, attached⟩ := op.perform_of_closed env closed
  · rw [same]
    exact closed
  · rw [attached]
    exact closed

/-- An operation that does not close keeps account of what it does. -/
lemma accounts_perform (op : Operation) (accounts : r.Accounts)
    (opened : (op.perform env r).session.stage ≠ .closed) : (op.perform env r).Accounts := by
  obtain ⟨phase, is⟩ | rfl | ⟨external, rfl⟩ := op.kinds
  · obtain ⟨events, trace, passed⟩ := passes is env r
    constructor
    · rw [passed.files, trace, accounts.files, written_append]
    · rw [passed.core, trace, accounts.core, List.any_append]
  · exact absurd (stage_close env r) opened
  · exact ⟨accounts.files, accounts.core⟩

end Operation

/-- A session that is not closed has written the files on its account and no others, and holds a core
if and only if it has loaded one. -/
theorem Reachable.accounts (reachable : Reachable env r) (opened : r.session.stage ≠ .closed) :
    r.Accounts := by
  induction reachable with
  | fresh => exact ⟨rfl, rfl⟩
  | perform op _ ih =>
    refine op.accounts_perform (ih fun closed => ?_) opened
    exact opened (op.stage_perform_of_closed env closed)
  | drift _ _ ih =>
    obtain ⟨files, core⟩ := ih opened
    exact ⟨files, core⟩

/-- Operations in the order in which they were asked for, and how each of them ended. -/
abbrev Log := List (Operation × Except SessionError Unit)

namespace Log

/-- Whether building has succeeded. -/
def built (log : Log) : Bool := log.any fun step => step.1 == .build && step.2.isOk

/-- The instances that were attached, latest first. -/
def attached (log : Log) : List External :=
  log.reverse.filterMap fun step =>
    match step.1 with
    | .attach external => some external
    | _ => none

/-- The instance that was attached to a port last. -/
def latest? (log : Log) (port : UInt16) : Option External :=
  log.attached.find? fun external => external.port == port

end Log

/-- The runs of new sessions, with what was asked of them. -/
inductive Follows (env : Environment ω) : Log → Run ω → Prop where
  | fresh (chain : List Record) (settings : Settings) (policy : ShutdownPolicy) (forTest : Bool)
      (world : ω) : Follows env [] (.fresh chain settings policy forTest world)
  | perform (op : Operation) {log : Log} {r : Run ω} (follows : Follows env log r) :
      Follows env (log ++ [(op, op.outcome env r)]) (op.perform env r)
  | drift (world : ω) {log : Log} {r : Run ω} (follows : Follows env log r) :
      Follows env log { r with world }

/-- Runs with a log are reachable. -/
lemma Follows.reachable {log : Log} (follows : Follows env log r) : Reachable env r := by
  induction follows with
  | fresh => exact .fresh _ _ _ _ _
  | perform op _ ih => exact ih.perform op
  | drift world _ ih => exact ih.drift world

/-- Every reachable run has its log. -/
theorem reachable_iff_exists_follows : Reachable env r ↔ ∃ log, Follows env log r := by
  refine ⟨fun reachable => ?_, fun ⟨log, follows⟩ => follows.reachable⟩
  induction reachable with
  | fresh => exact ⟨[], .fresh _ _ _ _ _⟩
  | perform op _ ih =>
    obtain ⟨log, follows⟩ := ih
    exact ⟨_, follows.perform op⟩
  | drift world _ ih =>
    obtain ⟨log, follows⟩ := ih
    exact ⟨log, follows.drift world⟩

namespace Session

/-- Instances in the order of their ports, one for a port. -/
abbrev InOrder (externals : List External) : Prop := externals.Pairwise fun e e' => e.port < e'.port

/-- An instance that is attached takes the place of the one that served its port. -/
lemma mem_insertExternal {e x : External} {xs : List External} (sorted : InOrder xs) :
    x ∈ insertExternal e xs ↔ x = e ∨ x ∈ xs ∧ x.port ≠ e.port := by
  induction xs with
  | nil => simp [insertExternal]
  | cons y ys ih =>
    obtain ⟨least, rest⟩ := List.pairwise_cons.1 sorted
    have mem := ih rest
    unfold insertExternal
    -- Once its place is found, all that follow have greater ports.
    split
    · grind [UInt16.ne_of_lt]
    · split
      · grind [UInt16.ne_of_lt, UInt16.lt_trans]
      · grind

/-- Instances stay in order when one is attached. -/
lemma inOrder_insertExternal {e : External} {xs : List External} (sorted : InOrder xs) :
    InOrder (insertExternal e xs) := by
  induction xs with
  | nil => exact List.pairwise_singleton _ e
  | cons y ys ih =>
    obtain ⟨least, rest⟩ := List.pairwise_cons.1 sorted
    unfold insertExternal
    split
    · next same =>
      refine .cons (fun x mem => ?_) rest
      rw [same]
      exact least x mem
    · next other =>
      split
      · next below =>
        refine .cons (fun x mem => ?_) sorted
        obtain rfl | mem := List.mem_cons.1 mem
        · exact below
        · exact UInt16.lt_trans below (least x mem)
      · next unbelow =>
        have above : y.port < e.port := (UInt16.lt_or_lt_of_ne other).resolve_left unbelow
        refine .cons (fun x mem => ?_) (ih rest)
        obtain rfl | ⟨mem, -⟩ := (mem_insertExternal rest).1 mem
        · exact above
        · exact least x mem

end Session

/-- Building has succeeded if it did before or does now. -/
lemma Log.built_concat (log : Log) (op : Operation) (outcome : Except SessionError Unit) :
    Log.built (log ++ [(op, outcome)]) = (log.built || (op == .build && outcome.isOk)) := by
  simp [Log.built]

/-- What is attached comes first among what was attached. -/
lemma Log.attached_concat (log : Log) (op : Operation) (outcome : Except SessionError Unit) :
    Log.attached (log ++ [(op, outcome)]) =
      match op with
      | .attach external => external :: log.attached
      | _ => log.attached := by
  cases op <;> simp [Log.attached]

namespace Follows

variable {log : Log}

/-- A session that is not closed is past its first stage if and only if it was built. -/
theorem built_iff (follows : Follows env log r) (opened : r.session.stage ≠ .closed) :
    log.built = true ↔ r.session.stage ≠ .unconfigured := by
  induction follows with
  | fresh => simp [Log.built, Run.fresh]
  | @perform op log r _ ih =>
    have built := ih fun closed => opened (op.stage_perform_of_closed env closed)
    rw [Log.built_concat]
    obtain ⟨phase, is⟩ | rfl | ⟨external, rfl⟩ := op.kinds
    · cases ends : op.outcome env r with
      | error e =>
        rw [(op.inOrder env r).stays e ends]
        simpa [Except.isOk, Except.toBool] using built
      | ok _ =>
        obtain ⟨before, after, -⟩ := (op.inOrder env r).advances phase is ends
        rw [after]
        rw [before] at built
        cases op with
        | build =>
          cases is
          exact iff_of_true (Bool.or_true _) (by decide)
        | prepare underTunnel =>
          cases is
          exact iff_of_true (by rw [built.2 (by decide), Bool.true_or]) (by decide)
        | start =>
          cases is
          exact iff_of_true (by rw [built.2 (by decide), Bool.true_or]) (by decide)
        | close => cases is
        | attach external => cases is
    · exact absurd (Operation.stage_close env r) opened
    · change (log.built || false) = true ↔ _
      rw [Bool.or_false]
      exact built
  | drift _ _ ih => exact ih opened

/-- Attached instances are in the order of their ports. -/
lemma externals_inOrder (reachable : Reachable env r) : Session.InOrder r.session.externals := by
  induction reachable with
  | fresh => exact .nil
  | @perform op r _ ih =>
    obtain ⟨phase, is⟩ | rfl | ⟨external, rfl⟩ := op.kinds
    · obtain ⟨events, -, passed⟩ := op.passes is env r
      rw [passed.externals]
      exact ih
    · by_cases closed : r.session.stage = .closed
      · rw [Operation.perform, Session.close_of_closed env closed]
        exact ih
      · rw [Operation.perform, (Session.carriedOut_close env closed).2]
        exact .nil
    · exact Session.inOrder_insertExternal ih
  | drift _ _ ih => exact ih

/-- The instances attached to a session that is not closed are the latest for their ports. -/
theorem mem_externals_iff (follows : Follows env log r) (opened : r.session.stage ≠ .closed)
    (e : External) : e ∈ r.session.externals ↔ log.latest? e.port = some e := by
  induction follows with
  | fresh => simp [Run.fresh, Log.latest?, Log.attached]
  | @perform op log r follows ih =>
    have before := ih fun closed => opened (op.stage_perform_of_closed env closed)
    rw [Log.latest?, Log.attached_concat]
    obtain ⟨phase, is⟩ | rfl | ⟨external, rfl⟩ := op.kinds
    · obtain ⟨events, -, passed⟩ := op.passes is env r
      rw [passed.externals, before]
      cases op with
      | build | prepare _ | start => rfl
      | close | attach _ => cases is
    · exact absurd (Operation.stage_close env r) opened
    · change e ∈ Session.insertExternal external r.session.externals ↔ _
      rw [Session.mem_insertExternal (externals_inOrder follows.reachable), before]
      dsimp only
      rw [List.find?_cons]
      by_cases same : external.port = e.port
      · rw [same, beq_self_eq_true]
        refine ⟨?_, fun found => .inl (Option.some.inj found).symm⟩
        rintro (rfl | ⟨-, other⟩)
        · rfl
        · exact absurd rfl other
      · rw [beq_false_of_ne same]
        refine ⟨?_, fun found => .inr ⟨found, Ne.symm same⟩⟩
        rintro (rfl | ⟨found, -⟩)
        · exact absurd rfl same
        · exact found
  | drift _ _ ih => exact ih opened

end Follows

end ProxyChain
