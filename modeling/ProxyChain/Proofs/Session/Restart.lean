import ProxyChain.Proofs.Session.Commission

/-!
# Starting again

A start may fail behind helpers that it has started already, and then it may be tried again. Nothing
remembers these helpers: the next start goes through the index of helpers from the beginning, and what it
finds on a port is an instance that is attached to it or nothing at all. So a port is never handed over
to a second helper exactly if no start comes back to a port on which an earlier one has started a helper,
except to launch an instance that was attached to it since (`History.startedOnce_iff`).
-/

namespace ProxyChain

open Session

variable {ω : Type} {env : Environment ω} {r : Run ω} {past : List (Moment ω)}

/-- A port on which a helper was started is not handed over to a helper again, unless the helpers were
closed in between. -/
def StartedOnce (handed : List Handover) : Prop :=
  handed.Pairwise fun h h' => h.started = true → h'.command?.isSome = true →
    (∀ e ∈ h'.past.drop h.past.length, e.call ≠ .closeHelpers) → h'.entry.1 ≠ h.entry.1

instance (handed : List Handover) : Decidable (StartedOnce handed) :=
  inferInstanceAs (Decidable (List.Pairwise _ handed))

/-- No start comes back to a port on which an earlier one has started a helper, except to launch an
instance that is attached to it by then. -/
def NoneRevisited (env : Environment ω) (past : List (Moment ω)) : Prop :=
  past.Pairwise fun m m' => ∀ h ∈ m.handovers env, h.started = true → ∀ h' ∈ m'.handovers env,
    h'.entry.1 = h.entry.1 → (m'.run.session.external? h.entry.1).isSome = true

instance (env : Environment ω) (past : List (Moment ω)) : Decidable (NoneRevisited env past) :=
  inferInstanceAs (Decidable (List.Pairwise _ past))

namespace Moment

/-- An operation hands over every port once at most. -/
lemma pairwise_handovers (env : Environment ω) {m : Moment ω}
    (distinct : (m.run.session.entries.map Prod.fst).Nodup) :
    (m.handovers env).Pairwise fun h h' => h'.entry.1 ≠ h.entry.1 := by
  obtain ⟨r, op⟩ := m
  cases op with
  | start =>
    -- The ports that it tries are those of the first entries.
    have heads (tried : List (List Event × Event)) :
        ((r.session.entries.zip tried).map Prod.fst).Sublist r.session.entries := by
      rw [List.zip_eq_zip_take_min, List.map_fst_zip (by simp)]
      exact List.take_sublist _ _
    have ports := distinct.sublist ((heads (servings r.trace (events env ⟨r, .start⟩))).map Prod.fst)
    rw [List.map_map] at ports
    rw [handovers, List.pairwise_map]
    exact (List.pairwise_map.1 ports).imp Ne.symm
  | _ => exact .nil

/-- A port is handed over to a helper if and only if no instance is attached to it. -/
lemma isSome_command?_iff (lived : Lived env r) {op : Operation} {h : Handover}
    (mem : h ∈ (⟨r, op⟩ : Moment ω).handovers env) :
    h.command?.isSome = true ↔ r.session.external? h.entry.1 = none := by
  obtain ⟨-, -, served, -⟩ := served_of_mem_handovers lived mem
  obtain ⟨entry, before, e⟩ := h
  dsimp only at served
  cases served with
  | external attached => simp [Handover.command?, attached]
  | helper free => simp [Handover.command?, free]

end Moment

namespace History

/-- A session with distinct ports hands none of them over to a second helper exactly if no start comes
back to a port on which an earlier one has started a helper, except to launch what is attached to it. -/
theorem startedOnce_iff (history : History env past r) (distinct : r.session.PortsDistinct) :
    StartedOnce (handovers env past) ↔ NoneRevisited env past := by
  have earlier {m : Moment ω} (mem : m ∈ past) : Lived env m.run ∧ m.run.session.PortsDistinct := by
    obtain ⟨lived, continues⟩ := history.lived_of_mem mem
    exact ⟨lived, continues.portsDistinct distinct⟩
  rw [StartedOnce, handovers, List.pairwise_flatMap]
  refine Iff.trans (and_iff_right fun m mem => ?single) (List.Pairwise.iff_of_mem ?several)
  case single =>
    obtain ⟨lived, distinct⟩ := earlier mem
    have apart := m.pairwise_handovers env (distinct.nodup lived.remembers.indexes)
    exact apart.imp fun other _ _ _ => other
  case several =>
    intro m m' _ mem'
    obtain ⟨r', op⟩ := m'
    have lived := (earlier mem').1
    refine forall₂_congr fun h _ => ⟨fun once started h' mem' same => ?_, fun attached => ?_⟩
    · -- Otherwise it would be handed over to a helper, as no helpers are closed before a start.
      by_contra free
      rw [Bool.not_eq_true, Option.isSome_eq_false_iff, Option.isNone_iff_eq_none] at free
      refine once h' mem' started ?_ (fun e later closes => ?_) same
      · rw [Moment.isSome_command?_iff lived mem', same, free]
      · have pending := Moment.pending_of_mem_handovers lived mem' e (List.mem_of_mem_drop later)
        rw [closes] at pending
        cases pending
    · intro h' mem' started asked _ same
      rw [Moment.isSome_command?_iff lived mem', same] at asked
      have isSome := attached started h' mem' same
      rw [asked] at isSome
      cases isSome

/-- What was asked of a session whose core did not start at first, and where that has led to. An instance
was attached to its port before it was started again. -/
def relieved : List (Moment (Bool × Nat)) × Run (Bool × Nat) :=
  Operation.performAll faltering [.build, .prepare false, .start, .attach ⟨41000, 0⟩, .start]
    (.certified (true, 0))

/-- Its helper is started once, and then the instance is launched. -/
theorem startedOnce_relieved :
    History faltering relieved.1 relieved.2 ∧ relieved.2.session.PortsDistinct ∧
      (handovers faltering relieved.1).map (fun h => (h.entry.1, h.started))
        = [(41000, true), (41000, false)] ∧
      relieved.2.session.stage = .running ∧ NoneRevisited faltering relieved.1 ∧
      StartedOnce (handovers faltering relieved.1) := by
  have history : History faltering relieved.1 relieved.2 := .of_fresh
  have ports : relieved.2.session.compiled.map Compiled.ports = some [41000] := by decide +kernel
  have distinct : relieved.2.session.PortsDistinct := .of_map_ports ports (List.nodup_singleton _)
  have launches : NoneRevisited faltering relieved.1 := by decide +kernel
  exact ⟨history, distinct, by decide +kernel, by decide +kernel, launches,
    (history.startedOnce_iff distinct).2 launches⟩

/-- What was asked of a session whose core did not start at first, and where that has led to. It was just
started again. -/
def restarted : List (Moment (Bool × Nat)) × Run (Bool × Nat) :=
  Operation.performAll faltering [.build, .prepare false, .start, .start] (.certified (true, 0))

/-- Its helper is started twice, and never closed. -/
theorem not_startedOnce_restarted :
    History faltering restarted.1 restarted.2 ∧ restarted.2.session.PortsDistinct ∧
      (handovers faltering restarted.1).map (fun h => (h.entry.1, h.started))
        = [(41000, true), (41000, true)] ∧
      (∀ e ∈ restarted.2.trace, e.call ≠ .closeHelpers) ∧
      ¬ StartedOnce (handovers faltering restarted.1) := by
  have ports : restarted.2.session.compiled.map Compiled.ports = some [41000] := by decide +kernel
  exact ⟨.of_fresh, .of_map_ports ports (List.nodup_singleton _), by decide +kernel,
    by decide +kernel, by decide +kernel⟩

end History

end ProxyChain
