import ProxyChain.Proofs.Session.Account

/-!
# Taking a session down

Whatever was asked of a session and whatever fails, closing it closes all that it has on its account, in
the order instances, files, helpers, core, each once and nothing else, and the report has an entry for
each call that failed and no other (`TakenDown`). After that there is nothing left to close
(`Follows.takenDown`).
-/

namespace ProxyChain

variable {ω : Type} {env : Environment ω} {r : Run ω} {log : Log}

namespace Session

/-- What closing does to a session that is not closed and of which `log` was asked before. -/
structure TakenDown (log : Log) (r : Run ω) (report : TeardownReport) (events : List Event)
    (r' : Run ω) : Prop where
  trace : r'.trace = r.trace ++ events
  calls : events.map Event.call =
    r.session.externals.map Call.closeExternal ++ r.session.cacheFiles.map Call.deleteFile
      ++ (if log.built then [.closeHelpers] else [])
      ++ if r.trace.any Event.loadsCore then [.closeCore] else []
  /-- Each call that failed is reported, with the task that it was for. -/
  failures : report.failures.map (fun f => (f.task.call, f.fault)) = events.filterMap Event.failure?
  stage : r'.session.stage = .closed
  externals : r'.session.externals = []
  files : r'.session.cacheFiles = []
  core : r'.session.coreLoaded = false

/-- Different instances serve different ports. -/
lemma InOrder.nodup {externals : List External} (sorted : InOrder externals) : externals.Nodup := by
  refine sorted.imp fun below same => ?_
  rw [same] at below
  exact UInt16.lt_irrefl _ below

end Session

/-- A session that is not closed is taken down by closing it. The instances on its account are the
latest that were attached to each port, its helpers are closed if and only if it was built, and its core
if and only if it has loaded one. From then on there is nothing to close, whatever is asked of it. -/
theorem Follows.takenDown (follows : Follows env log r) (opened : r.session.stage ≠ .closed) :
    (∀ e, e ∈ r.session.externals ↔ log.latest? e.port = some e) ∧ r.session.externals.Nodup ∧
      (∃ events, Session.TakenDown log r (Session.close env r).1 events (Session.close env r).2) ∧
        ∀ r', Leads env (fun _ _ => True) (Session.close env r).2 r' →
          Session.close env r' = ({}, r') := by
  obtain ⟨⟨events, done⟩, session⟩ := Session.carriedOut_close env opened
  have account := follows.reachable.accounts opened
  have built := follows.built_iff opened
  refine ⟨follows.mem_externals_iff opened, (externals_inOrder follows.reachable).nodup,
    ⟨events, done.trace, ?calls, done.failures, ?_, ?_, ?_, ?_⟩, ?further⟩
  case calls =>
    -- The account knows of building by the stage only.
    have helpers : (if r.session.stage = .unconfigured then [] else [Call.closeHelpers])
        = if log.built = true then [Call.closeHelpers] else [] := by
      by_cases success : log.built = true
      · rw [if_pos success, if_neg (built.1 success)]
      · rw [if_neg success, if_pos (Decidable.not_not.1 (mt built.2 success))]
    rw [done.calls, Session.map_call_teardown, account.core, helpers]
  case further =>
    intro r' later
    obtain ⟨-, closed, -⟩ := later.of_closed (Operation.stage_close env r)
    exact Session.close_of_closed env closed
  all_goals rw [session]; rfl

namespace Follows

/-- Surroundings that keep what they have: nothing can be closed and no file deleted. -/
def clinging : Environment Unit where
  perform c world :=
    (match c with
      | .closeExternal _ | .deleteFile _ | .closeHelpers | .closeCore => .error "busy"
      | c => (Reachable.willing.perform c ()).1, world)
  systemPorts _ _ := .error ""
  freshName world := ("", world)
  helperCount _ := 0
  wait _ world := world
  now _ := 0

/-- A session over a helper with certificates that is prepared. Two instances were attached to its port,
one after the other. -/
def preparedRun : Run Unit :=
  (Operation.prepare false).perform clinging <| (Operation.attach ⟨41000, 1⟩).perform clinging <|
    Operation.build.perform clinging <| (Operation.attach ⟨41000, 0⟩).perform clinging (.certified ())

/-- Closing it fails for the second instance, the file of the certificates, the helpers and the core. -/
theorem takenDown_preparedRun :
    ∃ log, Follows clinging log preparedRun ∧ preparedRun.session.stage = .loaded ∧
      log.built = true ∧ preparedRun.session.externals = [⟨41000, 1⟩] ∧
        preparedRun.trace.any Event.loadsCore = true ∧
          (Session.close clinging preparedRun).1.failures.length = 4 ∧
            ∃ events, Session.TakenDown log preparedRun (Session.close clinging preparedRun).1 events
              (Session.close clinging preparedRun).2 := by
  have follows : Follows clinging _ preparedRun :=
    .perform _ (.perform _ (.perform _ (.perform _ (.fresh _ _ _ _ _))))
  have stage : preparedRun.session.stage = .loaded := by decide +kernel
  obtain ⟨-, -, takenDown, -⟩ := follows.takenDown (by rw [stage]; decide)
  exact ⟨_, follows, stage, by decide +kernel, by decide +kernel, by decide +kernel,
    by decide +kernel, takenDown⟩

end Follows

end ProxyChain
