import ProxyChain.Proofs.Session.Measurement
import Mathlib.Data.List.Count

/-!
# What a closed session has given back

A session that is not closed has taken nothing down and has on its account all that is to be taken down
(`Run.Pending`). Once it is closed, it has asked for the end of all of it (`Run.Released`). Every
operation keeps to this, and so does a measurement (`Session.Measured.inHand`).
-/

namespace ProxyChain

open SessionM

variable {ω : Type} {env : Environment ω} {r r' : Run ω} {events : List Event}

namespace Call

/-- Whether a call takes something down. -/
def isTeardown : Call → Bool
  | closeExternal _ | deleteFile _ | closeHelpers | closeCore => true
  | resolveHelper _ | createDirectory _ | writeFile .. | loadCore .. | startCore | startHelper _
  | launchExternal _ | updateTrust _ | testLink .. => false

/-- Work on helpers takes nothing down. -/
lemma isTeardown_of_isWork {c : Call} (work : c.isWork = true) : c.isTeardown = false := by
  cases c <;> first | rfl | cases work

end Call

namespace Run

/-- Nothing was taken down yet, and the account is in line with the calls made. -/
structure Pending (r : Run ω) : Prop where
  files : r.session.cacheFiles = written r.trace
  cores : r.trace.countP Event.loadsCore = r.session.coreLoaded.toNat
  calls : ∀ e ∈ r.trace, e.call.isTeardown = false

/-- All was taken down that the calls of `work` had brought about, by one call each: first the attached
instances, then every file that was written or tried, then the helpers if the chain was compiled, then
the core if one was loaded. -/
structure Released (r : Run ω) (work closing : List Event) : Prop where
  trace : r.trace = work ++ closing
  calls : ∀ e ∈ work, e.call.isTeardown = false
  cores : work.countP Event.loadsCore ≤ 1
  closing : ∃ externals : List External, closing.map Event.call =
    externals.map Call.closeExternal ++ (written work).map Call.deleteFile
      ++ (if r.session.compiled.isSome then [.closeHelpers] else [])
      ++ List.replicate (work.countP Event.loadsCore) .closeCore
  files : r.session.cacheFiles = []

/-- A session keeps hold of what it has brought about until it gives it back. -/
structure InHand (r : Run ω) : Prop where
  holds : r.session.Holds
  pending : r.session.stage ≠ .closed → r.Pending
  released : r.session.stage = .closed → ∃ work closing, r.Released work closing

/-- Events that take nothing down are added to the account. -/
lemma Pending.append (pending : r.Pending) (trace : r'.trace = r.trace ++ events)
    (files : r'.session.cacheFiles = r.session.cacheFiles ++ written events)
    (cores : r.session.coreLoaded.toNat + events.countP Event.loadsCore
      = r'.session.coreLoaded.toNat)
    (calls : ∀ e ∈ events, e.call.isTeardown = false) : r'.Pending := by
  constructor
  · rw [files, trace, pending.files, written_append]
  · rw [trace, List.countP_append, pending.cores, cores]
  · intro e mem
    rw [trace] at mem
    exact (List.mem_append.1 mem).elim (pending.calls e) (calls e)

/-- What leaves the account and the calls alone does not matter to it. -/
lemma InHand.of_same (h : r.InHand) (trace : r'.trace = r.trace)
    (stage : r'.session.stage = r.session.stage) (compiled : r'.session.compiled = r.session.compiled)
    (core : r'.session.coreLoaded = r.session.coreLoaded)
    (files : r'.session.cacheFiles = r.session.cacheFiles)
    (grows : Session.Grows r.session r'.session) : r'.InHand := by
  refine ⟨h.holds.of_same stage compiled core grows, fun opened => ?_, fun closed => ?_⟩
  · rw [stage] at opened
    obtain ⟨accounted, cores, calls⟩ := h.pending opened
    exact ⟨by rw [files, trace, accounted], by rw [trace, core, cores], by rwa [trace]⟩
  · rw [stage] at closed
    obtain ⟨work, closing, released⟩ := h.released closed
    refine ⟨work, closing, ?_, released.calls, released.cores, ?_, ?_⟩
    · rw [trace, released.trace]
    · rw [compiled]
      exact released.closing
    · rw [files, released.files]

end Run

namespace Session

/-- A phase that makes one more call after its work loads a core at most by that call. -/
lemma Concludes.countP_loadsCore {phase : Phase} {last : Call → Prop}
    {result : Except SessionError Unit} (h : Concludes phase last r result events r')
    (unloaded : r.session.stage = phase.before → r.session.coreLoaded = true →
      ∀ c, last c → ∀ outcome, Event.loadsCore ⟨c, outcome⟩ = false) :
    r.session.coreLoaded.toNat + events.countP Event.loadsCore = r'.session.coreLoaded.toNat := by
  have none {events : List Event} {r' : Run ω} (works : Works r events r') :
      events.countP Event.loadsCore = 0 := by
    rw [List.countP_eq_zero]
    exact List.any_eq_false.1 works.any_loadsCore
  cases h with
  | broken works => rw [none works, Nat.add_zero, works.coreLoaded]
  | @failed c events r' works is fault =>
    have fails : Event.loadsCore ⟨c, .error fault⟩ = false := by cases c <;> rfl
    rw [List.countP_append, none works, List.countP_singleton, fails]
    exact congrArg Bool.toNat works.coreLoaded.symm
  | @passed c events r' opened works is reply =>
    rw [List.countP_append, none works, List.countP_singleton, works.coreLoaded]
    -- A session that holds a core does not come to a call that loads another one.
    cases core : r.session.coreLoaded with
    | false => cases Event.loadsCore ⟨c, .ok reply⟩ <;> rfl
    | true =>
      rw [unloaded opened core c is (.ok reply)]
      rfl

/-- A phase that makes one more call after its work has brought about what is on its account. -/
lemma Concludes.pending {phase : Phase} {last : Call → Prop} {result : Except SessionError Unit}
    (h : Concludes phase last r result events r') (trace : r'.trace = r.trace ++ events)
    (silent : ∀ c, last c → c.written? = none ∧ c.isTeardown = false)
    (unloaded : r.session.stage = phase.before → r.session.coreLoaded = true →
      ∀ c, last c → ∀ outcome, Event.loadsCore ⟨c, outcome⟩ = false)
    (pending : r.Pending) : r'.Pending := by
  refine pending.append trace (h.passes fun c is => (silent c is).1).files
    (h.countP_loadsCore unloaded) fun e mem => ?_
  obtain work | is := h.calls e mem
  · exact Call.isTeardown_of_isWork work
  · exact (silent e.call is).2

end Session

namespace Operation

/-- No phase closes a session. -/
lemma stage_ne_closed {op : Operation} {phase : Phase} (is : op.phase? = some phase)
    (opened : r.session.stage ≠ .closed) : (op.perform env r).session.stage ≠ .closed := by
  obtain ⟨_, -, passed⟩ := op.passes is env r
  rw [passed.stage]
  split
  · cases phase <;> exact nofun
  · exact opened

/-- A phase takes nothing down and keeps the account in line. -/
lemma pending_perform {op : Operation} {phase : Phase} (is : op.phase? = some phase)
    (holds : r.session.Holds) (pending : r.Pending) : (op.perform env r).Pending := by
  cases op with
  | build =>
    rw [perform, leaves]
    obtain ⟨e, failed⟩ | ⟨compiled, -, -, built⟩ := Session.build_cases env r
    · rw [failed]
      exact pending
    · rw [built]
      exact ⟨pending.files, pending.cores, pending.calls⟩
  | prepare underTunnel =>
    obtain ⟨events, trace, concludes⟩ := Session.concludes_prepare env underTunnel r
    refine concludes.pending trace ?_ (fun stage core => ?_) pending
    · rintro c ⟨compiled, -, rfl⟩
      exact ⟨rfl, rfl⟩
    · rw [holds.core, stage] at core
      simp [Phase.before] at core
  | start =>
    obtain ⟨events, trace, concludes⟩ := Session.concludes_start env r
    refine concludes.pending trace ?_ (fun _ _ => ?_) pending
    · rintro c rfl
      exact ⟨rfl, rfl⟩
    · rintro c rfl outcome
      rfl
  | close | attach _ => cases is

/-- The helpers are closed if and only if there is something to run them for. -/
lemma closeHelpers_eq (holds : r.session.Holds) (opened : r.session.stage ≠ .closed) :
    (if r.session.stage = .unconfigured then [] else [Call.closeHelpers])
      = if r.session.compiled.isSome then [Call.closeHelpers] else [] := by
  cases stage : r.session.stage with
  | unconfigured =>
    rw [holds.unbuilt stage]
    rfl
  | configured => rw [holds.compiled (.inl stage)]; rfl
  | loaded => rw [holds.compiled (.inr (.inl stage))]; rfl
  | running => rw [holds.compiled (.inr (.inr stage))]; rfl
  | closed => exact absurd stage opened

/-- Closing gives back what is on the account. -/
lemma released_close (env : Environment ω) (holds : r.session.Holds) (pending : r.Pending)
    (opened : r.session.stage ≠ .closed) :
    ∃ closing, (Operation.close.perform env r).Released r.trace closing := by
  obtain ⟨⟨events, done⟩, session⟩ := Session.carriedOut_close env opened
  refine ⟨events, done.trace, pending.calls, ?_, ⟨r.session.externals, ?_⟩, ?_⟩
  · rw [pending.cores]
    exact Bool.toNat_le _
  · have core : (if r.session.coreLoaded then [Call.closeCore] else [])
        = List.replicate r.session.coreLoaded.toNat Call.closeCore := by
      cases r.session.coreLoaded <;> rfl
    rw [done.calls, Session.map_call_teardown, closeHelpers_eq holds opened, core, pending.files,
      pending.cores, perform, session]
    rfl
  · rw [perform, session]
    rfl

/-- Whatever is asked of a session, it keeps hold of what it has brought about. -/
theorem inHand_perform (op : Operation) (env : Environment ω) (h : r.InHand) :
    (op.perform env r).InHand := by
  by_cases closed : r.session.stage = .closed
  · obtain same | ⟨external, attached⟩ := op.perform_of_closed env closed
    · rw [same]
      exact h
    · rw [attached]
      exact h.of_same rfl rfl rfl rfl rfl (.of_eq rfl rfl)
  have holds := op.holds_perform env h.holds
  have pending := h.pending closed
  obtain ⟨phase, is⟩ | rfl | ⟨external, rfl⟩ := op.kinds
  · exact ⟨holds, fun _ => pending_perform is h.holds pending,
      fun now => absurd now (stage_ne_closed is closed)⟩
  · exact ⟨holds, absurd (stage_close env r),
      fun _ => ⟨r.trace, released_close env h.holds pending closed⟩⟩
  · exact h.of_same rfl rfl rfl rfl rfl (.of_eq rfl rfl)

end Operation

/-- An owned session keeps hold of what it has brought about. -/
theorem Owned.inHand (owned : Owned env r) : r.InHand := by
  induction owned with
  | fresh chain settings world =>
    have owned : Owned env (.fresh chain settings {} false world) := .fresh chain settings world
    exact ⟨owned.holds, fun _ => ⟨rfl, rfl, nofun⟩, nofun⟩
  | perform op _ ih => exact op.inHand_perform env ih
  | asTest _ ih | govern _ _ ih | drift _ _ ih =>
    exact ih.of_same rfl rfl rfl rfl rfl (.of_eq rfl rfl)

namespace Session

variable {link : String} {timeoutMs : Nat} {underTunnel : Bool}

/-- The calls that a measurement makes of the core put nothing on the account. -/
lemma inHand_ask {c : Call} (h : r.InHand) (running : r.session.stage = .running)
    (silent : c.written? = none) (keeps : c.isTeardown = false)
    (unloaded : ∀ outcome, Event.loadsCore ⟨c, outcome⟩ = false) : (r.perform env c).2.InHand := by
  have opened : r.session.stage ≠ .closed := by
    rw [running]
    exact nofun
  refine ⟨h.holds, fun _ => (h.pending opened).append rfl ?_ ?_ ?_, fun closed => absurd closed opened⟩
  · have nothing : written [⟨c, (env.perform c r.world).1⟩] = [] := List.filterMap_cons_none silent
    rw [nothing, List.append_nil]
    rfl
  · rw [List.countP_singleton, unloaded]
    rfl
  · intro e mem
    rw [List.mem_singleton.1 mem]
    exact keeps

/-- The measurement keeps hold of everything when it updates trust. -/
lemma Launched.inHand_trusted (launched : Launched env underTunnel r) (h : r.InHand) :
    (r.trusted env underTunnel).2.InHand := by
  obtain ⟨running, -, -⟩ := launched.running h.holds
  obtain ⟨-, world, waited⟩ := warmUp_eq env (r.started env underTunnel)
  have warm : (r.warm env underTunnel).InHand := by
    have started := Operation.start.inHand_perform env
      ((Operation.prepare underTunnel).inHand_perform env (Operation.build.inHand_perform env h))
    rw [Run.warm, waited]
    exact started.of_same rfl rfl rfl rfl rfl (.refl _)
  exact inHand_ask warm running rfl rfl fun _ => rfl

/-- The measurement keeps hold of everything when it tests a link. -/
lemma Launched.inHand_tested (launched : Launched env underTunnel r) (h : r.InHand) :
    (r.tested env link timeoutMs underTunnel).2.InHand := by
  obtain ⟨running, -, -⟩ := launched.running h.holds
  exact inHand_ask (launched.inHand_trusted h) running rfl rfl fun _ => rfl

/-- However a measurement ends, the session keeps hold of what it has brought about. -/
theorem Measured.inHand {outcome : Except SessionError Nat}
    (measured : Measured env link timeoutMs underTunnel r outcome r') (h : r.InHand) : r'.InHand := by
  have built := Operation.build.inHand_perform env h
  have prepared := (Operation.prepare underTunnel).inHand_perform env built
  cases measured with
  | unbuilt => exact built
  | unprepared => exact prepared
  | unstarted => exact Operation.start.inHand_perform env prepared
  | untrusted launched => exact launched.inHand_trusted h
  | untested launched | tested launched => exact launched.inHand_tested h

end Session

end ProxyChain
