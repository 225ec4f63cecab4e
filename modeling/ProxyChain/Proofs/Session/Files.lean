import ProxyChain.Proofs.Session.Account
import ProxyChain.Proofs.Session.FileName
import Mathlib.Data.List.Count
import Mathlib.Data.Set.Basic

/-!
# Files are deleted

Names drawn for files are never drawn twice (`Environment.DrawsFresh`), so that the files on a session's
account are different from each other (`OwnFiles`). Closing tries to delete each file that was written,
or that a write was tried on, exactly once, and afterwards nothing is written any more; if all deletions
succeed no file is left (`Leads.filesDeleted`).
-/

namespace ProxyChain

open SessionM

variable {ω : Type} {env : Environment ω} {issued : ω → Set String} {r : Run ω}

/-- An environment that never draws a name twice. The names drawn so far can be told from its world. -/
structure Environment.DrawsFresh (env : Environment ω) (issued : ω → Set String) : Prop where
  new (world : ω) : (env.freshName world).1 ∉ issued world
  noted (world : ω) : insert (env.freshName world).1 (issued world) ⊆ issued (env.freshName world).2
  kept (c : Call) (world : ω) : issued world ⊆ issued (env.perform c world).2

/-- No name is forgotten. -/
def Remembers (issued : ω → Set String) (world world' : ω) : Prop := issued world ⊆ issued world'

namespace Session

/-- The files of a session are different from each other and made from names that were drawn; of these
names one may be spare. -/
structure OwnFiles (issued : ω → Set String) (spare : Option String) (r : Run ω) : Prop where
  nodup : r.session.cacheFiles.Nodup
  made : ∀ path ∈ r.session.cacheFiles, ∃ name ∈ issued r.world, MadeFrom r.session.settings name path
  spare : ∀ name, spare = some name →
    name ∈ issued r.world ∧ ∀ path ∈ r.session.cacheFiles, ¬ MadeFrom r.session.settings name path

namespace OwnFiles

variable {spare : Option String}

/-- What counts are the files, where they are kept, and the names. -/
lemma of_eq {r r' : Run ω} (own : OwnFiles issued spare r)
    (files : r'.session.cacheFiles = r.session.cacheFiles)
    (settings : r'.session.settings = r.session.settings)
    (later : issued r.world ⊆ issued r'.world) : OwnFiles issued spare r' := by
  constructor
  · rw [files]
    exact own.nodup
  · intro path mem
    rw [files] at mem
    obtain ⟨name, drawn, made⟩ := own.made path mem
    rw [settings]
    exact ⟨name, later drawn, made⟩
  · intro name is
    obtain ⟨drawn, unused⟩ := own.spare name is
    rw [files, settings]
    exact ⟨later drawn, unused⟩

/-- The next name is spare. -/
lemma draw (own : OwnFiles issued none r) (fresh : env.DrawsFresh issued) :
    OwnFiles issued (some (env.freshName r.world).1) { r with world := (env.freshName r.world).2 } := by
  have noted := fresh.noted r.world
  have later : OwnFiles issued none { r with world := (env.freshName r.world).2 } :=
    own.of_eq rfl rfl fun name drawn => noted (.inr drawn)
  refine ⟨later.nodup, later.made, ?_⟩
  intro name is
  obtain rfl := Option.some.inj is
  refine ⟨noted (.inl rfl), fun path mem made => ?_⟩
  obtain ⟨name, drawn, madeBefore⟩ := own.made path mem
  have same := made.name_inj madeBefore
  exact fresh.new r.world (same ▸ drawn)

/-- A file made from the spare name is new. -/
lemma record {name : String} {path : Path} (own : OwnFiles issued (some name) r)
    (made : MadeFrom r.session.settings name path) :
    OwnFiles issued none
      { r with session := { r.session with cacheFiles := r.session.cacheFiles ++ [path] } } := by
  obtain ⟨drawn, unused⟩ := own.spare name rfl
  refine ⟨?nodup, ?made, nofun⟩
  case nodup =>
    refine List.nodup_append.2 ⟨own.nodup, List.nodup_singleton path, ?_⟩
    rintro before mem _ mem' rfl
    rw [List.mem_singleton.1 mem'] at mem
    exact unused path mem made
  case made =>
    intro path' mem
    obtain mem | mem := List.mem_append.1 mem
    · exact own.made path' mem
    · rw [List.mem_singleton.1 mem]
      exact ⟨name, drawn, made⟩

/-- Work on helpers keeps the files apart. -/
lemma kept (fresh : env.DrawsFresh issued) : KeptByWork env (OwnFiles issued) where
  perform _ _ own := own.of_eq rfl rfl (fresh.kept _ _)
  helpers _ _ own := own.of_eq rfl rfl subset_rfl
  draw own := own.draw fresh
  drop own := ⟨own.nodup, own.made, nofun⟩
  write made _ own := (own.record made).of_eq rfl rfl (fresh.kept _ _)

end OwnFiles

section Phases

variable (fresh : env.DrawsFresh issued)
include fresh

/-- Calls leave the files on the account as they are. -/
lemma keeps_call (c : Call) : Keeps (OwnFiles issued none) (call env c) :=
  .call fun _ own => own.of_eq rfl rfl (fresh.kept _ _)

/-- A preparation keeps the files apart. -/
lemma keeps_prepare (underTunnel : Bool) : Keeps (OwnFiles issued none) (prepare env underTunnel) := by
  refine .bind (.enter _) fun _ => .bind .session fun s => .bind (.require _ _) fun compiled => ?_
  refine .bind (.forM fun helpers _ => .forM fun entry _ =>
    (OwnFiles.kept fresh).keeps_prepareEntry underTunnel helpers entry) fun _ => ?_
  refine .bind .session fun s => .bind (keeps_call fresh _) fun _ => ?_
  exact fun r own => .update (own.of_eq rfl rfl subset_rfl)

/-- A start keeps the files apart. -/
lemma keeps_start : Keeps (OwnFiles issued none) (start env) := by
  refine .bind (.enter _) fun _ => .bind .session fun s => .bind (.require _ _) fun compiled => ?_
  refine .bind (keeps_call fresh _) fun _ => ?_
  refine .bind (.forM fun helpers _ => .forM fun entry _ =>
    (OwnFiles.kept fresh).keeps_startEntry entry) fun _ => ?_
  refine .bind (.require _ _) fun _ => .bind (keeps_call fresh _) fun _ => ?_
  exact fun r own => .update (own.of_eq rfl rfl subset_rfl)

end Phases

end Session

/-- Whatever is asked of a session keeps its files apart. -/
lemma Operation.ownFiles (fresh : env.DrawsFresh issued) (op : Operation)
    (own : Session.OwnFiles issued none r) : Session.OwnFiles issued none (op.perform env r) := by
  cases op with
  | build =>
    rw [perform, leaves]
    obtain ⟨e, failed⟩ | ⟨compiled, -, -, built⟩ := Session.build_cases env r
    · rw [failed]
      exact own
    · rw [built]
      exact own.of_eq rfl rfl subset_rfl
  | prepare underTunnel => exact (Session.keeps_prepare fresh underTunnel).leaves own
  | start => exact (Session.keeps_start fresh).leaves own
  | close =>
    by_cases closed : r.session.stage = .closed
    · rw [perform, Session.close_of_closed env closed]
      exact own
    · have session := (Session.carriedOut_close env closed).2
      have nothing : (Operation.close.perform env r).session.cacheFiles = [] :=
        congrArg Session.cacheFiles session
      refine ⟨?_, fun path mem => ?_, fun name is => ?_⟩
      · rw [nothing]
        exact List.nodup_nil
      · rw [nothing] at mem
        cases mem
      · cases is
  | attach external => exact own.of_eq rfl rfl subset_rfl

/-- Whatever happens to a session keeps its files apart. -/
lemma Leads.ownFiles (fresh : env.DrawsFresh issued) {r' : Run ω}
    (leads : Leads env (Remembers issued) r r') (own : Session.OwnFiles issued none r) :
    Session.OwnFiles issued none r' := by
  induction leads with
  | now => exact own
  | perform op _ ih => exact op.ownFiles fresh ih
  | drift _ remembered ih => exact ih.of_eq rfl rfl remembered

/-- The paths where there may be a file after an event, given those before it. A write may leave a file
also when it fails; a deletion takes one away if it succeeds. -/
def Event.filesAfter (files : List Path) (e : Event) : List Path :=
  match e.call with
  | .writeFile path _ => path :: files
  | .deleteFile path => if e.succeeded then files.filter (· ≠ path) else files
  | _ => files

/-- The paths where events may have left a file. -/
def filesLeft (events : List Event) : List Path := events.foldl Event.filesAfter []

/-- A file is there after an event if it was there before and the event does not delete it, or if the
event may have written it. -/
lemma Event.mem_filesAfter {files : List Path} {e : Event} {path : Path}
    (there : path ∈ e.filesAfter files) :
    path ∈ files ∧ (e.call = .deleteFile path → e.succeeded = false) ∨ e.call.written? = some path := by
  unfold filesAfter at there
  split at there
  · next call =>
    rw [call]
    obtain rfl | mem := List.mem_cons.1 there
    · exact .inr rfl
    · exact .inl ⟨mem, nofun⟩
  · next deleted call =>
    split at there
    · next succeeded =>
      obtain ⟨mem, other⟩ := List.mem_filter.1 there
      refine .inl ⟨mem, fun deletes => ?_⟩
      rw [call] at deletes
      cases deletes
      simp at other
    · next failed => exact .inl ⟨there, fun _ => Bool.eq_false_iff.2 failed⟩
  · next other => exact .inl ⟨there, fun deletes => absurd deletes (other path)⟩

/-- A file that is left was there before and was not deleted, or it was written. -/
lemma mem_foldl_filesAfter {files : List Path} {events : List Event} {path : Path}
    (there : path ∈ events.foldl Event.filesAfter files) :
    path ∈ files ∧ (∀ e ∈ events, e.call = .deleteFile path → e.succeeded = false) ∨
      path ∈ written events := by
  induction events generalizing files with
  | nil => exact .inl ⟨there, nofun⟩
  | cons e events ih =>
    obtain ⟨mem, undeleted⟩ | later := ih there
    · obtain ⟨mem, kept⟩ | now := Event.mem_filesAfter mem
      · refine .inl ⟨mem, fun e' mem' => ?_⟩
        obtain rfl | mem' := List.mem_cons.1 mem'
        · exact kept
        · exact undeleted e' mem'
      · exact .inr (List.mem_filterMap.2 ⟨e, List.mem_cons_self, now⟩)
    · have mem : path ∈ written ([e] ++ events) := by
        rw [written_append]
        exact List.mem_append_right _ later
      exact .inr mem

namespace Session

/-- Among the tasks in taking a session down, each of its files is deleted once. -/
lemma count_deleteFile_teardown (s : Session) (path : Path) :
    (s.teardown.map TeardownTask.call).count (.deleteFile path) = s.cacheFiles.count path := by
  have others : (s.externals.map Call.closeExternal).count (.deleteFile path) = 0 :=
    List.count_eq_zero.2 fun mem => by simp at mem
  have files : (s.cacheFiles.map Call.deleteFile).count (.deleteFile path) = s.cacheFiles.count path :=
    List.count_map_of_injective _ _ (fun _ _ same => Call.deleteFile.inj same) path
  rw [map_call_teardown, List.count_append, List.count_append, List.count_append, others, files]
  split <;> split <;> simp

namespace CarriedOut

variable {r' : Run ω} {tasks : List TeardownTask} {failures : List TeardownFailure}
  {events : List Event}

/-- If all deletions succeed, no file is left that was on the session's account. -/
lemma filesLeft_eq_nil (done : CarriedOut r.session.teardown r failures events r')
    (account : r.session.cacheFiles = written r.trace)
    (deleted : ∀ e ∈ events, ∀ path, e.call = .deleteFile path → e.succeeded = true) :
    filesLeft r'.trace = [] := by
  refine List.eq_nil_iff_forall_not_mem.2 fun path left => ?_
  rw [filesLeft, done.trace, List.foldl_append] at left
  obtain ⟨before, undeleted⟩ | after := mem_foldl_filesAfter left
  · obtain ⟨nothing, -⟩ | mem := mem_foldl_filesAfter before
    · cases nothing
    · -- The file was written at some time, so it is on the account and one of the events deletes it.
      have task : Call.deleteFile path ∈ events.map Event.call := by
        rw [done.calls, ← List.count_pos_iff, count_deleteFile_teardown, List.count_pos_iff, account]
        exact mem
      obtain ⟨e, mem, deletes⟩ := List.mem_map.1 task
      have failed := undeleted e mem deletes
      rw [deleted e mem path deletes] at failed
      cases failed
  · rw [done.written_eq_nil] at after
    cases after

end CarriedOut

end Session

/-- From a new session on, whatever is asked of it and whatever fails: as long as it is not closed, the
files on its account are those that it wrote or tried to write. Closing it tries to delete each of them
exactly once and no other file; afterwards it has no files and never writes one again. If all deletions
succeed, no file is left. -/
theorem Leads.filesDeleted {chain : List Record} {settings : Settings} {policy : ShutdownPolicy}
    {forTest : Bool} {world : ω} (fresh : env.DrawsFresh issued)
    (leads : Leads env (Remembers issued) (.fresh chain settings policy forTest world) r)
    (opened : r.session.stage ≠ .closed) :
    r.session.cacheFiles = written r.trace ∧
      ∃ events, (Operation.close.perform env r).trace = r.trace ++ events ∧
        (∀ path, (events.map Event.call).count (.deleteFile path)
          = if path ∈ written r.trace then 1 else 0) ∧
        ∀ r', Leads env (Remembers issued) (Operation.close.perform env r) r' →
          r'.session.cacheFiles = [] ∧ written r'.trace = written r.trace ∧
            ((∀ e ∈ events, ∀ path, e.call = .deleteFile path → e.succeeded = true) →
              filesLeft r'.trace = []) := by
  have account := ((Reachable.of_fresh leads).accounts opened).files
  have own := leads.ownFiles fresh ⟨.nil, nofun, nofun⟩
  obtain ⟨⟨events, done⟩, session⟩ := Session.carriedOut_close env opened
  refine ⟨account, events, done.trace, fun path => ?_, fun r' later => ?_⟩
  · rw [done.calls, Session.count_deleteFile_teardown, own.nodup.count, account]
  · have closed : (Operation.close.perform env r).session.stage = .closed :=
      Operation.stage_close env r
    obtain ⟨trace, -, files⟩ := later.of_closed closed
    refine ⟨files.trans (congrArg Session.cacheFiles session), ?_, fun deleted => ?_⟩
    · rw [trace, Operation.perform, done.trace, written_append, done.written_eq_nil, List.append_nil]
    · rw [trace]
      exact done.filesLeft_eq_nil account deleted

namespace Leads

/-- Surroundings that draw longer and longer names and have no room for configuration files. -/
def fullDisk : Environment Nat where
  perform c world :=
    (match c with
      | .writeFile path _ => if path.display.endsWith ".json" then .error "disk full" else .ok ()
      | c => (Reachable.willing.perform c ()).1, world)
  systemPorts _ _ := .error ""
  freshName world := (String.ofList (List.replicate world 'a'), world + 1)
  helperCount _ := 0
  wait _ world := world
  now _ := 0

/-- The names that were drawn are shorter than the next one. -/
def shorter (world : Nat) : Set String := { name | name.toList.length < world }

/-- No name is drawn twice on a full disk. -/
lemma drawsFresh_fullDisk : fullDisk.DrawsFresh shorter where
  new world drawn := by simp [fullDisk, shorter] at drawn
  noted world := by
    rintro name (rfl | drawn)
    · simp [fullDisk, shorter]
    · exact Nat.lt_succ_of_lt drawn
  kept _ _ := subset_rfl

/-- A session over a helper with certificates that was prepared and twice failed to start. -/
def retriedRun : Run Nat :=
  Operation.start.perform fullDisk <| Operation.start.perform fullDisk <|
    (Operation.prepare false).perform fullDisk <| Operation.build.perform fullDisk (.certified 0)

/-- It has three files, one of which could be written, and leaves none of them. -/
theorem filesDeleted_retriedRun :
    fullDisk.DrawsFresh shorter ∧ Leads fullDisk (Remembers shorter) (.certified 0) retriedRun ∧
      retriedRun.session.stage = .loaded ∧ (written retriedRun.trace).length = 3 ∧
        retriedRun.session.cacheFiles = written retriedRun.trace ∧
          filesLeft (Operation.close.perform fullDisk retriedRun).trace = [] := by
  have leads : Leads fullDisk (Remembers shorter) (.certified 0) retriedRun :=
    .perform _ (.perform _ (.perform _ (.perform _ .now)))
  have stage : retriedRun.session.stage = .loaded := by decide +kernel
  have three : (written retriedRun.trace).length = 3 := by decide +kernel
  have succeeded : ∀ e ∈ (Operation.close.perform fullDisk retriedRun).trace.drop
      retriedRun.trace.length, e.succeeded = true := by decide +kernel
  obtain ⟨account, events, trace, -, after⟩ :=
    leads.filesDeleted drawsFresh_fullDisk (by rw [stage]; decide)
  rw [trace, List.drop_left] at succeeded
  obtain ⟨-, -, nothing⟩ := after _ .now
  exact ⟨drawsFresh_fullDisk, leads, stage, three, account,
    nothing fun e mem _ _ => succeeded e mem⟩

end Leads

end ProxyChain
