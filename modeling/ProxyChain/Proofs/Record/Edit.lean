import ProxyChain.Proofs.Record.Layout

/-!
# Edits of a record

A record is given a profile of any kind or of its own kind, renamed in place, and replaced by what is
decoded from its bytes, in any order and any number of times. An edit changes nothing but the profile, and
the type only if it gives the record a profile of any kind (`Edit.Lawful`). An edit that fails leaves the
record as it was. So it is after any number of edits (`each_lawful`).
-/

namespace ProxyChain.Record

/-- A record that is within the bounds of its layout. -/
structure Storable (r : Record) : Prop where
  texts : ∀ s ∈ r.texts, Wire.Writable s
  payload : r.profile.encode.length < 2 ^ 32

/-- What may be done to a record. -/
inductive Edit where
  | put (profile : Profile)
  | set (profile : Profile)
  | rename (name : String)
  /-- What is decoded from the bytes of the record takes its place. -/
  | recode
  deriving DecidableEq, Repr

namespace Edit

/-- Why an edit fails. -/
inductive Failure where
  | mismatch (error : TypeMismatch)
  | unreadable (error : PayloadError)
  deriving DecidableEq, Repr

/-- The record that an edit makes. -/
def perform (r : Record) : Edit → Except Failure Record
  | put profile => .ok (r.putProfile profile)
  | set profile => (r.setProfile profile).mapError .mismatch
  | rename name => .ok (r.rename name)
  | recode => (decode r.encode).mapError .unreadable

/-- The record after an edit. One that fails makes none, and the record stays. -/
def after (e : Edit) (r : Record) : Record :=
  match e.perform r with
  | .ok r' => r'
  | .error _ => r

/-- The profile that an edit gives a record of any type. -/
def put? : Edit → Option Profile
  | put profile => some profile
  | _ => none

/-- What an edit does to a record. -/
structure Lawful (e : Edit) (r : Record) : Prop where
  tag : (e.after r).tag = (e.put?.map Profile.tag).getD r.tag
  others : e.after r = { r with profile := (e.after r).profile }
  replaces {p : Profile} : e = set p → p.tag = r.tag → e.perform r = .ok { r with profile := p }
  succeeds_iff {p : Profile} : e = set p → ((∃ r', e.perform r = .ok r') ↔ p.tag = r.tag)
  failed {error : Failure} : e.perform r = .error error →
    e.after r = r ∧ ∃ p, e = set p ∧ error = .mismatch ⟨r.tag, p.tag⟩
  recodes : e = recode → e.perform r = .ok r

section Step

variable {e : Edit} {r r' : Record} {p : Profile}

/-- An edit that succeeds makes another record. -/
lemma after_of_ok (h : e.perform r = .ok r') : e.after r = r' := by rw [after, h]

/-- An edit that fails leaves the record as it is. -/
lemma after_of_error {error : Failure} (h : e.perform r = .error error) : e.after r = r := by
  rw [after, h]

/-- A profile with the tag of the record takes the place of its own. -/
lemma perform_set_of_eq (same : p.tag = r.tag) :
    (set p).perform r = .ok { r with profile := p } := by
  rw [perform, setProfile, if_pos same]
  rfl

/-- A profile with another tag is refused. -/
lemma perform_set_of_ne (other : p.tag ≠ r.tag) :
    (set p).perform r = .error (.mismatch ⟨r.tag, p.tag⟩) := by
  rw [perform, setProfile, if_neg other]
  rfl

/-- A record that can be stored stays the same when it is encoded and decoded again. -/
lemma perform_recode (storable : r.Storable) : recode.perform r = .ok r := by
  rw [perform, (decode_encode storable.texts storable.payload).1]
  rfl

/-- An edit is lawful if a record that is recoded is within the bounds. -/
lemma lawful (storable : e = recode → r.Storable) : e.Lawful r := by
  cases e with
  | put p => exact ⟨rfl, rfl, nofun, nofun, nofun, nofun⟩
  | rename name => exact ⟨rfl, rfl, nofun, nofun, nofun, nofun⟩
  | recode =>
    have performed := perform_recode (storable rfl)
    have same := after_of_ok performed
    refine ⟨congrArg Record.tag same, ?_, nofun, nofun, ?_, fun _ => performed⟩
    · rw [same]
    · intro error failed
      rw [performed] at failed
      cases failed
  | set p =>
    by_cases same : p.tag = r.tag
    · have performed := perform_set_of_eq same
      have made := after_of_ok performed
      refine ⟨?_, ?_, ?_, ?_, ?_, nofun⟩
      · rw [made]
        exact same
      · rw [made]
      · intro p' offered _
        cases offered
        exact performed
      · intro p' offered
        cases offered
        exact iff_of_true ⟨_, performed⟩ same
      · intro error failed
        rw [performed] at failed
        cases failed
    · have performed := perform_set_of_ne same
      have stays := after_of_error performed
      refine ⟨congrArg Record.tag stays, ?_, ?_, ?_, ?_, nofun⟩
      · rw [stays]
      · intro p' offered equal
        cases offered
        exact absurd equal same
      · intro p' offered
        cases offered
        refine iff_of_false ?_ same
        rintro ⟨_, succeeded⟩
        rw [performed] at succeeded
        cases succeeded
      · intro error failed
        rw [performed] at failed
        cases failed
        exact ⟨stays, p, rfl, rfl⟩

end Step

end Edit

/-- The record after edits, one after the other. -/
def edited (r : Record) : List Edit → Record
  | [] => r
  | e :: edits => (e.after r).edited edits

/-- Each edit, together with the record that it finds, has a property. -/
def Each (P : Edit → Record → Prop) (r : Record) : List Edit → Prop
  | [] => True
  | e :: edits => P e r ∧ (e.after r).Each P edits

section Run

variable {r : Record} {edits : List Edit}

/-- What holds of each edit holds if something stronger does. -/
lemma Each.mono {P Q : Edit → Record → Prop} (sub : ∀ e r, P e r → Q e r) (each : r.Each P edits) :
    r.Each Q edits := by
  induction edits generalizing r with
  | nil => exact trivial
  | cons e edits ih => exact ⟨sub e r each.1, ih each.2⟩

/-- Lawful edits change nothing but the profile. -/
lemma edited_eq (lawful : r.Each Edit.Lawful edits) :
    r.edited edits = { r with profile := (r.edited edits).profile } := by
  induction edits generalizing r with
  | nil => rfl
  | cons e edits ih =>
    rw [edited, ih lawful.2, lawful.1.others]

/-- The type is that of the profile that was put last. -/
lemma tag_edited (lawful : r.Each Edit.Lawful edits) :
    (r.edited edits).tag = ((edits.filterMap Edit.put?).getLast?.map Profile.tag).getD r.tag := by
  induction edits generalizing r with
  | nil => rfl
  | cons e edits ih =>
    rw [edited, ih lawful.2, lawful.1.tag, List.filterMap_cons]
    cases e.put? with
    | none => rfl
    | some p =>
      rw [List.getLast?_cons]
      cases (edits.filterMap Edit.put?).getLast? <;> rfl

end Run

/-- However a record is edited, as long as it is within the bounds of its layout when it is recoded, each
edit is lawful. In the end nothing but the profile is another, and the type is that of the profile that was
put last. -/
theorem each_lawful {r : Record} {edits : List Edit}
    (storable : r.Each (fun e r => e = .recode → r.Storable) edits) :
    r.Each Edit.Lawful edits ∧ r.edited edits = { r with profile := (r.edited edits).profile } ∧
      (r.edited edits).tag = ((edits.filterMap Edit.put?).getLast?.map Profile.tag).getD r.tag := by
  have lawful : r.Each Edit.Lawful edits := storable.mono fun _ _ => Edit.lawful
  exact ⟨lawful, edited_eq lawful, tag_edited lawful⟩

/-- A record with a text beyond ASCII. -/
def unedited : Record :=
  { id := -7, ping := 42, uuid := "ü✓", error := some "", profile := ⟨{}, .trojan {}⟩, dirty := true }

/-- A profile of another kind is put, one of the first kind is refused, and what was put is renamed and
replaced; in between the record is recoded. -/
def retyping : List Edit :=
  [.recode, .put ⟨{}, .hysteria {}⟩, .set ⟨{}, .trojan {}⟩, .rename "東京", .recode,
   .set ⟨{ name := "京都" }, .hysteria { protocolVersion := 1 }⟩, .recode]

/-- Each of these edits is lawful, and they change nothing but the profile. -/
theorem each_lawful_retyping :
    unedited.Each (fun e r => e = .recode → r.Storable) retyping ∧ unedited.Each Edit.Lawful retyping ∧
      unedited.edited retyping
        = { unedited with profile := (unedited.edited retyping).profile } ∧
      (unedited.edited retyping).tag = 15 := by
  let renamed : Record := { unedited with profile := ⟨{ name := "東京" }, .hysteria {}⟩ }
  let replaced : Record :=
    { unedited with profile := ⟨{ name := "京都" }, .hysteria { protocolVersion := 1 }⟩ }
  have first : unedited.Storable := ⟨by unfold Wire.Writable; decide, by decide⟩
  have second : renamed.Storable := ⟨by unfold Wire.Writable; decide, by decide⟩
  have third : replaced.Storable := ⟨by unfold Wire.Writable; decide, by decide⟩
  have storable : unedited.Each (fun e r => e = .recode → r.Storable) retyping := by
    simp only [retyping, Each, Edit.after_of_ok (Edit.perform_recode first)]
    refine ⟨fun _ => first, nofun, nofun, nofun, fun _ => second, nofun, fun _ => ?_, trivial⟩
    change ((Edit.set replaced.profile).after (Edit.recode.after renamed)).Storable
    rw [Edit.after_of_ok (Edit.perform_recode second)]
    exact third
  obtain ⟨lawful, others, tag⟩ := each_lawful storable
  exact ⟨storable, lawful, others, tag⟩

end ProxyChain.Record
