import ProxyChain.Proofs.Wire.Stable
import ProxyChain.Proofs.Wire.Text

/-!
# When bytes run out

A stable reader is `Candid` if it says of missing bytes where they are missing and asks for no more
than it takes: with fewer than it asks for it still lacks some. So it tells where whatever it can read
was cut off (`Candid.cut`). `pure`, `throw` and `bind` keep this, so that it holds of every reader that
is put together from `take` and `byte`. The two readers that look at a byte before they pass it, `chars`
and `string?`, are opened by hand.
-/

namespace ProxyChain.Wire.Reader

/-- A stable reader that tells where bytes are missing and how many at least. -/
structure Candid {α : Type} (read : Reader α) : Prop extends Stable read where
  /-- Bytes are missing behind those that are there, and fewer than are asked for do not suffice. -/
  lacks : ∀ {position : Nat} {bytes : Bytes} {offset needed : Nat} {c : Cursor},
    read ⟨position, bytes⟩ = .error (.truncated offset needed) c →
      offset ≤ position + bytes.length ∧ 1 ≤ needed ∧
        ∀ more, more.length < needed → ∃ offset' needed' c',
          read ⟨position, bytes ++ more⟩ = .error (.truncated offset' needed') c'

/-- What is found of something that was cut off: bytes are missing, some of the `rest` at least. -/
def CutOff {α : Type} (found : Except ReadError α) (position : Nat) (cut rest : Bytes) : Prop :=
  ∃ offset needed, found = .error (.truncated offset needed) ∧
    offset ≤ position + cut.length ∧ 1 ≤ needed ∧ needed ≤ rest.length

namespace Candid

variable {α β : Type} {read : Reader α}

/-- Something that a reader can read cannot be read when its end is missing. -/
lemma cut (h : Candid read) {cut rest : Bytes} {a : α} (whole : Yields read (cut ++ rest) a)
    (missing : rest ≠ []) (position : Nat) : CutOff (read.parse ⟨position, cut⟩) position cut rest := by
  have made := whole position []
  rw [List.append_nil] at made
  unfold parse
  cases part : read ⟨position, cut⟩ with
  | ok a' c =>
    -- Then the whole is read without its end, which is not what happens.
    obtain ⟨used, behind, rfl, rfl, again⟩ := h.exists_used part
    have same := again (behind ++ rest)
    rw [← List.append_assoc, made] at same
    have nothing := congrArg Cursor.rest (EStateM.Result.ok.inj same).2
    exact absurd (List.append_eq_nil_iff.1 nothing.symm).2 missing
  | error e c =>
    cases e with
    | truncated offset needed =>
      obtain ⟨inside, some, least⟩ := h.lacks part
      refine ⟨offset, needed, rfl, inside, some, Nat.le_of_not_lt fun fewer => ?_⟩
      obtain ⟨_, _, _, still⟩ := least rest fewer
      rw [made] at still
      cases still
    | invalidField field value =>
      obtain ⟨_, final⟩ := h.error part rfl rest
      rw [made] at final
      cases final
    | invalidString offset =>
      obtain ⟨_, final⟩ := h.error part rfl rest
      rw [made] at final
      cases final

/-- A value is given candidly. -/
lemma pure (a : α) : Candid (Pure.pure a) where
  toStable := .pure a
  lacks := by
    intro position bytes offset needed c failed
    cases failed

/-- What is thrown must not pretend that bytes are missing. -/
lemma throw {e : ReadError} (final : e.isTruncated = false) : Candid (throw e : Reader α) where
  toStable := .throw e
  lacks := by
    intro position bytes offset needed c failed
    cases failed
    cases final

/-- One reader after another is candid if both are. -/
lemma bind {next : α → Reader β} (h : Candid read) (h' : ∀ a, Candid (next a)) :
    Candid (read >>= next) where
  toStable := h.toStable.bind fun a => (h' a).toStable
  lacks := by
    intro position bytes offset needed c failed
    rcases of_bind_error failed with first | ⟨a, c', first, failed⟩
    · obtain ⟨inside, some, least⟩ := h.lacks first
      refine ⟨inside, some, fun more fewer => ?_⟩
      obtain ⟨offset', needed', c'', still⟩ := least more fewer
      exact ⟨offset', needed', c'', bind_of_error still⟩
    · obtain ⟨used, rest, rfl, rfl, again⟩ := h.exists_used first
      obtain ⟨inside, some, least⟩ := (h' a).lacks failed
      refine ⟨?_, some, fun more fewer => ?_⟩
      · rwa [List.length_append, ← Nat.add_assoc]
      · rw [List.append_assoc, bind_of_ok (again _)]
        exact least more fewer

/-- A value that is read candidly may be changed. -/
lemma map (h : Candid read) (f : α → β) : Candid (f <$> read) := by
  rw [map_eq_pure_bind]
  exact h.bind fun _ => .pure _

/-- The position may be looked at, since it does not depend on what follows. -/
lemma position_bind {next : Nat → Reader α} (h : ∀ start, Candid (next start)) :
    Candid (position >>= next) where
  toStable := .position_bind fun start => (h start).toStable
  lacks := fun failed => (h _).lacks failed

end Candid

/-- Bytes are taken candidly. -/
lemma candid_take (n : Nat) : Candid (take n) where
  ok := by
    intro position bytes a c made
    simp only [take] at made
    split at made
    · next full =>
      cases made
      refine ⟨bytes.take n, (List.take_append_drop n bytes).symm, ?_⟩
      intro more
      have again := Yields.take (bytes.take n) position more
      rwa [full] at again ⊢
    · cases made
  error := by
    intro position bytes e c failed final
    simp only [take] at failed
    split at failed
    · cases failed
    · cases failed
      cases final
  lacks := by
    intro position bytes offset needed c failed
    simp only [take, List.length_take] at failed
    split at failed
    · cases failed
    · next short =>
      cases failed
      refine ⟨Nat.le_add_right _ _, by omega, fun more fewer => ?_⟩
      have still : ¬((bytes ++ more).take n).length = n := by
        rw [List.length_take, List.length_append]
        omega
      rw [take, if_neg still]
      exact ⟨_, _, _, rfl⟩

/-- A byte is read candidly. -/
lemma candid_byte : Candid byte where
  ok := by
    intro position bytes b c made
    cases bytes with
    | nil => cases made
    | cons b' rest =>
      cases made
      exact ⟨[b], rfl, fun _ => rfl⟩
  error := by
    intro position bytes e c failed final
    cases bytes with
    | nil =>
      cases failed
      cases final
    | cons b rest => cases failed
  lacks := by
    intro position bytes offset needed c failed
    cases bytes with
    | nil =>
      cases failed
      refine ⟨Nat.le_refl _, Nat.le_refl _, fun more fewer => ?_⟩
      obtain rfl := List.length_eq_zero_iff.1 (Nat.lt_one_iff.1 fewer)
      exact ⟨_, _, _, rfl⟩
    | cons b rest => cases failed

/-- A number of 32 bits is read candidly. -/
lemma candid_int32 : Candid int32 := (candid_take 4).bind fun _ => .pure _

/-- A number of 64 bits is read candidly. -/
lemma candid_int64 : Candid int64 := (candid_take 8).bind fun _ => .pure _

/-- A truth value is read candidly. -/
lemma candid_bool : Candid bool := .bind candid_byte fun _ => .pure _

/-- The rest of a length is read candidly, round by round. -/
lemma candid_lengthFrom (start : Nat) (shifts : List UInt32) (sum : UInt32) :
    Candid (lengthFrom start shifts sum) := by
  induction shifts generalizing sum with
  | nil => exact .throw rfl
  | cons shift shifts ih =>
    apply Candid.bind candid_byte
    intro b
    dsimp only
    split
    · exact .pure _
    · exact ih _

/-- A length is read candidly. -/
lemma candid_length : Candid length := .position_bind fun start => candid_lengthFrom start _ _

/-- Bytes with their length are read candidly. -/
lemma candid_blob : Candid blob := .bind candid_length fun n => candid_take n.toNat

/-- A number that stands for something is read candidly. -/
lemma candid_coded {α : Type} (field : String) (fit? : Int32 → Option α) :
    Candid (coded field fit?) := by
  apply Candid.bind candid_int32
  intro n
  split
  · exact .pure _
  · exact .throw rfl

/-- A field of such a number is read candidly. -/
lemma candid_codedField {α : Type} [Coded α] (field : String) :
    Candid (codedField field : Reader α) := candid_coded field _

/-- Characters are passed candidly, one by one. -/
lemma candid_passChars (start count : Nat) : Candid (passChars start count) := by
  induction count with
  | zero => exact .pure ()
  | succ count ih =>
    apply Candid.bind candid_byte
    intro lead
    split
    · exact .throw rfl
    · next width _ => exact ((candid_take (width - 1)).map _).bind fun _ => ih

/-- Characters are the text of the bytes that passing them passes. -/
lemma chars_apply (start count position : Nat) (bytes : Bytes) :
    chars start count ⟨position, bytes⟩ =
      match passChars start count ⟨position, bytes⟩ with
      | .ok () c =>
        match ofUtf8? (bytes.take (c.position - position)) with
        | some s => .ok s c
        | none => .error (.invalidString start) c
      | .error e c => .error e c := by
  rw [chars, get_bind]
  cases passed : passChars start count ⟨position, bytes⟩ with
  | ok _ c =>
    rw [bind_of_ok passed, get_bind]
    dsimp only
    cases ofUtf8? (bytes.take (c.position - position)) <;> rfl
  | error e c => exact bind_of_error passed

/-- Characters are read candidly, although they are looked at before. -/
lemma candid_chars (start count : Nat) : Candid (chars start count) where
  ok := by
    intro position bytes s c made
    rw [chars_apply] at made
    split at made
    · next c' passed =>
      obtain ⟨used, rest, rfl, rfl, again⟩ := (candid_passChars start count).exists_used passed
      refine ⟨used, ?_, ?_⟩
      · split at made
        · cases made
          rfl
        · cases made
      · intro more
        rw [chars_apply, again]
        simp only [Nat.add_sub_cancel_left, List.take_left] at made ⊢
        split at made
        · cases made
          rfl
        · cases made
    · cases made
  error := by
    intro position bytes e c failed final more
    rw [chars_apply] at failed
    split at failed
    · next c' passed =>
      obtain ⟨used, rest, rfl, rfl, again⟩ := (candid_passChars start count).exists_used passed
      rw [List.append_assoc, chars_apply, again]
      simp only [Nat.add_sub_cancel_left, List.take_left] at failed ⊢
      split at failed
      · cases failed
      · cases failed
        exact ⟨_, rfl⟩
    · next e' c' passed =>
      cases failed
      obtain ⟨c'', again⟩ := (candid_passChars start count).error passed final more
      rw [chars_apply, again]
      exact ⟨c'', rfl⟩
  lacks := by
    intro position bytes offset needed c failed
    rw [chars_apply] at failed
    split at failed
    · -- Once all characters are passed nothing is missing.
      split at failed <;> cases failed
    · next e c' passed =>
      cases failed
      obtain ⟨inside, some, least⟩ := (candid_passChars start count).lacks passed
      refine ⟨inside, some, fun more fewer => ?_⟩
      obtain ⟨offset', needed', c'', still⟩ := least more fewer
      rw [chars_apply, still]
      exact ⟨offset', needed', c'', rfl⟩

/-- The compact form is read candidly, although it is looked at before. -/
lemma candid_compact : Candid compact where
  ok := by
    intro position bytes s c made
    simp only [compact] at made
    split at made
    · next cs found =>
      cases made
      obtain ⟨used, rest, rfl, isCompact, rfl⟩ := of_compactChars? found
      refine ⟨used, ?_, ?_⟩
      · rw [Cursor.advance, List.length_map, List.drop_left]
      · intro more
        simp only [compact, compactChars?_append isCompact, Cursor.advance, List.length_map,
          List.drop_left]
    · cases made
  error := by
    intro position bytes e c failed final
    simp only [compact] at failed
    split at failed
    · cases failed
    · cases failed
      cases final
  lacks := by
    intro position bytes offset needed c failed
    simp only [compact] at failed
    split at failed
    · cases failed
    · next none =>
      cases failed
      refine ⟨Nat.le_refl _, Nat.le_refl _, fun more fewer => ?_⟩
      obtain rfl := List.length_eq_zero_iff.1 (Nat.lt_one_iff.1 fewer)
      rw [List.append_nil, compact, none]
      exact ⟨_, _, _, rfl⟩

/-- A count is read candidly. -/
lemma candid_count (first : UInt8) : Candid (count first) := by
  unfold count
  dsimp only
  split
  · exact .pure _
  · exact .bind candid_length fun _ => .pure _

/-- Counted characters are read candidly. -/
lemma candid_counted (start n : Nat) : Candid (counted start n) := by
  match n with
  | 0 => exact .pure _
  | 1 => exact .pure _
  | n + 2 => exact (candid_chars start (n + 1)).map some

/-- The first byte of a string decides how the rest is read. -/
lemma string?_cons (position : Nat) (first : UInt8) (bytes : Bytes) :
    string? ⟨position, first :: bytes⟩ =
      if first &&& 0x80 = 0 then (some <$> compact) ⟨position, first :: bytes⟩
      else (count first >>= fun n => counted position n.toNat) ⟨position + 1, bytes⟩ := by
  change (if first &&& 0x80 = 0 then _ else _ : Reader (Option String)) _ = _
  by_cases short : first &&& 0x80 = 0
  · rw [if_pos short, if_pos short, map_eq_pure_bind]
    rfl
  · rw [if_neg short, if_neg short]
    rfl

/-- What follows the first byte of a string that is not compact. -/
lemma candid_afterFirst (position : Nat) (first : UInt8) :
    Candid (count first >>= fun n => counted position n.toNat) :=
  (candid_count first).bind fun n => candid_counted position n.toNat

/-- A text that may be missing is read candidly. -/
lemma candid_string? : Candid string? where
  ok := by
    intro position bytes s c made
    cases bytes with
    | nil => cases made
    | cons first bytes =>
      rw [string?_cons] at made
      split at made
      · next short =>
        obtain ⟨used, rest, split, rfl, again⟩ := (Candid.map candid_compact some).exists_used made
        cases used with
        | nil =>
          -- Even a compact string has a byte.
          have none := again []
          cases none
        | cons first' used =>
          obtain ⟨rfl, rfl⟩ := List.cons.inj split
          refine ⟨first :: used, rfl, ?_⟩
          intro more
          rw [List.cons_append, string?_cons, if_pos short]
          exact again more
      · next long =>
        obtain ⟨used, rest, rfl, rfl, again⟩ := (candid_afterFirst position first).exists_used made
        refine ⟨first :: used, rfl, ?_⟩
        intro more
        rw [List.cons_append, string?_cons, if_neg long, again, List.length_cons, Nat.add_assoc,
          Nat.add_comm 1]
  error := by
    intro position bytes e c failed final more
    cases bytes with
    | nil =>
      cases failed
      cases final
    | cons first bytes =>
      rw [List.cons_append]
      rw [string?_cons] at failed ⊢
      split at failed
      · next short =>
        rw [if_pos short]
        exact (Candid.map candid_compact some).error failed final more
      · next long =>
        rw [if_neg long]
        exact (candid_afterFirst position first).error failed final more
  lacks := by
    intro position bytes offset needed c failed
    cases bytes with
    | nil =>
      cases failed
      refine ⟨Nat.le_refl _, Nat.le_refl _, fun more fewer => ?_⟩
      obtain rfl := List.length_eq_zero_iff.1 (Nat.lt_one_iff.1 fewer)
      exact ⟨_, _, _, rfl⟩
    | cons first bytes =>
      rw [string?_cons] at failed
      split at failed
      · next short =>
        obtain ⟨inside, some, least⟩ := (Candid.map candid_compact some).lacks failed
        refine ⟨inside, some, fun more fewer => ?_⟩
        rw [List.cons_append, string?_cons, if_pos short]
        exact least more fewer
      · next long =>
        obtain ⟨inside, some, least⟩ := (candid_afterFirst position first).lacks failed
        refine ⟨?_, some, fun more fewer => ?_⟩
        · rw [List.length_cons]
          omega
        · rw [List.cons_append, string?_cons, if_neg long]
          exact least more fewer

/-- A text is read candidly. -/
lemma candid_string : Candid string := .bind candid_string? fun _ => .pure _

end ProxyChain.Wire.Reader
