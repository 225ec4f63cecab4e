import ProxyChain.Proofs.Wire.Yields

/-!
# What more bytes leave as it is

A reader is `Stable` if bytes behind those that it passes make no difference to it: a value is made of
the bytes passed alone, and a failure is final unless it was for want of bytes. `pure`, `throw` and
`bind` keep this, so that it holds of every reader that is put together from stable ones.
-/

namespace ProxyChain.Wire

/-- Whether bytes were missing. -/
def ReadError.isTruncated : ReadError → Bool
  | truncated .. => true
  | invalidField .. | invalidString _ => false

namespace Reader

/-- What a reader makes of bytes does not change when more bytes follow, unless it lacked some. -/
structure Stable {α : Type} (read : Reader α) : Prop where
  /-- A value is made of the bytes passed, whatever follows them. -/
  ok : ∀ {position : Nat} {bytes : Bytes} {a : α} {c : Cursor},
    read ⟨position, bytes⟩ = .ok a c → ∃ used, bytes = used ++ c.rest ∧
      ∀ more, read ⟨position, used ++ more⟩ = .ok a ⟨position + used.length, more⟩
  /-- A failure stays the same failure. -/
  error : ∀ {position : Nat} {bytes : Bytes} {e : ReadError} {c : Cursor},
    read ⟨position, bytes⟩ = .error e c → e.isTruncated = false →
      ∀ more, ∃ c', read ⟨position, bytes ++ more⟩ = .error e c'

namespace Stable

variable {α β : Type} {read : Reader α}

/-- A reader that succeeds stands behind the bytes that it passed. -/
lemma exists_used (h : Stable read) {position : Nat} {bytes : Bytes} {a : α} {c : Cursor}
    (made : read ⟨position, bytes⟩ = .ok a c) :
    ∃ used rest, bytes = used ++ rest ∧ c = ⟨position + used.length, rest⟩ ∧
      ∀ more, read ⟨position, used ++ more⟩ = .ok a ⟨position + used.length, more⟩ := by
  obtain ⟨used, rfl, again⟩ := h.ok made
  refine ⟨used, c.rest, rfl, ?_, again⟩
  have same := again c.rest
  rw [made] at same
  exact (EStateM.Result.ok.inj same).2

/-- A reader that can make nothing of no bytes passes one at least. -/
lemma advances (h : Stable read) (needs : ∀ position a c, read ⟨position, []⟩ ≠ .ok a c) {c c' : Cursor}
    {a : α} (made : read c = .ok a c') : c.position < c'.position := by
  obtain ⟨position, bytes⟩ := c
  obtain ⟨used, rest, rfl, rfl, again⟩ := h.exists_used made
  cases used with
  | nil => exact absurd (again []) (needs _ _ _)
  | cons b used => exact Nat.lt_add_of_pos_right (Nat.succ_pos _)

/-- A value is stable. -/
lemma pure (a : α) : Stable (Pure.pure a) where
  ok := by
    intro position bytes a' c made
    cases made
    exact ⟨[], rfl, fun _ => rfl⟩
  error := by
    intro position bytes e c failed
    cases failed

/-- A refusal is stable. -/
lemma throw (e : ReadError) : Stable (throw e : Reader α) where
  ok := by
    intro position bytes a c made
    cases made
  error := by
    intro position bytes e' c failed _ more
    cases failed
    exact ⟨_, rfl⟩

/-- One reader after another is stable if both are. -/
lemma bind {next : α → Reader β} (h : Stable read) (h' : ∀ a, Stable (next a)) :
    Stable (read >>= next) where
  ok := by
    intro position bytes b c made
    obtain ⟨a, c', first, made⟩ := of_bind made
    obtain ⟨used, rest, rfl, rfl, again⟩ := h.exists_used first
    obtain ⟨used', rest', rfl, rfl, again'⟩ := (h' a).exists_used made
    refine ⟨used ++ used', (List.append_assoc ..).symm, ?_⟩
    intro more
    rw [List.append_assoc, bind_of_ok (again _), List.length_append, ← Nat.add_assoc]
    exact again' more
  error := by
    intro position bytes e c failed final more
    rcases of_bind_error failed with first | ⟨a, c', first, failed⟩
    · obtain ⟨c'', again⟩ := h.error first final more
      exact ⟨c'', bind_of_error again⟩
    · obtain ⟨used, rest, rfl, rfl, again⟩ := h.exists_used first
      rw [List.append_assoc, bind_of_ok (again _)]
      exact (h' a).error failed final more

/-- A value that is read stably may be changed. -/
lemma map (h : Stable read) (f : α → β) : Stable (f <$> read) := by
  rw [map_eq_pure_bind]
  exact h.bind fun _ => .pure _

/-- The position may be looked at, since it does not depend on what follows. -/
lemma position_bind {next : Nat → Reader α} (h : ∀ start, Stable (next start)) :
    Stable (position >>= next) where
  ok := fun made => (h _).ok made
  error := fun failed => (h _).error failed

/-- What stable readers make of bytes they make of more bytes as well. -/
lemma parse_ok (h : Stable read) {position : Nat} {bytes : Bytes} {a : α} {c : Cursor}
    (made : read.parse ⟨position, bytes⟩ = .ok (a, c)) (more : Bytes) :
    read.parse ⟨position, bytes ++ more⟩ = .ok (a, ⟨c.position, c.rest ++ more⟩) := by
  unfold parse at made
  split at made
  · next a' c' read_eq =>
    cases made
    obtain ⟨used, rest, rfl, rfl, again⟩ := h.exists_used read_eq
    rw [parse, List.append_assoc, again]
  · cases made

/-- A failure that is not for want of bytes is final. -/
lemma parse_error (h : Stable read) {position : Nat} {bytes : Bytes} {e : ReadError}
    (failed : read.parse ⟨position, bytes⟩ = .error e) (final : e.isTruncated = false)
    (more : Bytes) : read.parse ⟨position, bytes ++ more⟩ = .error e := by
  unfold parse at failed
  split at failed
  · cases failed
  · next e' c' read_eq =>
    cases failed
    obtain ⟨c'', again⟩ := h.error read_eq final more
    rw [parse, again]

end Stable

end Reader

end ProxyChain.Wire
