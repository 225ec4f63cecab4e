import ProxyChain.Wire.Integer
import Mathlib.Tactic.Common

/-!
# What readers make of given bytes

`Yields read bytes a` says that `read` makes `a` of `bytes`, wherever they stand and whatever follows
them, and passes those bytes and no others. The lemmas follow the way readers are put together: `pure`
and `bind` for the monad, one lemma for every reader of a single byte or a number of bytes. A format is
then read back by one application of `bind` for each of its fields.

What was made says in turn what was passed (`of_bind`, `of_take`), and `Gives read P` says that all
values that `read` makes have a property, whatever they are made of.
-/

namespace ProxyChain.Wire.Reader

section Bind

variable {α β : Type}

/-- Where a reader stands when it is done the next one goes on, whatever it keeps to tell where it stands. -/
lemma bind_of_ok {ε σ : Type} {read : EStateM ε σ α} {next : α → EStateM ε σ β} {s s' : σ} {a : α}
    (h : read s = .ok a s') : (read >>= next) s = next a s' := by
  change EStateM.bind read next s = _
  rw [EStateM.bind, h]

/-- Where a reader fails no other goes on. -/
lemma bind_of_error {ε σ : Type} {read : EStateM ε σ α} {next : α → EStateM ε σ β} {s s' : σ} {e : ε}
    (h : read s = .error e s') : (read >>= next) s = .error e s' := by
  change EStateM.bind read next s = _
  rw [EStateM.bind, h]

variable {read : Reader α} {next : α → Reader β} {c c' : Cursor}

/-- If one reader after another makes something, the first does and the second goes on from there. -/
lemma of_bind {b : β} (made : (read >>= next) c = .ok b c') :
    ∃ a between, read c = .ok a between ∧ next a between = .ok b c' := by
  cases first : read c with
  | ok a between =>
    rw [bind_of_ok first] at made
    exact ⟨a, between, rfl, made⟩
  | error e between =>
    rw [bind_of_error first] at made
    cases made

/-- A value that was changed was read before. -/
lemma of_map {f : α → β} {b : β} (made : (f <$> read) c = .ok b c') :
    ∃ a, read c = .ok a c' ∧ f a = b := by
  rw [map_eq_pure_bind] at made
  obtain ⟨a, between, first, made⟩ := of_bind made
  cases made
  exact ⟨a, first, rfl⟩

/-- What was parsed was read. -/
lemma of_parse {a : α} (made : read.parse c = .ok (a, c')) : read c = .ok a c' := by
  unfold parse at made
  split at made
  · next whole =>
    cases made
    exact whole
  · cases made

/-- If one reader after another fails, the first does or the second does from there. -/
lemma of_bind_error {e : ReadError} (failed : (read >>= next) c = .error e c') :
    read c = .error e c' ∨
      ∃ a between, read c = .ok a between ∧ next a between = .error e c' := by
  cases first : read c with
  | ok a between =>
    rw [bind_of_ok first] at failed
    exact .inr ⟨a, between, rfl, failed⟩
  | error e between =>
    rw [bind_of_error first] at failed
    cases failed
    exact .inl rfl

end Bind

section Passed

variable {c c' : Cursor}

/-- A byte that was read is gone from the bytes ahead. -/
lemma of_byte {b : UInt8} (made : byte c = .ok b c') : c.rest = b :: c'.rest := by
  unfold byte at made
  split at made
  · cases made
  · next ahead =>
    cases made
    exact ahead

/-- Bytes that were taken are gone from the bytes ahead. -/
lemma of_take {n : Nat} {bytes : Bytes} (made : take n c = .ok bytes c') :
    c.rest = bytes ++ c'.rest ∧ bytes.length = n := by
  simp only [take] at made
  split at made
  · next full =>
    cases made
    exact ⟨(List.take_append_drop n c.rest).symm, full⟩
  · cases made

end Passed

/-- All values that a reader makes have a property. -/
def Gives {α : Type} (read : Reader α) (P : α → Prop) : Prop := ∀ c a c', read c = .ok a c' → P a

namespace Gives

variable {α β : Type} {P : β → Prop}

/-- A value with the property is given. -/
lemma pure {b : β} (h : P b) : Gives (Pure.pure b) P := by
  intro c b' c' made
  cases made
  exact h

/-- A property that is given may be relied on by what is read next. -/
lemma bind {read : Reader α} {next : α → Reader β} {Q : α → Prop} (h : Gives read Q)
    (h' : ∀ a, Q a → Gives (next a) P) : Gives (read >>= next) P := by
  intro c b c' made
  obtain ⟨a, between, first, second⟩ := of_bind made
  exact h' a (h c a between first) between b c' second

/-- Whatever the first reader makes, the values are those of the second. -/
lemma behind {read : Reader α} {next : α → Reader β} (h : ∀ a, Gives (next a) P) :
    Gives (read >>= next) P :=
  bind (Q := fun _ => True) (fun _ _ _ _ => trivial) fun a _ => h a

/-- Any value may be changed to one with the property. -/
lemma map {read : Reader α} {f : α → β} (h : ∀ a, P (f a)) : Gives (f <$> read) P := by
  rw [map_eq_pure_bind]
  exact behind fun a => .pure (h a)

end Gives

/-- A reader makes a value of some bytes, passing those and no others. -/
def Yields {α : Type} (read : Reader α) (bytes : Bytes) (a : α) : Prop :=
  ∀ position rest, read ⟨position, bytes ++ rest⟩ = .ok a ⟨position + bytes.length, rest⟩

namespace Yields

variable {α β : Type}

/-- A value is made of no bytes. -/
lemma pure (a : α) : Yields (Pure.pure a) [] a := by
  intro position rest
  rfl

/-- Behind the bytes that it reads the next reader goes on. -/
lemma bind_apply {read : Reader α} {bytes : Bytes} {a : α} (h : Yields read bytes a)
    (next : α → Reader β) (position : Nat) (rest : Bytes) :
    (read >>= next) ⟨position, bytes ++ rest⟩ = next a ⟨position + bytes.length, rest⟩ :=
  bind_of_ok (h position rest)

/-- One reader after another reads what they read, one after the other. -/
lemma bind {read : Reader α} {next : α → Reader β} {bytes bytes' : Bytes} {a : α} {b : β}
    (h : Yields read bytes a) (h' : Yields (next a) bytes' b) :
    Yields (read >>= next) (bytes ++ bytes') b := by
  intro position rest
  rw [List.append_assoc, h.bind_apply, List.length_append, ← Nat.add_assoc]
  exact h' (position + bytes.length) rest

/-- What is made of the last value read takes no bytes of its own. -/
lemma bind_pure {read : Reader α} {f : α → β} {bytes : Bytes} {a : α} (h : Yields read bytes a) :
    Yields (read >>= fun a => Pure.pure (f a)) bytes (f a) := by
  have last : Yields (read >>= fun a => Pure.pure (f a)) (bytes ++ []) (f a) := h.bind (.pure (f a))
  rwa [List.append_nil] at last

/-- A value may be changed that is made of some bytes. -/
lemma map {read : Reader α} {bytes : Bytes} {a : α} (h : Yields read bytes a) (f : α → β) :
    Yields (f <$> read) bytes (f a) := by
  rw [map_eq_pure_bind]
  exact h.bind_pure

/-- What a reader makes of the bytes at the cursor, with the cursor behind them. -/
lemma parse_eq {read : Reader α} {bytes : Bytes} {a : α} (h : Yields read bytes a)
    (position : Nat) (rest : Bytes) :
    read.parse ⟨position, bytes ++ rest⟩ = .ok (a, ⟨position + bytes.length, rest⟩) := by
  rw [parse, h position rest]

/-- A byte is made of itself. -/
lemma byte (b : UInt8) : Yields Reader.byte [b] b := by
  intro position rest
  rfl

/-- As many bytes as are asked for are taken. -/
lemma take (bytes : Bytes) : Yields (Reader.take bytes.length) bytes bytes := by
  intro position rest
  rw [Reader.take, List.take_left, if_pos rfl, Cursor.advance, List.drop_left]

/-- The position takes no bytes. -/
lemma position_bind {next : Nat → Reader α} {bytes : Bytes} {a : α}
    (h : ∀ start, Yields (next start) bytes a) : Yields (Reader.position >>= next) bytes a := by
  intro position rest
  exact h position position rest

end Yields

/-- The next reader may know where the cursor stands. -/
lemma get_bind {α : Type} (next : Cursor → Reader α) (c : Cursor) :
    ((get : Reader Cursor) >>= next) c = next c c := rfl

end ProxyChain.Wire.Reader
