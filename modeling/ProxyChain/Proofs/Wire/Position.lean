import ProxyChain.Proofs.Wire.Offset
import ProxyChain.Wire.Value

/-!
# Where reads leave a reader

Anything may be demanded of a reader at any time, also after it failed, and it goes on where the last read
stopped. Whatever the bytes are and whatever was demanded before, the reader stands inside of them, and a
read neither moves it back nor moves it behind the last byte, however many characters or bytes are declared
(`Demand.kept_left`). A value takes at least one byte; what takes a fixed number of them takes all or none.
-/

namespace ProxyChain.Wire

/-- What may be demanded of a reader. -/
inductive Demand where
  | value (shape : Shape)
  /-- A string, the absence of one being read as the empty string. -/
  | text
  /-- So many bytes. -/
  | bytes (n : Nat)
  deriving DecidableEq, Repr

/-- Where a read stops, whether it succeeds or not. -/
def stop {ε σ α : Type} : EStateM.Result ε σ α → σ
  | .ok _ s | .error _ s => s

/-- The end of a read by offset, where one with a cursor has this end. -/
def byOffset {α : Type} : EStateM.Result ReadError Cursor α → EStateM.Result Fault Nat α
  | .ok a c => .ok a c.position
  | .error e c => .error (.refused e) c.position

def Shape.probe (data : Bytes) : Shape → Probe Value
  | int32 => Value.int32 <$> Probe.int32 data
  | int64 => Value.int64 <$> Probe.int64 data
  | bool => Value.bool <$> Probe.bool data
  | length => Value.length <$> Probe.length data
  | blob => Value.blob <$> Probe.blob data
  | string => Value.string <$> Probe.string? data

namespace Demand

def read : Demand → Reader Value
  | value shape => shape.read
  | text => (fun s => Value.string (some s)) <$> Reader.string
  | bytes n => Value.blob <$> Reader.take n

def probe (data : Bytes) : Demand → Probe Value
  | value shape => shape.probe data
  | text => (fun s => Value.string (some s)) <$> Probe.string data
  | bytes n => Value.blob <$> Probe.take data n

/-- How many bytes are demanded, if that is fixed. -/
def width? : Demand → Option Nat
  | value .int32 => some 4
  | value .int64 => some 8
  | value .bool => some 1
  | bytes n => some n
  | value .length | value .blob | value .string | text => none

/-- Where demands leave a reader, each of them being met where the one before stopped. -/
def left (demands : List Demand) (c : Cursor) : Cursor := demands.foldl (fun c d => stop (d.read c)) c

/-- Where they leave a reader by offset. -/
def leftAt (data : Bytes) (demands : List Demand) (offset : Nat) : Nat :=
  demands.foldl (fun offset d => stop (d.probe data offset)) offset

/-- What a demand does to a reader of some bytes that has come to a cursor. -/
structure Kept (data : Bytes) (d : Demand) (c : Cursor) : Prop where
  inside : c.position ≤ data.length
  remaining : c.remaining = data.length - c.position
  ahead : c.rest = data.drop c.position
  /-- No slice, index or difference is outside of the bytes, and every loop ends. -/
  noFault : d.probe data c.position = byOffset (d.read c)
  forward : c.position ≤ (stop (d.read c)).position
  withinRemaining : (stop (d.read c)).position ≤ c.position + c.remaining
  advances {v : Value} {c' : Cursor} : d.read c = .ok v c' → (∀ n, d ≠ bytes n) → c.position < c'.position
  passes {width : Nat} {v : Value} {c' : Cursor} : d.width? = some width → d.read c = .ok v c' →
    c'.position = c.position + width
  stays {width : Nat} {e : ReadError} {c' : Cursor} : d.width? = some width → d.read c = .error e c' →
    c' = c

end Demand

open Reader

section Ends

variable {α : Type} {data : Bytes} {offset : Nat} {probed : EStateM.Result Fault Nat α}
  {made : EStateM.Result ReadError Cursor α}

/-- What ends alike is told by the offset. -/
lemma SameEnd.eq_byOffset (same : SameEnd data offset probed made) : probed = byOffset made := by
  cases same <;> rfl

/-- It stops at the same place. -/
lemma SameEnd.stop_eq (same : SameEnd data offset probed made) :
    stop made = cursorAt data (stop probed) := by
  cases same <;> rfl

/-- It stops between the place where it started and the end. -/
lemma SameEnd.bounds (same : SameEnd data offset probed made) :
    offset ≤ stop probed ∧ stop probed ≤ data.length := by
  cases same with
  | ok forward inside => exact ⟨forward, inside⟩
  | error forward inside => exact ⟨forward, inside⟩

end Ends

namespace Reader

variable {α β : Type} {read : Reader α}

/-- A reader takes so many bytes or none. -/
structure Whole (width : Nat) (read : Reader α) : Prop where
  passes : ∀ {c c' : Cursor} {a : α}, read c = .ok a c' → c'.position = c.position + width
  stays : ∀ {c c' : Cursor} {e : ReadError}, read c = .error e c' → c' = c

namespace Whole

/-- What is made of the bytes takes no others. -/
lemma bind_pure {width : Nat} (h : Whole width read) (f : α → β) :
    Whole width (read >>= fun a => pure (f a)) where
  passes := by
    intro c c' b made
    obtain ⟨a, between, first, made⟩ := of_bind made
    cases made
    exact h.passes first
  stays := by
    intro c c' e failed
    rcases of_bind_error failed with first | ⟨a, between, first, failed⟩
    · exact h.stays first
    · cases failed

/-- A value of some width may be changed. -/
lemma map {width : Nat} (h : Whole width read) (f : α → β) : Whole width (f <$> read) := by
  rw [map_eq_pure_bind]
  exact h.bind_pure f

end Whole

/-- Some bytes are a value of that width. -/
lemma whole_take (n : Nat) : Whole n (take n) where
  passes := by
    intro c c' bytes made
    simp only [take] at made
    split at made
    · cases made
      rfl
    · cases made
  stays := by
    intro c c' e failed
    simp only [take] at failed
    split at failed
    · cases failed
    · cases failed
      rfl

/-- A byte is a value of width one. -/
lemma whole_byte : Whole 1 byte where
  passes := by
    intro c c' b made
    unfold byte at made
    split at made <;> cases made
    rfl
  stays := by
    intro c c' e failed
    unfold byte at failed
    split at failed <;> cases failed
    rfl

end Reader

namespace Demand

/-- Every demand is followed. -/
lemma follows (data : Bytes) (d : Demand) : Follows data (d.probe data) d.read := by
  cases d with
  | value shape =>
    cases shape with
    | int32 => exact follows_int32.map Value.int32
    | int64 => exact follows_int64.map Value.int64
    | bool => exact follows_bool.map Value.bool
    | length => exact follows_length.map Value.length
    | blob => exact follows_blob.map Value.blob
    | string => exact follows_string?.map Value.string
  | text => exact follows_string.map _
  | bytes n => exact (follows_take n).map Value.blob

/-- Every demand is met candidly. -/
lemma candid (d : Demand) : Candid d.read := by
  cases d with
  | value shape =>
    cases shape with
    | int32 => exact candid_int32.map Value.int32
    | int64 => exact candid_int64.map Value.int64
    | bool => exact candid_bool.map Value.bool
    | length => exact candid_length.map Value.length
    | blob => exact candid_blob.map Value.blob
    | string => exact candid_string?.map Value.string
  | text => exact candid_string.map _
  | bytes n => exact (candid_take n).map Value.blob

/-- No value is made of no bytes. -/
lemma needs {d : Demand} (isValue : ∀ n, d ≠ bytes n) (position : Nat) (v : Value) (c : Cursor) :
    d.read ⟨position, []⟩ ≠ .ok v c := by
  cases d with
  | value shape => cases shape <;> nofun
  | text => nofun
  | bytes n => exact absurd rfl (isValue n)

/-- A demand of some width takes that many bytes or none. -/
lemma whole {d : Demand} {width : Nat} (fixed : d.width? = some width) : Whole width d.read := by
  cases d with
  | value shape =>
    cases shape with
    | int32 =>
      cases fixed
      exact ((whole_take 4).bind_pure _).map _
    | int64 =>
      cases fixed
      exact ((whole_take 8).bind_pure _).map _
    | bool =>
      cases fixed
      exact (whole_byte.bind_pure _).map _
    | length => cases fixed
    | blob => cases fixed
    | string => cases fixed
  | text => cases fixed
  | bytes n =>
    cases fixed
    exact (whole_take _).map _

/-- A demand keeps a reader inside of the bytes. -/
lemma kept {data : Bytes} {offset : Nat} (inside : offset ≤ data.length) (d : Demand) :
    d.Kept data (cursorAt data offset) := by
  have same := d.follows data offset inside
  obtain ⟨forward, within⟩ := same.bounds
  have stops : (stop (d.read (cursorAt data offset))).position = stop (d.probe data offset) :=
    congrArg Cursor.position same.stop_eq
  exact {
    inside := inside
    remaining := remaining_cursorAt
    ahead := rfl
    noFault := same.eq_byOffset
    forward := by rwa [stops]
    withinRemaining := by
      rw [stops, remaining_cursorAt, position_cursorAt]
      omega
    advances := fun made isValue => d.candid.toStable.advances (needs isValue) made
    passes := fun fixed made => (whole fixed).passes made
    stays := fun fixed failed => (whole fixed).stays failed }

/-- Demands leave both readers at one place, which is inside of the bytes. -/
lemma left_cursorAt {data : Bytes} (demands : List Demand) {offset : Nat} (inside : offset ≤ data.length) :
    left demands (cursorAt data offset) = cursorAt data (leftAt data demands offset) ∧
      leftAt data demands offset ≤ data.length := by
  induction demands generalizing offset with
  | nil => exact ⟨rfl, inside⟩
  | cons d demands ih =>
    have same := d.follows data offset inside
    have later := ih same.bounds.2
    rw [← same.stop_eq] at later
    exact later

/-- Whatever bytes a reader is given and whatever has been demanded of it, it stands inside of the bytes, where
reading by offset has come to as well, and is kept there by any demand. -/
theorem kept_left (data : Bytes) (earlier : List Demand) (d : Demand) :
    left earlier (Cursor.start data) = cursorAt data (leftAt data earlier 0) ∧
      d.Kept data (left earlier (Cursor.start data)) := by
  obtain ⟨same, inside⟩ := left_cursorAt earlier (Nat.zero_le data.length)
  have start : Cursor.start data = cursorAt data 0 := rfl
  rw [start, same]
  exact ⟨rfl, kept inside d⟩

/-- Four thousand million characters are declared, and one is there. -/
example : (value .string).read (Cursor.start [0xFF, 0xFF, 0xFF, 0xFF, 0x1F, 0x61])
    = .error (.truncated 6 1) ⟨6, []⟩ := by rfl

end Demand

end ProxyChain.Wire
