import ProxyChain.Proofs.Wire.Shortage

/-!
# Reading by offset

All the bytes and an offset into them do as well as the bytes ahead of a cursor, but then every look at a
byte has to be inside: the bytes behind the offset are counted by a difference, taken by a slice between two
offsets, and looked at by an index. What is outside of the bytes is no error of a read but a fault, and so
is a loop that has not ended after a given number of rounds (`Fault`).

Whatever the bytes are, reading by offset comes to what reading with a cursor comes to, and stops where the
cursor stops: not in front of the place where it started, and not behind the last byte (`Follows`). In
particular there are no faults.
-/

namespace ProxyChain.Wire

/-- Why a read by offset ends without a value. -/
inductive Fault where
  /-- The bytes cannot be read. -/
  | refused (error : ReadError)
  /-- A slice, an index or a difference is outside of the bytes. -/
  | outOfRange
  /-- A loop has not ended. -/
  | endless
  deriving DecidableEq, Repr

/-- A reader that keeps an offset. -/
abbrev Probe := EStateM Fault Nat

namespace Probe

section Readers

variable (data : Bytes)

/-- How many bytes are behind the offset. -/
def remaining : Probe Nat := do
  let offset ← get
  if offset ≤ data.length then pure (data.length - offset) else throw .outOfRange

/-- The bytes from one offset up to another one. -/
def slice (start stop : Nat) : Probe Bytes :=
  if start ≤ stop ∧ stop ≤ data.length then pure ((data.drop start).take (stop - start))
  else throw .outOfRange

/-- One of some bytes. -/
def index (bytes : Bytes) (i : Nat) : Probe UInt8 :=
  match bytes[i]? with
  | some b => pure b
  | none => throw .outOfRange

/-- Bytes that are copied to a place for so many. -/
def copied (width : Nat) (bytes : Bytes) : Probe Bytes :=
  if bytes.length = width then pure bytes else throw .outOfRange

/-- The next `n` bytes. -/
def take (n : Nat) : Probe Bytes := do
  let ahead ← remaining data
  let offset ← get
  if ahead < n then throw (.refused (.truncated offset (n - ahead)))
  else
    let taken ← slice data offset (offset + n)
    set (offset + n)
    pure taken

/-- The next byte. -/
def byte : Probe UInt8 := do
  index (← take data 1) 0

/-! From here on, the readers are those with a cursor, put together from these. -/

def int32 : Probe Int32 := do
  return (UInt32.ofNat (ofBigEndian (← copied 4 (← take data 4)))).toInt32

def int64 : Probe Int64 := do
  return (UInt64.ofNat (ofBigEndian (← copied 8 (← take data 8)))).toInt64

def bool : Probe Bool := do
  return (← byte data) != 0

def lengthFrom (start : Nat) : (shifts : List UInt32) → (sum : UInt32) → Probe UInt32
  | [], _ => throw (.refused (.invalidField "varint" start))
  | shift :: shifts, sum => do
    let b ← byte data
    let sum := sum ||| ((b &&& 0x7F).toUInt32 <<< shift)
    if b &&& 0x80 = 0 then pure sum else lengthFrom start shifts sum

def length : Probe UInt32 := do
  lengthFrom data (← get) Reader.lengthShifts 0

def blob : Probe Bytes := do
  take data (← length data).toNat

def passChars (start : Nat) : (count : Nat) → Probe Unit
  | 0 => pure ()
  | count + 1 => do
    match charWidth? (← byte data) with
    | none => throw (.refused (.invalidString start))
    | some width =>
      discard (take data (width - 1))
      passChars start count

def chars (start count : Nat) : Probe String := do
  let before ← get
  passChars data start count
  let after ← get
  match ofUtf8? (← slice data before after) with
  | some s => pure s
  | none => throw (.refused (.invalidString start))

/-- The characters of a string in compact form. Each round reads one. -/
def compactChars : (rounds : Nat) → Probe (List Char)
  | 0 => throw .endless
  | rounds + 1 => do
    let b ← byte data
    let char := Char.ofNat (b &&& 0x7F).toNat
    if b &&& 0x80 = 0 then return char :: (← compactChars rounds) else return [char]

/-- A string in compact form. There are no more rounds than bytes, and one for their end. -/
def compact : Probe String := do
  return String.ofList (← compactChars data (data.length + 1))

def count (first : UInt8) : Probe UInt32 := do
  let low := (first &&& 0x3F).toUInt32
  if first &&& 0x40 = 0 then pure low else return low ||| ((← length data) <<< 6)

def counted (start : Nat) : Nat → Probe (Option String)
  | 0 => pure none
  | 1 => pure (some "")
  | n + 2 => some <$> chars data start (n + 1)

def string? : Probe (Option String) := do
  let start ← get
  let first ← byte data
  if first &&& 0x80 = 0 then
    set start
    some <$> compact data
  else
    counted data start (← count data first).toNat

def string : Probe String := do
  return (← string? data).getD ""

end Readers

end Probe

/-- The cursor at an offset of some bytes. -/
def cursorAt (data : Bytes) (offset : Nat) : Cursor := ⟨offset, data.drop offset⟩

open Reader

/-- A read by offset ends as a read with a cursor ends, both at one place, which is not in front of the
offset and not behind the last byte. -/
inductive SameEnd {α : Type} (data : Bytes) (offset : Nat) :
    EStateM.Result Fault Nat α → EStateM.Result ReadError Cursor α → Prop where
  | ok {a : α} {stop : Nat} (forward : offset ≤ stop) (inside : stop ≤ data.length) :
    SameEnd data offset (.ok a stop) (.ok a (cursorAt data stop))
  | error {e : ReadError} {stop : Nat} (forward : offset ≤ stop) (inside : stop ≤ data.length) :
    SameEnd data offset (.error (.refused e) stop) (.error e (cursorAt data stop))

/-- Reading by offset does what reading with a cursor does, wherever inside of the bytes it starts. -/
def Follows {α : Type} (data : Bytes) (probe : Probe α) (read : Reader α) : Prop :=
  ∀ offset ≤ data.length, SameEnd data offset (probe offset) (read (cursorAt data offset))

section Laws

variable {α β : Type} {data : Bytes} {probe : Probe α} {read : Reader α}

/-- What ends alike from an offset on does so from an earlier one on. -/
lemma SameEnd.mono {offset offset' : Nat} {probed : EStateM.Result Fault Nat α}
    {made : EStateM.Result ReadError Cursor α} (le : offset ≤ offset')
    (same : SameEnd data offset' probed made) : SameEnd data offset probed made := by
  cases same with
  | ok forward inside => exact .ok (Nat.le_trans le forward) inside
  | error forward inside => exact .error (Nat.le_trans le forward) inside

namespace Follows

/-- Values follow. -/
lemma pure (a : α) : Follows data (Pure.pure a) (Pure.pure a) :=
  fun offset inside => .ok (Nat.le_refl offset) inside

/-- Refusals follow. -/
lemma throw (e : ReadError) :
    Follows data (throw (.refused e) : Probe α) (throw e : Reader α) :=
  fun offset inside => .error (Nat.le_refl offset) inside

/-- One read after another follows if both do. -/
lemma bind {next : α → Probe β} {next' : α → Reader β} (h : Follows data probe read)
    (h' : ∀ a, Follows data (next a) (next' a)) : Follows data (probe >>= next) (read >>= next') := by
  intro offset inside
  have first := h offset inside
  generalize probed : probe offset = first₁, made : read (cursorAt data offset) = first₂ at first
  cases first with
  | ok forward inside' =>
    rw [bind_of_ok probed, bind_of_ok made]
    exact (h' _ _ inside').mono forward
  | error forward inside' =>
    rw [bind_of_error probed, bind_of_error made]
    exact .error forward inside'

/-- What follows still does when its value is changed. -/
lemma map (h : Follows data probe read) (f : α → β) : Follows data (f <$> probe) (f <$> read) := by
  rw [map_eq_pure_bind, map_eq_pure_bind]
  exact h.bind fun a => .pure (f a)

/-- The position of a cursor is the offset. -/
lemma position_bind {next : Nat → Probe α} {next' : Nat → Reader α}
    (h : ∀ start, Follows data (next start) (next' start)) :
    Follows data (get >>= next) (position >>= next') :=
  fun offset inside => h offset offset inside

end Follows

end Laws

section Bytes

variable {data : Bytes} {offset : Nat}

/-- The cursor at an offset stands there. -/
@[simp] lemma position_cursorAt : (cursorAt data offset).position = offset := rfl

/-- The bytes ahead of it are those behind the offset. -/
@[simp] lemma rest_cursorAt : (cursorAt data offset).rest = data.drop offset := rfl

/-- There are as many as the difference tells. -/
@[simp] lemma remaining_cursorAt : (cursorAt data offset).remaining = data.length - offset :=
  List.length_drop

/-- It advances with the offset. -/
lemma advance_cursorAt (n : Nat) : (cursorAt data offset).advance n = cursorAt data (offset + n) := by
  rw [cursorAt, Cursor.advance, List.drop_drop, cursorAt]

/-- With a cursor, bytes are taken if there are so many. -/
lemma take_cursorAt (n : Nat) : take n (cursorAt data offset) =
    if data.length - offset < n then
      .error (.truncated offset (n - (data.length - offset))) (cursorAt data offset)
    else .ok ((data.drop offset).take n) (cursorAt data (offset + n)) := by
  simp only [take, rest_cursorAt, position_cursorAt, advance_cursorAt, List.length_take,
    List.length_drop]
  by_cases short : data.length - offset < n
  · rw [if_pos short, if_neg (by omega), Nat.min_eq_right (Nat.le_of_lt short)]
  · rw [if_neg short, if_pos (by omega)]

namespace Probe

/-- The difference is no fault inside the bytes. -/
lemma remaining_of_le (inside : offset ≤ data.length) :
    remaining data offset = .ok (data.length - offset) offset := by
  change (if offset ≤ data.length then _ else _ : Probe Nat) offset = _
  rw [if_pos inside]
  rfl

/-- A slice is no fault inside the bytes. -/
lemma slice_of_le {start stop : Nat} (order : start ≤ stop) (inside : stop ≤ data.length) :
    slice data start stop = pure ((data.drop start).take (stop - start)) := if_pos ⟨order, inside⟩

/-- By offset as well, no slice being outside of the bytes. -/
lemma take_apply (inside : offset ≤ data.length) (n : Nat) : take data n offset =
    if data.length - offset < n then
      .error (.refused (.truncated offset (n - (data.length - offset)))) offset
    else .ok ((data.drop offset).take n) (offset + n) := by
  rw [take, bind_of_ok (remaining_of_le inside)]
  change (if data.length - offset < n then _ else _ : Probe Bytes) offset = _
  by_cases short : data.length - offset < n
  · rw [if_pos short, if_pos short]
    rfl
  · have enough : offset + n ≤ data.length := by omega
    rw [if_neg short, if_neg short, slice_of_le (Nat.le_add_right offset n) enough,
      Nat.add_sub_cancel_left]
    rfl

end Probe

/-- Taking bytes follows. -/
lemma follows_take (n : Nat) : Follows data (Probe.take data n) (take n) := by
  intro offset inside
  rw [Probe.take_apply inside, take_cursorAt]
  split
  · exact .error (Nat.le_refl offset) inside
  · exact .ok (Nat.le_add_right offset n) (by omega)

/-- Bytes that were taken fill a place for so many. -/
lemma follows_copied (n : Nat) :
    Follows data (Probe.take data n >>= Probe.copied n) (take n) := by
  intro offset inside
  have probed := Probe.take_apply inside n
  rw [take_cursorAt]
  by_cases short : data.length - offset < n
  · rw [if_pos short] at probed ⊢
    rw [bind_of_error probed]
    exact .error (Nat.le_refl offset) inside
  · have full : ((data.drop offset).take n).length = n := by
      rw [List.length_take, List.length_drop]
      omega
    rw [if_neg short] at probed ⊢
    rw [bind_of_ok probed, Probe.copied, if_pos full]
    exact .ok (Nat.le_add_right offset n) (by omega)

section Byte

variable {b : UInt8} {bytes : Bytes}

/-- The offset of a byte is inside. -/
lemma lt_of_drop_eq_cons (ahead : data.drop offset = b :: bytes) : offset < data.length := by
  by_contra outside
  rw [List.drop_eq_nil_of_le (Nat.not_lt.1 outside)] at ahead
  cases ahead

/-- The cursor behind a byte is the one at the next offset. -/
lemma cursorAt_succ (ahead : data.drop offset = b :: bytes) :
    cursorAt data (offset + 1) = ⟨offset + 1, bytes⟩ := by
  rw [cursorAt, ← List.drop_drop, ahead, List.drop_one, List.tail_cons]

/-- A byte that is there is read. -/
lemma Probe.byte_of_cons (ahead : data.drop offset = b :: bytes) :
    Probe.byte data offset = .ok b (offset + 1) := by
  have inside := lt_of_drop_eq_cons ahead
  have probed := Probe.take_apply (Nat.le_of_lt inside) 1
  rw [if_neg (by omega), ahead] at probed
  exact bind_of_ok probed

/-- A byte that is not there is missed. -/
lemma Probe.byte_of_nil (inside : offset ≤ data.length) (ahead : data.drop offset = []) :
    Probe.byte data offset = .error (.refused (.truncated offset 1)) offset := by
  have short := List.drop_eq_nil_iff.1 ahead
  have probed := Probe.take_apply inside 1
  rw [if_pos (by omega), Nat.sub_eq_zero_of_le short] at probed
  exact bind_of_error probed

end Byte

/-- Reading a byte follows. -/
lemma follows_byte : Follows data (Probe.byte data) byte := by
  intro offset inside
  cases ahead : data.drop offset with
  | nil =>
    have failed : byte (cursorAt data offset) = .error (.truncated offset 1) (cursorAt data offset) := by
      rw [cursorAt, ahead]
      rfl
    rw [Probe.byte_of_nil inside ahead, failed]
    exact .error (Nat.le_refl offset) inside
  | cons b bytes =>
    have passed : byte (cursorAt data offset) = .ok b (cursorAt data (offset + 1)) := by
      rw [cursorAt_succ ahead, cursorAt, ahead]
      rfl
    rw [Probe.byte_of_cons ahead, passed]
    exact .ok (Nat.le_succ offset) (lt_of_drop_eq_cons ahead)

/-- Reading digits of some width follows. -/
lemma follows_digits {α : Type} (n : Nat) (f : Bytes → α) :
    Follows data (Probe.take data n >>= fun bytes => Probe.copied n bytes >>= fun bytes => pure (f bytes))
      (take n >>= fun bytes => pure (f bytes)) := by
  rw [← bind_assoc]
  exact (follows_copied n).bind fun bytes => .pure (f bytes)

/-- Reading a number of 32 bits follows. -/
lemma follows_int32 : Follows data (Probe.int32 data) int32 :=
  follows_digits 4 fun bytes => (UInt32.ofNat (ofBigEndian bytes)).toInt32

/-- Reading a number of 64 bits follows. -/
lemma follows_int64 : Follows data (Probe.int64 data) int64 :=
  follows_digits 8 fun bytes => (UInt64.ofNat (ofBigEndian bytes)).toInt64

/-- Reading a truth value follows. -/
lemma follows_bool : Follows data (Probe.bool data) bool := follows_byte.bind fun _ => .pure _

/-- Reading the rest of a length follows, round by round. -/
lemma follows_lengthFrom (start : Nat) (shifts : List UInt32) (sum : UInt32) :
    Follows data (Probe.lengthFrom data start shifts sum) (lengthFrom start shifts sum) := by
  induction shifts generalizing sum with
  | nil => exact .throw _
  | cons shift shifts ih =>
    apply Follows.bind follows_byte
    intro b
    dsimp only
    split
    · exact .pure _
    · exact ih _

/-- Reading a length follows. -/
lemma follows_length : Follows data (Probe.length data) length :=
  .position_bind fun start => follows_lengthFrom start _ _

/-- Reading bytes with their length follows. -/
lemma follows_blob : Follows data (Probe.blob data) blob :=
  follows_length.bind fun n => follows_take n.toNat

/-- Passing characters follows, one by one. -/
lemma follows_passChars (start count : Nat) :
    Follows data (Probe.passChars data start count) (passChars start count) := by
  induction count with
  | zero => exact .pure ()
  | succ count ih =>
    apply Follows.bind follows_byte
    intro lead
    cases charWidth? lead with
    | none => exact .throw _
    | some width => exact ((follows_take (width - 1)).map fun _ => ()).bind fun _ => ih

/-- Characters that were passed are between two offsets in order, so that there is a slice of them. -/
lemma follows_chars (start count : Nat) :
    Follows data (Probe.chars data start count) (chars start count) := by
  intro offset inside
  have same := follows_passChars start count offset inside
  rw [cursorAt, chars_apply, ← cursorAt]
  change SameEnd data offset ((Probe.passChars data start count >>= fun _ => get >>= fun after =>
    Probe.slice data offset after >>= fun text =>
      match ofUtf8? text with
      | some s => pure s
      | none => throw (.refused (.invalidString start))) offset) _
  generalize probed : Probe.passChars data start count offset = first₁,
    passChars start count (cursorAt data offset) = first₂ at same
  cases same with
  | @ok _ stop forward inside' =>
    rw [bind_of_ok probed]
    change SameEnd data offset ((Probe.slice data offset stop >>= _) stop) _
    rw [Probe.slice_of_le forward inside', pure_bind]
    change SameEnd data offset _ (match ofUtf8? ((data.drop offset).take (stop - offset)) with
      | some s => .ok s (cursorAt data stop)
      | none => .error (.invalidString start) (cursorAt data stop))
    cases ofUtf8? ((data.drop offset).take (stop - offset)) with
    | none => exact .error forward inside'
    | some s => exact .ok forward inside'
  | error forward inside' =>
    rw [bind_of_error probed]
    exact .error forward inside'

/-- The characters of a string in compact form, there being rounds for all bytes that are left. -/
lemma compactChars_apply {rounds : Nat} (inside : offset ≤ data.length)
    (enough : data.length - offset < rounds) : Probe.compactChars data rounds offset =
      match compactChars? (data.drop offset) with
      | some cs => .ok cs (offset + cs.length)
      | none => .error (.refused (.truncated data.length 1)) data.length := by
  -- Each round that does not end passes a byte.
  induction rounds generalizing offset with
  | zero => cases enough
  | succ rounds ih =>
    cases ahead : data.drop offset with
    | nil =>
      have last : offset = data.length := Nat.le_antisymm inside (List.drop_eq_nil_iff.1 ahead)
      rw [Probe.compactChars, bind_of_error (Probe.byte_of_nil inside ahead), last]
      rfl
    | cons b bytes =>
      have lt : offset + 1 ≤ data.length := lt_of_drop_eq_cons ahead
      have later : data.drop (offset + 1) = bytes := congrArg Cursor.rest (cursorAt_succ ahead)
      have rest := ih lt (by omega)
      rw [later] at rest
      rw [Probe.compactChars, bind_of_ok (Probe.byte_of_cons ahead), compactChars?]
      by_cases goesOn : b &&& 0x80 = 0
      · rw [if_pos goesOn, if_pos goesOn]
        cases found : compactChars? bytes with
        | none =>
          rw [found] at rest
          exact bind_of_error rest
        | some cs =>
          rw [found] at rest
          rw [bind_of_ok rest]
          exact congrArg (EStateM.Result.ok _) (Nat.add_right_comm offset 1 cs.length)
      · rw [if_neg goesOn, if_neg goesOn]
        rfl

/-- A compact string ends inside of the bytes. -/
lemma length_compactChars?_le {bytes : Bytes} {cs : List Char} (found : compactChars? bytes = some cs) :
    cs.length ≤ bytes.length := by
  obtain ⟨used, rest, rfl, -, rfl⟩ := of_compactChars? found
  rw [List.length_map, List.length_append]
  exact Nat.le_add_right _ _

/-- The compact form is read from the bytes behind the offset. -/
lemma compact_cursorAt (inside : offset ≤ data.length) : compact (cursorAt data offset) =
    match compactChars? (data.drop offset) with
    | some cs => .ok (String.ofList cs) (cursorAt data (offset + cs.length))
    | none => .error (.truncated data.length 1) (cursorAt data data.length) := by
  have stop : offset + (data.length - offset) = data.length := Nat.add_sub_cancel' inside
  cases found : compactChars? (data.drop offset) with
  | none =>
    simp only [compact, rest_cursorAt, found, position_cursorAt, remaining_cursorAt, advance_cursorAt,
      stop]
  | some cs => simp only [compact, rest_cursorAt, found, advance_cursorAt]

/-- Reading the compact form follows. -/
lemma follows_compact : Follows data (Probe.compact data) compact := by
  intro offset inside
  have enough : data.length - offset < data.length + 1 := Nat.lt_succ_of_le (Nat.sub_le _ _)
  have probed := compactChars_apply inside enough
  rw [compact_cursorAt inside, Probe.compact]
  cases found : compactChars? (data.drop offset) with
  | none =>
    rw [found] at probed
    rw [bind_of_error probed]
    exact .error inside (Nat.le_refl _)
  | some cs =>
    have fits := length_compactChars?_le found
    rw [List.length_drop] at fits
    rw [found] at probed
    rw [bind_of_ok probed]
    exact .ok (Nat.le_add_right _ _) (by omega)

/-- Reading a count follows. -/
lemma follows_count (first : UInt8) : Follows data (Probe.count data first) (count first) := by
  unfold Probe.count count
  dsimp only
  split
  · exact .pure _
  · exact follows_length.bind fun _ => .pure _

/-- Reading counted characters follows. -/
lemma follows_counted (start n : Nat) : Follows data (Probe.counted data start n) (counted start n) := by
  match n with
  | 0 => exact .pure _
  | 1 => exact .pure _
  | n + 2 => exact (follows_chars start (n + 1)).map some

/-- The offset is put back in front of a compact string, so that its first byte is read again. -/
lemma follows_string? : Follows data (Probe.string? data) string? := by
  intro offset inside
  change SameEnd data offset ((Probe.byte data >>= fun first =>
    if first &&& 0x80 = 0 then set offset >>= fun _ => some <$> Probe.compact data
    else Probe.count data first >>= fun n => Probe.counted data offset n.toNat) offset) _
  cases ahead : data.drop offset with
  | nil =>
    have failed : string? (cursorAt data offset) = .error (.truncated offset 1) (cursorAt data offset) := by
      rw [cursorAt, ahead]
      rfl
    rw [bind_of_error (Probe.byte_of_nil inside ahead), failed]
    exact .error (Nat.le_refl offset) inside
  | cons first bytes =>
    have read := string?_cons offset first bytes
    rw [← ahead, ← cursorAt, ← cursorAt_succ ahead] at read
    rw [bind_of_ok (Probe.byte_of_cons ahead), read]
    by_cases short : first &&& 0x80 = 0
    · rw [if_pos short, if_pos short]
      exact follows_compact.map some offset inside
    · rw [if_neg short, if_neg short]
      exact ((follows_count first).bind (fun n => follows_counted offset n.toNat) (offset + 1)
        (lt_of_drop_eq_cons ahead)).mono (Nat.le_succ offset)

/-- Reading a text that has to be there follows. -/
lemma follows_string : Follows data (Probe.string data) string := follows_string?.bind fun _ => .pure _

end Bytes

end ProxyChain.Wire
