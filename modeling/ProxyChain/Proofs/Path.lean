import ProxyChain.Path
import ProxyChain.Proofs.Wire.Text

/-!
# Paths that are texts

A text is shown as it is, so a path that is one can be found again from what is shown of it, and no other
path can (`Path.isText_iff`). What is inside a directory is a text exactly if the directory is
(`Path.isText_join_iff`): a character starts with a byte that is in no other place, so that a text that
ends in another one goes on being a text when that is taken away.
-/

namespace ProxyChain

open Wire

namespace Wire

/-- The bytes of characters. -/
abbrev encoded (cs : List Char) : Bytes := cs.flatMap String.utf8EncodeChar

/-- The first character comes first. -/
lemma encoded_cons (c : Char) (cs : List Char) :
    encoded (c :: cs) = String.utf8EncodeChar c ++ encoded cs := List.flatMap_cons

/-- A text is known by its bytes. -/
lemma utf8_inj {s s' : String} : utf8 s = utf8 s' ↔ s = s' := by
  constructor
  · intro same
    have read := ofUtf8?_utf8 s
    rw [same, ofUtf8?_utf8] at read
    exact (Option.some.inj read).symm
  · rintro rfl
    rfl

/-- The bytes of texts follow one another as the texts do. -/
lemma utf8_append (s s' : String) : utf8 (s ++ s') = utf8 s ++ utf8 s' := by
  rw [utf8_eq, utf8_eq, utf8_eq, String.toList_append, List.flatMap_append]

/-- Only the first byte of a character is one that a character starts with. -/
lemma charWidth?_of_mem_tail {c : Char} {lead b : UInt8} {tail : Bytes}
    (bytes : String.utf8EncodeChar c = lead :: tail) (mem : b ∈ tail) : charWidth? b = none := by
  have continues (n : Nat) : charWidth? (UInt8.ofNat (n % 64 + 128)) = none := by
    rw [charWidth?_eq, UInt8.toNat_ofNat', if_neg (by omega), if_pos (by omega)]
  rw [String.utf8EncodeChar] at bytes
  -- One case for each number of bytes.
  split at bytes
  · obtain ⟨-, rfl⟩ := List.cons.inj bytes
    cases mem
  split at bytes
  · obtain ⟨-, rfl⟩ := List.cons.inj bytes
    obtain rfl := List.mem_singleton.1 mem
    exact continues _
  split at bytes
  · obtain ⟨-, rfl⟩ := List.cons.inj bytes
    rcases List.mem_cons.1 mem with rfl | mem
    · exact continues _
    · obtain rfl := List.mem_singleton.1 mem
      exact continues _
  · obtain ⟨-, rfl⟩ := List.cons.inj bytes
    rcases List.mem_cons.1 mem with rfl | mem
    · exact continues _
    · rcases List.mem_cons.1 mem with rfl | mem
      · exact continues _
      · obtain rfl := List.mem_singleton.1 mem
        exact continues _

/-- Bytes in front of characters that are characters altogether are characters themselves. -/
lemma exists_encoded_of_append {bytes : Bytes} {cs ds : List Char}
    (whole : bytes ++ encoded ds = encoded cs) : ∃ front, bytes = encoded front := by
  induction cs generalizing bytes with
  | nil => exact ⟨[], (List.append_eq_nil_iff.1 whole).1⟩
  | cons c cs ih =>
    rw [encoded_cons] at whole
    rcases List.append_eq_append_iff.1 whole with ⟨beyond, first, after⟩ | ⟨more, rfl, rest⟩
    · -- The characters that follow would start within this one, unless it is all before or all after.
      cases bytes with
      | nil => exact ⟨[], rfl⟩
      | cons lead bytes =>
        cases beyond with
        | nil =>
          refine ⟨[c], ?_⟩
          rw [List.append_nil] at first
          rw [encoded_cons, encoded, List.flatMap_nil, List.append_nil, first]
        | cons b beyond =>
          have within : charWidth? b = none :=
            charWidth?_of_mem_tail first (List.mem_append_right _ List.mem_cons_self)
          cases ds with
          | nil => cases after
          | cons d ds =>
            obtain ⟨start, tail, bytesOf, width⟩ := utf8EncodeChar_eq_cons d
            rw [encoded_cons, bytesOf, List.cons_append] at after
            obtain ⟨rfl, -⟩ := List.cons.inj after
            rw [width] at within
            cases within
    · obtain ⟨front, rfl⟩ := ih rest.symm
      exact ⟨c :: front, (encoded_cons c front).symm⟩

end Wire

namespace Path

/-- Bytes that belong to a part before are passed. -/
lemma parts_append (passed rest : Bytes) : parts passed.length (passed ++ rest) = parts 0 rest := by
  induction passed with
  | nil => rfl
  | cons b passed ih => exact ih

/-- A character is a part. -/
lemma parts_utf8EncodeChar (c : Char) (rest : Bytes) :
    parts 0 (String.utf8EncodeChar c ++ rest) = .char c :: parts 0 rest := by
  have bytes : (⟨(String.utf8EncodeChar c ++ rest).toArray⟩ : ByteArray)
      = (String.utf8EncodeChar c).toByteArray ++ ⟨rest.toArray⟩ := by
    apply ByteArray.ext
    simp
  have decoded : ByteArray.utf8DecodeChar? ⟨(String.utf8EncodeChar c ++ rest).toArray⟩ 0 = some c := by
    rw [bytes]
    exact ByteArray.utf8DecodeChar?_utf8EncodeChar_append
  have size := String.length_utf8EncodeChar c
  obtain ⟨lead, tail, bytesOf, -⟩ := utf8EncodeChar_eq_cons c
  rw [bytesOf, List.cons_append] at decoded ⊢
  rw [bytesOf, List.length_cons] at size
  rw [parts, decoded]
  dsimp only
  rw [← size, Nat.add_sub_cancel, parts_append]

/-- The parts of a text are its characters. -/
lemma parts_encoded (cs : List Char) : parts 0 (encoded cs) = cs.map .char := by
  induction cs with
  | nil => rfl
  | cons c cs ih => rw [encoded_cons, parts_utf8EncodeChar, ih, List.map_cons]

/-- A text is shown as it is. -/
@[simp]
lemma display_ofText (s : String) : (ofText s).display = s := by
  rw [display, ofText, utf8_eq, parts_encoded, List.map_map]
  exact (congrArg String.ofList s.toList.map_id).trans s.ofList_toList

/-- A path is a text. -/
def IsText (p : Path) : Prop := ∃ s, p = ofText s

/-- What is shown of a path is the text of that path exactly if it is a text. -/
theorem isText_iff {p : Path} : p.IsText ↔ ofText p.display = p := by
  constructor
  · rintro ⟨s, rfl⟩
    rw [display_ofText]
  · intro same
    exact ⟨_, same.symm⟩

/-- What a text is put behind is a text itself, if the whole is. -/
lemma isText_append_iff {bytes : Bytes} {s : String} :
    IsText ⟨bytes ++ utf8 s⟩ ↔ IsText ⟨bytes⟩ := by
  constructor
  · rintro ⟨whole, same⟩
    have same := congrArg Path.bytes same
    rw [ofText, utf8_eq, utf8_eq] at same
    obtain ⟨front, rfl⟩ := exists_encoded_of_append same
    refine ⟨String.ofList front, ?_⟩
    rw [ofText, utf8_eq, String.toList_ofList]
  · rintro ⟨front, same⟩
    obtain rfl : bytes = utf8 front := congrArg Path.bytes same
    exact ⟨front ++ s, congrArg mk (utf8_append front s).symm⟩

/-- What the paths into a directory start with. -/
def into (dir : Path) : Bytes :=
  if dir.bytes.isEmpty || dir.bytes.getLast? == some slash then dir.bytes else dir.bytes ++ [slash]

/-- A relative name follows the directory. -/
lemma bytes_join (dir : Path) {name : String} (relative : name.startsWith '/' = false) :
    (join dir name).bytes = into dir ++ utf8 name := by
  unfold join into
  rw [relative]
  split
  · contradiction
  · split
    · rfl
    · rw [List.append_assoc]
      rfl

/-- A directory inside another one. -/
lemma into_join (dir : Path) {name : String} {b : UInt8} (relative : name.startsWith '/' = false)
    (ends : (utf8 name).getLast? = some b) (other : b ≠ slash) :
    into (join dir name) = into dir ++ utf8 name ++ [slash] := by
  have last : (join dir name).bytes.getLast? = some b := by
    rw [bytes_join dir relative, List.getLast?_append, ends]
    rfl
  have named : (join dir name).bytes.isEmpty = false := by
    rw [List.isEmpty_eq_false_iff]
    intro empty
    rw [empty] at last
    cases last
  have unended : ((join dir name).bytes.getLast? == some slash) = false := by
    rw [last]
    exact beq_false_of_ne fun same => other (Option.some.inj same)
  unfold into
  rw [named, unended]
  exact congrArg (· ++ [slash]) (bytes_join dir relative)

/-- What leads into a directory is a text exactly if the directory is one. -/
lemma isText_into_iff {dir : Path} : IsText ⟨into dir⟩ ↔ dir.IsText := by
  unfold into
  split
  · rfl
  · exact isText_append_iff (s := "/")

/-- What is in a directory is a text exactly if the directory is one. -/
theorem isText_join_iff {dir : Path} {name : String} (relative : name.startsWith '/' = false) :
    (join dir name).IsText ↔ dir.IsText := by
  have bytes : join dir name = ⟨into dir ++ utf8 name⟩ := congrArg mk (bytes_join dir relative)
  rw [bytes, isText_append_iff, isText_into_iff]

/-- A directory whose name holds a byte that starts no character, and what is shown of a file in it. -/
example : (join ⟨[0x2F, 0x63, 0xFF]⟩ "tmpcfg").display = "/c\uFFFD/tmpcfg" := by decide +kernel

end Path

end ProxyChain
