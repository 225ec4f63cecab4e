import ProxyChain.Link.Basic
import ProxyChain.Proofs.Link.Base64Url
import ProxyChain.Proofs.Profile.Payload
import ProxyChain.Proofs.Text.Cut

/-!
# Spellings of a link

The letters of a payload may be spelled in the standard alphabet, with blanks among them, padding behind
them and blanks around the whole link. The letters are found again (`normalize_padded`), and so every
spelling gives the same profile or the same error, in either form of link (`decode_spelling`).
-/

namespace ProxyChain.Link

open Wire

/-- The spellings of letters of the URL alphabet: a letter as it is, the standard alphabet's letter in
its place, and blanks anywhere. -/
inductive Respelled : (letters text : List Char) → Prop
  | nil : Respelled [] []
  | same {letters text} (c : Char) : Respelled letters text → Respelled (c :: letters) (c :: text)
  | plus {letters text} : Respelled letters text → Respelled ('-' :: letters) ('+' :: text)
  | slash {letters text} : Respelled letters text → Respelled ('_' :: letters) ('/' :: text)
  | blank {letters text} {c : Char} (blank : Text.isBlank c = true) :
      Respelled letters text → Respelled letters (c :: text)

/-- The spellings of a link that consists of `start` and the letters of its payload: the payload is
spelled in some way and padded, and there are blanks around it all. -/
inductive Spelling (start : String) (letters : List Char) : String → Prop
  | intro {text : List Char} (respelled : Respelled letters text) (padding : Nat)
      {before after : List Char} (blankBefore : Text.isAllBlank before = true)
      (blankAfter : Text.isAllBlank after = true) :
      Spelling start letters (String.ofList before ++
        (start ++ String.ofList (text ++ List.replicate padding '=')) ++ String.ofList after)

/-- What a link of the older form starts with, up to the payload. -/
def olderStart (kind : Profile.Kind) (ignored : List Char) : String :=
  scheme ++ kind.name ++ ":" ++ String.ofList ignored ++ ":"

/-- What may stand in the segment that is ignored. -/
def Ignorable (ignored : List Char) : Prop := ':' ∉ ignored ∧ '?' ∉ ignored
  deriving Decidable

/-- It does not matter how links of a kind with these letters are spelled. -/
structure SpellingFree (kind : Profile.Kind) (letters : List Char) : Prop where
  /-- The same letters are decoded. -/
  normalized {text : List Char} (respelled : Respelled letters text) (padding : Nat) :
    normalize (text ++ List.replicate padding '=') = letters
  compressed {link : String} (spelling : Spelling (start kind) letters link) :
    decode link = decode (start kind ++ String.ofList letters)
  older {ignored ignored' : List Char} (ignorable : Ignorable ignored) (ignorable' : Ignorable ignored')
    {link : String} (spelling : Spelling (olderStart kind ignored) letters link) :
    decode link = decode (olderStart kind ignored' ++ String.ofList letters)
  /-- An older link gives what the bytes of its letters hold. -/
  olderBytes {ignored : List Char} (ignorable : Ignorable ignored) {link : String}
    (spelling : Spelling (olderStart kind ignored) letters link) :
    decode link = match Base64Url.decode? letters with
      | some bytes => profileOf kind bytes
      | none => .error (.malformed .base64)
  olderProfile {ignored : List Char} (ignorable : Ignorable ignored) {link : String}
    (spelling : Spelling (olderStart kind ignored) letters link) {p : Profile} (is : p.kind = kind)
    (fits : ∀ s ∈ p.texts, Writable s) (encoded : Base64Url.decode? letters = some p.encode) :
    decode link = .ok p

section Payload

/-- Letters may be spelled as they are. -/
lemma Respelled.refl (letters : List Char) : Respelled letters letters := by
  induction letters with
  | nil => exact .nil
  | cons c _ ih => exact .same c ih

/-- Blanks at the end may be cut off beforehand. -/
lemma normalize_dropEndWhile (text : List Char) :
    normalize (Text.dropEndWhile Text.isBlank text) = normalize text := by
  rw [normalize, Text.strip_dropEndWhile, ← normalize]

/-- A letter means itself. -/
lemma plain_of_isLetter {c : Char} (letter : Base64Url.IsLetter c) :
    Text.isBlank c = false ∧ urlLetter c = c ∧ c ∉ ['=', '?', ':'] := by
  have ascii : c.toNat < 128 := by
    obtain ⟨-, high⟩ | ⟨-, high⟩ | ⟨-, high⟩ | rfl | rfl := letter
    · exact lt_of_le_of_lt high (by decide)
    · exact lt_of_le_of_lt high (by decide)
    · exact lt_of_le_of_lt high (by decide)
    · decide
    · decide
  have plain : ∀ n < 128, Base64Url.IsLetter (Char.ofNat n) →
      Text.isBlank (Char.ofNat n) = false ∧ urlLetter (Char.ofNat n) = Char.ofNat n ∧
        Char.ofNat n ∉ ['=', '?', ':'] := by
    decide
  have found := plain c.toNat ascii
  rw [Char.ofNat_toNat] at found
  exact found letter

variable {letters text : List Char} (inAlphabet : ∀ c ∈ letters, Base64Url.IsLetter c)

include inAlphabet

/-- No spelling has padding in it, or a character that divides links. -/
lemma Respelled.notMem (respelled : Respelled letters text) {d : Char} (mark : d ∈ ['=', '?', ':']) :
    d ∉ text := by
  induction respelled with
  | nil => exact List.not_mem_nil
  | same c _ ih =>
    obtain ⟨letter, letters⟩ := List.forall_mem_cons.1 inAlphabet
    rintro (_ | ⟨_, mem⟩)
    · exact (plain_of_isLetter letter).2.2 mark
    · exact ih letters mem
  | plus _ ih =>
    rintro (_ | ⟨_, mem⟩)
    · exact absurd mark (by decide)
    · exact ih (List.forall_mem_cons.1 inAlphabet).2 mem
  | slash _ ih =>
    rintro (_ | ⟨_, mem⟩)
    · exact absurd mark (by decide)
    · exact ih (List.forall_mem_cons.1 inAlphabet).2 mem
  | blank blank _ ih =>
    rintro (_ | ⟨_, mem⟩)
    · have filled : ['=', '?', ':'].all (!Text.isBlank ·) = true := rfl
      have filledMark := List.all_eq_true.1 filled d mark
      rw [blank] at filledMark
      cases filledMark
    · exact ih inAlphabet mem

/-- Without blanks, and with the URL alphabet's letters again, a spelling is what it spells. -/
lemma Respelled.map_filter (respelled : Respelled letters text) :
    (text.filter fun c => !Text.isBlank c).map urlLetter = letters := by
  induction respelled with
  | nil => rfl
  | same c _ ih =>
    obtain ⟨letter, letters⟩ := List.forall_mem_cons.1 inAlphabet
    obtain ⟨filled, itself, -⟩ := plain_of_isLetter letter
    rw [List.filter_cons_of_pos (by rw [filled]; rfl), List.map_cons, itself, ih letters]
  | plus _ ih =>
    exact congrArg (List.cons '-') (ih (List.forall_mem_cons.1 inAlphabet).2)
  | slash _ ih =>
    exact congrArg (List.cons '_') (ih (List.forall_mem_cons.1 inAlphabet).2)
  | blank blank _ ih => rw [List.filter_cons_of_neg (by simp [blank]), ih inAlphabet]

/-- The letters are found in every spelling of them, padded or not. -/
lemma normalize_padded (respelled : Respelled letters text) (padding : Nat) :
    normalize (text ++ List.replicate padding '=') = letters := by
  have unpadded : ∀ c ∈ text, (c == '=') = false := fun c mem =>
    beq_false_of_ne fun is => respelled.notMem inAlphabet (by decide) (is ▸ mem)
  have letters := respelled.map_filter inAlphabet
  cases padding with
  | zero =>
    -- Blanks at either end are cut off, and there is no padding behind what is left.
    rw [normalize, List.replicate_zero, List.append_nil,
      Text.dropEndWhile_eq_self fun c mem => unpadded c (Text.mem_of_mem_strip mem), Text.filter_strip,
      letters]
  | succ more =>
    -- The blanks before the padding are cut off at the start only.
    have filled : ∀ c ∈ List.replicate more '=', Text.isBlank c = false := fun c mem => by
      rw [List.eq_of_mem_replicate mem]
      rfl
    have kept : ∀ c ∈ text.dropWhile Text.isBlank, (c == '=') = false := fun c mem =>
      unpadded c ((List.dropWhile_suffix _).subset mem)
    rw [normalize, List.replicate_succ, Text.strip_append_cons rfl, Text.dropEndWhile_eq_self filled,
      ← List.replicate_succ, Text.dropEndWhile_append (by simp), Text.dropEndWhile_eq_self kept,
      Text.filter_dropWhile, letters]

/-- Letters are not changed. -/
lemma normalize_letters : normalize letters = letters := by
  have plain := normalize_padded inAlphabet (.refl letters) 0
  rwa [List.replicate_zero, List.append_nil] at plain

end Payload

section Link

variable {kind : Profile.Kind} {before after text ignored : List Char}

/-- A kind is found by its name. -/
lemma kindOf_name (kind : Profile.Kind) : kindOf kind.name.toList = .ok kind := by
  rw [kindOf, String.ofList_toList, Profile.Kind.ofName?_name]

/-- No name of a kind has a character in it that divides links. -/
lemma notMem_name (kind : Profile.Kind) : Ignorable kind.name.toList := by
  cases kind <;> decide

/-- A payload holds its profile. -/
lemma profileOf_encode {p : Profile} (fits : ∀ s ∈ p.texts, Writable s) :
    profileOf p.kind p.encode = .ok p := by
  have found : Profile.decode p.kind.tag (p.encode ++ []) = .ok p :=
    Profile.decode_encode_append fits []
  rw [List.append_nil] at found
  rw [profileOf, found]

/-- Blanks around a link are cut off, those behind its payload with them. -/
lemma decode_around (blankBefore : Text.isAllBlank before = true)
    (blankAfter : Text.isAllBlank after = true) {d : Char} (filled : Text.isBlank d = false)
    (front text : List Char) :
    decode (String.ofList before ++ String.ofList (scheme.toList ++ (front ++ d :: text)) ++
      String.ofList after) = decodeBody (front ++ d :: Text.dropEndWhile Text.isBlank text) := by
  have kept : (scheme.toList ++ front).dropWhile Text.isBlank = scheme.toList ++ front :=
    List.dropWhile_cons_of_neg (by decide)
  simp only [decode, String.toList_append, String.toList_ofList]
  rw [Text.strip_append blankBefore blankAfter, ← List.append_assoc, Text.strip_append_cons filled, kept,
    List.append_assoc, Text.dropStart?_append]

/-- A link that starts with a kind is a compressed one of that kind. -/
lemma decode_start (blankBefore : Text.isAllBlank before = true)
    (blankAfter : Text.isAllBlank after = true) (kind : Profile.Kind) (text : List Char) :
    decode (String.ofList before ++ (start kind ++ String.ofList text) ++ String.ofList after)
      = decodeCompressed kind.name.toList (Text.dropEndWhile Text.isBlank text) := by
  have whole : start kind ++ String.ofList text
      = String.ofList (scheme.toList ++ (kind.name.toList ++ '?' :: text)) := by
    rw [← String.toList_inj]
    simp [start]
  rw [whole, decode_around blankBefore blankAfter rfl, decodeBody, Text.cut_append (notMem_name kind).2]

/-- A link without compression is decoded by the letters behind the ignored segment. -/
lemma decodePlain_name (kind : Profile.Kind) (ignorable : Ignorable ignored) (text : List Char) :
    decodePlain kind.name.toList (ignored ++ ':' :: text) = match Base64Url.decode? (normalize text) with
      | some bytes => profileOf kind bytes
      | none => .error (.malformed .base64) := by
  rw [decodePlain, kindOf_name, Text.cut_append ignorable.1]
  dsimp only [bind, Except.bind]
  rw [payloadBytes]
  cases Base64Url.decode? (normalize text) <;> rfl

/-- A link of the older form is decoded by its letters. -/
lemma decode_olderStart (blankBefore : Text.isAllBlank before = true)
    (blankAfter : Text.isAllBlank after = true) (kind : Profile.Kind) (ignorable : Ignorable ignored)
    (noMark : '?' ∉ text) :
    decode (String.ofList before ++ (olderStart kind ignored ++ String.ofList text) ++
      String.ofList after) = match Base64Url.decode? (normalize text) with
        | some bytes => profileOf kind bytes
        | none => .error (.malformed .base64) := by
  have whole : olderStart kind ignored ++ String.ofList text = String.ofList
      (scheme.toList ++ (kind.name.toList ++ ':' :: ignored ++ ':' :: text)) := by
    rw [← String.toList_inj]
    simp [olderStart]
  have noMarkKept : '?' ∉ Text.dropEndWhile Text.isBlank text := fun mem =>
    noMark ((Text.isPrefix_dropEndWhile Text.isBlank text).subset mem)
  have noMarkAtAll : '?' ∉ kind.name.toList ++ ':' :: (ignored ++ ':' ::
      Text.dropEndWhile Text.isBlank text) := by
    simp [(notMem_name kind).2, ignorable.2, noMarkKept]
  rw [whole, decode_around blankBefore blankAfter rfl, List.append_assoc, List.cons_append, decodeBody,
    Text.cut_eq_none_iff.2 noMarkAtAll]
  dsimp only
  rw [Text.cut_append (notMem_name kind).1]
  dsimp only
  rw [decodePlain_name kind ignorable, normalize_dropEndWhile]

end Link

variable {kind : Profile.Kind} {letters : List Char}

/-- A link that is spelled as it is written, between blanks. -/
lemma Spelling.around {before after : List Char} (blankBefore : Text.isAllBlank before = true)
    (blankAfter : Text.isAllBlank after = true) (start : String) (letters : List Char) : Spelling start
      letters (String.ofList before ++ (start ++ String.ofList letters) ++ String.ofList after) := by
  have spelling : Spelling start letters _ := .intro (.refl letters) 0 blankBefore blankAfter
  rwa [List.replicate_zero, List.append_nil] at spelling

/-- Letters may stand behind a start as they are. -/
lemma Spelling.plain (start : String) (letters : List Char) :
    Spelling start letters (start ++ String.ofList letters) := by
  have noBlank : Text.isAllBlank [] = true := rfl
  have spelling := Spelling.around noBlank noBlank start letters
  rwa [String.ofList_nil, String.empty_append, String.append_empty] at spelling

/-- A compressed link is read by its name and its letters. -/
lemma decode_of_spelling_start (inAlphabet : ∀ c ∈ letters, Base64Url.IsLetter c) {link : String}
    (spelling : Spelling (start kind) letters link) :
    decode link = decodeCompressed kind.name.toList letters := by
  obtain ⟨respelled, padding, blankBefore, blankAfter⟩ := spelling
  rw [decode_start blankBefore blankAfter, decodeCompressed, decodeCompressed, payloadBytes,
    payloadBytes, normalize_dropEndWhile, normalize_padded inAlphabet respelled,
    normalize_letters inAlphabet]

/-- An older link is read by its kind and its letters. -/
lemma decode_of_spelling_olderStart (inAlphabet : ∀ c ∈ letters, Base64Url.IsLetter c)
    {ignored : List Char} (ignorable : Ignorable ignored) {link : String}
    (spelling : Spelling (olderStart kind ignored) letters link) :
    decode link = match Base64Url.decode? letters with
      | some bytes => profileOf kind bytes
      | none => .error (.malformed .base64) := by
  obtain ⟨respelled, padding, blankBefore, blankAfter⟩ := spelling
  have noMark : '?' ∉ _ ++ List.replicate padding '=' := fun mem =>
    (List.mem_append.1 mem).elim (respelled.notMem inAlphabet (by decide)) fun mem =>
      absurd (List.eq_of_mem_replicate mem) (by decide)
  rw [decode_olderStart blankBefore blankAfter kind ignorable noMark,
    normalize_padded inAlphabet respelled]

/-- It does not matter how a link is spelled, whether or not its letters stand for bytes. -/
theorem decode_spelling (kind : Profile.Kind) {letters : List Char}
    (inAlphabet : ∀ c ∈ letters, Base64Url.IsLetter c) : SpellingFree kind letters where
  normalized respelled padding := normalize_padded inAlphabet respelled padding
  compressed spelling := by
    rw [decode_of_spelling_start inAlphabet spelling, decode_of_spelling_start inAlphabet (.plain _ _)]
  older ignorable ignorable' _ spelling := by
    rw [decode_of_spelling_olderStart inAlphabet ignorable spelling,
      decode_of_spelling_olderStart inAlphabet ignorable' (.plain _ _)]
  olderBytes ignorable _ spelling := decode_of_spelling_olderStart inAlphabet ignorable spelling
  olderProfile ignorable _ spelling _ is fits encoded := by
    rw [decode_of_spelling_olderStart inAlphabet ignorable spelling, encoded, ← is]
    exact profileOf_encode fits

/-- Letters that hold no profile, and the letters of a profile, in both forms of link. -/
theorem decode_spelling_mixed :
    let p : Profile := ⟨{ name := "東" }, .direct⟩
    (∀ c ∈ ['A', '-', '_', 'B'], Base64Url.IsLetter c) ∧
      decode "\u00a0husi://direct? A+\n/B==\u3000" = decode "husi://direct?A-_B" ∧
      decode "\u00a0husi://direct:x y: A+\n/B==\u3000" = profileOf .direct [0x03, 0xEF, 0xC1] ∧
      (∀ c ∈ Base64Url.encode p.encode, Base64Url.IsLetter c) ∧ Ignorable ['x', ' ', 'y'] ∧
      (∀ s ∈ p.texts, Writable s) ∧
      decode ("\u00a0" ++ (olderStart .direct ['x', ' ', 'y'] ++ String.ofList
        (Base64Url.encode p.encode ++ List.replicate 3 '=')) ++ "\u3000") = .ok p := by
  intro p
  have inAlphabet : ∀ c ∈ ['A', '-', '_', 'B'], Base64Url.IsLetter c := by
    rw [List.forall_mem_cons, List.forall_mem_cons, List.forall_mem_cons, List.forall_mem_singleton]
    decide
  have respelled : Respelled ['A', '-', '_', 'B'] [' ', 'A', '+', '\n', '/', 'B'] :=
    .blank rfl (.same 'A' (.plus (.blank rfl (.slash (.same 'B' .nil)))))
  have blankBefore : Text.isAllBlank ['\u00a0'] = true := rfl
  have blankAfter : Text.isAllBlank ['\u3000'] = true := rfl
  have spelling (start : String) : Spelling start ['A', '-', '_', 'B'] _ :=
    .intro respelled 2 blankBefore blankAfter
  have free := decode_spelling .direct inAlphabet
  have ignorable : Ignorable ['x', ' ', 'y'] := by decide
  have inAlphabet' : ∀ c ∈ Base64Url.encode p.encode, Base64Url.IsLetter c := fun _ =>
    Base64Url.isLetter_of_mem_encode
  have spelling' : Spelling (olderStart .direct ['x', ' ', 'y']) (Base64Url.encode p.encode) _ :=
    .intro (.refl _) 3 blankBefore blankAfter
  have fits : ∀ s ∈ p.texts, Writable s := by
    unfold Writable
    decide
  exact ⟨inAlphabet, free.compressed (spelling _), free.olderBytes ignorable (spelling _), inAlphabet',
    ignorable, fits, (decode_spelling .direct inAlphabet').olderProfile ignorable spelling' rfl fits
      (Base64Url.decode?_encode _)⟩

end ProxyChain.Link
