import ProxyChain.Profile.Payload
import ProxyChain.Proofs.Wire.Yields

/-!
# The tag decides the kind

A payload is read as a profile of the kind that has the tag, whatever is in it. Only a tag of no kind is
unknown, and only a payload without bytes is empty (`Decoded.dispatched`).
-/

namespace ProxyChain

open Wire Reader

namespace Profile

/-- The kind that is found for a tag is the one with that tag. -/
lemma Kind.ofTag?_eq_some_iff {tag : Int32} {kind : Kind} : ofTag? tag = some kind ↔ kind.tag = tag := by
  constructor
  · intro found
    have same := List.find?_some found
    exact eq_of_beq same
  · rintro rfl
    exact ofTag?_tag kind

/-- None is found if no kind has the tag. -/
lemma Kind.ofTag?_eq_none_iff {tag : Int32} : ofTag? tag = none ↔ ∀ kind : Kind, kind.tag ≠ tag := by
  simp only [Option.eq_none_iff_forall_ne_some, ne_eq, ofTag?_eq_some_iff]

/-- Kinds are known by their tags. -/
lemma Kind.tag_injective : Function.Injective tag := by
  intro kind kind' same
  have found := ofTag?_tag kind
  rw [same, ofTag?_tag] at found
  exact (Option.some.inj found).symm

/-- The kind that is found for a name is the one with that name. -/
lemma Kind.ofName?_eq_some_iff {name : String} {kind : Kind} :
    ofName? name = some kind ↔ kind.name = name := by
  constructor
  · intro found
    have same := List.find?_some found
    exact eq_of_beq same
  · rintro rfl
    exact ofName?_name kind

/-- None is found if no kind has the name. -/
lemma Kind.ofName?_eq_none_iff {name : String} :
    ofName? name = none ↔ ∀ kind : Kind, kind.name ≠ name := by
  simp only [Option.eq_none_iff_forall_ne_some, ne_eq, ofName?_eq_some_iff]

/-- The settings that are read are those of the kind. -/
lemma Variant.gives_kind (version : Int32) (kind : Kind) :
    Gives (Variant.read version kind) fun v => v.kind = kind := by
  cases kind with
  | trojan => exact .map fun _ => rfl
  | naive => exact .map fun _ => rfl
  | hysteria => exact .map fun _ => rfl
  | direct => exact .pure rfl
  | config => exact .map fun _ => rfl

/-- A profile is read as one of the kind that is asked for. -/
lemma gives_kind (kind : Kind) : Gives (Profile.read kind) fun p => p.kind = kind :=
  .behind fun version => .behind fun _ => .bind (Variant.gives_kind version kind) fun _ is => .pure is

/-- What may come of a payload with a tag. -/
inductive Decoded (tag : Int32) (bytes : Bytes) : Except PayloadError Profile → Prop
  | unknownTag (unknown : ∀ kind : Kind, kind.tag ≠ tag) : Decoded tag bytes (.error (.unknownTag tag))
  | empty {kind : Kind} (known : kind.tag = tag) (empty : bytes = []) :
      Decoded tag bytes (.error (.empty tag))
  | broken {kind : Kind} (known : kind.tag = tag) (filled : bytes ≠ []) (e : ReadError) :
      Decoded tag bytes (.error (.read e))
  | read {p : Profile} (known : p.tag = tag) (filled : bytes ≠ []) : Decoded tag bytes (.ok p)

/-- Decoding ends in one of these ways. -/
lemma decoded_decode (tag : Int32) (bytes : Bytes) : Decoded tag bytes (decode tag bytes) := by
  unfold decode
  cases known : Kind.ofTag? tag with
  | none => exact .unknownTag (Kind.ofTag?_eq_none_iff.1 known)
  | some kind =>
    obtain rfl := Kind.ofTag?_eq_some_iff.1 known
    cases bytes with
    | nil => exact .empty rfl rfl
    | cons b bytes =>
      dsimp only [List.isEmpty_cons, Bool.false_eq_true, if_false, parse]
      cases made : Profile.read kind (.start (b :: bytes)) with
      | ok p c =>
        have is : p.kind = kind := gives_kind kind _ p c made
        exact .read (congrArg Kind.tag is) (List.cons_ne_nil b bytes)
      | error e c => exact .broken rfl (List.cons_ne_nil b bytes) e

/-- What a tag decides about what comes of a payload. -/
structure Dispatched (tag : Int32) (bytes : Bytes) (result : Except PayloadError Profile) : Prop where
  unknownTag_iff (tag' : Int32) :
    result = .error (.unknownTag tag') ↔ tag' = tag ∧ ∀ kind : Kind, kind.tag ≠ tag
  empty_iff (tag' : Int32) :
    result = .error (.empty tag') ↔ tag' = tag ∧ (∃ kind : Kind, kind.tag = tag) ∧ bytes = []
  tag {p : Profile} : result = .ok p → p.tag = tag

/-- The tag decides about what comes of a payload. -/
lemma Decoded.dispatched {tag : Int32} {bytes : Bytes} {result : Except PayloadError Profile}
    (h : Decoded tag bytes result) : Dispatched tag bytes result where
  unknownTag_iff tag' := by
    constructor
    · rintro rfl
      cases h with
      | unknownTag unknown => exact ⟨rfl, unknown⟩
    · rintro ⟨rfl, unknown⟩
      cases h with
      | unknownTag => rfl
      | empty known => exact absurd known (unknown _)
      | broken known => exact absurd known (unknown _)
      | read known => exact absurd known (unknown _)
  empty_iff tag' := by
    constructor
    · rintro rfl
      cases h with
      | empty known empty => exact ⟨rfl, ⟨_, known⟩, empty⟩
    · rintro ⟨rfl, ⟨kind, known⟩, empty⟩
      cases h with
      | unknownTag unknown => exact absurd known (unknown kind)
      | empty => rfl
      | broken _ filled => exact absurd empty filled
      | read _ filled => exact absurd empty filled
  tag := by
    rintro p rfl
    cases h with
    | read known => exact known

end Profile

end ProxyChain
