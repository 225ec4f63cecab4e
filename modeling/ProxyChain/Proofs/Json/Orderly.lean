import ProxyChain.Json.Loose
import ProxyChain.Json.Parser
import ProxyChain.Proofs.Json.Members

/-!
# Documents with their members in order

Parsing makes every object by insertion, so that in a document that was parsed the members of every
object, however deep inside, stand in the order of their keys (`orderly_of_parse`) and no key occurs
twice. `Gives` says of a scanner what holds of everything it may read, and every property that documents
inherit from their parts holds of a document that was parsed (`Inherited.of_parse`).
-/

namespace ProxyChain

/-- The members of every object stand in the order of their keys. -/
inductive Json.Orderly : Json → Prop where
  | null : Orderly .null
  | bool (value : Bool) : Orderly (.bool value)
  | number (value : Number) : Orderly (.number value)
  | string (value : String) : Orderly (.string value)
  | array {items : List Json} (inside : ∀ item ∈ items, Orderly item) : Orderly (.array items)
  | object {members : Members} (sorted : members.Sorted)
      (inside : ∀ field ∈ members, Orderly field.2) : Orderly (.object members)

namespace Members

/-- What is found under a key is a member. -/
lemma mem_of_get? {m : Members} {key : String} {value : Json} (h : m.get? key = some value) :
    (key, value) ∈ m := by
  induction m with
  | nil => cases h
  | cons field m ih =>
    rw [get?_cons] at h
    split at h
    · next same =>
      cases h
      rw [same]
      exact List.mem_cons_self
    · exact List.mem_cons_of_mem _ (ih h)

/-- Whatever is found after an insertion was inserted or there before. -/
lemma mem_insert {m : Members} {key : String} {value : Json} {field : String × Json}
    (mem : field ∈ m.insert key value) : field = (key, value) ∨ field ∈ m := by
  induction m with
  | nil => exact .inl (List.mem_singleton.1 mem)
  | cons first m ih =>
    obtain ⟨k, v⟩ := first
    simp only [insert] at mem
    split at mem
    · exact (List.mem_cons.1 mem).imp_right (List.mem_cons_of_mem _)
    · split at mem
      · exact List.mem_cons.1 mem
      · rcases List.mem_cons.1 mem with rfl | mem
        · exact .inr List.mem_cons_self
        · exact (ih mem).imp_right (List.mem_cons_of_mem _)

/-- Members that are put in order are among the fields. -/
lemma mem_ofList {fields : List (String × Json)} {field : String × Json}
    (mem : field ∈ ofList fields) : field ∈ fields := by
  induction fields using List.reverseRecOn with
  | nil => cases mem
  | append_singleton fields last ih =>
    simp only [ofList, List.foldl_append, List.foldl_cons, List.foldl_nil] at mem
    rcases mem_insert mem with rfl | mem
    · exact List.mem_append_right _ (List.mem_singleton_self _)
    · exact List.mem_append_left _ (ih mem)

end Members

namespace Json.Orderly

/-- An object of orderly fields is orderly. -/
lemma ofList {fields : List (String × Json)} (h : ∀ field ∈ fields, Orderly field.2) :
    Orderly (.object (Members.ofList fields)) :=
  .object (Members.sorted_ofList fields) fun field mem => h field (Members.mem_ofList mem)

variable {m : Members}

/-- The empty object is orderly. -/
lemma empty : Orderly (.object []) := .object .nil nofun

/-- A member may stand in front of others with greater keys. -/
lemma cons {key : String} {value : Json} (first : Orderly value) (before : ∀ k ∈ m.keys, key < k)
    (rest : Orderly (.object m)) : Orderly (.object ((key, value) :: m)) := by
  cases rest with
  | object sorted inside =>
    exact .object (List.pairwise_cons.2 ⟨before, sorted⟩) (List.forall_mem_cons.2 ⟨first, inside⟩)

/-- An orderly object has its members in order. -/
lemma sorted (h : Orderly (.object m)) : m.Sorted := by
  cases h with
  | object sorted _ => exact sorted

/-- An object inside an orderly one is orderly. -/
lemma objectAt? (h : Orderly (.object m)) {key : String} {inner : Members}
    (found : Members.objectAt? m key = some inner) : Orderly (.object inner) := by
  obtain ⟨value, held, object⟩ := Option.bind_eq_some_iff.1 found
  cases h with
  | object _ inside =>
    have orderly := inside _ (Members.mem_of_get? held)
    cases value with
    | object members =>
      cases object
      exact orderly
    | _ => cases object

end Json.Orderly

namespace Scan

/-- Everything that a scanner may read has a property. -/
def Gives {α : Type} (P : α → Prop) (scan : Scan α) : Prop :=
  ∀ text a rest, scan text = .ok (a, rest) → P a

namespace Gives

variable {α β σ : Type} {P : α → Prop} {Q : β → Prop}

/-- A result that is good is given. -/
lemma pure {a : α} (h : P a) : Gives P (Pure.pure a) := by
  intro text a rest read
  cases read
  exact h

/-- A failure gives nothing. -/
lemma fail (e : TextError) : Gives P (Scan.fail e) := by
  intro text a rest read
  cases read

/-- What is read first tells what is read in the end. -/
lemma bind {scan : Scan α} {next : α → Scan β} (first : Gives P scan)
    (second : ∀ a, P a → Gives Q (next a)) : Gives Q (scan >>= next) := by
  intro text b rest read
  simp only [Bind.bind, StateT.bind, Except.bind] at read
  split at read
  · cases read
  · next a left read' =>
    exact second _ (first _ _ _ read') _ _ _ read

/-- What is read first does not matter. -/
lemma then_ {scan : Scan α} {next : α → Scan β} (second : ∀ a, Gives Q (next a)) :
    Gives Q (scan >>= next) :=
  bind (P := fun _ => True) (fun _ _ _ _ => trivial) fun a _ => second a

/-- A result that is good is turned into a good one. -/
lemma map {scan : Scan α} (first : Gives P scan) {f : α → β} (h : ∀ a, P a → Q (f a)) :
    Gives Q (f <$> scan) := by
  rw [map_eq_pure_bind]
  exact first.bind fun a holds => pure (h a holds)

/-- What every round keeps holds of the result. -/
lemma loop {I : σ → Prop} {step : σ → Scan (σ ⊕ β)}
    (round : ∀ s, I s → Gives (Sum.elim I Q) (step s)) {s : σ} (start : I s) :
    Gives Q (Scan.loop step s) := by
  have repeated (n : Nat) : ∀ s, I s → Gives Q (rounds (Scan.fail .malformed) step n s) := by
    induction n with
    | zero => exact fun _ _ => fail _
    | succ n ih =>
      intro s holds
      refine (round s holds).bind fun outcome kept => ?_
      cases outcome with
      | inl s' => exact ih s' kept
      | inr b => exact pure kept
  intro text
  exact repeated (text.length + 1) s start text

/-- All items are good if each of them is. -/
lemma items {item : Scan α} (each : Gives P item) :
    Gives (fun xs => ∀ x ∈ xs, P x) (Scan.items item) := by
  refine then_ fun _ => then_ fun ended => ?_
  split
  · exact pure nofun
  · refine loop (I := fun done => ∀ x ∈ done, P x) (fun done kept => ?_) nofun
    refine each.bind fun x holds => then_ fun _ => then_ fun c => ?_
    have added : ∀ y ∈ x :: done, P y := List.forall_mem_cons.2 ⟨holds, kept⟩
    split
    · exact pure added
    · exact pure fun y mem => added y (List.mem_reverse.1 mem)
    · exact fail _

/-- All fields are good if the value of each of them is. -/
lemma fields {key : Scan σ} {item : Scan α} (each : Gives P item) :
    Gives (fun fields => ∀ field ∈ fields, P field.2) (Scan.fields key item) := by
  refine then_ fun _ => then_ fun ended => ?_
  split
  · exact pure nofun
  · refine loop (I := fun done => ∀ field ∈ done, P field.2) (fun done kept => ?_) nofun
    refine then_ fun _ => then_ fun _ => then_ fun k => then_ fun _ => then_ fun _ => ?_
    refine each.bind fun x holds => then_ fun _ => then_ fun c => ?_
    have added : ∀ field ∈ (k, x) :: done, P field.2 := List.forall_mem_cons.2 ⟨holds, kept⟩
    split
    · exact pure added
    · exact pure fun field mem => added field (List.mem_reverse.1 mem)
    · exact fail _

end Gives

end Scan

/-- A property that a document has when its parts have it, as they are read. -/
structure Json.Inherited (P : Json → Prop) : Prop where
  null : P .null
  bool (value : Bool) : P (.bool value)
  number {literal : Number.Literal} {value : Number} (read : Number.ofLiteral? literal = some value) :
    P (.number value)
  string (value : String) : P (.string value)
  array {items : List Json} (inside : ∀ item ∈ items, P item) : P (.array items)
  object {fields : List (String × Json)} (inside : ∀ field ∈ fields, P field.2) :
    P (.object (Members.ofList fields))

namespace Scan

variable {P : Json → Prop}

/-- A number is given by a literal. -/
lemma gives_number : Gives (fun n => ∃ l, Number.ofLiteral? l = some n) number := by
  refine .then_ fun l => ?_
  cases read : Number.ofLiteral? l with
  | none => exact .fail _
  | some n => exact .pure ⟨l, read⟩

/-- A value has the property if what follows a bracket or brace has it. -/
lemma gives_valueWith (inherited : Json.Inherited P) {array object : Scan Json}
    (ofArray : Gives P array) (ofObject : Gives P object) : Gives P (valueWith array object) := by
  refine .then_ fun _ => .then_ fun c => ?_
  split
  case h_1 => exact .fail _
  case h_2 => exact .then_ fun _ => .pure inherited.null
  case h_3 => exact .then_ fun _ => .pure (inherited.bool true)
  case h_4 => exact .then_ fun _ => .pure (inherited.bool false)
  case h_5 => exact .then_ fun _ => .then_ fun s => .pure (inherited.string s)
  case h_6 => exact .then_ fun _ => ofArray
  case h_7 => exact .then_ fun _ => ofObject
  case h_8 =>
    split
    · exact gives_number.map fun n ⟨l, read⟩ => inherited.number read
    · exact .fail _

/-- A value is good if everything that is made of good parts is. -/
lemma gives_value (inherited : Json.Inherited P) (limit : Nat) : Gives P (value limit) := by
  induction limit with
  | zero => exact gives_valueWith inherited (.fail _) (.fail _)
  | succ limit ih =>
    exact gives_valueWith inherited (ih.items.map fun _ inside => inherited.array inside)
      (ih.fields.map fun _ inside => inherited.object inside)

end Scan

namespace Json

/-- A document that was parsed has every inherited property. -/
theorem Inherited.of_parse {P : Json → Prop} (inherited : Inherited P) {text : String} {doc : Json}
    (h : parse text = .ok doc) : P doc := by
  have read : Scan.Gives P (Scan.complete (Scan.value nestingLimit)) := by
    refine (Scan.gives_value inherited _).bind fun doc holds => .then_ fun _ => .then_ fun c => ?_
    split
    · exact .pure holds
    · exact .fail _
  simp only [parse, Scan.run] at h
  cases scanned : Scan.complete (Scan.value nestingLimit) text.toList with
  | error e => rw [scanned] at h; cases h
  | ok result =>
    obtain ⟨a, rest⟩ := result
    rw [scanned] at h
    cases h
    exact read _ _ _ scanned

/-- An orderly document can be made of orderly parts. -/
lemma Orderly.inherited : Inherited Orderly where
  null := .null
  bool := .bool
  number _ := .number _
  string := .string
  array := .array
  object := .ofList

/-- A document that was parsed is orderly. -/
theorem orderly_of_parse {text : String} {doc : Json} (h : parse text = .ok doc) : Orderly doc :=
  Orderly.inherited.of_parse h

end Json

end ProxyChain
