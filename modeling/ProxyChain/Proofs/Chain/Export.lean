import ProxyChain.Chain.Export
import ProxyChain.Proofs.Chain.Printable
import ProxyChain.Proofs.Json.Printed

/-!
# What an export holds

The empty lines between the configurations of an export stand in the same text as the configurations
themselves. They are found again whatever the record holds, since no document is printed with an empty
line in it: cutting an export at its empty lines gives the core's document and the configurations of the
helpers (`ofRecord_exports`). A complete configuration may hold empty lines of its own, and is exported as
it is.
-/

namespace ProxyChain

open Json Text

variable {system : SystemPorts} {s : Settings} {name : String} {chain : List Record} {forTest : Bool}
  {compiled : Compiled}

/-- The ports and the record of every helper, in order. -/
def Compiled.helpers (c : Compiled) : List (Helper.Ports × Record) :=
  c.external.flatMap fun chain => chain.entries.map fun (port, record) => (chain.ports port, record)

/-- The configuration of a helper in an export. -/
def Export.config? (s : Settings) (name : String) (helper : Helper.Ports × Record) : Option String :=
  (Helper.render helper.2.profile helper.1 false s name).map (·.config)

/-- The configurations of all indexes together are those of the helpers, in order. -/
lemma Compiled.flatMap_helperConfigs (c : Compiled) (s : Settings) (name : String) :
    (c.external.flatMap fun chain => Export.helperConfigs chain s name) =
      c.helpers.filterMap (Export.config? s name) := by
  rw [helpers, List.filterMap_flatMap]
  simp only [List.filterMap_map]
  rfl

/-- What is compiled needs helpers exactly if it has any. -/
lemma Compiled.needsHelpers_iff (c : Compiled) : c.needsHelpers = true ↔ c.helpers ≠ [] := by
  simp [needsHelpers, helpers, ExternalChain.isEmpty]

/-- The helpers are there for the hops of the chain that need one, in order. -/
lemma compile_helpers (h : compile system chain s forTest = .ok compiled) :
    compiled.helpers.map Prod.snd = chain.filter fun r => r.profile.needsHelper := by
  rw [← compile_entries h, Compiled.helpers, List.map_flatMap, List.map_flatMap]
  simp only [List.map_map]
  rfl

/-- Every helper is there for a hop that needs one. -/
lemma needsHelper_of_mem_helpers (h : compile system chain s forTest = .ok compiled)
    {helper : Helper.Ports × Record} (mem : helper ∈ compiled.helpers) :
    helper.2.profile.needsHelper = true := by
  have record : helper.2 ∈ compiled.helpers.map Prod.snd := List.mem_map_of_mem mem
  rw [compile_helpers h] at record
  exact (List.mem_filter.1 record).2

/-- What is compiled needs helpers exactly if a hop of the chain does. -/
lemma compile_needsHelpers (h : compile system chain s forTest = .ok compiled) :
    compiled.needsHelpers = chain.any fun r => r.profile.needsHelper := by
  rw [Bool.eq_iff_iff, Compiled.needsHelpers_iff, Ne, ← List.map_eq_nil_iff (f := Prod.snd),
    compile_helpers h, List.filter_eq_nil_iff, List.any_eq_true]
  simp

/-- A complete configuration that is alone goes to the core as it is. -/
lemma compile_verbatim {r : Record} {raw : RawConfig} (variant : r.profile.variant = .config raw)
    (full : raw.scope = .full) (h : compile system [r] s forTest = .ok compiled) :
    compiled = { document := .verbatim raw.text, external := [{}] } := by
  obtain ⟨r', text, same, held, rfl⟩ | ⟨hops, -, planned, -⟩ := compile_cases h
  · obtain rfl := List.singleton_inj.1 same
    simp only [Profile.fullConfig?, variant, full, if_true, Option.some.injEq] at held
    rw [held]
  · have notFull := planned.notFull r List.mem_cons_self
    simp [Profile.isFullConfig, variant, full] at notFull

/-- Without a complete configuration a chain compiles to a printable document. -/
lemma compile_text (h : compile system chain s forTest = .ok compiled)
    (chained : ∀ r ∈ chain, r.profile.isFullConfig = false) :
    ∃ document, compiled.text = document.pretty ∧ Printable document := by
  obtain ⟨hops, planned, rfl, -⟩ := compile_planned h chained
  exact ⟨_, rfl, CoreConfig.printable_toJson fun h mem =>
    (planned_of_planHops planned).printable_outbound mem⟩

namespace Export

/-- JSON text without an empty line. -/
structure IsPart (text : String) : Prop where
  isText : IsText text
  dense : Dense text.toList

/-- A document that can be printed is a part of an export. -/
lemma isPart_pretty {document : Json} (h : Printable document) : IsPart document.pretty :=
  ⟨h.isText_pretty, h.dense_pretty⟩

/-- Every helper has a configuration without empty lines. -/
lemma exists_configs {helpers : List (Helper.Ports × Record)}
    (needs : ∀ helper ∈ helpers, helper.2.profile.needsHelper = true) (s : Settings) (name : String) :
    ∃ configs : List String, helpers.map (config? s name) = configs.map some ∧
      ∀ config ∈ configs, IsPart config := by
  induction helpers with
  | nil => exact ⟨[], rfl, nofun⟩
  | cons helper helpers ih =>
    rw [List.forall_mem_cons] at needs
    obtain ⟨configs, same, parts⟩ := ih needs.2
    obtain ⟨rendered, document, renders, config, printable⟩ :=
      Helper.exists_printable_render needs.1 helper.1 false s name
    have first : config? s name helper = some rendered.config := by rw [config?, renders, Option.map_some]
    refine ⟨rendered.config :: configs, ?_, List.forall_mem_cons.2 ⟨?_, parts⟩⟩
    · rw [List.map_cons, first, same, List.map_cons]
    · rw [config]
      exact isPart_pretty printable

/-- If every element gives something, the results are all that is given. -/
lemma filterMap_of_map_eq {α β : Type} {f : α → Option β} {xs : List α} {ys : List β}
    (h : xs.map f = ys.map some) : xs.filterMap f = ys := by
  calc xs.filterMap f = (xs.map f).filterMap id := by
        rw [List.filterMap_map]
        rfl
    _ = (ys.map some).filterMap id := by rw [h]
    _ = ys := by
      rw [List.filterMap_map]
      exact List.filterMap_some

/-- The core's document and the configurations of the helpers, if none of them is handed on as it is. -/
lemma exists_parts {r : Record} (notFull : r.profile.isFullConfig = false)
    (h : compile system [r] s false = .ok compiled) (name : String) :
    ∃ configs : List String, compiled.helpers.map (config? s name) = configs.map some ∧
      (compiled.external.flatMap fun chain => helperConfigs chain s name) = configs ∧
      ∀ part ∈ compiled.text :: configs, IsPart part := by
  obtain ⟨document, text, printable⟩ := compile_text h (List.forall_mem_singleton.2 notFull)
  obtain ⟨configs, rendered, each⟩ :=
    exists_configs (fun _ mem => needsHelper_of_mem_helpers h mem) s name
  refine ⟨configs, rendered, ?_, List.forall_mem_cons.2 ⟨text ▸ isPart_pretty printable, each⟩⟩
  rw [Compiled.flatMap_helperConfigs, filterMap_of_map_eq rendered]

/-- Parts are found again between the empty lines. -/
lemma paragraphs_parts {first : String} {others : List String}
    (parts : ∀ part ∈ first :: others, IsPart part) :
    (paragraphs ("\n\n".intercalate (first :: others)).toList).map String.ofList = first :: others := by
  rw [String.toList_intercalate, List.map_cons]
  change (paragraphs (emptyLine.intercalate _)).map String.ofList = _
  rw [paragraphs_intercalate]
  · simp
  · rw [← List.map_cons, List.forall_mem_map]
    exact fun part mem => (parts part mem).dense

/-- What is exported for a record that compiles. -/
structure Exports (file : Export) (r : Record) (s : Settings) (name : String) (compiled : Compiled) :
    Prop where
  /-- Between the empty lines stand the core's document and a configuration for every helper, each of
  them JSON text. -/
  parts : r.profile.isFullConfig = false → ∃ configs : List String,
    compiled.helpers.map (config? s name) = configs.map some ∧
    (paragraphs file.content.toList).map String.ofList = compiled.text :: configs ∧
    ∀ part ∈ compiled.text :: configs, IsText part
  verbatim (raw : RawConfig) : r.profile.variant = .config raw → raw.scope = .full →
    file.content = raw.text
  fileName : file.fileName =
    if r.profile.needsHelper then "profiles.txt" else r.profile.displayName ++ ".json"
  shared : file.fileName = "profiles.txt" ↔ r.profile.needsHelper = true

/-- A name with an ending is not the one for several configurations. -/
lemma append_json_ne (name : String) : name ++ ".json" ≠ sharedName := by
  intro same
  have last := congrArg (fun text => text.toList.getLast?) same
  rw [String.toList_append, List.getLast?_append] at last
  change some 'n' = some 't' at last
  exact absurd last (by decide)

/-- Exporting a record compiles it, and every export holds what `Exports` says. -/
theorem ofRecord_exports {r : Record} {file : Export} (h : ofRecord system r s name = .ok file) :
    ∃ compiled, compile system [r] s false = .ok compiled ∧ Exports file r s name compiled := by
  unfold ofRecord at h
  cases compiles : compile system [r] s false with
  | error e =>
    rw [compiles] at h
    cases h
  | ok compiled =>
    rw [compiles] at h
    cases h
    have needs : compiled.needsHelpers = r.profile.needsHelper := by
      rw [compile_needsHelpers compiles, List.any_cons, List.any_nil, Bool.or_false]
    refine ⟨compiled, rfl, ?parts, ?verbatim, ?fileName, ?shared⟩
    case parts =>
      intro notFull
      obtain ⟨configs, rendered, given, parts⟩ := exists_parts notFull compiles name
      refine ⟨configs, rendered, ?_, fun part mem => (parts part mem).isText⟩
      dsimp only
      rw [given]
      exact paragraphs_parts parts
    case verbatim =>
      intro raw variant full
      rw [compile_verbatim variant full compiles]
      change "\n\n".intercalate [raw.text] = raw.text
      exact String.intercalate_singleton
    case fileName =>
      dsimp only
      rw [needs]
      rfl
    case shared =>
      dsimp only
      rw [needs]
      split
      · next needed => exact iff_of_true rfl needed
      · next native => exact iff_of_false (append_json_ne _) native

/-- Its name, its secret and its headers have empty lines in them. -/
def emptyLines : Record where
  id := 2
  uuid := ""
  profile :=
    { endpoint := { name := "a\n\nb", address := "example.com" }
      variant := .naive
        { username := "c", password := "d\n\n", extraHeaders := "X-A: 1\r\n\r\n\n\nX-B: 2" } }

/-- What is exported for it is the core's document and one configuration. -/
theorem ofRecord_exports_emptyLines :
    ∃ file compiled config,
      ofRecord (fun _ => .error "") emptyLines { cacheDir := "", helperPortBase := 41000 } "" = .ok file ∧
        file.fileName = "profiles.txt" ∧
        compile (fun _ => .error "") [emptyLines] { cacheDir := "", helperPortBase := 41000 } false
          = .ok compiled ∧
        compiled.helpers = [(⟨41000, none⟩, emptyLines)] ∧
        (paragraphs file.content.toList).map String.ofList = [compiled.text, config] ∧
        IsText compiled.text ∧ IsText config := by
  have exported : ofRecord (fun _ => .error "") emptyLines
      { cacheDir := "", helperPortBase := 41000 } "" = .ok _ := rfl
  obtain ⟨compiled, compiles, exports⟩ := ofRecord_exports exported
  have helpers : compiled.helpers = [(⟨41000, none⟩, emptyLines)] := by
    cases compiles
    rfl
  obtain ⟨configs, rendered, parts, texts⟩ := exports.parts rfl
  obtain ⟨config, rfl⟩ : ∃ config, configs = [config] := by
    rw [← List.length_eq_one_iff, ← List.length_map (f := some), ← rendered, List.length_map, helpers]
    rfl
  exact ⟨_, compiled, config, exported, exports.shared.2 rfl, compiles, helpers, parts,
    texts _ List.mem_cons_self, texts _ (List.mem_cons_of_mem _ List.mem_cons_self)⟩

end Export

end ProxyChain
