import ProxyChain.Proofs.Path
import ProxyChain.Session.Phases

/-!
# Names of files

Every file of a session is named after a text drawn for it: the file of a profile's certificates and the
configuration file of a helper (`MadeFrom`). Files made from different texts are different, whatever
their kinds and whatever the cache directory is called (`MadeFrom.name_inj`). Their paths are texts exactly
if that of the cache directory is one (`MadeFrom.isText_iff`).
-/

namespace ProxyChain

/-- What follows the name of a kind and an underscore can be told. -/
lemma Profile.Kind.name_append_inj {kind kind' : Kind} {rest rest' : List Char}
    (e : kind.name.toList ++ '_' :: rest = kind'.name.toList ++ '_' :: rest') : rest = rest' := by
  cases kind <;> cases kind' <;> simp [name] at e ⊢ <;> exact e

namespace Session

/-- The files that are made from a name. -/
inductive MadeFrom (s : Settings) (name : String) : Path → Prop where
  | certificates : MadeFrom s name (Path.join s.cacheDir s!"hysteria_{name}.ca")
  | config (kind : Profile.Kind) :
      MadeFrom s name (Path.join (Path.join s.cacheDir "tmpcfg") s!"{kind.name}_{name}.json")

namespace MadeFrom

variable {s : Settings} {name name' : String} {path : Path}

/-- Neither the names of files start with a slash nor that of their directory. -/
lemma relative (name : String) : ("tmpcfg".startsWith '/' = false) ∧
    s!"hysteria_{name}.ca".startsWith '/' = false ∧
    ∀ kind : Profile.Kind, s!"{kind.name}_{name}.json".startsWith '/' = false := by
  refine ⟨by simp [String.startsWith_char_eq_head?], ?_, fun kind => ?_⟩
  · simp [toString, String.startsWith_char_eq_head?]
  · cases kind <;> simp [toString, Profile.Kind.name, String.startsWith_char_eq_head?]

/-- What the path of a file is made of. -/
lemma bytes_path (h : MadeFrom s name path) :
    path.bytes = Path.into s.cacheDir ++ Wire.utf8 s!"hysteria_{name}.ca" ∨
      ∃ kind : Profile.Kind,
        path.bytes = Path.into s.cacheDir ++ Wire.utf8 ("tmpcfg/" ++ s!"{kind.name}_{name}.json") := by
  obtain ⟨directory, certificates, config⟩ := relative name
  cases h with
  | certificates => exact .inl (Path.bytes_join _ certificates)
  | config kind =>
    refine .inr ⟨kind, ?_⟩
    have ends : (Wire.utf8 "tmpcfg").getLast? = some 0x67 := by decide
    have slash : Wire.utf8 "tmpcfg/" = Wire.utf8 "tmpcfg" ++ [Path.slash] := by decide
    rw [Path.bytes_join _ (config kind), Path.into_join _ directory ends (by decide),
      Wire.utf8_append "tmpcfg/", slash, List.append_assoc, List.append_assoc, List.append_assoc]

/-- A file is made from one name only. -/
theorem name_inj (h : MadeFrom s name path) (h' : MadeFrom s name' path) : name = name' := by
  have same {inside inside' : String} (e : path.bytes = Path.into s.cacheDir ++ Wire.utf8 inside)
      (e' : path.bytes = Path.into s.cacheDir ++ Wire.utf8 inside') : inside.toList = inside'.toList :=
    congrArg String.toList (Wire.utf8_inj.1 (List.append_cancel_left (e.symm.trans e')))
  -- Certificates are told from configurations by the first letter inside the cache directory.
  obtain e | ⟨kind, e⟩ := h.bytes_path <;> obtain e' | ⟨kind', e'⟩ := h'.bytes_path
  · exact String.toList_inj.1 (by simpa [toString] using same e e')
  · have letters := same e e'
    simp [toString] at letters
  · have letters := same e e'
    simp [toString] at letters
  · have letters := same e e'
    simp only [toString, String.toList_append, List.append_assoc] at letters
    have named := Profile.Kind.name_append_inj (List.append_cancel_left letters)
    exact String.toList_inj.1 (List.append_cancel_right named)

/-- The path of a file is a text exactly if that of the cache directory is one. -/
lemma isText_iff (h : MadeFrom s name path) : path.IsText ↔ s.cacheDir.IsText := by
  obtain ⟨directory, certificates, config⟩ := relative name
  cases h with
  | certificates => exact Path.isText_join_iff certificates
  | config kind => rw [Path.isText_join_iff (config kind), Path.isText_join_iff directory]

/-- The configuration file of a helper. -/
lemma configPath (s : Session) (p : Profile) (name : String) :
    MadeFrom s.settings name (s.configPath p name) := .config p.kind

/-- Rendering names one file at most. -/
lemma of_render {p : Profile} {ports : Helper.Ports} {underTunnel : Bool} {rendered : Helper.Rendered}
    (renders : Helper.render p ports underTunnel s name = some rendered) :
    rendered.files = [] ∨ ∃ file, rendered.files = [file] ∧ MadeFrom s name file.path := by
  obtain ⟨helper, -, renders⟩ := Option.bind_eq_some_iff.1 renders
  cases variant : p.variant with
  | hysteria h =>
    simp only [variant, Option.some.injEq] at renders
    rw [← renders]
    dsimp only
    unfold Hysteria.certificateFile?
    split
    · exact .inl rfl
    · exact .inr ⟨_, rfl, .certificates⟩
  | naive n =>
    simp only [variant, Option.some.injEq] at renders
    rw [← renders]
    exact .inl rfl
  | trojan _ | direct | config _ => simp [variant] at renders

end MadeFrom

end Session

end ProxyChain
