import ProxyChain.Proofs.Helper.Wiring

/-!
# Logins in the address of a proxy

The address of a Naive proxy begins with the login: the user name and, behind a colon, the password if it
is not empty. Neither is escaped, so the login is found again in it but for the colon that ends the user
name. Two logins give one address exactly if they are the same or the user name of one is cut at another
of its colons by the other (`Naive.proxy_eq_iff`).
-/

namespace ProxyChain.Naive

/-- A password as it stands behind a user name. -/
def secret (password : String) : String := if password = "" then "" else ":" ++ password

/-- The login of a profile in the address of its proxy. -/
def login (n : Naive) : String := n.username ++ secret n.password

/-- The user name of `n` is that of `n'` up to a colon, and what follows this colon in the login of `n` is
the password of `n'`. -/
def CutBy (n n' : Naive) : Prop :=
  ∃ rest, n.username = n'.username ++ ":" ++ rest ∧ n'.password = rest ++ secret n.password ∧
    n'.password ≠ ""

section Login

variable {n n' : Naive}

/-- A password that is not empty follows a colon. -/
lemma toList_secret {password : String} (filled : password ≠ "") :
    (secret password).toList = ':' :: password.toList := by
  rw [secret, if_neg filled, String.toList_append]
  rfl

/-- A password is known by what is written of it. -/
lemma secret_inj {password password' : String} :
    secret password = secret password' ↔ password = password' := by
  refine ⟨fun same => ?_, congrArg secret⟩
  unfold secret at same
  split at same <;> split at same
  · next empty empty' => rw [empty, empty']
  · exact absurd same.symm (by simp)
  · exact absurd same (by simp)
  · exact (String.append_right_inj _).1 same

/-- Credentials are a login and an at sign, or nothing. -/
lemma credentials_eq (n : Naive) : n.credentials = if n.login = "" then "" else n.login ++ "@" := by
  unfold credentials login secret
  simp only [String.isEmpty_iff]
  by_cases empty : n.password = ""
  · simp only [if_pos empty, String.append_empty]
  · have filled : n.username ++ (":" ++ n.password) ≠ "" := by simp
    rw [if_neg empty, if_neg empty, if_neg filled]
    simp only [toString, String.append_assoc]

/-- Credentials are known by their login. -/
lemma credentials_inj : n.credentials = n'.credentials ↔ n.login = n'.login := by
  constructor
  · intro same
    rw [credentials_eq, credentials_eq] at same
    split at same <;> split at same
    · next empty empty' => rw [empty, empty']
    · exact absurd same.symm (by simp)
    · exact absurd same (by simp)
    · exact (String.append_left_inj _).1 same
  · intro same
    rw [credentials_eq, credentials_eq, same]

/-- Logins are the same where one is cut from the other. -/
lemma CutBy.login_eq (cut : n.CutBy n') : n.login = n'.login := by
  obtain ⟨rest, user, password, filled⟩ := cut
  rw [login, login, user, secret.eq_def n'.password, if_neg filled, password]
  simp only [String.append_assoc]

/-- The user name of a login that another one cuts has a colon in it. -/
lemma CutBy.colon_mem (cut : n.CutBy n') : ':' ∈ n.username.toList := by
  obtain ⟨rest, user, -, -⟩ := cut
  simp [user]

/-- What is left of one user name behind the other begins with the colon of the other's password. -/
lemma eq_or_cutBy {rest : List Char} (user : n.username.toList = n'.username.toList ++ rest)
    (password : (secret n'.password).toList = rest ++ (secret n.password).toList) :
    (n.username = n'.username ∧ n.password = n'.password) ∨ n.CutBy n' := by
  cases rest with
  | nil =>
    rw [List.append_nil, String.toList_inj] at user
    rw [List.nil_append, String.toList_inj, secret_inj] at password
    exact .inl ⟨user, password.symm⟩
  | cons first rest =>
    have filled : n'.password ≠ "" := by
      intro empty
      rw [empty] at password
      cases password
    rw [toList_secret filled, List.cons_append, List.cons.injEq] at password
    obtain ⟨rfl, password⟩ := password
    refine .inr ⟨String.ofList rest, ?_, ?_, filled⟩
    · rw [← String.toList_inj, user]
      simp
    · rw [← String.toList_inj, password]
      simp

/-- Logins are the same exactly if username and password are, or if one is cut from the other. -/
lemma login_eq_iff : n.login = n'.login ↔
    (n.username = n'.username ∧ n.password = n'.password) ∨ n.CutBy n' ∨ n'.CutBy n := by
  constructor
  · intro same
    -- One of the user names begins with the other.
    rw [← String.toList_inj, login, login, String.toList_append, String.toList_append,
      List.append_eq_append_iff] at same
    obtain ⟨rest, user, password⟩ | ⟨rest, user, password⟩ := same
    · obtain ⟨user, password⟩ | cut := eq_or_cutBy user password
      · exact .inl ⟨user.symm, password.symm⟩
      · exact .inr (.inr cut)
    · exact (eq_or_cutBy user password).imp_right .inl
  · rintro (⟨user, password⟩ | cut | cut)
    · rw [login, login, user, password]
    · exact cut.login_eq
    · exact cut.login_eq.symm

end Login

/-- The proxy in the configuration that is rendered for a profile. -/
def RendersProxy (p : Profile) (ports : Helper.Ports) (underTunnel : Bool) (s : Settings)
    (name url : String) : Prop :=
  ∃ (rendered : Helper.Rendered) (doc : Json), Helper.render p ports underTunnel s name = some rendered ∧
    rendered.config = doc.pretty ∧ doc.textAt? "proxy" = some url

/-- Two profiles that differ in nothing but their logins have a proxy each. It is the same exactly if the
logins are, or if one of them cuts the user name of the other at a colon. -/
theorem proxy_eq_iff {p p' : Profile} {n n' : Naive} (variant : p.variant = .naive n)
    (variant' : p'.variant = .naive n') (proto : n.proto = n'.proto) (sni : n.sni = n'.sni)
    (address : p.endpoint.address = p'.endpoint.address) (port : p.endpoint.port = p'.endpoint.port)
    (ports : Helper.Ports) (underTunnel underTunnel' : Bool) (s s' : Settings) (name name' : String) :
    ∃ url url', RendersProxy p ports underTunnel s name url ∧
      RendersProxy p' ports underTunnel' s' name' url' ∧
      (url = url' ↔
        (n.username = n'.username ∧ n.password = n'.password) ∨ n.CutBy n' ∨ n'.CutBy n) := by
  have asked : (p.wiring ports).name = (p'.wiring ports).name := by
    simp only [Profile.wiring, Profile.sni, Endpoint.serverName, variant, variant', sni, address]
  have dialled : (p.wiring ports).ports = (p'.wiring ports).ports := by
    simp only [Profile.wiring, Profile.dialledPorts, variant, variant', port]
  refine ⟨_, _, ⟨_, _, render_eq variant ports underTunnel s name, rfl, (wired_config variant ports).proxy⟩,
    ⟨_, _, render_eq variant' ports underTunnel' s' name', rfl, (wired_config variant' ports).proxy⟩, ?_⟩
  rw [← login_eq_iff, ← credentials_inj, proto, asked, dialled, String.append_left_inj,
    String.append_left_inj, String.append_left_inj, String.append_right_inj]

/-- A login with a colon in the password. -/
def colonInPassword : Naive := { username := "a", password := "b:c" }

/-- The same login without the end of the password. -/
def shortPassword : Naive := { username := "a", password := "b" }

/-- Different logins give different proxies here. -/
theorem proxy_eq_iff_shortPassword :
    ∃ url url',
      RendersProxy ⟨{}, .naive colonInPassword⟩ { listen := 41000 } false { cacheDir := "" } "" url ∧
      RendersProxy ⟨{}, .naive shortPassword⟩ { listen := 41000 } false { cacheDir := "" } "" url' ∧
      url ≠ url' := by
  obtain ⟨url, url', renders, renders', same_iff⟩ :=
    @proxy_eq_iff ⟨{}, .naive colonInPassword⟩ ⟨{}, .naive shortPassword⟩ _ _ rfl rfl rfl rfl rfl rfl
      { listen := 41000 } false false { cacheDir := "" } { cacheDir := "" } "" ""
  refine ⟨url, url', renders, renders', fun same => ?_⟩
  obtain ⟨-, password⟩ | cut | cut := same_iff.1 same
  · exact absurd password (by decide)
  · exact absurd cut.colon_mem (by decide)
  · exact absurd cut.colon_mem (by decide)

/-- The same text with one of its colons in the user name. -/
def colonInUsername : Naive := { username := "a:b", password := "c" }

/-- Either colon may be the one between user name and password. -/
theorem proxy_not_injective :
    RendersProxy ⟨{}, .naive colonInUsername⟩ { listen := 41000 } false { cacheDir := "" } ""
        "https://a:b:c@127.0.0.1:443" ∧
      RendersProxy ⟨{}, .naive colonInPassword⟩ { listen := 41000 } false { cacheDir := "" } ""
        "https://a:b:c@127.0.0.1:443" ∧
      colonInUsername.proto = colonInPassword.proto ∧ colonInUsername.sni = colonInPassword.sni ∧
      colonInUsername.username ≠ colonInPassword.username ∧
      colonInUsername.password ≠ colonInPassword.password :=
  ⟨⟨_, _, render_eq rfl _ _ _ _, rfl, by decide⟩, ⟨_, _, render_eq rfl _ _ _ _, rfl, by decide⟩, rfl, rfl,
    by decide, by decide⟩

end ProxyChain.Naive
