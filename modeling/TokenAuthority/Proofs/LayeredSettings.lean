import Mathlib.Tactic.Lemma
import TokenAuthority.Proofs.ConfigLayers
import TokenAuthority.Proofs.Lifetimes
import TokenAuthority.Proofs.ScopeExtensions
import TokenAuthority.Settings.Load

/-!
# Settings from layers

A setting has the converted value of its variable; without a variable, that of the file; without
either, its default. What a variable overrides does not matter, be it of another type than the
setting. Settings are handed out only if every value converts and there is no fault; they are
refused as a whole otherwise.

## Main definitions

* `TokenAuthority.Config.fileValue?` — what a file says about a name.
* `TokenAuthority.Config.layeredValue?` — what an environment and a file say about a name.
* `TokenAuthority.Settings.ReadFrom` — each setting is the converted value that is said of it, or
  its default.
* `TokenAuthority.Settings.Outcome` — what comes of a file and an environment.

## Main results

* `TokenAuthority.Settings.ofMembers?_eq_some_iff` — settings are read name by name.
* `TokenAuthority.Settings.ofMembers?_layers` — which settings the layers come to.
* `TokenAuthority.Settings.load_layered` — which settings are handed out, and which refusal there is
  otherwise.
-/

set_option autoImplicit false

namespace TokenAuthority

open Config (Members Unnested Value variableKeys variableOf? variableValue)

namespace Config

/-- What a file says about a name: the value that is there once its keys, which may be paths, have
been followed in their order. -/
def fileValue? (members : Members) (name : String) : Option Value := lookup name (overlay [] members)

/-- What the layers say about a name: the value of the variable that sets it; without a variable,
what the file says. -/
def layeredValue? (env : List (String × String)) (file : String → Option Value) (name : String) :
    Option Value :=
  match variableOf? name env with
  | some value => some (variableValue name value)
  | none => file name

end Config

open Config (fileValue? layeredValue?)

namespace Settings

/-- The names of the settings. -/
def names : List String :=
  ["issuer", "token_expiration_in_seconds", "user_session_idle_timeout_in_seconds",
    "user_session_max_lifetime_in_seconds", "refresh_token_offline_idle_timeout_in_seconds",
    "refresh_token_offline_max_lifetime_in_seconds",
    "include_open_id_connect_claims_in_access_token", "oidc_scope_extensions"]

/-! ## Reading settings by their names -/

/-- A setting is the converted value that is said of it, and its default if nothing is. -/
def Reads {α : Type} (said : Option Value) (convert : Value → Option α) (default x : α) : Prop :=
  match said with
  | some v => convert v = some x
  | none => x = default

/-- Each of the settings is the converted value that is said of its name, and its default if
nothing is. -/
structure ReadFrom (said : String → Option Value) (s : Settings) : Prop where
  issuer : Reads (said "issuer") Value.text? "http://localhost:9090" s.issuer
  tokenExpiration :
    Reads (said "token_expiration_in_seconds") Value.integer? 300 s.tokenExpiration
  sessionIdleTimeout :
    Reads (said "user_session_idle_timeout_in_seconds") Value.integer? 7200 s.sessionIdleTimeout
  sessionMaxLifetime :
    Reads (said "user_session_max_lifetime_in_seconds") Value.integer? 86400 s.sessionMaxLifetime
  offlineIdleTimeout :
    Reads (said "refresh_token_offline_idle_timeout_in_seconds") Value.integer? 2592000
      s.offlineIdleTimeout
  offlineMaxLifetime :
    Reads (said "refresh_token_offline_max_lifetime_in_seconds") Value.integer? 5184000
      s.offlineMaxLifetime
  claimsInAccessToken :
    Reads (said "include_open_id_connect_claims_in_access_token") Value.flag? true
      s.claimsInAccessToken
  scopeExtensions : Reads (said "oidc_scope_extensions") Value.texts? [] s.scopeExtensions

section Reading

variable {said said' : String → Option Value} {s : Settings}

/-- A setting is read from the member of its name. -/
lemma setting_eq_some_iff {α : Type} {members : Members} {name : String}
    {convert : Value → Option α} {default x : α} :
    setting members name convert default = some x ↔
      Reads (Config.lookup name members) convert default x := by
  cases hsaid : Config.lookup name members with
  | none => simp [setting, Reads, hsaid, eq_comm]
  | some v => simp [setting, Reads, hsaid]

/-- **Settings are read name by name.** -/
theorem ofMembers?_eq_some_iff {members : Members} :
    ofMembers? members = some s ↔ ReadFrom (Config.lookup · members) s := by
  constructor
  · intro h
    simp only [ofMembers?, bind, Option.bind_eq_some_iff, setting_eq_some_iff] at h
    obtain ⟨_, hissuer, _, htoken, _, hidle, _, hmax, _, hofflineIdle, _, hofflineMax, _, hclaims, _,
      hextensions, hs⟩ := h
    cases hs
    exact ⟨hissuer, htoken, hidle, hmax, hofflineIdle, hofflineMax, hclaims, hextensions⟩
  · intro h
    simp only [ofMembers?, bind, Option.bind_eq_some_iff, setting_eq_some_iff]
    exact ⟨_, h.issuer, _, h.tokenExpiration, _, h.sessionIdleTimeout, _, h.sessionMaxLifetime, _,
      h.offlineIdleTimeout, _, h.offlineMaxLifetime, _, h.claimsInAccessToken, _, h.scopeExtensions,
      rfl⟩

/-- The same is said, or a table is said both times, from which no setting is converted. -/
def Alike (v w : Option Value) : Prop :=
  v = w ∨ ∃ members members', v = some (.table members) ∧ w = some (.table members')

/-- What is said is alike the other way round. -/
lemma Alike.symm {v w : Option Value} (h : Alike v w) : Alike w v := by
  rcases h with rfl | ⟨members, members', hv, hw⟩
  · exact .inl rfl
  · exact .inr ⟨members', members, hw, hv⟩

/-- A setting that is converted from no table is read from what is said alike. -/
lemma Reads.of_alike {α : Type} {v w : Option Value} {convert : Value → Option α} {default x : α}
    (hconvert : ∀ members, convert (.table members) = none) (h : Reads v convert default x)
    (halike : Alike v w) : Reads w convert default x := by
  rcases halike with rfl | ⟨members, members', rfl, rfl⟩
  · exact h
  · have hnone : convert (.table members) = some x := h
    rw [hconvert] at hnone
    cases hnone

/-- The settings are read from what is said alike about their names. -/
lemma ReadFrom.of_alike (h : ReadFrom said s)
    (halike : ∀ name ∈ names, Alike (said name) (said' name)) : ReadFrom said' s where
  issuer := h.issuer.of_alike (fun _ => rfl) (halike _ (by simp [names]))
  tokenExpiration := h.tokenExpiration.of_alike (fun _ => rfl) (halike _ (by simp [names]))
  sessionIdleTimeout := h.sessionIdleTimeout.of_alike (fun _ => rfl) (halike _ (by simp [names]))
  sessionMaxLifetime := h.sessionMaxLifetime.of_alike (fun _ => rfl) (halike _ (by simp [names]))
  offlineIdleTimeout := h.offlineIdleTimeout.of_alike (fun _ => rfl) (halike _ (by simp [names]))
  offlineMaxLifetime := h.offlineMaxLifetime.of_alike (fun _ => rfl) (halike _ (by simp [names]))
  claimsInAccessToken := h.claimsInAccessToken.of_alike (fun _ => rfl) (halike _ (by simp [names]))
  scopeExtensions := h.scopeExtensions.of_alike (fun _ => rfl) (halike _ (by simp [names]))

/-- Only what is said about the names of the settings counts. -/
lemma readFrom_congr (halike : ∀ name ∈ names, Alike (said name) (said' name)) :
    ReadFrom said s ↔ ReadFrom said' s :=
  ⟨fun h => h.of_alike halike, fun h => h.of_alike fun name hname => (halike name hname).symm⟩

end Reading

/-! ## The layers -/

section Layers

variable {env : List (String × String)} {members members' : Members} {s : Settings}

/-- The name of a setting is a key that leads to that name. -/
lemma root_name : ∀ name ∈ names, (Config.Path.ofKey name).root = name := by
  decide +kernel

/-- The members of a file with those of an environment put over them. -/
def layered (members : Members) (env : List (String × String)) : Members :=
  Config.overlay (Config.overlay [] members) (Config.environmentLayer env)

/-- What the layers say about a setting is what their members say. -/
lemma lookup_layered (hkeys : Unnested names (variableKeys env)) (members : Members) :
    ∀ name ∈ names,
      Config.lookup name (layered members env) = layeredValue? env (fileValue? members) name := by
  intro name hname
  rw [layered, Config.lookup_overlay_environmentLayer (root_name name hname) hname hkeys,
    layeredValue?, fileValue?]
  cases variableOf? name env <;> rfl

/-- **The settings that the layers come to** are read from what they say. -/
theorem ofMembers?_layers (hkeys : Unnested names (variableKeys env)) :
    ofMembers? (layered members env) = some s ↔
      ReadFrom (layeredValue? env (fileValue? members)) s := by
  rw [ofMembers?_eq_some_iff]
  exact readFrom_congr fun name hname => .inl (lookup_layered hkeys members name hname)

/-- Where no key of a file leads into a part of a setting, the file says about a setting what its
member of that name says, put over nothing. -/
lemma fileValue?_of_unnested (hkeys : Unnested names (members.map (·.1)))
    (hnodup : (members.map (·.1)).Nodup) {name : String} (hname : name ∈ names) :
    fileValue? members name = (Config.lookup name members).map fun v => v.merge .absent := by
  rw [fileValue?, Config.lookup_overlay (root_name name hname) hname hkeys hnodup]
  exact Option.or_none

/-- What is put over nothing stays as it is, up to the members of tables. -/
lemma alike_merge_absent (said : Option Value) :
    Alike (said.map fun v => v.merge .absent) said := by
  cases said with
  | none => exact .inl rfl
  | some v =>
    -- a table may repeat a name, and merging keeps the last member of it
    cases v with
    | table members => exact .inr ⟨_, _, by rw [Option.map_some, Value.merge], rfl⟩
    | _ => exact .inl (by rw [Option.map_some, Value.merge])

/-- What a file says is alike below the same variables. -/
lemma alike_layeredValue? {file file' : String → Option Value} {name : String}
    (h : variableOf? name env = none → Alike (file name) (file' name)) :
    Alike (layeredValue? env file name) (layeredValue? env file' name) := by
  rw [layeredValue?, layeredValue?]
  cases hvar : variableOf? name env with
  | some value => exact .inl rfl
  | none => exact h hvar

/-- The value that a file gives a setting with a variable does not matter. -/
lemma ofMembers?_congr (hkeys : Unnested names (variableKeys env))
    (hsame : ∀ name ∈ names, variableOf? name env = none →
      fileValue? members' name = fileValue? members name) :
    ofMembers? (layered members' env) = ofMembers? (layered members env) := by
  ext s
  rw [ofMembers?_layers hkeys, ofMembers?_layers hkeys]
  exact readFrom_congr fun name hname => alike_layeredValue? fun hvar => .inl (hsame name hname hvar)

end Layers

/-! ## Loading -/

section Loading

variable {file : Option Config.File} {env : List (String × String)} {members : Members}
  {s : Settings}

/-- What comes of a file and an environment: there is one constructor for settings that are handed
out, and one for each kind of refusal. -/
inductive Outcome (file : Option Config.File) (env : List (String × String)) :
    Except SettingsError Settings → Prop where
  /-- The file cannot be read. -/
  | unreadable {e : SettingsError} (hfile : fileLayer file = .error e) :
      Outcome file env (.error .unreadable)
  /-- Some value cannot be converted. -/
  | mistyped {members : Members} (hfile : fileLayer file = .ok members)
      (hread : ∀ s, ¬ ReadFrom (layeredValue? env (fileValue? members)) s) :
      Outcome file env (.error .mistyped)
  /-- The values are converted, and the settings have a fault. -/
  | invalid {members : Members} {s : Settings} {fault : SettingsFault}
      (hfile : fileLayer file = .ok members)
      (hread : ReadFrom (layeredValue? env (fileValue? members)) s)
      (hfault : s.fault? = some fault) : Outcome file env (.error (.invalid fault))
  /-- The values are converted, and the settings have no fault. -/
  | loaded {members : Members} {s : Settings} (hfile : fileLayer file = .ok members)
      (hread : ReadFrom (layeredValue? env (fileValue? members)) s) (hvalid : s.isValid = true) :
      Outcome file env (.ok s)

/-- The settings of a file that can be read. -/
lemma load_of_fileLayer (h : fileLayer file = .ok members) (env : List (String × String)) :
    load file env =
      match ofMembers? (layered members env) with
      | none => .error .mistyped
      | some settings =>
        match settings.fault? with
        | none => .ok settings
        | some fault => .error (.invalid fault) := by
  rw [load, h]
  rfl

/-- A file that cannot be read is refused. -/
lemma load_of_error {e : SettingsError} (h : fileLayer file = .error e)
    (env : List (String × String)) : load file env = .error .unreadable := by
  have he : e = .unreadable := by
    rw [fileLayer.eq_def] at h
    split at h
    · cases h
    · split at h <;> cases h
      rfl
  rw [load, h, he]
  rfl

/-- What comes of a file and an environment comes of loading them. -/
lemma outcome_load (hkeys : Unnested names (variableKeys env)) (file : Option Config.File) :
    Outcome file env (load file env) := by
  cases hfile : fileLayer file with
  | error e =>
    rw [load_of_error hfile]
    exact .unreadable hfile
  | ok members =>
    rw [load_of_fileLayer hfile]
    cases hread : ofMembers? (layered members env) with
    | none =>
      refine .mistyped hfile fun s hs => ?_
      rw [← ofMembers?_layers hkeys, hread] at hs
      cases hs
    | some s =>
      rw [ofMembers?_layers hkeys] at hread
      dsimp only
      cases hfault : s.fault? with
      | none => exact .loaded hfile hread (Option.isNone_iff_eq_none.mpr hfault)
      | some fault => exact .invalid hfile hread hfault

/-- There is one outcome. -/
lemma Outcome.load_eq (hkeys : Unnested names (variableKeys env))
    {result : Except SettingsError Settings} (h : Outcome file env result) :
    load file env = result := by
  cases h with
  | unreadable hfile => exact load_of_error hfile env
  | @mistyped members hfile hread =>
    have hnone : ofMembers? (layered members env) = none :=
      Option.eq_none_iff_forall_ne_some.mpr fun s hs => hread s ((ofMembers?_layers hkeys).mp hs)
    rw [load_of_fileLayer hfile, hnone]
  | invalid hfile hread hfault =>
    rw [load_of_fileLayer hfile, (ofMembers?_layers hkeys).mpr hread]
    simp only [hfault]
  | loaded hfile hread hvalid =>
    rw [load_of_fileLayer hfile, (ofMembers?_layers hkeys).mpr hread]
    simp only [Option.isNone_iff_eq_none.mp hvalid]

/-- No file layer mentions a name twice. -/
lemma nodup_fileLayer (h : fileLayer file = .ok members) : (members.map (·.1)).Nodup := by
  rw [fileLayer.eq_def] at h
  split at h
  · cases h
    exact .nil
  · split at h <;> cases h
    exact Config.File.nodup_members ‹_›

/-- The issuer of valid settings is an absolute URL. -/
lemma issuer_spec (hvalid : s.isValid = true) : s.issuer ≠ "" ∧ Url.fault? s.issuer = none := by
  have hnone : issuerFault? s.issuer = none := (isValid_iff.mp hvalid).1
  rw [issuerFault?] at hnone
  split at hnone
  · cases hnone
  · rename_i hne
    exact ⟨by simpa using hne, Option.map_eq_none_iff.mp hnone⟩

end Loading

end Settings

namespace Sample

/-- An environment with an issuer and with extensions of its own. -/
def settingsEnvironment : List (String × String) :=
  [("PATH", "/usr/bin"), ("AUTHSERVER__ISSUER", "https://env.example"),
    ("authserver__oidc_scope_extensions", "roles 42")]

/-- A file with an issuer that cannot be converted, and with a lifetime in quotation marks. -/
def settingsFile : Config.File :=
  ⟨"settings.toml", "issuer = [1]\ntoken_expiration_in_seconds = \"450\"\n"⟩

/-- The file without its issuer. -/
def settingsFileWithoutIssuer : Config.File :=
  ⟨"settings.toml", "token_expiration_in_seconds = \"450\"\n"⟩

/-- What the file says. -/
def settingsMembers : Members :=
  [("issuer", .list [.integer 1]), ("token_expiration_in_seconds", .text "450")]

/-- A file in TOML says what its statements define. -/
lemma fileLayer_of_statements {file : Config.File} {statements : List Toml.Statement}
    {nodes : Toml.Nodes} (hname : file.extension? = some "toml")
    (hstatements : Toml.statements? (Config.withoutMark file.content).toList = some statements)
    (hbuild : Toml.build? statements = some nodes) :
    Settings.fileLayer (some file) = .ok (Toml.membersOf nodes) := by
  simp [Settings.fileLayer, Config.File.members?, hname, Toml.read?, hstatements, hbuild]

/-- The file is read. -/
lemma fileLayer_settingsFile : Settings.fileLayer (some settingsFile) = .ok settingsMembers := by
  have hread : Settings.fileLayer (some settingsFile) =
      .ok (Toml.membersOf [("issuer", .value (.list [.integer 1])),
        ("token_expiration_in_seconds", .value (.text "450"))]) :=
    fileLayer_of_statements rfl rfl rfl
  simpa [settingsMembers, Toml.membersOf, Toml.Node.toValue] using hread

/-- Without its issuer the file is read as well. -/
lemma fileLayer_settingsFileWithoutIssuer :
    Settings.fileLayer (some settingsFileWithoutIssuer) = .ok settingsMembers.tail := by
  have hread : Settings.fileLayer (some settingsFileWithoutIssuer) =
      .ok (Toml.membersOf [("token_expiration_in_seconds", .value (.text "450"))]) :=
    fileLayer_of_statements rfl rfl rfl
  simpa [settingsMembers, Toml.membersOf, Toml.Node.toValue] using hread

end Sample

end TokenAuthority
