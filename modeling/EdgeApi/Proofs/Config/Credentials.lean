import EdgeApi.Config
import Mathlib.Logic.ExistsUnique

/-!
# Credentials

Credentials come in three styles. Loading holds the token against the pair of key and email, but the
user service key against neither: set beside a member of another style, one of the two is overlooked.
In every other environment loading succeeds exactly with a single style.
-/

set_option autoImplicit false

namespace EdgeApi

inductive Credentials where
  | token (value : String)
  | keyPair (key email : String)
  | serviceKey (key : String)

namespace Credentials

def settings : Credentials → Environment
  | .token value => [("CF_API_TOKEN", value)]
  | .keyPair key email => [("CF_API_KEY", key), ("CF_API_EMAIL", email)]
  | .serviceKey key => [("CF_API_USER_SERVICE_KEY", key)]

def headers : Credentials → List (String × String)
  | .token value => [("Authorization", "Bearer " ++ value)]
  | .keyPair key email => [("X-Auth-Key", key), ("X-Auth-Email", email)]
  | .serviceKey key => [("X-Auth-User-Service-Key", key)]

def names : List String :=
  ["CF_API_TOKEN", "CF_API_KEY", "CF_API_EMAIL", "CF_API_USER_SERVICE_KEY"]

end Credentials

namespace Config

/-- The members of the styles are such that a configuration is let through. -/
structure Admits (config : Config) : Prop where
  exclusive : config.apiToken.isSome = true → config.apiKey = none ∧ config.apiEmail = none
  given : config.apiToken.isSome = true ∨
    config.apiKey.isSome = true ∧ config.apiEmail.isSome = true ∨
    config.userServiceKey.isSome = true

theorem admits_iff {config : Config} :
    config.Admits ↔
      (config.apiToken.isSome && (config.apiKey.isSome || config.apiEmail.isSome)) = false ∧
        (config.apiToken.isNone && !(config.apiKey.isSome && config.apiEmail.isSome) &&
          config.userServiceKey.isNone) = false := by
  rcases config with ⟨token, key, email, serviceKey⟩
  constructor
  · rintro ⟨hExclusive, hGiven⟩
    cases token <;> cases key <;> cases email <;> cases serviceKey <;> simp_all
  · rintro ⟨hExclusive, hGiven⟩
    constructor <;> cases token <;> cases key <;> cases email <;> cases serviceKey <;> simp_all

theorem validate_eq_ok_iff {config : Config} :
    config.validate = .ok () ↔
      config.Admits ∧ ∃ locator, Uri.Locator.parse config.baseUrl = .ok locator := by
  rw [admits_iff, validate]
  split
  · rename_i hBoth
    refine iff_of_false nofun ?_
    rintro ⟨⟨hExclusive, -⟩, -⟩
    cases hBoth.symm.trans hExclusive
  · rename_i hExclusive
    split
    · rename_i hMissing
      refine iff_of_false nofun ?_
      rintro ⟨⟨-, hGiven⟩, -⟩
      cases hMissing.symm.trans hGiven
    · rename_i hGiven
      rw [and_iff_right ⟨eq_false_of_ne_true hExclusive, eq_false_of_ne_true hGiven⟩]
      rcases Uri.Locator.parse config.baseUrl with fault | locator <;> simp

end Config

namespace Environment

/-- The environment gives the credentials, and sets no member of another style. -/
def Configures (env : Environment) (credentials : Credentials) : Prop :=
  ∀ name ∈ Credentials.names, env.set? name = credentials.settings.lookup name

def root (env : Environment) : String :=
  match env.set? "CF_API_BASE_URL" with
  | some url => Config.trimSlashes url
  | none => Config.defaultBaseUrl

def Rooted (env : Environment) : Prop :=
  ∃ locator, Uri.Locator.parse env.root = .ok locator

/-- Loading succeeds exactly if a single style is configured and the root is a locator, and the
headers are then those of that style. -/
structure LoadsSingly (env : Environment) : Prop where
  loads : (∃ config, Config.load env = .ok config) ↔
    (∃! credentials, env.Configures credentials) ∧ env.Rooted
  headers : ∀ config, Config.load env = .ok config →
    ∃ credentials, env.Configures credentials ∧ config.authHeaders = credentials.headers

/-- The user service key is set beside a member of another style, and no token beside a member of
the pair. -/
def Mixes (env : Environment) : Prop :=
  (env.set? "CF_API_USER_SERVICE_KEY").isSome = true ∧
    ((env.set? "CF_API_TOKEN").isSome = true ∧ env.set? "CF_API_KEY" = none ∧
        env.set? "CF_API_EMAIL" = none ∨
      env.set? "CF_API_TOKEN" = none ∧
        ((env.set? "CF_API_KEY").isSome = true ∨ (env.set? "CF_API_EMAIL").isSome = true))

/-- Loading succeeds with the headers of credentials that the environment gives, although it sets a
member of another style too. -/
def Overlooks (env : Environment) : Prop :=
  ∃ (config : Config) (credentials : Credentials), Config.load env = .ok config ∧
    config.authHeaders = credentials.headers ∧
    (∀ pair ∈ credentials.settings, env.set? pair.1 = some pair.2) ∧
    ∃ name ∈ Credentials.names, (env.set? name).isSome = true ∧
      credentials.settings.lookup name = none

variable {env : Environment}

theorem configures_token_iff {value : String} :
    env.Configures (.token value) ↔
      env.set? "CF_API_TOKEN" = some value ∧ env.set? "CF_API_KEY" = none ∧
        env.set? "CF_API_EMAIL" = none ∧ env.set? "CF_API_USER_SERVICE_KEY" = none := by
  simp [Configures, Credentials.names, Credentials.settings]

theorem configures_keyPair_iff {key email : String} :
    env.Configures (.keyPair key email) ↔
      env.set? "CF_API_TOKEN" = none ∧ env.set? "CF_API_KEY" = some key ∧
        env.set? "CF_API_EMAIL" = some email ∧ env.set? "CF_API_USER_SERVICE_KEY" = none := by
  simp [Configures, Credentials.names, Credentials.settings, List.lookup_cons]

theorem configures_serviceKey_iff {key : String} :
    env.Configures (.serviceKey key) ↔
      env.set? "CF_API_TOKEN" = none ∧ env.set? "CF_API_KEY" = none ∧
        env.set? "CF_API_EMAIL" = none ∧ env.set? "CF_API_USER_SERVICE_KEY" = some key := by
  simp [Configures, Credentials.names, Credentials.settings]

theorem Configures.unique {credentials other : Credentials} (h : env.Configures credentials)
    (hOther : ∀ pair ∈ other.settings, env.set? pair.1 = some pair.2) : other = credentials := by
  cases credentials <;> cases other <;>
    simp_all [configures_token_iff, configures_keyPair_iff, configures_serviceKey_iff,
      Credentials.settings]

theorem Configures.not_mixes {credentials : Credentials} (h : env.Configures credentials) :
    ¬env.Mixes := by
  rintro ⟨hServiceKey, hOthers⟩
  cases credentials <;>
    simp_all [configures_token_iff, configures_keyPair_iff, configures_serviceKey_iff]

theorem admits_ofEnvironment_iff :
    (Config.ofEnvironment env).Admits ↔ (∃ credentials, env.Configures credentials) ∨ env.Mixes := by
  constructor
  · rintro ⟨hExclusive, hGiven⟩
    simp only [Config.ofEnvironment] at hExclusive hGiven
    cases hToken : env.set? "CF_API_TOKEN" with
    | some value =>
      obtain ⟨hKey, hEmail⟩ := hExclusive (hToken ▸ rfl)
      cases hServiceKey : env.set? "CF_API_USER_SERVICE_KEY" with
      | none =>
        exact .inl ⟨_, configures_token_iff.mpr ⟨hToken, hKey, hEmail, hServiceKey⟩⟩
      | some key => exact .inr ⟨hServiceKey ▸ rfl, .inl ⟨hToken ▸ rfl, hKey, hEmail⟩⟩
    | none =>
      cases hServiceKey : env.set? "CF_API_USER_SERVICE_KEY" with
      | none =>
        obtain ⟨hKey, hEmail⟩ : (env.set? "CF_API_KEY").isSome = true ∧
            (env.set? "CF_API_EMAIL").isSome = true := by
          simpa [hToken, hServiceKey] using hGiven
        obtain ⟨key, hKey⟩ := Option.isSome_iff_exists.mp hKey
        obtain ⟨email, hEmail⟩ := Option.isSome_iff_exists.mp hEmail
        exact .inl ⟨_, configures_keyPair_iff.mpr ⟨hToken, hKey, hEmail, hServiceKey⟩⟩
      | some key =>
        by_cases hPair : (env.set? "CF_API_KEY").isSome = true ∨
            (env.set? "CF_API_EMAIL").isSome = true
        · exact .inr ⟨hServiceKey ▸ rfl, .inr ⟨hToken, hPair⟩⟩
        · obtain ⟨hKey, hEmail⟩ : env.set? "CF_API_KEY" = none ∧ env.set? "CF_API_EMAIL" = none := by
            simpa using hPair
          exact .inl ⟨_, configures_serviceKey_iff.mpr ⟨hToken, hKey, hEmail, hServiceKey⟩⟩
  · rintro (⟨credentials, hConfigures⟩ | ⟨hServiceKey, hOthers⟩)
    · cases credentials <;> constructor <;>
        simp_all [configures_token_iff, configures_keyPair_iff, configures_serviceKey_iff,
          Config.ofEnvironment]
    · constructor <;> rcases hOthers with ⟨hToken, hKey, hEmail⟩ | ⟨hToken, hPair⟩ <;>
        simp_all [Config.ofEnvironment]

theorem baseUrl_ofEnvironment (env : Environment) :
    (Config.ofEnvironment env).baseUrl = env.root := by
  change ((env.set? "CF_API_BASE_URL").map Config.trimSlashes).getD Config.defaultBaseUrl = env.root
  rw [root]
  cases env.set? "CF_API_BASE_URL" <;> rfl

theorem load_eq_ok_iff {config : Config} :
    Config.load env = .ok config ↔
      config = Config.ofEnvironment env ∧ (Config.ofEnvironment env).Admits ∧ env.Rooted := by
  rw [Rooted, ← baseUrl_ofEnvironment, ← Config.validate_eq_ok_iff, Config.load]
  rcases (Config.ofEnvironment env).validate with fault | _
  · simp [bind, Except.bind]
  · simp [bind, Except.bind, pure, Except.pure, eq_comm]

theorem exists_load_iff :
    (∃ config, Config.load env = .ok config) ↔
      ((∃ credentials, env.Configures credentials) ∨ env.Mixes) ∧ env.Rooted := by
  rw [← admits_ofEnvironment_iff]
  simp only [load_eq_ok_iff, exists_eq_left]

theorem Configures.authHeaders_eq {credentials : Credentials} (h : env.Configures credentials) :
    (Config.ofEnvironment env).authHeaders = credentials.headers := by
  cases credentials <;>
    simp_all [configures_token_iff, configures_keyPair_iff, configures_serviceKey_iff,
      Config.ofEnvironment, Config.authHeaders, Credentials.headers]

theorem Configures.of_mem_settings {credentials : Credentials} (h : env.Configures credentials) :
    ∀ pair ∈ credentials.settings, env.set? pair.1 = some pair.2 := by
  cases credentials <;>
    simp_all [configures_token_iff, configures_keyPair_iff, configures_serviceKey_iff,
      Credentials.settings]

/-- The token comes before the pair and the pair before the user service key; what comes after is
overlooked, and so is a part of the pair. -/
theorem Mixes.exists_overlooked (h : env.Mixes) :
    ∃ credentials : Credentials, (Config.ofEnvironment env).authHeaders = credentials.headers ∧
      (∀ pair ∈ credentials.settings, env.set? pair.1 = some pair.2) ∧
      ∃ name ∈ Credentials.names, (env.set? name).isSome = true ∧
        credentials.settings.lookup name = none := by
  obtain ⟨hServiceKey, hOthers⟩ := h
  obtain ⟨serviceKey, hService⟩ := Option.isSome_iff_exists.mp hServiceKey
  rcases hOthers with ⟨hToken, -, -⟩ | ⟨hToken, hPair⟩
  · obtain ⟨value, hToken⟩ := Option.isSome_iff_exists.mp hToken
    refine ⟨.token value, ?_, ?_, "CF_API_USER_SERVICE_KEY", by decide, hServiceKey, rfl⟩
    · simp [Config.authHeaders, Config.ofEnvironment, hToken, Credentials.headers]
    · simpa [Credentials.settings] using hToken
  · cases hKey : env.set? "CF_API_KEY" with
    | none =>
      have hEmail : (env.set? "CF_API_EMAIL").isSome = true := by simpa [hKey] using hPair
      refine ⟨.serviceKey serviceKey, ?_, ?_, "CF_API_EMAIL", by decide, hEmail, rfl⟩
      · simp [Config.authHeaders, Config.ofEnvironment, hToken, hKey, hService, Credentials.headers]
      · simpa [Credentials.settings] using hService
    | some key =>
      cases hEmail : env.set? "CF_API_EMAIL" with
      | none =>
        refine ⟨.serviceKey serviceKey, ?_, ?_, "CF_API_KEY", by decide, hKey ▸ rfl, rfl⟩
        · simp [Config.authHeaders, Config.ofEnvironment, hToken, hEmail, hService,
            Credentials.headers]
        · simpa [Credentials.settings] using hService
      | some email =>
        refine ⟨.keyPair key email, ?_, ?_, "CF_API_USER_SERVICE_KEY", by decide, hServiceKey, rfl⟩
        · simp [Config.authHeaders, Config.ofEnvironment, hToken, hKey, hEmail,
            Credentials.headers]
        · simp [Credentials.settings, hKey, hEmail]

/-- Loading takes a single style, and that alone, exactly unless the user service key is mixed with
another style under a root that is a locator. There, and only there, it overlooks what is set. -/
theorem loadsSingly_iff (env : Environment) :
    (env.LoadsSingly ↔ ¬(env.Mixes ∧ env.Rooted)) ∧ (env.Overlooks ↔ env.Mixes ∧ env.Rooted) := by
  constructor
  · constructor
    · rintro ⟨hLoads, -⟩ ⟨hMixes, hRooted⟩
      obtain ⟨⟨credentials, hConfigures, -⟩, -⟩ :=
        hLoads.mp (exists_load_iff.mpr ⟨.inr hMixes, hRooted⟩)
      exact hConfigures.not_mixes hMixes
    · intro hApart
      constructor
      · rw [exists_load_iff]
        constructor
        · rintro ⟨⟨credentials, hConfigures⟩ | hMixes, hRooted⟩
          · exact ⟨⟨credentials, hConfigures,
              fun _ hOther => hConfigures.unique hOther.of_mem_settings⟩, hRooted⟩
          · exact absurd ⟨hMixes, hRooted⟩ hApart
        · rintro ⟨⟨credentials, hConfigures, -⟩, hRooted⟩
          exact ⟨.inl ⟨credentials, hConfigures⟩, hRooted⟩
      · intro config hLoad
        obtain ⟨rfl, hAdmits, hRooted⟩ := load_eq_ok_iff.mp hLoad
        rcases admits_ofEnvironment_iff.mp hAdmits with ⟨credentials, hConfigures⟩ | hMixes
        · exact ⟨credentials, hConfigures, hConfigures.authHeaders_eq⟩
        · exact absurd ⟨hMixes, hRooted⟩ hApart
  · constructor
    · rintro ⟨config, credentials, hLoad, -, hGiven, name, hName, hSet, hNone⟩
      obtain ⟨-, hAdmits, hRooted⟩ := load_eq_ok_iff.mp hLoad
      rcases admits_ofEnvironment_iff.mp hAdmits with ⟨single, hConfigures⟩ | hMixes
      · obtain rfl := hConfigures.unique hGiven
        rw [hConfigures name hName, hNone] at hSet
        cases hSet
      · exact ⟨hMixes, hRooted⟩
    · rintro ⟨hMixes, hRooted⟩
      obtain ⟨credentials, hHeaders, hGiven, hOverlooked⟩ := hMixes.exists_overlooked
      have hAdmits := admits_ofEnvironment_iff.mpr (.inr hMixes)
      exact ⟨_, credentials, load_eq_ok_iff.mpr ⟨rfl, hAdmits, hRooted⟩, hHeaders, hGiven,
        hOverlooked⟩

def tokenAndServiceKey : Environment :=
  [("CF_API_TOKEN", "t"), ("CF_API_USER_SERVICE_KEY", "k")]

theorem not_loadsSingly_tokenAndServiceKey :
    ¬tokenAndServiceKey.LoadsSingly ∧
      ∃ config, Config.load tokenAndServiceKey = .ok config ∧
        config.userServiceKey = some "k" ∧
        config.authHeaders = [("Authorization", "Bearer t")] := by
  have hMixes : tokenAndServiceKey.Mixes := ⟨rfl, .inl ⟨rfl, rfl, rfl⟩⟩
  have hRooted : tokenAndServiceKey.Rooted := ⟨_, rfl⟩
  have hLoad : Config.load tokenAndServiceKey = .ok (Config.ofEnvironment tokenAndServiceKey) :=
    load_eq_ok_iff.mpr ⟨rfl, admits_ofEnvironment_iff.mpr (.inr hMixes), hRooted⟩
  refine ⟨?_, _, hLoad, rfl, rfl⟩
  rintro ⟨hLoads, -⟩
  obtain ⟨⟨credentials, hConfigures, -⟩, -⟩ := hLoads.mp ⟨_, hLoad⟩
  exact hConfigures.not_mixes hMixes

end Environment

end EdgeApi
