import Beacon.Config
import Beacon.Proofs.Text.Utf8

/-!
# How a configuration is found

A configuration is found by asking a lookup for variables by name. The first candidate that is set
and not empty decides the transport alone; only then are the labels asked for. So the names that
were asked for decide everything: another lookup that agrees on them is asked for the same ones and
gives the same configuration.
-/

namespace Beacon

/-! ## Lookups -/

def Environment.ofLookup (lookup : String → Option String) : Environment :=
  fun setting => lookup setting.name

def Resolution.asked {α : Type} (resolution : Resolution α) : List String :=
  resolution.lookups.map Setting.name

/-- A variable counts as unset: it is, or its value is empty. -/
def Absent (value : Option String) : Prop :=
  value = none ∨ value = some ""

theorem absent_or_present (value : Option String) :
    Absent value ∨ ∃ text, value = some text ∧ text ≠ "" := by
  cases value with
  | none => exact .inl (.inl rfl)
  | some text =>
      by_cases htext : text = ""
      · exact .inl (.inr (congrArg some htext))
      · exact .inr ⟨text, rfl, htext⟩

/-! ## Candidates -/

section Candidates

variable {env : Environment}

theorem selectFrom_absent (candidate : Candidate) (h : Absent (env candidate.setting))
    (later : List Candidate) :
    selectFrom env (candidate :: later) =
      { selectFrom env later with
        lookups := candidate.setting :: (selectFrom env later).lookups } := by
  have hnone : (env candidate.setting).filter (· ≠ "") = none := by
    obtain h | h := h <;> rw [h] <;> rfl
  rw [selectFrom, hnone]

theorem selectFrom_present (candidate : Candidate) {value : String}
    (h : env candidate.setting = some value) (hvalue : value ≠ "") (later : List Candidate) :
    selectFrom env (candidate :: later) =
      ⟨candidate.resolve value, [candidate.setting], [matchedEvent candidate]⟩ := by
  have hsome : (env candidate.setting).filter (· ≠ "") = some value := by
    rw [h]
    exact Option.filter_some_pos (decide_eq_true hvalue)
  rw [selectFrom, hsome]

/-- The variables that were asked for decide which candidate is taken. -/
theorem selectFrom_congr {env' : Environment} {candidates : List Candidate}
    (h : ∀ setting ∈ (selectFrom env candidates).lookups, env' setting = env setting) :
    selectFrom env' candidates = selectFrom env candidates := by
  induction candidates with
  | nil => rfl
  | cons candidate later ih =>
      obtain habsent | ⟨value, hset, hvalue⟩ := absent_or_present (env candidate.setting)
      · rw [selectFrom_absent candidate habsent] at h ⊢
        have hsame := h candidate.setting List.mem_cons_self
        rw [selectFrom_absent candidate (hsame ▸ habsent),
          ih fun setting hmem => h setting (List.mem_cons_of_mem _ hmem)]
      · rw [selectFrom_present candidate hset hvalue] at h ⊢
        have hsame := h candidate.setting List.mem_cons_self
        rw [selectFrom_present candidate (hsame.trans hset) hvalue]

theorem lookups_selectFrom_subset (env : Environment) (candidates : List Candidate) :
    (selectFrom env candidates).lookups ⊆ candidates.map Candidate.setting := by
  induction candidates with
  | nil => exact List.Subset.refl _
  | cons candidate later ih =>
      obtain habsent | ⟨value, hset, hvalue⟩ := absent_or_present (env candidate.setting)
      · rw [selectFrom_absent candidate habsent]
        exact List.cons_subset_cons _ ih
      · rw [selectFrom_present candidate hset hvalue]
        exact List.cons_subset_cons _ (List.nil_subset _)

/-- The variables of the candidates decide the transport. -/
theorem selectTransport_congr {env' : Environment} (hport : env' .port = env .port)
    (hpath : env' .socketPath = env .socketPath) : selectTransport env' = selectTransport env := by
  refine selectFrom_congr fun setting hmem => ?_
  have hknown : setting ∈ [Setting.port, Setting.socketPath] :=
    lookups_selectFrom_subset env Candidate.precedence hmem
  obtain rfl | hknown := List.mem_cons.mp hknown
  · exact hport
  · obtain rfl := List.mem_singleton.mp hknown
    exact hpath

theorem Port.ne_zero_of_ofText? {value : String} {port : Port}
    (h : Port.ofText? value = some port) : port ≠ 0 := by
  rw [Port.ofText?, Option.filter_eq_some_iff] at h
  simpa using h.2

/-- Every port that is selected is one to be asked for: none stands for a port that the system
picks. -/
theorem selectFrom_ne_tcp_zero (env : Environment) (candidates : List Candidate) :
    (selectFrom env candidates).result ≠ .ok (.tcp 0) := by
  induction candidates with
  | nil => rintro ⟨⟩
  | cons candidate later ih =>
      obtain habsent | ⟨value, hset, hvalue⟩ := absent_or_present (env candidate.setting)
      · rw [selectFrom_absent candidate habsent]
        exact ih
      · rw [selectFrom_present candidate hset hvalue]
        cases candidate with
        | port =>
            simp only [Candidate.resolve]
            split
            next hport =>
              rintro ⟨⟩
              exact Port.ne_zero_of_ofText? hport rfl
            · rintro ⟨⟩
        | socketPath => rintro ⟨⟩

end Candidates

/-! ## The transport -/

/-- The ways in which a transport is chosen: the names that are asked for, and what comes of it. -/
inductive Selects (lookup : String → Option String) :
    List String → Except ConfigError Transport → Prop where
  | port {value : String} {port : Port} (hset : lookup "PORT" = some value) (hvalue : value ≠ "")
      (hport : Port.ofText? value = some port) : Selects lookup ["PORT"] (.ok (.tcp port))
  | invalidPort {value : String} (hset : lookup "PORT" = some value) (hvalue : value ≠ "")
      (hport : Port.ofText? value = none) :
      Selects lookup ["PORT"] (.error (.invalidPort value))
  | socketPath {value : String} (hport : Absent (lookup "PORT"))
      (hset : lookup "SOCKET_PATH" = some value) (hvalue : value ≠ "") :
      Selects lookup ["PORT", "SOCKET_PATH"] (.ok (.unix (Utf8.octets value)))
  | unconfigured (hport : Absent (lookup "PORT")) (hpath : Absent (lookup "SOCKET_PATH")) :
      Selects lookup ["PORT", "SOCKET_PATH"] (.ok .defaultTcp)

theorem selectTransport_selects (lookup : String → Option String) :
    Selects lookup (selectTransport (.ofLookup lookup)).asked
      (selectTransport (.ofLookup lookup)).result := by
  unfold selectTransport Candidate.precedence Resolution.asked
  obtain hport | ⟨value, hset, hvalue⟩ := absent_or_present (lookup "PORT")
  · obtain hpath | ⟨value, hset, hvalue⟩ := absent_or_present (lookup "SOCKET_PATH")
    · rw [selectFrom_absent .port hport, selectFrom_absent .socketPath hpath]
      exact .unconfigured hport hpath
    · rw [selectFrom_absent .port hport, selectFrom_present .socketPath hset hvalue]
      exact .socketPath hport hset hvalue
  · rw [selectFrom_present .port hset hvalue]
    simp only [Candidate.resolve]
    split
    next port hport => exact .port hset hvalue hport
    next hport => exact .invalidPort hset hvalue hport

/-- The ways are told apart by the lookup. -/
theorem Selects.result_eq {lookup : String → Option String} {names : List String}
    {result : Except ConfigError Transport} (h : Selects lookup names result) :
    (selectTransport (.ofLookup lookup)).result = result := by
  unfold selectTransport Candidate.precedence
  cases h with
  | port hset hvalue hport =>
      rw [selectFrom_present .port hset hvalue]
      simp only [Candidate.resolve, hport]
  | invalidPort hset hvalue hport =>
      rw [selectFrom_present .port hset hvalue]
      simp only [Candidate.resolve, hport]
  | socketPath hport hset hvalue =>
      rw [selectFrom_absent .port hport, selectFrom_present .socketPath hset hvalue]
      rfl
  | unconfigured hport hpath =>
      rw [selectFrom_absent .port hport, selectFrom_absent .socketPath hpath]
      rfl

/-! ## The whole configuration -/

/-- The ways in which a configuration is found: the names that are asked for, and what comes of it.
The labels are asked for after a transport was chosen, and taken as they are. -/
inductive Resolves (lookup : String → Option String) :
    List String → Except ConfigError Config → Prop where
  | failed {names : List String} {error : ConfigError} (h : Selects lookup names (.error error)) :
      Resolves lookup names (.error error)
  | found {names : List String} {transport : Transport}
      (h : Selects lookup names (.ok transport)) :
      Resolves lookup (names ++ ["APP_ENV", "APP_VERSION"])
        (.ok ⟨transport, (lookup "APP_ENV").getD "unknown",
          (lookup "APP_VERSION").getD "unknown"⟩)

namespace Config

theorem resolve_of_error {env : Environment} {error : ConfigError}
    (h : (selectTransport env).result = .error error) :
    resolve env = ⟨.error error, (selectTransport env).lookups, (selectTransport env).events⟩ := by
  unfold resolve
  simp only [h]

theorem resolve_of_ok {env : Environment} {transport : Transport}
    (h : (selectTransport env).result = .ok transport) :
    resolve env =
      ⟨.ok ⟨transport, (env .environmentLabel).getD unknownLabel,
          (env .versionLabel).getD unknownLabel⟩,
        (selectTransport env).lookups ++ [.environmentLabel, .versionLabel],
        (selectTransport env).events⟩ := by
  unfold resolve
  simp only [h]

theorem resolve_of_unset {env : Environment} (h : ∀ setting, env setting = none) :
    (resolve env).result = .ok default := by
  have hempty : env = fun _ => none := funext h
  rw [hempty]
  rfl

theorem map_transport_resolve (env : Environment) :
    (resolve env).result.map (·.transport) = (selectTransport env).result := by
  cases hresult : (selectTransport env).result with
  | error error => rw [resolve_of_error hresult]; rfl
  | ok transport => rw [resolve_of_ok hresult]; rfl

theorem selectTransport_of_resolve {env : Environment} {config : Config}
    (h : (resolve env).result = .ok config) :
    (selectTransport env).result = .ok config.transport := by
  rw [← map_transport_resolve, h]
  rfl

theorem transport_ne_tcp_zero {env : Environment} {config : Config}
    (h : (resolve env).result = .ok config) : config.transport ≠ .tcp 0 := by
  intro hzero
  have hselected := selectTransport_of_resolve h
  rw [hzero] at hselected
  exact selectFrom_ne_tcp_zero env Candidate.precedence hselected

/-- An environment with the same candidates has a configuration with the same transport, whatever
its labels are. -/
theorem exists_resolve_of_candidates {env env' : Environment} {config : Config}
    (h : (resolve env).result = .ok config) (hport : env' .port = env .port)
    (hpath : env' .socketPath = env .socketPath) :
    ∃ config', (resolve env').result = .ok config' ∧ config'.transport = config.transport := by
  have hselected := selectTransport_of_resolve h
  rw [← selectTransport_congr hport hpath] at hselected
  rw [resolve_of_ok hselected]
  exact ⟨_, rfl, rfl⟩

/-- The variables that were asked for decide the configuration. -/
theorem resolve_congr {env env' : Environment}
    (h : ∀ setting ∈ (resolve env).lookups, env' setting = env setting) :
    resolve env' = resolve env := by
  have hselect (hasked : ∀ setting ∈ (selectTransport env).lookups, env' setting = env setting) :
      selectTransport env' = selectTransport env :=
    selectFrom_congr hasked
  cases hresult : (selectTransport env).result with
  | error error =>
      rw [resolve_of_error hresult] at h ⊢
      have hsame := hselect h
      rw [resolve_of_error (hsame ▸ hresult), hsame]
  | ok transport =>
      rw [resolve_of_ok hresult] at h ⊢
      have hsame := hselect fun setting hmem => h setting (List.mem_append_left _ hmem)
      rw [resolve_of_ok (hsame ▸ hresult), hsame,
        h .environmentLabel (List.mem_append_right _ (by decide)),
        h .versionLabel (List.mem_append_right _ (by decide))]

theorem resolve_resolves (lookup : String → Option String) :
    Resolves lookup (resolve (.ofLookup lookup)).asked (resolve (.ofLookup lookup)).result := by
  have hselects := selectTransport_selects lookup
  cases hresult : (selectTransport (.ofLookup lookup)).result with
  | error error =>
      rw [hresult] at hselects
      rw [resolve_of_error hresult]
      exact .failed hselects
  | ok transport =>
      rw [hresult] at hselects
      rw [resolve_of_ok hresult, Resolution.asked, List.map_append]
      exact .found hselects

end Config

/-! ## The names that are asked for -/

section Names

variable {lookup : String → Option String} {names : List String}

theorem Selects.names_eq {result : Except ConfigError Transport} (h : Selects lookup names result) :
    names = ["PORT"] ∨ Absent (lookup "PORT") ∧ names = ["PORT", "SOCKET_PATH"] := by
  cases h with
  | port | invalidPort => exact .inl rfl
  | socketPath hport | unconfigured hport => exact .inr ⟨hport, rfl⟩

theorem Resolves.nodup {result : Except ConfigError Config} (h : Resolves lookup names result) :
    names.Nodup := by
  cases h with
  | failed h | found h => obtain rfl | ⟨-, rfl⟩ := h.names_eq <;> decide

theorem Resolves.subset {result : Except ConfigError Config} (h : Resolves lookup names result) :
    names ⊆ ["PORT", "SOCKET_PATH", "APP_ENV", "APP_VERSION"] := by
  cases h with
  | failed h | found h => obtain rfl | ⟨-, rfl⟩ := h.names_eq <;> decide

theorem Resolves.not_mem_of_port {result : Except ConfigError Config}
    (h : Resolves lookup names result) (hport : ¬ Absent (lookup "PORT")) :
    "SOCKET_PATH" ∉ names := by
  cases h with
  | failed h | found h =>
      obtain rfl | ⟨habsent, -⟩ := h.names_eq
      · decide
      · exact absurd habsent hport

end Names

theorem Environment.ofLookup_congr {lookup other : String → Option String}
    {settings : List Setting}
    (h : ∀ name ∈ settings.map Setting.name, other name = lookup name) :
    ∀ setting ∈ settings, ofLookup other setting = ofLookup lookup setting :=
  fun _ hmem => h _ (List.mem_map_of_mem hmem)

/-- What is asked of a lookup, and that nothing else matters. -/
structure AsksInTurn (lookup : String → Option String) : Prop where
  selects : Selects lookup (selectTransport (.ofLookup lookup)).asked
    (selectTransport (.ofLookup lookup)).result
  resolves : Resolves lookup (Config.resolve (.ofLookup lookup)).asked
    (Config.resolve (.ofLookup lookup)).result
  /-- The transport alone is chosen as it is for the whole configuration. -/
  selected : (Config.resolve (.ofLookup lookup)).result.map (·.transport) =
    (selectTransport (.ofLookup lookup)).result
  /-- It takes the same names, only without the labels. -/
  askedFirst : (Config.resolve (.ofLookup lookup)).asked =
    (selectTransport (.ofLookup lookup)).asked ++
      match (selectTransport (.ofLookup lookup)).result with
      | .ok _ => ["APP_ENV", "APP_VERSION"]
      | .error _ => []
  nodup : (Config.resolve (.ofLookup lookup)).asked.Nodup
  known : (Config.resolve (.ofLookup lookup)).asked ⊆
    ["PORT", "SOCKET_PATH", "APP_ENV", "APP_VERSION"]
  /-- Another lookup that agrees on the names that were asked for gives the same, trace included. -/
  agrees : ∀ other : String → Option String,
    (∀ name ∈ (Config.resolve (.ofLookup lookup)).asked, other name = lookup name) →
      Config.resolve (.ofLookup other) = Config.resolve (.ofLookup lookup)
  agreesOnTransport : ∀ other : String → Option String,
    (∀ name ∈ (selectTransport (.ofLookup lookup)).asked, other name = lookup name) →
      selectTransport (.ofLookup other) = selectTransport (.ofLookup lookup)
  /-- With a port that is set and not empty, the socket path changes nothing. -/
  ignoresPath : ¬ Absent (lookup "PORT") → ∀ other : String → Option String,
    (∀ name, name ≠ "SOCKET_PATH" → other name = lookup name) →
      Config.resolve (.ofLookup other) = Config.resolve (.ofLookup lookup)

/-- A configuration is found by asking for each variable once, in turn, and only as far as needed.
-/
theorem configuration_asks_in_turn (lookup : String → Option String) : AsksInTurn lookup where
  selects := selectTransport_selects lookup
  resolves := Config.resolve_resolves lookup
  selected := Config.map_transport_resolve (.ofLookup lookup)
  askedFirst := by
    cases hresult : (selectTransport (.ofLookup lookup)).result with
    | error error => rw [Config.resolve_of_error hresult]; exact (List.append_nil _).symm
    | ok transport => rw [Config.resolve_of_ok hresult]; exact List.map_append
  nodup := (Config.resolve_resolves lookup).nodup
  known := (Config.resolve_resolves lookup).subset
  agrees := fun _ h => Config.resolve_congr (Environment.ofLookup_congr h)
  agreesOnTransport := fun _ h => selectFrom_congr (Environment.ofLookup_congr h)
  ignoresPath := by
    -- The port decides alone, so the path is not among the names that were asked for.
    intro hport other hother
    refine Config.resolve_congr (Environment.ofLookup_congr fun name hmem => hother name ?_)
    rintro rfl
    exact (Config.resolve_resolves lookup).not_mem_of_port hport hmem

/-! ## The environment of a process -/

/-- The lookup of a process: a variable whose value is no text is not found. -/
def readable (values : String → Option Octets) (name : String) : Option String :=
  (values name).bind fun value => (Utf8.decode? value).map String.ofList

/-- A variable is passed over: it is unset, or empty, or its value is no text. -/
def PassedOver (value : Option Octets) : Prop :=
  ∀ text : String, value = some (Utf8.octets text) → text = ""

/-- What a process environment, whose values are any octets, makes of the transport. -/
inductive Chooses (values : String → Option Octets) : Except ConfigError Transport → Prop where
  | port {text : String} {port : Port} (hset : values "PORT" = some (Utf8.octets text))
      (htext : text ≠ "") (hport : Port.ofText? text = some port) :
      Chooses values (.ok (.tcp port))
  | invalidPort {text : String} (hset : values "PORT" = some (Utf8.octets text))
      (htext : text ≠ "") (hport : Port.ofText? text = none) :
      Chooses values (.error (.invalidPort text))
  | socketPath {text : String} (hport : PassedOver (values "PORT"))
      (hset : values "SOCKET_PATH" = some (Utf8.octets text)) (htext : text ≠ "") :
      Chooses values (.ok (.unix (Utf8.octets text)))
  | unconfigured (hport : PassedOver (values "PORT"))
      (hpath : PassedOver (values "SOCKET_PATH")) : Chooses values (.ok .defaultTcp)

theorem readable_eq_some_iff {values : String → Option Octets} {name text : String} :
    readable values name = some text ↔ values name = some (Utf8.octets text) := by
  rw [readable, Option.bind_eq_some_iff]
  constructor
  · rintro ⟨value, hvalue, htext⟩
    obtain ⟨chars, hchars, rfl⟩ := Option.map_eq_some_iff.mp htext
    rw [Utf8.octets_ofList, Utf8.encode_of_decode? hchars, hvalue]
  · intro hvalue
    refine ⟨_, hvalue, ?_⟩
    rw [Utf8.octets, Utf8.decode?_encode, Option.map_some, String.ofList_toList]

theorem absent_readable_iff {values : String → Option Octets} {name : String} :
    Absent (readable values name) ↔ PassedOver (values name) := by
  constructor
  · intro habsent text hvalue
    have hread := readable_eq_some_iff.mpr hvalue
    obtain hnone | hempty := habsent
    · rw [hnone] at hread
      cases hread
    · exact Option.some.inj (hread.symm.trans hempty)
  · intro hpassed
    obtain habsent | ⟨text, htext, hne⟩ := absent_or_present (readable values name)
    · exact habsent
    · exact absurd (hpassed text (readable_eq_some_iff.mp htext)) hne

theorem chooses_iff_selects {values : String → Option Octets}
    {chosen : Except ConfigError Transport} :
    Chooses values chosen ↔ ∃ names, Selects (readable values) names chosen := by
  constructor
  · intro h
    cases h with
    | port hset htext hport => exact ⟨_, .port (readable_eq_some_iff.mpr hset) htext hport⟩
    | invalidPort hset htext hport =>
        exact ⟨_, .invalidPort (readable_eq_some_iff.mpr hset) htext hport⟩
    | socketPath hport hset htext =>
        exact ⟨_, .socketPath (absent_readable_iff.mpr hport) (readable_eq_some_iff.mpr hset) htext⟩
    | unconfigured hport hpath =>
        exact ⟨_, .unconfigured (absent_readable_iff.mpr hport) (absent_readable_iff.mpr hpath)⟩
  · rintro ⟨names, h⟩
    cases h with
    | port hset htext hport => exact .port (readable_eq_some_iff.mp hset) htext hport
    | invalidPort hset htext hport =>
        exact .invalidPort (readable_eq_some_iff.mp hset) htext hport
    | socketPath hport hset htext =>
        exact .socketPath (absent_readable_iff.mp hport) (readable_eq_some_iff.mp hset) htext
    | unconfigured hport hpath =>
        exact .unconfigured (absent_readable_iff.mp hport) (absent_readable_iff.mp hpath)

/-- The transport that a process environment makes is chosen among the values that are texts: a
port that is set, not empty and a text decides alone, and whatever is no text counts as unset. -/
theorem transport_of_process_environment (values : String → Option Octets)
    (chosen : Except ConfigError Transport) :
    (Config.resolve (.ofOctets fun setting => values setting.name)).result.map (·.transport) =
      chosen ↔ Chooses values chosen := by
  have hselects := selectTransport_selects (readable values)
  rw [Config.map_transport_resolve, chooses_iff_selects]
  constructor
  · rintro rfl
    exact ⟨_, hselects⟩
  · rintro ⟨names, hnames⟩
    exact hnames.result_eq

def singleVariable (name : String) (value : Octets) : String → Option Octets :=
  fun other => if other = name then some value else none

/-- A port and a socket path that are set and not empty, but no texts, fall through to the default
transport. -/
theorem unreadable_values_fall_through :
    (Config.resolve (.ofOctets fun setting => singleVariable "PORT" [0xFF] setting.name)).result =
        .ok Config.default ∧
      (Config.resolve (.ofOctets fun setting =>
        singleVariable "SOCKET_PATH" [0x61, 0xFF] setting.name)).result = .ok Config.default := by
  constructor
  · exact Config.resolve_of_unset fun setting => by cases setting <;> decide +kernel
  · exact Config.resolve_of_unset fun setting => by cases setting <;> decide +kernel

end Beacon
