import Beacon.Proofs.Ports

/-!
# Configurations written as environments

An environment configures a port from 1 to 65535, a socket path that is not empty, or neither, and
no other transport. Every configuration with such a transport can be written down as an environment,
in many ways, and is resolved from each of them as it was.
-/

namespace Beacon

/-! ## What can be configured -/

/-- The transports that an environment can configure. -/
inductive Configurable : Transport → Prop where
  | tcp {port : Port} (hleast : 1 ≤ port.toNat) (hgreatest : port.toNat ≤ 65535) :
      Configurable (.tcp port)
  | unix {path : String} (hpath : path ≠ "") : Configurable (.unix (Utf8.octets path))
  | defaultTcp : Configurable .defaultTcp

theorem Selects.configurable {lookup : String → Option String} {names : List String}
    {transport : Transport} (h : Selects lookup names (.ok transport)) :
    Configurable transport := by
  cases h with
  | @port value port hset hvalue hport =>
      exact .tcp (Port.ofText?_eq_some_iff.mp hport).2 (Nat.le_of_lt_succ port.toNat_lt_size)
  | socketPath hport hset hvalue => exact .unix hvalue
  | unconfigured => exact .defaultTcp

theorem Config.configurable_of_resolve {lookup : String → Option String} {config : Config}
    (h : (resolve (.ofLookup lookup)).result = .ok config) : Configurable config.transport := by
  have hselects := selectTransport_selects lookup
  rw [selectTransport_of_resolve h] at hselects
  exact hselects.configurable

/-! ## Writing -/

/-- The texts that a port can be written as: its number in decimal, with zeros in front of it and a
sign in front of them, between blanks. -/
inductive WritesPort (port : Port) : String → Prop where
  | intro {before sign after : List Char} (hbefore : Text.Blank before) (hsign : IsSign sign)
      (zeros : Nat) (hafter : Text.Blank after) :
      WritesPort port (String.ofList
        (before ++ (sign ++ (List.replicate zeros '0' ++ Decimal.digits port.toNat)) ++ after))

/-- The lookups into which a transport can be written. Beside a port, the socket path may be
anything. -/
inductive WritesTransport (lookup : String → Option String) : Transport → Prop where
  | tcp {port : Port} {value : String} (hset : lookup "PORT" = some value)
      (hvalue : WritesPort port value) : WritesTransport lookup (.tcp port)
  | unix {path : String} (hport : Absent (lookup "PORT"))
      (hset : lookup "SOCKET_PATH" = some path) :
      WritesTransport lookup (.unix (Utf8.octets path))
  | defaultTcp (hport : Absent (lookup "PORT")) (hpath : Absent (lookup "SOCKET_PATH")) :
      WritesTransport lookup .defaultTcp

/-- The lookups into which a configuration can be written. -/
structure Writes (lookup : String → Option String) (config : Config) : Prop where
  transport : WritesTransport lookup config.transport
  environmentLabel : lookup "APP_ENV" = some config.environmentLabel
  versionLabel : lookup "APP_VERSION" = some config.versionLabel

/-- A port that is written spells its number. -/
theorem WritesPort.spellsNumber {port : Port} {value : String} (h : WritesPort port value) :
    SpellsNumber value.toList port.toNat := by
  cases h with
  | @intro before sign after hbefore hsign zeros hafter =>
    have hdigits : ∀ char ∈ List.replicate zeros '0' ++ Decimal.digits port.toNat,
        '0' ≤ char ∧ char ≤ '9' := by
      intro char hmem
      obtain hmem | hmem := List.mem_append.mp hmem
      · obtain rfl := List.eq_of_mem_replicate hmem
        decide
      · exact Decimal.toNat_of_mem_digits hmem
    have hne : List.replicate zeros '0' ++ Decimal.digits port.toNat ≠ [] :=
      List.append_ne_nil_of_right_ne_nil _ (Decimal.digits_ne_nil port.toNat)
    have hspells := SpellsNumber.intro hbefore hsign hne hdigits hafter
    rw [Decimal.value_zeros_append, Decimal.value_digits] at hspells
    rwa [String.toList_ofList]

/-- A text that spells a number is not empty. -/
theorem SpellsNumber.ne_empty {value : String} {n : Nat} (h : SpellsNumber value.toList n) :
    value ≠ "" := by
  rintro rfl
  exact (spellsNumber_iff.mp h).1 rfl

/-! ## Resolving what is written -/

theorem WritesTransport.selects {lookup : String → Option String} {transport : Transport}
    (h : WritesTransport lookup transport) (hconfigurable : Configurable transport) :
    ∃ names, Selects lookup names (.ok transport) := by
  cases h with
  | tcp hset hvalue =>
      have hspells := hvalue.spellsNumber
      cases hconfigurable with
      | tcp hleast hgreatest =>
        exact ⟨_, .port hset hspells.ne_empty (Port.ofText?_eq_some_iff.mpr ⟨hspells, hleast⟩)⟩
  | @unix path hport hset =>
      refine ⟨_, .socketPath hport hset ?_⟩
      rintro rfl
      generalize htransport : Transport.unix (Utf8.octets "") = transport at hconfigurable
      cases hconfigurable with
      | tcp | defaultTcp => cases htransport
      | unix hpath => exact hpath (Utf8.octets_inj.mp (Transport.unix.inj htransport)).symm
  | defaultTcp hport hpath => exact ⟨_, .unconfigured hport hpath⟩

theorem Writes.resolve {lookup : String → Option String} {config : Config}
    (h : Writes lookup config) (hconfigurable : Configurable config.transport) :
    (Config.resolve (.ofLookup lookup)).result = .ok config := by
  obtain ⟨names, hselects⟩ := h.transport.selects hconfigurable
  have henvironment :
      Environment.ofLookup lookup .environmentLabel = some config.environmentLabel :=
    h.environmentLabel
  have hversion : Environment.ofLookup lookup .versionLabel = some config.versionLabel :=
    h.versionLabel
  rw [Config.resolve_of_ok hselects.result_eq, henvironment, hversion]
  rfl

def lookupOf (port path : Option String) (environmentLabel versionLabel : String) :
    String → Option String
  | "PORT" => port
  | "SOCKET_PATH" => path
  | "APP_ENV" => some environmentLabel
  | "APP_VERSION" => some versionLabel
  | _ => none

/-- What can be configured can be written down. -/
theorem exists_writes {config : Config} (h : Configurable config.transport) :
    ∃ lookup, Writes lookup config := by
  obtain ⟨transport, environmentLabel, versionLabel⟩ := config
  obtain ⟨port, path, htransport⟩ : ∃ port path,
      WritesTransport (lookupOf port path environmentLabel versionLabel) transport := by
    cases h with
    | @tcp port =>
        have hvalue := @WritesPort.intro port [] [] [] (List.forall_mem_nil _) (.inl rfl) 0
          (List.forall_mem_nil _)
        exact ⟨some _, none, .tcp rfl hvalue⟩
    | @unix path => exact ⟨none, some path, .unix (.inl rfl) rfl⟩
    | defaultTcp => exact ⟨none, none, .defaultTcp (.inl rfl) (.inl rfl)⟩
  exact ⟨_, htransport, rfl, rfl⟩

/-- The configurations that are resolved from environments are those with a transport that can be
configured, and whatever environment such a one is written into, it is resolved as it was. -/
theorem configurations_resolve_as_written (config : Config) :
    ((∃ lookup, (Config.resolve (.ofLookup lookup)).result = .ok config) ↔
        Configurable config.transport) ∧
      (Configurable config.transport → (∃ lookup, Writes lookup config) ∧
        ∀ lookup, Writes lookup config →
          (Config.resolve (.ofLookup lookup)).result = .ok config) := by
  refine ⟨⟨?_, fun hconfigurable => ?_⟩, fun hconfigurable =>
    ⟨exists_writes hconfigurable, fun lookup hwrites => hwrites.resolve hconfigurable⟩⟩
  · rintro ⟨lookup, hresult⟩
    exact Config.configurable_of_resolve hresult
  · obtain ⟨lookup, hwrites⟩ := exists_writes hconfigurable
    exact ⟨lookup, hwrites.resolve hconfigurable⟩

end Beacon
