import Beacon.Program
import Beacon.Proofs.Configuration
import Beacon.Proofs.Text.Quoted
import Mathlib.Data.String.Basic

/-!
# What is told of a refused port

A value of the port variable that is refused is shown in the message, and the message tells it: no
other value has the same one. Whatever characters the value holds, all that is shown is visible, so
the message is one line wherever it is printed: in the log, where the line of the failure tells the
service and the value, and in the report of the program.
-/

namespace Beacon

/-! ## Messages -/

namespace ConfigError

variable {error error' : ConfigError}

theorem message_eq (error : ConfigError) :
    error.message =
      "PORT must be a port number between 1 and 65535, got " ++ Text.quote error.value := by
  cases error with
  | invalidPort value => rfl

/-- A message tells the error. -/
theorem message_inj (h : error.message = error'.message) : error = error' := by
  rw [message_eq, message_eq, String.append_right_inj] at h
  cases error with
  | invalidPort value =>
      cases error' with
      | invalidPort value' => exact congrArg invalidPort (Text.quote_inj h)

theorem allVisible_message (error : ConfigError) : Text.AllVisible error.message.toList := by
  rw [message_eq, String.toList_append]
  exact Text.AllVisible.append (by decide) (Text.allVisible_quote error.value)

end ConfigError

/-! ## The log -/

namespace Commission

variable {commission commission' : Commission} {error error' : ConfigError}

/-- The line that is logged of a configuration that cannot be resolved. -/
theorem line_fatalEvent (commission : Commission) (error : ConfigError) :
    (commission.fatalEvent (.configuration error)).line =
      "ERROR sockserve_apps: fatal service=" ++ (Text.quote commission.identity.name ++
        (" error=invalid configuration: " ++ error.message)) := by
  have hmessage : Log.messageText "fatal" = "fatal" := rfl
  have hreport : (CommandFailure.configuration error).report.line =
      "invalid configuration: " ++ error.message := rfl
  have hline : (commission.fatalEvent (.configuration error)).line =
      "ERROR sockserve_apps: fatal" ++ (" service=" ++ (Text.quote commission.identity.name ++
        (" error=" ++ ("invalid configuration: " ++ error.message)))) := by
    simp [fatalEvent, event, Log.Event.line, Log.fieldText, Log.Value.written, Log.Level.name,
      Log.Source.target, hmessage, hreport, String.append_assoc]
  have hservice : "ERROR sockserve_apps: fatal" ++ " service=" =
      "ERROR sockserve_apps: fatal service=" := rfl
  have herror : " error=" ++ "invalid configuration: " = " error=invalid configuration: " := rfl
  rw [hline, ← hservice, ← herror, String.append_assoc, String.append_assoc]

/-- The line tells the service and the error: the quoted name ends where it is closed, whatever is
shown behind it. -/
theorem line_fatalEvent_inj (h : (commission.fatalEvent (.configuration error)).line =
      (commission'.fatalEvent (.configuration error')).line) :
    commission.identity.name = commission'.identity.name ∧ error = error' := by
  rw [line_fatalEvent, line_fatalEvent, String.append_right_inj] at h
  obtain ⟨hname, hrest⟩ := Text.quote_append_inj h
  exact ⟨hname, ConfigError.message_inj ((String.append_right_inj _).mp hrest)⟩

theorem allVisible_line_fatalEvent (commission : Commission) (error : ConfigError) :
    Text.AllVisible (commission.fatalEvent (.configuration error)).line.toList := by
  rw [line_fatalEvent, String.toList_append, String.toList_append, String.toList_append]
  have hname := Text.allVisible_quote commission.identity.name
  have hmessage := error.allVisible_message
  exact .append (by decide) (.append hname (.append (by decide) hmessage))

end Commission

/-! ## The report -/

namespace Report

/-- Going through a text, nothing is cut off while there is no line feed. -/
theorem splitOnAux_of_ne (front rest : List Char) (h : ∀ char ∈ rest, char ≠ '\n') :
    (String.ofList (front ++ rest)).splitOnAux "\n" 0 ⟨String.utf8Len front⟩ 0 [] =
      [String.ofList (front ++ rest)] := by
  induction rest generalizing front with
  | nil =>
      have hwhole := String.extract_of_valid [] front []
      rw [String.splitOnAux, if_pos ((String.atEnd_of_valid front []).mpr rfl)]
      simpa using hwhole
  | cons char later ih =>
      -- The character goes over to the front, and the place with it.
      have hother : ¬ (char == '\n') = true := by
        simpa using h char List.mem_cons_self
      have hfeed : String.Pos.Raw.get "\n" 0 = '\n' := rfl
      have hstay : (⟨String.utf8Len front⟩ : String.Pos.Raw).unoffsetBy 0 =
          ⟨String.utf8Len front⟩ := rfl
      have hnext : String.utf8Len (front ++ [char]) = String.utf8Len front + char.utf8Size := by
        simp
      have hlater := ih (front ++ [char]) fun other hmem => h other (List.mem_cons_of_mem _ hmem)
      rw [hnext, List.append_assoc, List.singleton_append] at hlater
      rw [String.splitOnAux, if_neg (by rw [String.atEnd_of_valid]; exact List.cons_ne_nil _ _),
        String.get_of_valid, hfeed, List.headD_cons, if_neg hother, hstay, String.next_of_valid]
      exact hlater

theorem splitOn_of_ne {text : String} (h : ∀ char ∈ text.toList, char ≠ '\n') :
    text.splitOn "\n" = [text] := by
  have hwhole := splitOnAux_of_ne [] text.toList h
  rwa [List.nil_append, String.ofList_toList] at hwhole

/-- A single cause without a line feed is reported on one line. -/
theorem lines_of_single {message cause : String} (h : ∀ char ∈ cause.toList, char ≠ '\n') :
    lines ⟨message, [cause]⟩ = ["Error: " ++ message, "", "Caused by:", "    " ++ cause] := by
  simp only [lines, causeLines, splitOn_of_ne h]
  rfl

end Report

/-! ## Refusals -/

/-- A value of the port variable is refused with an error: where a transport is selected, or a whole
configuration resolved, from a lookup or from the environment of a process. -/
inductive PortRefused (value : String) : ConfigError → Prop where
  | transport {lookup : String → Option String} {error : ConfigError}
      (hset : lookup "PORT" = some value)
      (hresult : (selectTransport (.ofLookup lookup)).result = .error error) :
      PortRefused value error
  | configuration {lookup : String → Option String} {error : ConfigError}
      (hset : lookup "PORT" = some value)
      (hresult : (Config.resolve (.ofLookup lookup)).result = .error error) :
      PortRefused value error
  | process {values : String → Option Octets} {error : ConfigError}
      (hset : values "PORT" = some (Utf8.octets value))
      (hresult : (Config.resolve (.ofOctets fun setting => values setting.name)).result =
        .error error) :
      PortRefused value error

section Refusals

variable {lookup : String → Option String} {value : String} {error : ConfigError}

/-- A transport is refused for the value of the port variable, and shows that value. -/
theorem error_of_selectTransport (hset : lookup "PORT" = some value)
    (hresult : (selectTransport (.ofLookup lookup)).result = .error error) :
    error = .invalidPort value ∧ value ≠ "" ∧ Port.ofText? value = none := by
  have hselects := selectTransport_selects lookup
  rw [hresult] at hselects
  generalize (selectTransport (.ofLookup lookup)).asked = names at hselects
  cases hselects with
  | invalidPort hfound hvalue hport =>
      obtain rfl := Option.some.inj (hset.symm.trans hfound)
      exact ⟨rfl, hvalue, hport⟩

/-- A whole configuration is refused where its transport is. -/
theorem error_of_resolve (hset : lookup "PORT" = some value)
    (hresult : (Config.resolve (.ofLookup lookup)).result = .error error) :
    error = .invalidPort value ∧ value ≠ "" ∧ Port.ofText? value = none := by
  have htransport := Config.map_transport_resolve (.ofLookup lookup)
  rw [hresult] at htransport
  exact error_of_selectTransport hset htransport.symm

/-- The refused values are those that are no ports and not empty. -/
theorem portRefused_iff :
    PortRefused value error ↔
      error = .invalidPort value ∧ value ≠ "" ∧ Port.ofText? value = none := by
  constructor
  · intro h
    cases h with
    | transport hset hresult => exact error_of_selectTransport hset hresult
    | configuration hset hresult => exact error_of_resolve hset hresult
    | @process values _ hset hresult =>
        exact error_of_resolve (readable_eq_some_iff.mpr hset) hresult
  · rintro ⟨rfl, hvalue, hport⟩
    have hselects := @Selects.invalidPort (fun _ => some value) value rfl hvalue hport
    exact .transport rfl hselects.result_eq

end Refusals

/-- What is told of a value of the port variable that is refused. -/
structure TellsRefused (value : String) (error : ConfigError) : Prop where
  message_eq : error.message =
    "PORT must be a port number between 1 and 65535, got " ++ Text.quote value
  /-- No other value is refused with the same message. -/
  apart : ∀ {other : String} {error' : ConfigError}, PortRefused other error' →
    error'.message = error.message → other = value
  plain : ∀ char ∈ error.message.toList, ¬ Text.IsControl char ∧ ¬ Text.EndsLine char
  /-- In the log, the line of the failure is one line. -/
  logged : ∀ commission : Commission,
    ∀ char ∈ (commission.fatalEvent (.configuration error)).line.toList,
      ¬ Text.IsControl char ∧ ¬ Text.EndsLine char
  /-- No line of another service is the same, nor one about another value. -/
  loggedApart : ∀ {other : String} {error' : ConfigError}, PortRefused other error' →
    ∀ commission commission' : Commission,
      (commission'.fatalEvent (.configuration error')).line =
        (commission.fatalEvent (.configuration error)).line →
      commission'.identity.name = commission.identity.name ∧ other = value
  /-- In the report of the program, the message is the last of four lines. -/
  reported : (CommandFailure.configuration error).report.lines =
    ["Error: invalid configuration", "", "Caused by:", "    " ++ error.message]

/-- Whatever value is refused as a port, it is shown so that it can be told from every other one, on
one line and without control characters. -/
theorem refused_port_is_told {value : String} {error : ConfigError} (h : PortRefused value error) :
    TellsRefused value error := by
  obtain ⟨rfl, -, -⟩ := portRefused_iff.mp h
  have hplain := (ConfigError.allVisible_message (.invalidPort value)).plain
  refine ⟨rfl, ?_, hplain, fun commission => ?_, ?_, Report.lines_of_single ?_⟩
  · intro other error' hother hmessage
    obtain ⟨rfl, -, -⟩ := portRefused_iff.mp hother
    exact ConfigError.invalidPort.inj (ConfigError.message_inj hmessage)
  · exact (commission.allVisible_line_fatalEvent (.invalidPort value)).plain
  · intro other error' hother commission commission' hline
    obtain ⟨rfl, -, -⟩ := portRefused_iff.mp hother
    obtain ⟨hname, herror⟩ := Commission.line_fatalEvent_inj hline
    exact ⟨hname, ConfigError.invalidPort.inj herror⟩
  · rintro char hmem rfl
    exact (hplain '\n' hmem).2 List.mem_cons_self

/-- A line feed is told from a backslash and a letter behind it. -/
theorem line_feed_is_told_from_its_escape :
    PortRefused "8\n0" (.invalidPort "8\n0") ∧ PortRefused "8\\n0" (.invalidPort "8\\n0") ∧
      (ConfigError.invalidPort "8\n0").message =
        "PORT must be a port number between 1 and 65535, got \"8\\n0\"" ∧
      (ConfigError.invalidPort "8\\n0").message ≠ (ConfigError.invalidPort "8\n0").message := by
  have hraw : PortRefused "8\n0" (.invalidPort "8\n0") :=
    portRefused_iff.mpr ⟨rfl, by decide, rfl⟩
  have hescaped : PortRefused "8\\n0" (.invalidPort "8\\n0") :=
    portRefused_iff.mpr ⟨rfl, by decide, rfl⟩
  have htold := refused_port_is_told hraw
  refine ⟨hraw, hescaped, ?_, fun hmessage => ?_⟩
  · rw [htold.message_eq]
    rfl
  · exact absurd (htold.apart hescaped hmessage) (by decide)

end Beacon
