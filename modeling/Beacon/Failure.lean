import Beacon.Host.SystemError
import Beacon.Http.Status
import Beacon.Text.Duration
import Beacon.Transport

/-!
# Failures

Why binding, serving or a client's exchange fails. Each failure has a text, and the failures that
come from a system call have it as their source; a report joins a failure's text and those of its
sources.
-/

namespace Beacon

/-- A failure to bind a listening endpoint, by the stage that fails. -/
inductive BindError where
  /-- The TCP listener. -/
  | tcp (port : Port) (source : SystemError)
  /-- The removal of what stands at the socket path. -/
  | staleSocket (path : Path) (source : SystemError)
  /-- The Unix listener. -/
  | unix (path : Path) (source : SystemError)
  /-- The mode of the socket file. -/
  | permissions (path : Path) (source : SystemError)
  deriving DecidableEq, Repr

namespace BindError

def source : BindError → SystemError
  | .tcp _ source => source
  | .staleSocket _ source => source
  | .unix _ source => source
  | .permissions _ source => source

def message : BindError → String
  | .tcp port source =>
      "failed to bind TCP listener on " ++ loopbackText port ++ ": " ++ source.text
  | .staleSocket path source =>
      "failed to remove stale socket file at " ++ Utf8.display path ++ ": " ++ source.text
  | .unix path source =>
      "failed to bind Unix socket at " ++ Utf8.display path ++ ": " ++ source.text
  | .permissions path source =>
      "failed to set permissions on socket file " ++ Utf8.display path ++ ": " ++ source.text

end BindError

inductive DaemonError where
  | bind (failure : BindError)
  | signal (source : SystemError)
  | serve (source : SystemError)
  deriving DecidableEq, Repr

namespace DaemonError

def source : DaemonError → SystemError
  | .bind failure => failure.source
  | .signal source => source
  | .serve source => source

def message : DaemonError → String
  | .bind failure => failure.message
  | .signal source => "failed to install signal handler: " ++ source.text
  | .serve source => "server loop failed: " ++ source.text

end DaemonError

inductive ClientError where
  | connect (address : Address) (source : SystemError)
  | timeout (address : Address) (limit : Duration)
  /-- The exchange itself fails, for a described reason. -/
  | request (reason : String)
  | status (answered : Http.Status)
  /-- The body is not what was asked for, for a described reason. -/
  | parse (reason : String)
  deriving DecidableEq, Repr

namespace ClientError

def source? : ClientError → Option SystemError
  | .connect _ source => some source
  | _ => none

def message : ClientError → String
  | .connect address source => "failed to connect to " ++ address.text ++ ": " ++ source.text
  | .timeout address limit => "no response from " ++ address.text ++ " within " ++ limit.text
  | .request reason => "request failed: " ++ reason
  | .status answered => "unexpected status: " ++ answered.text
  | .parse reason => "failed to parse response: " ++ reason

end ClientError

/-- A failure as it is reported: its own text, and those of its sources, the nearest first. -/
structure Report where
  message : String
  sources : List String
  deriving DecidableEq, Repr

namespace Report

def line (report : Report) : String :=
  ": ".intercalate (report.message :: report.sources)

def within (report : Report) (undertaking : String) : Report :=
  ⟨undertaking, report.message :: report.sources⟩

end Report

def BindError.report (failure : BindError) : Report :=
  ⟨failure.message, [failure.source.text]⟩

def DaemonError.report (failure : DaemonError) : Report :=
  ⟨failure.message, [failure.source.text]⟩

def ClientError.report (failure : ClientError) : Report :=
  ⟨failure.message, (failure.source?.map SystemError.text).toList⟩

end Beacon
