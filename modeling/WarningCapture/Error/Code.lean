import WarningCapture.Text.Blank

/-!
Who is at fault and what went wrong. Codes have a stable written name, and `ErrorCode.parse` reads
exactly these names back, blanks around them ignored.
-/

namespace WarningCapture

/-- Who is responsible for an error. -/
inductive ErrorKind where
  /-- The caller passed something invalid. -/
  | usage
  /-- The host interpreter or the file system misbehaved. -/
  | environment
  /-- The code under test misbehaved beyond what is tolerated. -/
  | target
  /-- A defect of the capture library itself. -/
  | internal
  deriving DecidableEq, Repr

def ErrorKind.name : ErrorKind → String
  | .usage => "Usage"
  | .environment => "Environment"
  | .target => "Target"
  | .internal => "Internal"

inductive ErrorCode where
  | unknown
  | invalidPolicyValue
  | invalidFilterTarget
  | sinkInstallFailed
  | sinkRestoreFailed
  | sinkStackCorrupted
  | registryScanFailed
  | lineTableUnavailable
  | originMismatch
  | replayFailed
  | io
  deriving DecidableEq, Repr

namespace ErrorCode

def all : List ErrorCode :=
  [unknown, invalidPolicyValue, invalidFilterTarget, sinkInstallFailed, sinkRestoreFailed,
    sinkStackCorrupted, registryScanFailed, lineTableUnavailable, originMismatch, replayFailed, io]

def name : ErrorCode → String
  | unknown => "ERR_UNKNOWN"
  | invalidPolicyValue => "ERR_INVALID_POLICY_VALUE"
  | invalidFilterTarget => "ERR_INVALID_FILTER_TARGET"
  | sinkInstallFailed => "ERR_SINK_INSTALL_FAILED"
  | sinkRestoreFailed => "ERR_SINK_RESTORE_FAILED"
  | sinkStackCorrupted => "ERR_SINK_STACK_CORRUPTED"
  | registryScanFailed => "ERR_REGISTRY_SCAN_FAILED"
  | lineTableUnavailable => "ERR_LINE_TABLE_UNAVAILABLE"
  | originMismatch => "ERR_ORIGIN_MISMATCH"
  | replayFailed => "ERR_REPLAY_FAILED"
  | io => "ERR_IO"

def title : ErrorCode → String
  | unknown => "Unknown"
  | invalidPolicyValue => "InvalidPolicyValue"
  | invalidFilterTarget => "InvalidFilterTarget"
  | sinkInstallFailed => "SinkInstallFailed"
  | sinkRestoreFailed => "SinkRestoreFailed"
  | sinkStackCorrupted => "SinkStackCorrupted"
  | registryScanFailed => "RegistryScanFailed"
  | lineTableUnavailable => "LineTableUnavailable"
  | originMismatch => "OriginMismatch"
  | replayFailed => "ReplayFailed"
  | io => "Io"

def parse (text : String) : Option ErrorCode :=
  let trimmed := Text.trim text
  all.find? fun code => code.name == trimmed

theorem mem_all (code : ErrorCode) : code ∈ all := by cases code <;> decide

/-- Written names read back. -/
theorem parse_name (code : ErrorCode) : parse code.name = some code := by
  cases code <;> decide +kernel

end ErrorCode
end WarningCapture
