import Filing.Uniquifier

/-!
Settings of requests and of the uniquifier, and which of them are acceptable.
-/
namespace Filing

structure Settings where
  /-- Ask before overwriting, unless the request says otherwise. -/
  interactive : Bool := false
  /-- Stands between a taken name and its number. -/
  separator : String := "-"
  firstSuffix : UInt32 := 1
  maxAttempts : UInt32 := 10000
  deriving DecidableEq

/-- Why settings that could be read are not acceptable. -/
inductive Unacceptable where
  | emptySeparator
  | separatorWithSlash
  | noAttempts
  | zeroFirstSuffix
  deriving DecidableEq

def Unacceptable.message : Unacceptable → String
  | emptySeparator => "uniquifier.separator must not be empty"
  | separatorWithSlash => "uniquifier.separator must not contain '/'"
  | noAttempts => "uniquifier.max_attempts must be greater than zero"
  | zeroFirstSuffix => "uniquifier.first_suffix must be greater than zero"

inductive SettingsError where
  /-- A source could not be read, or holds a value of the wrong kind. -/
  | load
  /-- The extension of the file stands for no known notation. -/
  | unsupportedFormat (file : String)
  | invalid (reason : Unacceptable)
  deriving DecidableEq

def SettingsError.message : SettingsError → String
  | load => "could not load configuration"
  | unsupportedFormat file => "unsupported configuration format: " ++ file
  | invalid reason => "invalid configuration value: " ++ reason.message

namespace Settings

/-- The first thing that is wrong with the settings. -/
def fault? (s : Settings) : Option Unacceptable :=
  if s.separator = "" then some .emptySeparator
  else if '/' ∈ s.separator.toList then some .separatorWithSlash
  else if s.maxAttempts = 0 then some .noAttempts
  else if s.firstSuffix = 0 then some .zeroFirstSuffix
  else none

def validate (s : Settings) : Except SettingsError Settings :=
  match s.fault? with
  | some reason => .error (.invalid reason)
  | none => .ok s

def suffixing (s : Settings) : Suffixing :=
  { separator := s.separator, first := s.firstSuffix, maxAttempts := s.maxAttempts }

end Settings

end Filing
