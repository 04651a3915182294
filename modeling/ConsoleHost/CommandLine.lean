import ConsoleHost.SelfCheck
import ConsoleHost.Settings

/-!
The command line. `Arguments.parse` reads it from left to right, and stops at the first argument that
asks for a text or is wrong. `CommandLine.respond` is what the program then prints and exits with.
-/

namespace ConsoleHost

inductive Flag where
  | help
  | version
  | verbose
  | headless
  | hostHere
  | noHandoff
  | asTarget
  /-- Its value is the next argument. -/
  | handoffTarget
  | selfCheck
  deriving DecidableEq

def Flag.spellings : List (String × Flag) :=
  [("-h", help), ("--help", help), ("--version", version), ("-v", verbose), ("--verbose", verbose),
   ("--headless", headless), ("--server", hostHere), ("--force-no-handoff", noHandoff),
   ("--embedding", asTarget), ("--handoff-target", handoffTarget), ("--self-check", selfCheck)]

def Flag.ofText? (text : String) : Option Flag := spellings.lookup text

structure Arguments where
  launch : Handoff.Launch
  target : Option Clsid
  selfCheck : Bool
  verbose : Bool
  deriving DecidableEq

inductive Stop where
  | help
  | version
  | missingTarget
  /-- What is given for the target cannot be read, for this reason. -/
  | invalidTarget (text reason : String)
  | unknownArgument (text : String)
  deriving DecidableEq

namespace Arguments

def initial : Arguments := ⟨⟨false, false, false, false⟩, none, false, false⟩

/-- What a flag without a value sets. The others set nothing. -/
def set (a : Arguments) : Flag → Arguments
  | .verbose => { a with verbose := true }
  | .headless => { a with launch := { a.launch with headless := true } }
  | .hostHere => { a with launch := { a.launch with hostHere := true } }
  | .noHandoff => { a with launch := { a.launch with disabled := true } }
  | .asTarget => { a with launch := { a.launch with isTarget := true } }
  | .selfCheck => { a with selfCheck := true }
  | .help | .version | .handoffTarget => a

/-- Read the arguments behind those that have set so much. -/
def readFrom (read : Clsid.Reader) (a : Arguments) : List String → Except Stop Arguments
  | [] => .ok a
  | word :: rest =>
    match Flag.ofText? word with
    | none => .error (.unknownArgument word)
    | some .help => .error .help
    | some .version => .error .version
    | some .handoffTarget =>
      match rest with
      | [] => .error .missingTarget
      | text :: rest =>
        match Clsid.ofArgument read text with
        | .error reason => .error (.invalidTarget text reason)
        | .ok target => readFrom read { a with target := some target } rest
    | some flag => readFrom read (a.set flag) rest

def parse (read : Clsid.Reader) (words : List String) : Except Stop Arguments :=
  initial.readFrom read words

/-- The options of a server. The command line overrides the settings. -/
def options (a : Arguments) (s : Settings) : Options where
  launch := a.launch
  target := a.target.or s.target
  defaults := s.session

end Arguments

namespace CommandLine

def versionLine : String := "consrv 0.1.0"

def helpLines : List String :=
  [versionLine ++ " - Console connection and session server",
   "",
   "Usage: consrv [OPTIONS]",
   "",
   "Session options:",
   "  --headless               Run behind a pseudo-console, no window",
   "  --server                 Host the session here, never hand off",
   "  --force-no-handoff       Disable handoff",
   "  --embedding              Started by another console as a handoff target",
   "  --handoff-target <CLSID> Terminal to delegate new sessions to",
   "",
   "Other options:",
   "  --self-check             Run a scripted session against the loopback transport",
   "  -v, --verbose            Debug logging",
   "  --version                Show version",
   "  -h, --help               Show this help",
   "",
   "Configuration: ~/.consrv/config.toml",
   "Log file:      ~/.consrv/consrv.log"]

/-- What the program prints and how it exits. -/
structure Response where
  exitCode : Nat
  output : String
  errors : String
  deriving DecidableEq

def complain (exitCode : Nat) (lines : List String) : Response := ⟨exitCode, "", Text.ofLines lines⟩

def misused (message : String) : Response :=
  complain 1 ["Error: " ++ message, "Use --help for usage information"]

def stopped : Stop → Response
  | .help => complain 0 helpLines
  | .version => complain 0 [versionLine]
  | .missingTarget => misused "Missing CLSID argument"
  | .invalidTarget text reason => misused ("Invalid CLSID " ++ text ++ ": " ++ reason)
  | .unknownArgument text => misused ("Unknown argument: " ++ text ++ ". Use -h for help.")

/-- There is no driver to serve, so only the self-check can be run. -/
def perform (a : Arguments) (s : Settings) (pid : UInt32) : Response :=
  if a.selfCheck then
    let result := SelfCheck.run (a.options s) s.historyBuffers pid
    match result.failure with
    | none => ⟨0, Text.ofLines result.lines, ""⟩
    | some failure => ⟨1, Text.ofLines result.lines, Text.ofLines ["Error: " ++ failure]⟩
  else
    complain 1
      ["consrv: no driver transport is linked into this build.",
       "Use --self-check to exercise the server against the loopback transport."]

/-- The whole program: from its arguments, its settings and its process identifier. -/
def respond (read : Clsid.Reader) (words : List String) (s : Settings) (pid : UInt32) : Response :=
  match Arguments.parse read words with
  | .error stop => stopped stop
  | .ok a => perform a s pid

end CommandLine

end ConsoleHost
