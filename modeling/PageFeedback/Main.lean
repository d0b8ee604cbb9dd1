import PageFeedback.CommandLine.Run
import PageFeedback.Log.Clock
import Std.Time.DateTime.Timestamp

set_option autoImplicit false

namespace PageFeedback

-- The number of a failure, which may come with its sign reversed.
def failureNumber (code : UInt32) : UInt32 := min code (0 - code)

def Refusal.ofCode (code : UInt32) (details : String) : Refusal :=
  match (failureNumber code).toNat with
  | 13 => .permissionDenied
  | 40 => .linkLoop
  | number => .other s!"{details} (os error {number})"

def accessOfError (isFile : Bool) (error : IO.Error) : Access :=
  let ofCode (code : UInt32) (details : String) : Access :=
    match (failureNumber code).toNat with
    | 2 => .missing
    | 20 => .granted .blocked
    | 21 => .granted .directory
    | 36 => .granted .overlong
    | _ => .refused isFile (Refusal.ofCode code details)
  match error with
  | .alreadyExists _ code details | .interrupted _ code details | .noFileOrDirectory _ code details
  | .invalidArgument _ code details | .permissionDenied _ code details
  | .resourceExhausted _ code details | .inappropriateType _ code details
  | .noSuchThing _ code details => ofCode code details
  | .otherError code details | .resourceBusy code details | .resourceVanished code details
  | .unsupportedOperation code details | .hardwareFault code details
  | .unsatisfiedConstraints code details | .illegalOperation code details
  | .protocolError code details | .timeExpired code details => ofCode code details
  | .unexpectedEof => .refused isFile (.other "unexpected end of file")
  | .userError message => .refused isFile (.other message)

def isFileAt (path : String) : IO Bool := do
  try
    let found ← (System.mkFilePath [path]).metadata
    return match found.type with
      | .file => true
      | _ => false
  catch _ => return false

def readPath (path : String) : IO Access := do
  let isFile ← isFileAt path
  try
    let bytes ← IO.FS.readBinFile path
    return .granted (if isFile then .content bytes.toList else .stream bytes.toList)
  catch error => return accessOfError isFile error

def realPath? (path : String) : IO (Option String) := do
  try
    let real ← IO.FS.realPath path
    return some real.toString
  catch _ => return none

def faultOfError (error : IO.Error) : FileFault :=
  match (accessOfError false error).read with
  | .error fault => fault
  | .ok _ => .notFound

def openForLog (path : String) : IO (Except FileFault IO.FS.Handle) := do
  try
    let handle ← IO.FS.Handle.mk path .append
    return .ok handle
  catch error => return .error (faultOfError error)

def pathsOf (request : Request) (configPath : String) : List String :=
  match request with
  | .invoke invocation =>
      let transcript := match invocation.command with
        | .replay options => [options.transcript]
        | .settings _ => []
      invocation.common.config.getD configPath :: transcript
  | _ => []

def logFileOf : Request → Option String
  | .invoke invocation => invocation.common.logFile
  | _ => none

def timeNow : IO String := do
  let now ← Std.Time.Timestamp.now
  return timestampText (now.toNanosecondsSinceUnixEpoch.val / 1000).toNat

def longestPause : Nat := 2 ^ 31

def sleepFor (milliseconds : Nat) : IO Unit := do
  for _ in List.range (milliseconds / longestPause) do
    IO.sleep (UInt32.ofNat longestPause)
  IO.sleep (UInt32.ofNat (milliseconds % longestPause))

def writeTo (stream : IO.FS.Stream) (text : String) : IO Unit := do
  stream.putStr text
  stream.flush

def perform (style : LogStyle) (log : Option IO.FS.Handle) : Effect → IO Unit
  | .print text => do writeTo (← IO.getStdout) text
  | .complain text => do writeTo (← IO.getStderr) text
  | .pause milliseconds => sleepFor milliseconds
  | .log entry => do
      let line := style.line (← timeNow) entry
      match log with
      | some handle => handle.putStr line; handle.flush
      | none => writeTo (← IO.getStderr) line

def serve (request : Request) : IO UInt32 := do
  let known ← ["HOME", "XDG_CONFIG_HOME", "RUST_LOG"].mapM fun name => do
    return (name, ← IO.getEnv name)
  let environment (name : String) : Option String := (known.lookup name).join
  let opened ← (logFileOf request).mapM openForLog
  let (log, fault) : Option IO.FS.Handle × Option FileFault := match opened with
    | some (.ok handle) => (some handle, none)
    | some (.error fault) => (none, some fault)
    | none => (none, none)
  let paths := pathsOf request (defaultConfigPath environment)
  let files ← paths.mapM fun path => do return (path, ← readPath path)
  let places ← ("/dev/stdout" :: (logFileOf request).toList ++ paths).mapM fun path => do
    return (path, ← realPath? path)
  let world : World := {
    file := fun path => (files.lookup path).getD .missing
    environment
    onTerminal := ← (← IO.getStderr).isTty
    appendFault := fun _ => fault
    sameFile := fun one other => one == other ||
      match (places.lookup one).join, (places.lookup other).join with
      | some place, some second => place == second
      | _, _ => false
    time := ← timeNow }
  let run := request.run world
  run.effects.forM (perform run.style log)
  return UInt32.ofNat run.exitCode

end PageFeedback

def main (arguments : List String) : IO UInt32 :=
  PageFeedback.serve (PageFeedback.Arguments.read arguments)
