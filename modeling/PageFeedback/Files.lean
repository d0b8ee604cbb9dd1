set_option autoImplicit false

namespace PageFeedback

inductive File
  | missing
  | directory
  -- Nothing can be there, because a file stands on the way.
  | blocked
  | overlong
  | stream (bytes : List UInt8)
  | content (bytes : List UInt8)
deriving DecidableEq

-- Why the system does not let a path be followed or a file be read.
inductive Refusal
  | permissionDenied
  | linkLoop
  | other (reason : String)
deriving DecidableEq, Repr

def Refusal.reason : Refusal → String
  | permissionDenied => "Permission denied (os error 13)"
  | linkLoop => "Too many levels of symbolic links (os error 40)"
  | other reason => reason

inductive FileFault
  | notFound
  | isDirectory
  | notDirectory
  | nameTooLong
  | refused (refusal : Refusal)
  | notUtf8
deriving DecidableEq, Repr

def FileFault.reason : FileFault → String
  | notFound => "No such file or directory (os error 2)"
  | isDirectory => "Is a directory (os error 21)"
  | notDirectory => "Not a directory (os error 20)"
  | nameTooLong => "File name too long (os error 36)"
  | refused refusal => refusal.reason
  | notUtf8 => "stream did not contain valid UTF-8"

def FileFault.message (fault : FileFault) : String := s!"io error: {fault.reason}"

namespace File

def read : File → Except FileFault (List UInt8)
  | missing => .error .notFound
  | directory => .error .isDirectory
  | blocked => .error .notDirectory
  | overlong => .error .nameTooLong
  | stream bytes => .ok bytes
  | content bytes => .ok bytes

def append : File → List UInt8 → File
  | content bytes, more => content (bytes ++ more)
  | other, _ => other

def write? : File → List UInt8 → Option File
  | missing, bytes => some (content bytes)
  | content _, bytes => some (content bytes)
  | stream given, _ => some (stream given)
  | directory, _ => none
  | blocked, _ => none
  | overlong, _ => none

end File

-- What comes of opening a path. A refused path may still be known to lead to a file.
inductive Access
  | granted (file : File)
  | refused (isFile : Bool) (refusal : Refusal)
deriving DecidableEq

instance : Coe File Access := ⟨.granted⟩

namespace Access

@[match_pattern] abbrev missing : Access := granted .missing

@[match_pattern] abbrev content (bytes : List UInt8) : Access := granted (.content bytes)

def isFile : Access → Bool
  | content _ => true
  | granted _ => false
  | refused isFile _ => isFile

def read : Access → Except FileFault (List UInt8)
  | granted file => file.read
  | refused _ refusal => .error (.refused refusal)

def append : Access → List UInt8 → Access
  | granted file, more => granted (file.append more)
  | refused isFile refusal, _ => refused isFile refusal

end Access

end PageFeedback
