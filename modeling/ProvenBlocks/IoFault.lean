/-!
Failures of files and writers. A system failure carries the text of its error number; a reported
one is made by a writer or reader of this library.
-/

namespace ProvenBlocks

inductive SystemFault where
  | noEntry
  | alreadyExists
  | notDirectory
  | isDirectory
  | busy
  | invalidArgument
  | nameTooLong
  | notEmpty
  deriving DecidableEq

inductive IoKind where
  | notFound
  | alreadyExists
  | notADirectory
  | isADirectory
  | resourceBusy
  | invalidFilename
  | directoryNotEmpty
  | invalidInput
  | unexpectedEof
  | other
  deriving DecidableEq

def IoKind.name : IoKind → String
  | .notFound => "NotFound"
  | .alreadyExists => "AlreadyExists"
  | .notADirectory => "NotADirectory"
  | .isADirectory => "IsADirectory"
  | .resourceBusy => "ResourceBusy"
  | .invalidFilename => "InvalidFilename"
  | .directoryNotEmpty => "DirectoryNotEmpty"
  | .invalidInput => "InvalidInput"
  | .unexpectedEof => "UnexpectedEof"
  | .other => "Other"

inductive IoFault where
  | system (fault : SystemFault)
  | reported (kind : IoKind) (text : String)
  deriving DecidableEq

def SystemFault.message : SystemFault → String
  | .noEntry => "No such file or directory (os error 2)"
  | .alreadyExists => "File exists (os error 17)"
  | .notDirectory => "Not a directory (os error 20)"
  | .isDirectory => "Is a directory (os error 21)"
  | .busy => "Device or resource busy (os error 16)"
  | .invalidArgument => "Invalid argument (os error 22)"
  | .nameTooLong => "File name too long (os error 36)"
  | .notEmpty => "Directory not empty (os error 39)"

def SystemFault.kind : SystemFault → IoKind
  | .noEntry => .notFound
  | .alreadyExists => .alreadyExists
  | .notDirectory => .notADirectory
  | .isDirectory => .isADirectory
  | .busy => .resourceBusy
  | .invalidArgument => .invalidInput
  | .nameTooLong => .invalidFilename
  | .notEmpty => .directoryNotEmpty

def IoFault.message : IoFault → String
  | .system fault => fault.message
  | .reported _ text => text

def IoFault.kind : IoFault → IoKind
  | .system fault => fault.kind
  | .reported kind _ => kind

/-- No file name holds a zero character, so such a path is never handed to the system. -/
def IoFault.zeroInPath : IoFault :=
  .reported .invalidInput "file name contained an unexpected NUL byte"

end ProvenBlocks
