import Stagehand.Repository.Config.Syntax
import Stagehand.System.Error
/-!
# Why a repository cannot be opened

Every way in which the search for a repository and its opening can fail, with its wording. A wording
ends in notes: the area of the failure and, for some failures, its kind.
-/

namespace Stagehand.Repository

/-- Why a configuration cannot be used. -/
inductive ConfigError
  /-- A line is misused. -/
  | misuse (what : Config.Misuse) (path : String) (line : Nat) (column : Option Nat)
  /-- A backslash stands before something that has no escaped form. -/
  | escape (rest : String)
  /-- Files include each other too deep. -/
  | tooDeep
  /-- The path of a file cannot be used. -/
  | unusablePath (path : String) (cause : SystemError)
  /-- A value is neither yes nor no. -/
  | notBoolean (value : String)
  /-- A value is no number of 32 bits. -/
  | notNumber (value : Option String)

/-- Why a repository cannot be opened. -/
inductive OpenError
  /-- The path holds a NUL. -/
  | nul
  /-- A path leads nowhere. -/
  | unresolved (path : String) (cause : SystemError)
  /-- A file `.git` does not name a directory. -/
  | malformedLink (path : String)
  /-- No place has a repository. -/
  | notFound (path : String)
  /-- A directory stands where a file was to be read. -/
  | directoryRead
  /-- A link leads above the root. -/
  | aboveRoot
  /-- The configuration cannot be used. -/
  | config (cause : ConfigError)
  /-- The repository has a later format. -/
  | laterFormat (version : Int)
  /-- The repository uses an extension that is not known. -/
  | unknownExtension (name : String)
  /-- The objects of the repository have a format that is not known. -/
  | unknownObjectFormat (format : String)
  /-- The configured work tree has an empty path. -/
  | emptyWorkTree
  /-- A place of the repository cannot be examined. -/
  | unexamined (path : String) (cause : SystemError)

/-- The note on a failure that means something was not found. -/
def notFoundNote : String := "; code=NotFound (-3)"

/-- A failure of the operating system in words, without its number. -/
def reason : SystemError → String
  | .numbered number => SystemError.wording number
  | .described text => text

namespace ConfigError

/-- The failure in words. -/
def message : ConfigError → String
  | .misuse what path line column =>
    let place := column.elim "" fun column => s!", column {column}"
    s!"failed to parse config file: {what.message} (in {path}:{line}{place}); class=Config (7)"
  | .escape rest => s!"invalid escape at {rest}; class=Config (7)"
  | .tooDeep => "maximum config include depth reached; class=Config (7)"
  | .unusablePath path cause =>
    s!"invalid path for filesystem '{path}': {reason cause}; class=Os (2); code=InvalidSpec (-12)"
  | .notBoolean value => s!"failed to parse '{value}' as a boolean value; class=Config (7)"
  | .notNumber value =>
    let shown := value.getD "(null)"
    s!"failed to parse '{shown}' as a 32-bit integer; class=Config (7)"

end ConfigError

namespace OpenError

/-- The failure in words. -/
def message : OpenError → String
  | .nul => "data contained a nul byte that could not be represented as a string"
  | .unresolved path cause =>
    let note := if cause = .noSuchEntry ∨ cause = .notADirectory then notFoundNote else ""
    s!"failed to resolve path '{path}': {reason cause}; class=Os (2)" ++ note
  | .malformedLink path =>
    s!"the \x60.git\x60 file at '{path}' is malformed; class=Repository (6)"
  | .notFound path =>
    s!"could not find repository at '{path}'; class=Repository (6)" ++ notFoundNote
  | .directoryRead => "requested file is a directory; class=Invalid (3)"
  | .aboveRoot => "cannot strip root component off url; class=Invalid (3)"
  | .config cause => cause.message
  | .laterFormat version =>
    s!"unsupported repository version {version}; only versions up to 1 are supported" ++
      "; class=Repository (6)"
  | .unknownExtension name => s!"unsupported extension name {name}; class=Repository (6)"
  | .unknownObjectFormat format =>
    s!"unknown object format '{format}'; class=Repository (6); code=Invalid (-21)"
  | .emptyWorkTree => "working directory cannot be set to empty path; class=Net (12)"
  | .unexamined path cause => s!"could not stat '{path}': {reason cause}; class=Os (2)"

end OpenError

end Stagehand.Repository
