import SceneBench.Storage.Path

/-!
# What can go wrong with files

The operating system reports an error as a kind and a text. A file operation adds the step that
failed and the path it was about.
-/

namespace SceneBench

/-- The kinds of error that the operating system tells apart. -/
inductive ErrorKind where
  | notFound
  | alreadyExists
  | notADirectory
  | isADirectory
  | directoryNotEmpty
  | invalidFilename
  | filesystemLoop
  | storageFull
  | resourceBusy
  | invalidInput
  | interrupted
  | device (title : String)
  deriving DecidableEq, Repr

/-- The name of a kind in messages. -/
def ErrorKind.title : ErrorKind → String
  | notFound => "NotFound"
  | alreadyExists => "AlreadyExists"
  | notADirectory => "NotADirectory"
  | isADirectory => "IsADirectory"
  | directoryNotEmpty => "DirectoryNotEmpty"
  | invalidFilename => "InvalidFilename"
  | filesystemLoop => "FilesystemLoop"
  | storageFull => "StorageFull"
  | resourceBusy => "ResourceBusy"
  | invalidInput => "InvalidInput"
  | interrupted => "Interrupted"
  | device title => title

/-- The kind of a given name. -/
def ErrorKind.ofTitle (title : String) : ErrorKind :=
  let known : List ErrorKind :=
    [notFound, alreadyExists, notADirectory, isADirectory, directoryNotEmpty, invalidFilename,
      filesystemLoop, storageFull, resourceBusy, invalidInput, interrupted]
  (known.find? fun kind => kind.title = title).getD (device title)

/-- An error of the operating system. -/
structure OsError where
  kind : ErrorKind
  message : String
  deriving DecidableEq, Repr

namespace OsError

def notFound : OsError := ⟨.notFound, "No such file or directory (os error 2)"⟩

def alreadyExists : OsError := ⟨.alreadyExists, "File exists (os error 17)"⟩

def notADirectory : OsError := ⟨.notADirectory, "Not a directory (os error 20)"⟩

def isADirectory : OsError := ⟨.isADirectory, "Is a directory (os error 21)"⟩

def invalidArgument : OsError := ⟨.invalidInput, "Invalid argument (os error 22)"⟩

def storageFull : OsError := ⟨.storageFull, "No space left on device (os error 28)"⟩

def resourceBusy : OsError := ⟨.resourceBusy, "Device or resource busy (os error 16)"⟩

def nameTooLong : OsError := ⟨.invalidFilename, "File name too long (os error 36)"⟩

def directoryNotEmpty : OsError := ⟨.directoryNotEmpty, "Directory not empty (os error 39)"⟩

def tooManyLinks : OsError :=
  ⟨.filesystemLoop, "Too many levels of symbolic links (os error 40)"⟩

/-- A name that the operating system cannot be asked about at all. -/
def nulInName : OsError := ⟨.invalidInput, "file name contained an unexpected NUL byte"⟩

/-- There is nowhere to make a directory. -/
def noPlace : OsError := ⟨.device "Uncategorized", "failed to create whole tree"⟩

/-- The answer to a size query of something that has no size. -/
def notARegularFile (p : Path) : OsError := ⟨.invalidInput, p.text ++ " is not a regular file"⟩

end OsError

/-- Why a file operation failed. -/
inductive FileError where
  | sizeQuery (path : Path) (cause : OsError)
  | opening (path : Path) (cause : OsError)
  | writing (path : Path) (cause : OsError)
  | createDirectory (path : Path) (cause : OsError)
  | removeDirectory (path : Path) (cause : OsError)
  | notADirectory (path : Path)
  | workingDirectory (cause : OsError)
  deriving DecidableEq, Repr

namespace FileError

/-- The error of the operating system behind a failure, if there was one. -/
def cause? : FileError → Option OsError
  | sizeQuery _ e | opening _ e | writing _ e | createDirectory _ e | removeDirectory _ e
  | workingDirectory e => some e
  | notADirectory _ => none

def message : FileError → String
  | sizeQuery p e => "failed to query size of " ++ p.text ++ ": " ++ e.message
  | opening p e => "failed to open " ++ p.text ++ ": " ++ e.message
  | writing p e => "failed to write " ++ p.text ++ ": " ++ e.message
  | createDirectory p e => "failed to create directory " ++ p.text ++ ": " ++ e.message
  | removeDirectory p e => "failed to remove directory " ++ p.text ++ ": " ++ e.message
  | notADirectory p => p.text ++ " is not a directory"
  | workingDirectory e => "working directory error: " ++ e.message

/-- The message, and after it that of the operating system's error behind it. -/
def chain (e : FileError) : List String := e.message :: (e.cause?.map OsError.message).toList

end FileError

end SceneBench
