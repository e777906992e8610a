import DocAudit.FileTree
import DocAudit.SettingsFile

set_option autoImplicit false

namespace DocAudit

structure Environment where
  bindings : List (String × String)

def Environment.get? (environment : Environment) (name : String) : Option String :=
  (environment.bindings.find? (·.1 == name)).map (·.2)

namespace SettingsLookup

def fileName : Path := Path.ofString "doclint.toml"

def hiddenFileName : Path := Path.ofString ".doclint.toml"

def userFileName : Path := Path.ofString "config.toml"

def userDirectory? (environment : Environment) : Option Path :=
  match environment.get? "DOCLINT_CONFIG_DIR" with
  | some directory => some (.ofString directory)
  | none =>
    (environment.get? "HOME").map fun home => (Path.ofString home).join (.ofString ".doclint")

def fileIn? (files : FileSystem) (directory : Path) : Option Path :=
  ([fileName, hiddenFileName].map directory.join).find? files.isFile

/-- The nearest file at or above a path. A path that leads nowhere is climbed as it is written. -/
def projectFile? (files : FileSystem) (start : Path) : Option Path :=
  ((files.canonical? start).getD start).ancestors.findSome? (fileIn? files)

def userFile? (files : FileSystem) (environment : Environment) : Option Path :=
  ((userDirectory? environment).map fun directory => directory.join userFileName).filter
    files.isFile

def find? (files : FileSystem) (environment : Environment) (start : Path) (explicit : Option Path) :
    Option Path :=
  explicit <|> projectFile? files start <|> userFile? files environment

def load? (files : FileSystem) : Option Path → Option Settings
  | none => some .empty
  | some path => (files.read? path).bind fun text => (Settings.parse text).toOption

end SettingsLookup

end DocAudit
