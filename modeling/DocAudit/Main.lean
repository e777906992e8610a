import DocAudit.CommandLine

set_option autoImplicit false

namespace DocAudit.CommandLine

def bytes? (path : String) : IO (Option ByteArray) := do
  try
    pure (some (← IO.FS.readBinFile path))
  catch _ => pure none

def listing? (path : String) : IO (Option (List String)) := do
  try
    let place ← IO.FS.realPath path
    pure (some ((← place.readDir).toList.map (·.fileName)))
  catch _ => pure none

def isDirectory (path : String) : IO Bool := do
  try
    let place ← IO.FS.realPath path
    place.isDir
  catch _ => pure false

def unreadableBytes : ByteArray := ⟨#[255]⟩

partial def picture (path : String) : IO FileTree := do
  match ← listing? path with
  | none =>
    if ← isDirectory path then pure .closed
    else pure (.file ((← bytes? path).getD unreadableBytes))
  | some names =>
    let mut entries := #[]
    for name in names do
      entries := entries.push (name.toList, ← picture (path ++ "/" ++ name))
    pure (.directory entries.toList)

def addPicture (files : FileSystem) (path : Path) : IO FileSystem := do
  let text := (files.absolute path).toString
  let isThere := (← bytes? text).isSome || (← isDirectory text)
  if isThere then pure (files.put path (← picture text)) else pure files

def addSettings (files : FileSystem) (path : Path) : IO FileSystem := do
  match ← bytes? (files.absolute path).toString with
  | some content => pure (files.put path (.file content))
  | none => pure files

def isSpecial (c : Char) : Bool := c == '*' || c == '?' || c == '['

def fixedPart (path : Path) : Path :=
  let front := path.text.takeWhile fun c => !isSpecial c
  if front.length == path.text.length then path
  else ⟨(front.reverse.dropWhile (· != '/')).reverse⟩

def pictureFor (environment : Environment) (settingsFile : Option Path) (command : Command)
    (start : FileSystem) : IO FileSystem := do
  let mut files := start
  match command with
  | .listRules => pure files
  | .init _ => addPicture files SettingsLookup.fileName
  | .check options =>
    let root := fixedPart (files.absolute options.path)
    files ← addPicture files root
    for directory in root.ancestors do
      for name in [SettingsLookup.fileName, SettingsLookup.hiddenFileName] do
        files ← addSettings files (directory.join name)
    for directory in (SettingsLookup.userDirectory? environment).toList do
      files ← addSettings files (directory.join SettingsLookup.userFileName)
    for path in settingsFile.toList do
      files ← addSettings files path
    pure files

def environmentNow : IO Environment := do
  let mut bindings := []
  for name in ["HOME", "DOCLINT_CONFIG", "DOCLINT_CONFIG_DIR"] do
    if let some value ← IO.getEnv name then
      bindings := (name, value) :: bindings
  pure ⟨bindings⟩

end DocAudit.CommandLine

open DocAudit DocAudit.CommandLine in
def main (words : List String) : IO UInt32 := do
  let environment ← environmentNow
  let workingDirectory := Path.ofString (toString (← IO.currentDir))
  let start : FileSystem := FileSystem.put ⟨.empty, workingDirectory⟩ workingDirectory .empty
  let files ←
    match Invocation.ofWords environment words with
    | .run settingsFile command => pictureFor environment settingsFile command start
    | _ => pure start
  let outcome := DocAudit.CommandLine.run files environment words
  for warning in outcome.warnings do
    IO.eprintln (" WARN " ++ warning.text)
  for entry in outcome.written do
    IO.FS.writeFile entry.1.toString entry.2
  IO.print outcome.output
  if let some failure := outcome.failure then
    IO.eprintln ("Error: " ++ failure.message)
  pure outcome.exitCode.toUInt32
