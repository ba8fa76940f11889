import PhoneAccounts.Command.Run

/-!
Contract: the command on the real files and the real console.

Owns: `main`, which reads the files that the arguments name, carries out the command on
them, writes back a state file that has changed, and shows the lines.

Does not own: any decision (see `PhoneAccounts.Command.Run`).
-/

namespace PhoneAccounts.Command

def namedPaths : Request → List String
  | .perform order => [order.stateFile, order.settingsFile].filter (· ≠ "")
  | _ => []

/-- The places on the way to a path, and the path itself. -/
def placesOn (path : FilePath) : List FilePath :=
  (List.range path.parts.length).map fun count => ⟨path.slashes, path.parts.take (count + 1)⟩

def readPlace (files : Entry) (place : FilePath) : IO Entry := do
  let real := (← IO.currentDir) / place.text
  if ← real.isDir then
    return (files.makeDirectory? place.parts).getD files
  else if ← real.pathExists then
    let content ← IO.FS.readBinFile real
    return (files.write? content.toList place.parts).getD files
  else
    return files

def readFiles (request : Request) : IO Entry :=
  ((namedPaths request).flatMap fun text => placesOn (FilePath.ofText text)).foldlM
    readPlace Entry.emptyDirectory

/-- Writes a file that has changed, all of it or nothing. -/
def writeChange (before after : Entry) (path : FilePath) : IO Unit := do
  match before.read path.parts, after.read path.parts with
  | .ok old, .ok new =>
      if old ≠ new then
        let real := (← IO.currentDir) / path.text
        let fresh := (← IO.currentDir) / (path.text ++ ".tmp")
        IO.FS.writeBinFile fresh ⟨new.toArray⟩
        IO.FS.rename fresh real
  | _, _ => return

/-- Width of a screen that does not say its own. -/
def usualWidth : Nat := 80

/-- The words for a command that does not end well. -/
def complaint? : Ending → Option String
  | .done => none
  | .refused => none
  | .misused => helpLines.head?
  | .stopped (.settings fault) => some (fault.message?.getD "The settings cannot be read")
  | .stopped (.stateFile _) => some "The state file cannot be worked on"
  | .stopped (.display _) => some "A message cannot be shown"

end PhoneAccounts.Command

open PhoneAccounts PhoneAccounts.Command in
def main (arguments : List String) : IO UInt32 := do
  let home := FilePath.ofText ((← IO.getEnv "HOME").getD "")
  let request := Request.ofArguments arguments
  let before ← readFiles request
  let width := ((← IO.getEnv "COLUMNS").bind String.toNat?).getD usualWidth
  let response := answer (.ofWidth width) home request before
  for text in namedPaths request do
    writeChange before response.files (FilePath.ofText text)
  for line in response.lines do
    IO.println (String.ofList line)
  if let some words := complaint? response.ending then
    IO.eprintln words
  return response.ending.exitCode.toUInt32
