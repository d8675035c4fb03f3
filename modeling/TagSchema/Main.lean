import TagSchema.Command.Run

/-!
# The program

The working directory is read into a file tree, the command runs on the tree, and the files that it
changed are written back.
-/

namespace TagSchema.Main

/-- Adds what lies in the current directory, below `loc`, to the tree. -/
partial def readTree (loc : FileTree.Location) (t : FileTree) : IO FileTree := do
  let mut u := t
  for entry in ← loc.foldl (· / ·) (← IO.currentDir) |>.readDir do
    let place := loc ++ [entry.fileName]
    if ← entry.path.isDir then
      u ← readTree place ((u.makeDirectory place).toOption.getD u)
    else if ← entry.path.pathExists then
      u := (u.writeFile place (← IO.FS.readBinFile entry.path).toList).toOption.getD u
  return u

/-- Writes the files of `after` that differ from those of `before`, and deletes those that are
gone. -/
def writeChanges (before after : FileTree) : IO Unit := do
  for loc in after.files do
    match after.file? loc with
    | some bytes =>
      if before.file? loc != some bytes then
        let path := "/".intercalate loc
        if loc.length > 1 then IO.FS.createDirAll ("/".intercalate loc.dropLast)
        IO.FS.writeBinFile path (ByteArray.mk bytes.toArray)
    | none => pure ()
  for loc in before.files do
    if (after.file? loc).isNone then IO.FS.removeFile ("/".intercalate loc)

def usage : String :=
  "Usage: gozodgen generate [paths] [options]\n" ++
  "       gozodgen init [options]\n" ++
  "       gozodgen check [paths] [options]\n"

end TagSchema.Main

open TagSchema in
/-- Runs the command line in the working directory. -/
def main (args : List String) : IO UInt32 := do
  let before ← Main.readTree [] FileTree.empty
  let (after, outcome) := Command.execute before args
  Main.writeChanges before after
  IO.print outcome.printed
  match outcome.failure with
  | some .usage => IO.eprint Main.usage
  | _ => IO.eprint (outcome.message.elim "" (· ++ "\n"))
  return outcome.exitCode.toUInt32
