import DoomPatch.CommandLine
import Std.Time.DateTime.Timestamp

/-!
# The program

Hands the files, the environment and the time to a call, and writes down what it answers.
-/

open DoomPatch

/-- What stands at a place on the disk: a file with its text, or a directory. -/
def diskEntry? (p : Path) : IO (Option FileEntry) := do
  if ← ((← IO.currentDir) / p.text).isDir then return some .directory
  try
    return some (.file (← IO.FS.readFile p.text))
  catch _ =>
    return none

/-- Adds what stands at a place on the disk, and on the way to it. -/
def readPlace (t : FileTree) (p : Path) : IO FileTree :=
  p.trail.foldlM (fun t q => do
    match ← diskEntry? q with
    | some e => return t.put q e
    | none => return t) t

/-- Adds what stands in a directory on the disk. -/
def readDirectory (t : FileTree) (p : Path) : IO FileTree := do
  let t ← readPlace t p
  if t.isDirectory p then
    (← ((← IO.currentDir) / p.text).readDir).foldlM (fun t e => readPlace t (p.join e.fileName)) t
  else return t

/-- Writes a directory to the disk in place of what stands there. -/
def writeDirectory (t : FileTree) (p : Path) : IO Unit := do
  try IO.FS.removeDirAll p.text catch _ => pure ()
  IO.FS.createDirAll p.text
  for (q, text) in t.filesBelow p do
    IO.FS.writeFile q.text text

/-- A random tag: 122 random bits in groups of hexadecimal digits. -/
def randomTag : IO String := do
  let bytes ← IO.getRandomBytes 16
  let marked := bytes.toList.zipIdx.map fun (b, i) =>
    if i = 6 then (b &&& 0x0f) ||| 0x40 else if i = 8 then (b &&& 0x3f) ||| 0x80 else b
  let groups := [(0, 4), (4, 2), (6, 2), (8, 2), (10, 6)].map fun (start, size) =>
    String.join (((marked.drop start).take size).map fun b => String.ofList (Text.hexPadded 2 b.toNat))
  return "-".intercalate groups

/-- The time. -/
def currentStamp : IO Stamp := do
  let now ← Std.Time.Timestamp.now
  let nanos := now.toNanosecondsSinceUnixEpoch.val
  return { seconds := nanos / 1000000000, nanos := (nanos % 1000000000).toNat }

/-- The variables that count. -/
def readEnvironment : IO Settings.Environment :=
  Settings.variableNames.filterMapM fun name => return (← IO.getEnv name).map (name, ·)

/-- The way to the working directory. -/
def readHome : IO FileTree := do
  let home := (Path.ofText (← IO.currentDir).toString).parts
  return (({ home } : FileTree).make ⟨.top, home⟩).1

/-- Carries out the call.  No hash server is reached from here. -/
def main (args : List String) : IO UInt32 := do
  let tag ← randomTag
  let files ← (CommandLine.namedFiles args).foldlM readPlace (← readHome)
  let world : World :=
    { medium := { files }, env := ← readEnvironment, names := { stem := "run", tag := fun _ => tag },
      now := ← currentStamp, reachable := false }
  let place? := CommandLine.runPlace? world args
  let files ← match place? with
    | some p => readDirectory files p
    | none => pure files
  let (after, outcome) := CommandLine.run { world with medium := { files } } args
  match place? with
  | some p =>
    if after.names.count ≠ world.names.count ∧ after.medium.files.isDirectory p then
      writeDirectory after.medium.files p
  | none => pure ()
  IO.print outcome.out
  IO.eprint outcome.err
  match outcome.fault with
  | none => return 0
  | some f =>
    IO.eprintln s!"Error: {f.text}"
    return 1
