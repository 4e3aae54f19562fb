import JavaCallGraph.Command

/-!
# The program

Reads the files that a command can need, runs the command on them, writes the files that it changed and
prints what it says.

* `loadDisk` — the files that a command can need.
* `changedFiles` — what a command changed.
* `main` — the program.
-/

namespace JavaCallGraph

/-! ## Reading the disk -/

def ignoreFiles : List String := [".gitignore", ".ignore", ".git/info/exclude"]

/-- Is the content of a file with this name ever read? -/
def isReadByName (name : String) : Bool :=
  Path.isJava name || (ignoreFiles.map fun path => (Path.fileName? path).getD "").contains name ||
    name == Disk.settingsFile

def loadFile (path : String) : IO (List (String × Option FileData)) := do
  try
    return [(path, some (.ofBytes (← IO.FS.readBinFile path)))]
  catch _ =>
    return []

/-- A folder and all below it, if there is one. Links are passed over. -/
partial def loadFolder (path : String) : IO (List (String × Option FileData)) := do
  try
    let mut listing := [(path, none)]
    for entry in ← (← IO.FS.realPath path).readDir do
      let place := Path.join path entry.fileName
      let data ← entry.path.symlinkMetadata
      match data.type with
      | .dir => listing := listing ++ (← loadFolder place)
      | .file =>
        if isReadByName entry.fileName then listing := listing ++ (← loadFile place)
        else listing := listing ++ [(place, some ⟨data.byteSize.toNat, none, none⟩)]
      | _ => pure ()
    return listing
  catch _ =>
    return []

def loadPath (path : String) : IO (List (String × Option FileData)) := do
  if ← (← (IO.FS.realPath path).catchExceptions fun _ => pure path).isDir then loadFolder path
  else loadFile path

def foldersAround (path : String) : List String :=
  (Path.names path).foldl (fun folders name =>
    folders ++ [Path.join ((folders.getLast?).getD "/") name]) ["/"]

def fromHere (here path : String) : String := Path.join here path

def loadForAnalysis (here : String) (o : AnalyzeOptions) : IO (List (String × Option FileData)) := do
  let root := fromHere here o.root
  let mut listing ← loadPath root
  for folder in foldersAround root do
    for name in ignoreFiles do
      listing := listing ++ (← loadFile (Path.join folder name))
  if let some path := o.settings then
    listing := listing ++ (← loadFile (fromHere here path))
  let disk : Disk := ⟨"/", .ofListing listing, Path.names here⟩
  if let .ok settings := disk.settingsFor o root then
    for path in settings.libraryPaths do
      listing := listing ++ (← loadPath (disk.libraryPath root path))
    let output := fromHere here o.output
    for name in [graphFile settings.output.format, snippetsFile, endpointsFile] do
      listing := listing ++ (← loadFile (Path.join output name))
    listing := listing ++ (← loadFile output)
  return listing

def loadDisk (here : String) : Command → IO Disk
  | .analyze o => return ⟨"/", .ofListing (← loadForAnalysis here o), Path.names here⟩
  | .callees graph _ _ | .callers graph _ => do
    return ⟨"/", .ofListing (← loadPath (fromHere here graph)), Path.names here⟩
  | .context folder _ => do
    let mut listing := []
    for name in [graphFile .json, graphFile .yaml, snippetsFile] do
      listing := listing ++ (← loadFile (Path.join (fromHere here folder) name))
    return ⟨"/", .ofListing listing, Path.names here⟩

/-! ## Writing the disk -/

def changedFiles (before after : FileTree) : List (List String × FileData) :=
  after.files.filter fun (names, data) =>
    match before.at? names with
    | some (.file old) => old != data
    | _ => true

def saveChanges (before after : Disk) : IO Unit := do
  for (names, data) in changedFiles before.tree after.tree do
    if let some text := data.text? then
      IO.FS.createDirAll (after.pathOf names.dropLast)
      IO.FS.writeFile (after.pathOf names) text

def Outcome.emit (o : Outcome) : IO UInt32 := do
  (← IO.getStdout).putStr o.stdout
  (← IO.getStderr).putStr o.stderr
  return o.code.toUInt32

end JavaCallGraph

open JavaCallGraph in
def main (args : List String) : IO UInt32 := do
  match Request.ofArguments args with
  | .error stop => (Outcome.ofStop stop).emit
  | .ok request =>
    let before ← loadDisk (← IO.currentDir).toString request.command
    let start ← IO.monoMsNow
    let (after, result) ← IO.lazyPure fun _ => request.command.run before
    let elapsed := (← IO.monoMsNow) - start
    saveChanges before after
    (Outcome.ofResult request.json elapsed result).emit
