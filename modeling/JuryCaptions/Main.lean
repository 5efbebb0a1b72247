import JuryCaptions.Cli.Run
/-!
The `captioner` command line: the files a command line may read are loaded into
a file tree at the working directory, the program runs on it, and the files it
made or changed are written back. Programs run in the built-in shell.
-/

open JuryCaptions

def loadInputs (cwd : String) (paths : List String) : IO Files := do
  let mut files := Files.system.mkdirAll cwd
  for p in paths do
    let full := if p.startsWith "/" then Path.clean p else Path.join [cwd, p]
    try
      let text ← IO.FS.readFile full
      files := files.create full text true
    catch _ => pure ()
  return files

def storeOutputs (before after : Files) : IO Unit := do
  for (p, e) in after.entries do
    match e with
    | .file text _ =>
      if before.get? p != some e then
        IO.FS.createDirAll (Path.dir p)
        IO.FS.writeFile p text
    | _ => pure ()

def main (args : List String) : IO UInt32 := do
  let cwd := Path.clean (← IO.currentDir).toString
  let files ← loadInputs cwd (Cli.inputsOf args)
  let (c, exit) := Cli.execute Cli.unreachable { files := files, cwd := cwd } args
  storeOutputs files c.files
  IO.print c.out
  IO.eprint c.err
  match exit with
  | .code n => return n.toUInt32
  | .crash _ => return 2
  | .serving addr =>
    IO.eprintln ("serving at " ++ addr ++ " needs a network, which this build does not have")
    return 1
