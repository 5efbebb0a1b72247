import JuryCaptions.Service.Video
import JuryCaptions.Service.Wire
import JuryCaptions.Cli.Run
/-!
Running the `captioner` program in the scratch directory, with log level
`error`. The answer is the output, the exit code, the last error line on
failure and the files changed outside the log directory.
-/

namespace JuryCaptions
namespace Service

open Cli

def listenerAddr : String := "127.0.0.1:40467"

def listenerShown : String := "<addr>"

def lastLine (s : String) : String :=
  let body := String.ofList (s.toList.reverse.dropWhile (· == '\n')).reverse
  ((body.splitOn "\n").getLastD "")

def exitMembers (c : Console) : Exit → Handled (List (String × Json))
  | .code 0 => pure [("exit_code", .nat 0)]
  | .code n => pure [("exit_code", .nat n), ("error_line", .str (lastLine c.err))]
  | .crash message => pure [("exit_code", .nat 2), ("error_line", .str ("panic: " ++ message))]
  | .serving _ => throw (badInput "serving never ends")

def commandLine (args : List String) : List String :=
  ["--config-dir", scratchRoot, "--log-level", "error"] ++ args

def cliOp (r : Json) : Handled Json := do
  let given ← Req.obj r "files"
  let texts ← Req.table given "files"
  let runnable ← Req.strs r "executable"
  let args ← Req.strs r "args"
  let hideWritten ← Req.bool r "hide_written"
  let files := texts.foldl (fun fs (n, t) => fs.create (scratchRoot ++ "/" ++ n) t (runnable.contains n)) scratchFiles
  let (c, exit) := execute unreachable { files := files, cwd := scratchRoot } (commandLine (args.map enterScratch))
  let ending ← exitMembers c exit
  let written := (c.files.changedSince files scratchRoot).filter fun (n, _) => !n.startsWith "logs/"
  pure (showScratch (answer ([("stdout", .str c.out)] ++ ending ++
    (if hideWritten then [] else [("written", .obj (written.map fun (n, t) => (n, Json.str t)))]))))

def cliClientOp (r : Json) : Handled Json := do
  let frames ← Req.list r "frames"
  let _ ← frames.mapM frameBodyOf
  let _ ← Req.hex r "tail_hex"
  let args ← Req.strs r "args"
  let suffix ← Req.strD r "suffix" ""
  let target ← Req.strD r "target" (listenerAddr ++ suffix)
  let (c, exit) := execute unreachable { files := scratchFiles, cwd := scratchRoot }
    (commandLine ("client" :: target :: args))
  let ending ← exitMembers c exit
  pure ((answer ([("stdout", .str c.out)] ++ ending)).mapText (·.replace listenerAddr listenerShown))

end Service
end JuryCaptions
