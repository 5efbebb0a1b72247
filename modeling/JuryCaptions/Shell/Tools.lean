import JuryCaptions.Shell.Utility.Count
import JuryCaptions.Shell.Utility.Lines
import JuryCaptions.Shell.Utility.Sort
import JuryCaptions.Shell.Utility.Translate
import JuryCaptions.Shell.Utility.Sequence
import JuryCaptions.Shell.Utility.Names
import JuryCaptions.Shell.Utility.Tree
import JuryCaptions.Shell.Utility.Listing
import JuryCaptions.Shell.Utility.Dump
import JuryCaptions.Shell.Utility.Batch
import JuryCaptions.Shell.Utility.Expr
import JuryCaptions.Shell.Utility.Grep
import JuryCaptions.Shell.Utility.Sed
import JuryCaptions.Shell.Utility.Printf
import JuryCaptions.Shell.Utility.Cat
import JuryCaptions.Shell.Utility.Encode
import JuryCaptions.Shell.Utility.Checksum
import JuryCaptions.Shell.Utility.Join
import JuryCaptions.Shell.Utility.Tsort
import JuryCaptions.Shell.Utility.Numfmt
import JuryCaptions.Shell.Utility.Tabs
import JuryCaptions.Shell.Utility.Factor
import JuryCaptions.Shell.Utility.Stat
/-!
The programs of the system by name, for the runner to start.
-/

namespace JuryCaptions
namespace Shell

def obsolescent (name : String) (o : ToolOutcome) : ToolOutcome :=
  { o with writes := (2, name ++ ": warning: " ++ name ++ " is obsolescent\n") :: o.writes }

def tool? (name : String) : Option (ToolInput → List String → ToolOutcome) :=
  match name with
  | "wc" => some wcTool
  | "cat" => some catTool
  | "head" => some (headTail true)
  | "tail" => some (headTail false)
  | "basename" => some basenameTool
  | "dirname" => some dirnameTool
  | "seq" => some seqTool
  | "tr" => some trTool
  | "cut" => some cutTool
  | "sort" => some sortTool
  | "uniq" => some uniqTool
  | "expr" => some exprTool
  | "touch" => some touchTool
  | "mkdir" => some mkdirTool
  | "rm" => some rmTool
  | "rmdir" => some rmdirTool
  | "ls" => some lsTool
  | "cp" => some (copyTool false)
  | "mv" => some (copyTool true)
  | "tac" => some tacTool
  | "rev" => some revTool
  | "nl" => some nlTool
  | "paste" => some pasteTool
  | "fold" => some foldTool
  | "chmod" => some chmodTool
  | "uname" => some unameTool
  | "pwd" => some pwdTool
  | "realpath" => some (realpathTool false)
  | "readlink" => some (realpathTool true)
  | "grep" => some grepTool
  | "egrep" => some fun t args => obsolescent "egrep" (grepTool t ("-E" :: args))
  | "fgrep" => some fun t args => obsolescent "fgrep" (grepTool t ("-F" :: args))
  | "sed" => some sedTool
  | "printf" => some printfTool
  | "od" => some odTool
  | "yes" => some yesTool
  | "base64" => some (radixTool .base64)
  | "base32" => some (radixTool .base32)
  | "cksum" => some cksumTool
  | "sum" => some sumTool
  | "comm" => some commTool
  | "join" => some joinTool
  | "tsort" => some tsortTool
  | "numfmt" => some numfmtTool
  | "expand" => some expandTool
  | "unexpand" => some unexpandTool
  | "factor" => some factorTool
  | "stat" => some statTool
  | _ => (DigestKind.ofProgram name).map (digestTool name)

end Shell
end JuryCaptions
