import JuryCaptions.CommandLine.Help
import JuryCaptions.CommandLine.Complete
import JuryCaptions.CommandLine.Scripts
/-!
The command tree of the `captioner` program. The root takes the configuration
directory and a log level; its subcommands serve captions, run the caption
scene, merge and cut transcripts, act as a client, print the version or help,
and make completion scripts.
-/

namespace JuryCaptions
namespace Cli

open CommandLine

def appName : String := "captioner"

def version : String := "0.0.1"

/-- When the program was built; unknown unless the build says. -/
def buildDate : String := "unknown"

def configDirFlag : Flag :=
  { name := "config-dir", short := some 'c', kind := .text, default := ".",
    usage := "Directory containing captioner.cfg.json" }

def logLevelFlag : Flag :=
  { name := "log-level", kind := .text, default := "", usage := "Override the configured log level" }

def portFlag : Flag :=
  { name := "port", kind := .whole, default := "0", usage := "TCP port (default from config)" }

def serveMethodFlag : Flag :=
  { name := "method", short := some 'm', kind := .whole, default := "0", usage := "Rendering method" }

def serveCaptionsFlag : Flag :=
  { name := "captions", kind := .text, default := "", usage := "Caption script" }

def noWaitFlag : Flag :=
  { name := "no-wait", kind := .truth, default := "false", usage := "Start without waiting for the operator" }

def addrFlag : Flag :=
  { name := "addr", kind := .text, default := "", usage := "Listen address (default from config)" }

def viewCaptionsFlag : Flag :=
  { name := "captions", kind := .text, default := "", usage := "Caption script to play" }

def recordFlag : Flag :=
  { name := "record", kind := .truth, default := "true", usage := "Record targets and speaker positions" }

def viewMethodFlag : Flag :=
  { name := "method", short := some 'm', kind := .whole, default := "4",
    usage := "Rendering method stored with the recording" }

def sectionFlag : Flag :=
  { name := "section", kind := .whole, default := "0", usage := "Merge the transcripts of one section" }

def outFlag : Flag :=
  { name := "out", short := some 'o', kind := .text, default := "",
    usage := "Output file (default <dir>/merged_captions.json)" }

def videosFlag : Flag :=
  { name := "videos", kind := .text, default := "", usage := "Directory of <juror>.mp4 videos to cut" }

def ffmpegFlag : Flag :=
  { name := "ffmpeg", kind := .text, default := "ffmpeg", usage := "ffmpeg executable" }

def widthFlag : Flag :=
  { name := "width", short := some 'w', kind := .whole, default := "0",
    usage := "render the rolling two-line caption wrapped at this many characters instead of raw messages" }

def noDescriptionsFlag : Flag :=
  { name := "no-descriptions", kind := .truth, default := "false", usage := "disable completion descriptions" }

def serveCommand : Command :=
  .node
    { use := "serve"
      short := "Serve captions to one pair of glasses"
      long := "Loads the caption script, prints the connection QR code and waits for\n" ++
          "the glasses to connect. Once the operator presses ENTER the juror videos\n" ++
          "start together with the caption timeline.\n\n" ++
          "Rendering methods:\n" ++
          "  1 monitor only          5 who said what\n" ++
          "  2 global only           6 monitor and global with direction indicators\n" ++
          "  3 monitor and global    8 focused speaker only\n" ++
          "  4 global with direction indicators\n" ++
          "  9 focused speaker and global"
      flags := [portFlag, serveMethodFlag, serveCaptionsFlag, noWaitFlag]
      args := .none }
    []

def viewCommand : Command :=
  .node
    { use := "view"
      short := "Run the caption scene for a browser host"
      long := "Runs the headless caption scene and serves it over WebSocket at /ws.\n" ++
          "The browser host renders the scene, reports speaker and camera positions\n" ++
          "and forwards keyboard, mouse and gaze input.\n\n" ++
          "With --captions the caption script drives the scene; otherwise captions\n" ++
          "arrive from the host."
      flags := [addrFlag, viewCaptionsFlag, recordFlag, viewMethodFlag]
      args := .none }
    []

def mergeCommand : Command :=
  .node
    { use := "merge-vtt [dir]"
      short := "Merge the jurors' WebVTT transcripts into a caption script"
      long := "Reads <juror>.vtt for every juror in dir (or <juror>.<section>.vtt with\n" ++
          "--section), interleaves the cues by start time and writes one caption per\nword."
      flags := [sectionFlag, outFlag]
      args := .atMost 1 }
    []

def partitionCommand : Command :=
  .node
    { use := "partition-vtt [dir]"
      short := "Split the jurors' transcripts (and videos) into sections"
      long := "Splits <juror>.vtt in dir into <juror>.1.vtt ... <juror>.4.vtt at 2:30,\n" ++
          "5:00 and 7:30. Cues crossing a boundary are dropped.\n\n" ++
          "With --videos the juror videos are cut at the same boundaries with ffmpeg."
      flags := [videosFlag, ffmpegFlag]
      args := .atMost 1 }
    []

def clientCommand : Command :=
  .node
    { use := "client host:port"
      short := "Connect to a caption server and print the messages"
      long := "Stands in for the glasses: connects to a caption server and prints every\n" ++
          "caption message until the server hangs up. The argument may be the QR code\n" ++
          "text, e.g. \"192.168.1.20:65432 9\"."
      flags := [widthFlag]
      args := .between 1 2 }
    []

def versionCommand : Command := .node { use := "version", short := "Print the version" } []

def helpCommand : Command :=
  .node
    { use := "help [command]"
      short := "Help about any command"
      long := "Help provides help for any command in the application.\n" ++
          "Simply type " ++ appName ++ " help [path to command] for full details."
      helpTopics := true
      argCompletion := .commands }
    []

/-- How to put the completion script of a shell to use, as its command's help
tells it. -/
def shellScriptUse (shell : String) : String :=
  let run := appName ++ " completion " ++ shell
  let lasting := "You will need to start a new shell for this setup to take effect.\n"
  let now := "To load completions in your current shell session:\n\n"
  let every := "To load completions for every new session, execute once:\n\n"
  match shell with
  | "bash" =>
    "Generate the autocompletion script for the bash shell.\n\n" ++
    "This script depends on the 'bash-completion' package.\n" ++
    "If it is not installed already, you can install it via your OS's package manager.\n\n" ++
    now ++ "\tsource <(" ++ run ++ ")\n\n" ++
    every ++ "#### Linux:\n\n" ++
    "\t" ++ run ++ " > /etc/bash_completion.d/" ++ appName ++ "\n\n" ++
    "#### macOS:\n\n" ++
    "\t" ++ run ++ " > $(brew --prefix)/etc/bash_completion.d/" ++ appName ++ "\n\n" ++ lasting
  | "zsh" =>
    "Generate the autocompletion script for the zsh shell.\n\n" ++
    "If shell completion is not already enabled in your environment you will need\n" ++
    "to enable it.  You can execute the following once:\n\n" ++
    "\techo \"autoload -U compinit; compinit\" >> ~/.zshrc\n\n" ++
    now ++ "\tsource <(" ++ run ++ ")\n\n" ++
    every ++ "#### Linux:\n\n" ++
    "\t" ++ run ++ " > \"$\x7bfpath[1]\x7d/_" ++ appName ++ "\"\n\n" ++
    "#### macOS:\n\n" ++
    "\t" ++ run ++ " > $(brew --prefix)/share/zsh/site-functions/_" ++ appName ++ "\n\n" ++ lasting
  | "fish" =>
    "Generate the autocompletion script for the fish shell.\n\n" ++
    now ++ "\t" ++ run ++ " | source\n\n" ++
    every ++ "\t" ++ run ++ " > ~/.config/fish/completions/" ++ appName ++ ".fish\n\n" ++ lasting
  | _ =>
    "Generate the autocompletion script for powershell.\n\n" ++
    now ++ "\t" ++ run ++ " | Out-String | Invoke-Expression\n\n" ++
    "To load completions for every new session, add the output of the above command\n" ++
    "to your powershell profile.\n"

def shellCommand (shell : String) : Command :=
  .node
    { use := shell
      short := "Generate the autocompletion script for " ++ shell
      long := shellScriptUse shell
      flags := [noDescriptionsFlag]
      args := .none
      argCompletion := .nothing }
    []

def completionCommand : Command :=
  .node
    { use := "completion"
      short := "Generate the autocompletion script for the specified shell"
      long := "Generate the autocompletion script for " ++ appName ++ " for the specified shell.\n" ++
          "See each sub-command's help for details on how to use the generated script.\n"
      args := .none
      runnable := false
      argCompletion := .nothing }

    (["bash", "zsh", "fish", "powershell"].map shellCommand)

def completeNoDescWord : String := "__completeNoDesc"

def completeCommand : Command :=
  .node
    { use := "__complete [command-line]"
      short := "Request shell completion choices for the specified command-line"
      long := "__complete is a special command that is used by the shell completion logic\n" ++
          "to request completion choices for the specified command-line."
      hidden := true
      aliases := [completeNoDescWord] }
    []

/-- The completion command a script calls: the one without descriptions when
they are left out. -/
def requestWord (descriptions : Bool) : String := if descriptions then "__complete" else completeNoDescWord

def root : Command :=
  .node
    { use := appName
      short := "Caption server and viewer for the jury deliberation study"
      long := appName ++ " streams a timed deliberation transcript to AR glasses,\n" ++
          "tracks which juror the participant is looking at, and records every\n" ++
          "session for later analysis.\n\n" ++
          "The viewer subcommand runs the headless caption scene for a browser host."
      persistent := [configDirFlag, logLevelFlag]
      runnable := false }
    [serveCommand, viewCommand, mergeCommand, partitionCommand, clientCommand, versionCommand, helpCommand,
      completeCommand, completionCommand]

end Cli
end JuryCaptions
