/-! What the program says about its options. -/

namespace CheckIn.CommandLine

def helpText : String := "Replay declarative check-in scripts against an Android device.

Usage: autosign [OPTIONS]

Options:
      --config <PATH>      Path to the task file (TOML)
      --task <ID>          Run only this task, whether or not it is enabled
      --skip <ID>          Disable a task for this invocation. May be repeated
      --list               Print the task set and exit
      --dry-run            Compile every step, but do not touch the device
      --json               Print the run result as JSON on stdout
      --serial <SERIAL>    Serial of the device
      --log-level <LEVEL>  Logging level: error, warn, info, debug or trace
  -h, --help               Print help
  -V, --version            Print version
"

/-- What is printed when the options cannot be read. -/
def usageText : String := "error: the arguments cannot be read

Usage: autosign [OPTIONS]

For more information, try '--help'.
"

/-- What is printed when the program is asked for its version. -/
def versionText : String := "autosign 0.1.0\n"

end CheckIn.CommandLine
