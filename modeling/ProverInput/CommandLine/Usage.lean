import ProverInput.Block
import ProverInput.Command.Basic
import ProverInput.Setting
import ProverInput.Text.Reported

/-!
The help texts of the program.
-/

namespace ProverInput.CommandLine

def versionText : String := "zkpig v0.1.0\n"

def columns (width : Nat) (left right : String) : String :=
  "  " ++ Text.padRight width left ++ right ++ "\n"

def settingLines (setting : Setting) : String :=
  columns 34 (setting.flag ++ " " ++ setting.placeholder) setting.description
    ++ columns 34 "" ("env: " ++ setting.envVar)

def optionLines : String :=
  String.join (Setting.all.map settingLines)
    ++ columns 34 "--version" "Print the CLI version and exit"
    ++ columns 34 "--help" "Print this help message"

def usageText : String :=
  "zkpig - prover input generator for Ethereum-compatible chains\n"
    ++ "Usage: zkpig [options] <command> [command options]\n\n"
    ++ "Global options:\n" ++ optionLines
    ++ "\nCommands:\n"
    ++ String.join (Command.all.map fun command => columns 12 command.name command.summary)
    ++ "\nRun 'zkpig <command> --help' for command options.\n"

def blockOptionLines : String :=
  "\nOptions:\n"
    ++ "  --block-number, -b <n>   Block height (decimal or 0x-prefixed) or tag: latest, earliest,\n"
    ++ "                           pending, safe, finalized (default " ++ BlockTag.latest.name
    ++ ")\n"

def commandUsageText (command : Command) : String :=
  "Usage: zkpig [options] " ++ command.name
    ++ (if command.operation.isSome then " [--block-number|-b <n>]" else "")
    ++ "\n" ++ command.description ++ "\n"
    ++ (if command.operation.isSome then blockOptionLines else "")
    ++ "\n"

end ProverInput.CommandLine
