import ProverInput.Block
import ProverInput.Command.Basic
import ProverInput.Setting
import ProverInput.Text.Reported

/-!
The grammar of the command line. Arguments are read from left to right as items, an option taking
the argument after it whatever it looks like; the first item that is wrong ends the reading.
-/

namespace ProverInput.CommandLine

inductive Item where
  | word (text : String)
  | help
  | version
  | block (option : String) (value : Option String)
  | setting (setting : Setting) (value : Option String)
  | unknown (text : String)
  deriving DecidableEq, Repr

namespace Item

def ofOption? (argument : String) : Option (Option String → Item) :=
  if argument = "--block-number" ∨ argument = "-b" then some (.block argument)
  else (Setting.ofFlag? argument).map .setting

def ofArgument (argument : String) : Item :=
  if argument.toList.head? ≠ some '-' then .word argument
  else if argument = "--help" ∨ argument = "-h" then .help
  else if argument = "--version" then .version
  else .unknown argument

def ofArguments : List String → List Item
  | [] => []
  | argument :: rest =>
    match ofOption? argument with
    | none => ofArgument argument :: ofArguments rest
    | some item =>
      match rest with
      | [] => [item none]
      | value :: later => item (some value) :: ofArguments later

end Item

inductive UsageError where
  | missingValue (option : String)
  | unexpectedArgument (text : String)
  | repeatedBlock
  | repeatedSetting (setting : Setting)
  | unknownOption (text : String)
  | unknownCommand (name : String)
  | blockNotTaken (command : String)
  deriving DecidableEq, Repr

namespace UsageError

def code : UsageError → String
  | .missingValue _ => "E_MISSING_VALUE"
  | .unexpectedArgument _ => "E_UNEXPECTED_ARGUMENT"
  | .repeatedBlock | .repeatedSetting _ => "E_DUPLICATE_OPTION"
  | .unknownOption _ | .blockNotTaken _ => "E_UNKNOWN_OPTION"
  | .unknownCommand _ => "E_UNKNOWN_COMMAND"

def text : UsageError → String
  | .missingValue option => option ++ " requires a value"
  | .unexpectedArgument text => "Unexpected argument: " ++ text
  | .repeatedBlock => "Option --block-number specified multiple times"
  | .repeatedSetting setting => "Option " ++ setting.flag ++ " specified multiple times"
  | .unknownOption text => "Unknown option: " ++ text
  | .unknownCommand name => "Unknown command: " ++ name
  | .blockNotTaken command => command ++ " does not accept --block-number"

def hint : UsageError → String
  | .missingValue option => "Provide an argument immediately after " ++ option
  | .unexpectedArgument _ =>
    "Commands do not take positional arguments; use --block-number to select a block"
  | .repeatedBlock => "Select a single block per invocation"
  | .repeatedSetting setting => "Provide " ++ setting.flag ++ " only once"
  | .unknownOption _ => "Run 'zkpig --help' to view available options"
  | .unknownCommand _ => "Run 'zkpig --help' to see the list of available commands"
  | .blockNotTaken command => "Run 'zkpig " ++ command ++ " --help' to view usage"

def headline (error : UsageError) : String :=
  Text.headline error.code error.text

end UsageError

structure Request where
  command : Option String := none
  block : Option String := none
  help : Bool := false
  settings : List (Setting × String) := []
  deriving DecidableEq, Repr

inductive Halt where
  | version
  | error (cause : UsageError)
  deriving DecidableEq, Repr

namespace Request

def gives (request : Request) (setting : Setting) : Bool :=
  request.settings.any (·.1 = setting)

/-- Adds an item to a request. Nothing may be given twice, and that is checked before the value of
an option is looked for. -/
def add (request : Request) : Item → Except Halt Request
  | .word text =>
    if request.command.isSome then .error (.error (.unexpectedArgument text))
    else .ok { request with command := some text }
  | .help => .ok { request with help := true }
  | .version => .error .version
  | .block option value =>
    if request.block.isSome then .error (.error .repeatedBlock)
    else match value with
      | none => .error (.error (.missingValue option))
      | some value => .ok { request with block := some value }
  | .setting setting value =>
    if request.gives setting then .error (.error (.repeatedSetting setting))
    else match value with
      | none => .error (.error (.missingValue setting.flag))
      | some value => .ok { request with settings := request.settings ++ [(setting, value)] }
  | .unknown text => .error (.error (.unknownOption text))

def ofArguments (arguments : List String) : Except Halt Request :=
  (Item.ofArguments arguments).foldlM add {}

end Request

inductive Task where
  | usage (asked : Bool)
  | commandUsage (command : Command)
  | showConfig
  | invoke (command : Command) (block : String)
  deriving DecidableEq, Repr

def Task.ofRequest (request : Request) : Except UsageError Task :=
  match request.command with
  | none => .ok (.usage request.help)
  | some name =>
    if name = "help" then .ok (.usage true)
    else match Command.find? name with
      | none => .error (.unknownCommand name)
      | some command =>
        if request.help then .ok (.commandUsage command)
        else if command.operation.isSome then
          .ok (.invoke command (request.block.getD BlockTag.latest.name))
        else if request.block.isSome then .error (.blockNotTaken command.name)
        else .ok .showConfig

end ProverInput.CommandLine
