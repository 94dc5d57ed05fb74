import ProverInput.CommandLine.Usage
import ProverInput.Proofs.Configuration.Settings

/-!
What the usage tells. Every command has a line in it, and every setting two: one for its flag and
one for its variable.
-/

namespace ProverInput.CommandLine

def Shows (text part : String) : Prop :=
  part.toList <:+: text.toList

variable {part first second : String}

theorem Shows.left (shows : Shows first part) : Shows (first ++ second) part := by
  rw [Shows, String.toList_append]
  exact List.IsInfix.trans shows (List.prefix_append _ _).isInfix

theorem Shows.right (shows : Shows second part) : Shows (first ++ second) part := by
  rw [Shows, String.toList_append]
  exact List.IsInfix.trans shows (List.suffix_append _ _).isInfix

theorem shows_self (text : String) : Shows text text :=
  List.infix_rfl

theorem shows_join {parts : List String} (member : part ∈ parts) :
    Shows (String.join parts) part := by
  obtain ⟨before, after, rfl⟩ := List.append_of_mem member
  rw [String.join_append, String.join_cons]
  exact (shows_self part).left.right

def helpLine (gap : Nat) (entry explanation : String) : String :=
  "  " ++ entry ++ String.ofList (List.replicate gap ' ') ++ explanation ++ "\n"

theorem columns_eq (width : Nat) (left right : String) :
    columns width left right = helpLine (width - left.length) left right := by
  rw [columns, helpLine, Text.padRight, ← String.append_assoc]

theorem usageText_shows_command {command : Command} (listed : command ∈ Command.all) :
    ∃ gap, Shows usageText (helpLine gap command.name command.summary) := by
  have line : columns 12 command.name command.summary ∈
      Command.all.map fun command => columns 12 command.name command.summary :=
    List.mem_map_of_mem listed
  rw [columns_eq] at line
  exact ⟨_, (shows_join line).right.left⟩

theorem usageText_shows_setting (setting : Setting) :
    ∃ gap indent, Shows usageText
      (helpLine gap (setting.flag ++ " " ++ setting.placeholder) setting.description
        ++ helpLine indent "" ("env: " ++ setting.envVar)) := by
  have lines : settingLines setting ∈ Setting.all.map settingLines :=
    List.mem_map_of_mem (Setting.mem_all setting)
  rw [settingLines, columns_eq, columns_eq] at lines
  have options : Shows optionLines _ := (shows_join lines).left.left
  exact ⟨_, _, options.right.left.left.left⟩

end ProverInput.CommandLine
