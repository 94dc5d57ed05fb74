import Mathlib.Data.List.Nodup
import Mathlib.Data.List.Perm.Basic
import ProverInput.CommandLine.Program
import ProverInput.Proofs.CommandLine.Grammar
import ProverInput.Proofs.CommandLine.Request
import ProverInput.Proofs.Configuration.Settings

/-!
The order of the command line. Options, flags and the command fill different places of a request, so
groups of arguments may stand in any order as long as no place is filled twice.
-/

namespace ProverInput

namespace Layer

theorem set_comm {setting other : Setting} (different : setting ≠ other) (layer : Layer)
    (value held : String) :
    (layer.set setting.key value).set other.key held
      = (layer.set other.key held).set setting.key value :=
  congrArg Layer.mk (Tree.set_comm (Setting.apart different) layer.tree _ _)

theorem ofList_perm {given others : List (Setting × String)} (perm : given.Perm others)
    (once : (given.map (·.1)).Nodup) : ofList given = ofList others := by
  refine perm.foldl_eq' ?_ ({} : Layer)
  intro entry member other otherMember layer
  by_cases same : entry.1 = other.1
  · obtain rfl := List.inj_on_of_nodup_map once member otherMember same
    rfl
  · exact set_comm same layer entry.2 other.2

end Layer

namespace CommandLine

inductive Slot where
  | command
  | block
  | setting (setting : Setting)
  deriving DecidableEq

namespace Item

def slot? : Item → Option Slot
  | .word _ => some .command
  | .block _ _ => some .block
  | .setting kind _ => some (.setting kind)
  | .help | .version | .unknown _ => none

def Whole : Item → Prop
  | .block _ value | .setting _ value => value.isSome = true
  | .unknown _ => False
  | .word _ | .help | .version => True

end Item

/-- Arguments that belong together, as they stand on the command line. -/
structure Group where
  item : Item
  arguments : List String
  spells : item.Spells arguments
  known : ∀ text, item ≠ .unknown text

namespace Group

theorem whole (group : Group) : group.item.Whole := by
  obtain ⟨item, arguments, spells, known⟩ := group
  cases spells with
  | unknown dash strange => exact absurd rfl (known _)
  | block member => rfl
  | setting => rfl
  | _ => exact trivial

theorem reads (groups : List Group) :
    Reads (groups.flatMap Group.arguments) (groups.map Group.item) := by
  induction groups with
  | nil => exact .done
  | cons group rest ih =>
      rw [List.flatMap_cons, List.map_cons]
      exact .group group.spells ih

end Group

variable {before items others : List Item}

theorem not_mem_slot {item : Item} {rest : List Item} {slot : Slot}
    (once : ((before ++ item :: rest).filterMap Item.slot?).Nodup)
    (fills : item.slot? = some slot) {other : Item} (same : other.slot? = some slot) :
    other ∉ before := by
  intro member
  rw [List.filterMap_append, List.filterMap_cons, fills] at once
  have filled : slot ∈ before.filterMap Item.slot? := List.mem_filterMap.mpr ⟨other, member, same⟩
  exact List.disjoint_of_nodup_append once filled List.mem_cons_self

/-- In such a row nothing but the version flag stops the program. -/
theorem Stops.eq_version {item : Item} {rest : List Item} {answer : Answer}
    (stops : Stops before item answer) (whole : item.Whole)
    (once : ((before ++ item :: rest).filterMap Item.slot?).Nodup) : item = .version := by
  cases stops with
  | version => rfl
  | secondWord member => exact absurd member (not_mem_slot once rfl rfl)
  | secondBlock member => exact absurd member (not_mem_slot once rfl rfl)
  | secondSetting member => exact absurd member (not_mem_slot once rfl rfl)
  | blockAlone fresh => exact absurd whole Bool.false_ne_true
  | settingAlone fresh => exact absurd whole Bool.false_ne_true
  | unknown => exact whole.elim

theorem foldlM_add_of_version (whole : ∀ item ∈ items, item.Whole)
    (once : (items.filterMap Item.slot?).Nodup) (asked : .version ∈ items) :
    items.foldlM Request.add {} = .error .version := by
  rcases Request.holds_empty.foldlM items with ⟨_, _, _, passes⟩ |
    ⟨halt, earlier, item, later, read, split, _, stops⟩
  · obtain ⟨earlier, later, rfl⟩ := List.append_of_mem asked
    exact absurd .version (passes.not_stops _)
  · subst split
    have member : item ∈ earlier ++ item :: later := by simp
    obtain rfl := stops.eq_version (whole item member) once
    rw [read]
    cases halt with
    | version => rfl
    | error cause => nomatch stops

theorem foldlM_add_of_no_version (whole : ∀ item ∈ items, item.Whole)
    (once : (items.filterMap Item.slot?).Nodup) (unasked : .version ∉ items) :
    ∃ request, items.foldlM Request.add {} = .ok request ∧ request.Holds items := by
  rcases Request.holds_empty.foldlM items with ⟨request, read, holds, _⟩ |
    ⟨halt, earlier, item, later, _, split, _, stops⟩
  · exact ⟨request, read, holds⟩
  · subst split
    have member : item ∈ earlier ++ item :: later := by simp
    obtain rfl := stops.eq_version (whole item member) once
    exact absurd member unasked

theorem given_once (once : (items.filterMap Item.slot?).Nodup) :
    ((given items).map (·.1)).Nodup := by
  have filled : ((given items).map fun entry => Slot.setting entry.1).Sublist
      (items.filterMap Item.slot?) := by
    clear once
    induction items with
    | nil => exact List.Sublist.slnil
    | cons item rest ih =>
        cases item with
        | setting setting value =>
            cases value with
            | some value => exact ih.cons_cons _
            | none => exact ih.cons _
        | word text => exact ih.cons _
        | block option value => exact ih.cons _
        | help => exact ih
        | version => exact ih
        | unknown text => exact ih
  refine List.Nodup.of_map Slot.setting ?_
  rw [List.map_map]
  exact once.sublist filled

namespace Request

variable {request other : Request}

theorem Holds.ofRequest_perm (holds : request.Holds items) (otherHolds : other.Holds others)
    (perm : items.Perm others) : Task.ofRequest request = Task.ofRequest other := by
  have command : request.command = other.command := by
    apply Option.ext
    intro name
    rw [holds.command, otherHolds.command, perm.mem_iff]
  have block : request.block = other.block := by
    apply Option.ext
    intro value
    simp only [holds.block, otherHolds.block, perm.mem_iff]
  have help : request.help = other.help := by
    rw [Bool.eq_iff_iff, holds.help, otherHolds.help, perm.mem_iff]
  rw [Task.ofRequest, Task.ofRequest, command, block, help]

end Request

theorem perform_perm (surroundings : Surroundings) {given others : List (Setting × String)}
    (perm : given.Perm others) (once : (given.map (·.1)).Nodup) (task : Task) :
    perform surroundings given task = perform surroundings others task := by
  have same : settings surroundings given = settings surroundings others := by
    rw [settings, settings, Layer.ofList_perm perm once]
  cases task with
  | usage asked => rfl
  | commandUsage command => rfl
  | showConfig => rw [perform, perform, same]
  | invoke command block => rw [perform, perform, same]

/-- However the groups of a command line are arranged, the program does the same, as long as there
is one command at most and no option is given twice. -/
theorem run_perm (surroundings : Surroundings) {groups others : List Group}
    (perm : groups.Perm others) (once : (groups.filterMap (·.item.slot?)).Nodup) :
    run surroundings (groups.flatMap Group.arguments)
      = run surroundings (others.flatMap Group.arguments) := by
  have items : (groups.map Group.item).Perm (others.map Group.item) := perm.map Group.item
  have onceItems : ((groups.map Group.item).filterMap Item.slot?).Nodup := by
    rw [List.filterMap_map]
    exact once
  have onceOthers : ((others.map Group.item).filterMap Item.slot?).Nodup :=
    (items.filterMap Item.slot?).nodup onceItems
  have whole (groups : List Group) : ∀ item ∈ groups.map Group.item, item.Whole := by
    intro item member
    obtain ⟨group, _, rfl⟩ := List.mem_map.mp member
    exact group.whole
  rw [run, run, Request.ofArguments, Request.ofArguments, ← (Group.reads groups).eq_ofArguments,
    ← (Group.reads others).eq_ofArguments]
  by_cases asked : .version ∈ groups.map Group.item
  · rw [foldlM_add_of_version (whole groups) onceItems asked,
      foldlM_add_of_version (whole others) onceOthers (items.mem_iff.mp asked)]
  · obtain ⟨request, read, holds⟩ := foldlM_add_of_no_version (whole groups) onceItems asked
    obtain ⟨other, otherRead, otherHolds⟩ :=
      foldlM_add_of_no_version (whole others) onceOthers (asked ∘ items.mem_iff.mpr)
    have givenPerm : request.settings.Perm other.settings := by
      rw [holds.settings, otherHolds.settings]
      exact items.filterMap Item.entry?
    have givenOnce : (request.settings.map (·.1)).Nodup := by
      rw [holds.settings]
      exact given_once onceItems
    rw [read, otherRead]
    simp only [holds.ofRequest_perm otherHolds items, perform_perm surroundings givenPerm givenOnce]

theorem run_perm_value_before_command :
    run { environment := fun _ => none }
        ["config", "--log-level", "-b", "--log-format", "--version", "-h"]
      = run { environment := fun _ => none }
        ["-h", "--log-format", "--version", "--log-level", "-b", "config"] := by
  let command : Group := ⟨.word "config", ["config"], .word (by decide), by simp⟩
  let help : Group := ⟨.help, ["-h"], .help (by decide), by simp⟩
  let level : Group :=
    ⟨.setting .logLevel (some "-b"), ["--log-level", "-b"], .setting, by simp⟩
  let format : Group :=
    ⟨.setting .logFormat (some "--version"), ["--log-format", "--version"], .setting, by simp⟩
  have perm : [command, level, format, help].Perm [help, format, level, command] :=
    (List.reverse_perm _).symm
  exact run_perm _ perm (by decide)

end CommandLine

end ProverInput
