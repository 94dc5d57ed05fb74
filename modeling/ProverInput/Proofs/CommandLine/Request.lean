import Mathlib.Logic.Basic
import ProverInput.CommandLine.Request
import ProverInput.CommandLine.Usage

/-!
What a request holds after some items, and which items stop the reading. Nothing here depends on how
a request is built up: an item stops the program because of what it is and of the items before it.
-/

namespace ProverInput.CommandLine

inductive Answer where
  | prints (text : String) (exitCode : UInt32)
  | rejects (code text hint : String)
  | showsConfig (given : List (Setting × String))
  | invokes (command : Command) (block : String) (given : List (Setting × String))
  deriving DecidableEq

inductive Stops (before : List Item) : Item → Answer → Prop
  | version : Stops before .version (.prints "zkpig v0.1.0\n" 0)
  | secondWord {name text} : .word name ∈ before →
      Stops before (.word text) (.rejects "E_UNEXPECTED_ARGUMENT" ("Unexpected argument: " ++ text)
        "Commands do not take positional arguments; use --block-number to select a block")
  | secondBlock {option value other held} : .block other held ∈ before →
      Stops before (.block option value) (.rejects "E_DUPLICATE_OPTION"
        "Option --block-number specified multiple times" "Select a single block per invocation")
  | secondSetting {setting value held} : .setting setting held ∈ before →
      Stops before (.setting setting value) (.rejects "E_DUPLICATE_OPTION"
        ("Option " ++ setting.flag ++ " specified multiple times")
        ("Provide " ++ setting.flag ++ " only once"))
  | blockAlone {option} : (∀ other held, .block other held ∉ before) →
      Stops before (.block option none) (.rejects "E_MISSING_VALUE" (option ++ " requires a value")
        ("Provide an argument immediately after " ++ option))
  | settingAlone {setting} : (∀ held, .setting setting held ∉ before) →
      Stops before (.setting setting none) (.rejects "E_MISSING_VALUE"
        (setting.flag ++ " requires a value")
        ("Provide an argument immediately after " ++ setting.flag))
  | unknown {text} :
      Stops before (.unknown text) (.rejects "E_UNKNOWN_OPTION" ("Unknown option: " ++ text)
        "Run 'zkpig --help' to view available options")

def Passes (before : List Item) : List Item → Prop
  | [] => True
  | item :: rest => (∀ answer, ¬ Stops before item answer) ∧ Passes (before ++ [item]) rest

def Halt.answer : Halt → Answer
  | .version => .prints versionText 0
  | .error cause => .rejects cause.code cause.text cause.hint

def Item.entry? : Item → Option (Setting × String)
  | .setting kind (some value) => some (kind, value)
  | _ => none

def given (items : List Item) : List (Setting × String) :=
  items.filterMap Item.entry?

theorem given_concat (items : List Item) (item : Item) :
    given (items ++ [item]) = given items ++ item.entry?.toList := by
  rw [given, List.filterMap_append, List.filterMap_cons, List.filterMap_nil]
  cases item.entry? <;> rfl

theorem Stops.unique {before : List Item} {item : Item} {answer other : Answer}
    (stops : Stops before item answer) (again : Stops before item other) : answer = other := by
  cases stops with
  | version =>
      cases again
      rfl
  | secondWord member =>
      cases again
      rfl
  | secondBlock member =>
      cases again with
      | secondBlock _ => rfl
      | blockAlone fresh => exact absurd member (fresh _ _)
  | secondSetting member =>
      cases again with
      | secondSetting _ => rfl
      | settingAlone fresh => exact absurd member (fresh _)
  | blockAlone fresh =>
      cases again with
      | secondBlock member => exact absurd member (fresh _ _)
      | blockAlone _ => rfl
  | settingAlone fresh =>
      cases again with
      | secondSetting member => exact absurd member (fresh _)
      | settingAlone _ => rfl
  | unknown =>
      cases again
      rfl

theorem passes_append_iff (before first second : List Item) :
    Passes before (first ++ second) ↔ Passes before first ∧ Passes (before ++ first) second := by
  induction first generalizing before with
  | nil => simp [Passes]
  | cons item rest ih => simp [Passes, ih, and_assoc]

theorem Passes.not_stops {before earlier later : List Item} {item : Item}
    (passes : Passes before (earlier ++ item :: later)) (answer : Answer) :
    ¬ Stops (before ++ earlier) item answer :=
  ((passes_append_iff _ _ _).mp passes).2.1 answer

namespace Request

/-- The request holds what the items say, and no option among them lacks its value. -/
structure Holds (request : Request) (items : List Item) : Prop where
  command : ∀ name, request.command = some name ↔ .word name ∈ items
  block : ∀ value, request.block = some value ↔ ∃ option, .block option (some value) ∈ items
  help : request.help = true ↔ .help ∈ items
  settings : request.settings = given items
  wholeBlocks : ∀ option, .block option none ∉ items
  wholeSettings : ∀ setting, .setting setting none ∉ items

theorem holds_empty : Holds {} [] where
  command := by simp
  block := by simp
  help := by simp
  settings := rfl
  wholeBlocks := by simp
  wholeSettings := by simp

variable {request : Request} {before items : List Item}

theorem Holds.no_command (holds : request.Holds items) :
    request.command = none ↔ ∀ name, .word name ∉ items := by
  simp only [Option.eq_none_iff_forall_ne_some, ne_eq, holds.command]

theorem Holds.no_block (holds : request.Holds items) :
    request.block = none ↔ ∀ option held, .block option held ∉ items := by
  simp only [Option.eq_none_iff_forall_ne_some, ne_eq, holds.block, not_exists]
  constructor
  · intro none option held member
    cases held with
    | none => exact holds.wholeBlocks option member
    | some value => exact none value option member
  · intro none value option member
    exact none option _ member

theorem Holds.gives_iff (holds : request.Holds items) (setting : Setting) :
    request.gives setting = true ↔ ∃ held, .setting setting held ∈ items := by
  rw [gives, holds.settings, List.any_eq_true]
  constructor
  · rintro ⟨⟨other, value⟩, member, same⟩
    obtain rfl : other = setting := by simpa using same
    obtain ⟨item, among, entry⟩ := List.mem_filterMap.mp member
    unfold Item.entry? at entry
    split at entry
    · obtain ⟨rfl, rfl⟩ := Prod.mk.inj (Option.some.inj entry)
      exact ⟨_, among⟩
    · contradiction
  · rintro ⟨held, member⟩
    cases held with
    | none => exact absurd member (holds.wholeSettings setting)
    | some value =>
        exact ⟨(setting, value), List.mem_filterMap.mpr ⟨_, member, rfl⟩, by simp⟩

theorem Holds.add_word (holds : request.Holds items) {text : String}
    (fresh : request.command = none) :
    Holds { request with command := some text } (items ++ [.word text]) where
  command := by
    intro name
    have absent := holds.no_command.mp fresh name
    simp [absent, eq_comm]
  block := by simpa using holds.block
  help := by simpa using holds.help
  settings := by
    rw [given_concat, ← holds.settings]
    exact (List.append_nil _).symm
  wholeBlocks := by simpa using holds.wholeBlocks
  wholeSettings := by simpa using holds.wholeSettings

theorem Holds.add_help (holds : request.Holds items) :
    Holds { request with help := true } (items ++ [.help]) where
  command := by simpa using holds.command
  block := by simpa using holds.block
  help := by simp
  settings := by
    rw [given_concat, ← holds.settings]
    exact (List.append_nil _).symm
  wholeBlocks := by simpa using holds.wholeBlocks
  wholeSettings := by simpa using holds.wholeSettings

theorem Holds.add_block (holds : request.Holds items) {option value : String}
    (fresh : request.block = none) :
    Holds { request with block := some value } (items ++ [.block option (some value)]) where
  command := by simpa using holds.command
  block := by
    intro text
    have absent := holds.no_block.mp fresh
    simp [absent, eq_comm]
  help := by simpa using holds.help
  settings := by
    rw [given_concat, ← holds.settings]
    exact (List.append_nil _).symm
  wholeBlocks := by simpa using holds.wholeBlocks
  wholeSettings := by simpa using holds.wholeSettings

theorem Holds.add_setting (holds : request.Holds items) (setting : Setting) (value : String) :
    Holds { request with settings := request.settings ++ [(setting, value)] }
      (items ++ [.setting setting (some value)]) where
  command := by simpa using holds.command
  block := by simpa using holds.block
  help := by simpa using holds.help
  settings := by
    rw [given_concat, ← holds.settings]
    rfl
  wholeBlocks := by simpa using holds.wholeBlocks
  wholeSettings := by simpa using holds.wholeSettings

theorem Holds.add (holds : request.Holds items) (item : Item) :
    (∃ next, request.add item = .ok next ∧ next.Holds (items ++ [item]) ∧
      ∀ answer, ¬ Stops items item answer) ∨
    ∃ halt, request.add item = .error halt ∧ Stops items item halt.answer := by
  cases item with
  | word text =>
      cases taken : request.command with
      | none =>
          refine Or.inl ⟨_, by simp [Request.add, taken], holds.add_word taken, ?_⟩
          rintro answer ⟨member⟩
          exact holds.no_command.mp taken _ (by assumption)
      | some name =>
          refine Or.inr ⟨.error (.unexpectedArgument text), by simp [Request.add, taken], ?_⟩
          exact .secondWord ((holds.command name).mp taken)
  | help =>
      refine Or.inl ⟨_, rfl, holds.add_help, ?_⟩
      rintro answer ⟨⟩
  | version => exact Or.inr ⟨.version, rfl, .version⟩
  | block option value =>
      cases taken : request.block with
      | none =>
          have fresh := holds.no_block.mp taken
          cases value with
          | none =>
              exact Or.inr ⟨.error (.missingValue option), by simp [Request.add, taken],
                .blockAlone fresh⟩
          | some value =>
              refine Or.inl ⟨_, by simp [Request.add, taken], holds.add_block taken, ?_⟩
              rintro answer (_ | _)
              exact fresh _ _ (by assumption)
      | some held =>
          obtain ⟨other, member⟩ := (holds.block held).mp taken
          exact Or.inr ⟨.error .repeatedBlock, by simp [Request.add, taken], .secondBlock member⟩
  | setting setting value =>
      cases taken : request.gives setting with
      | true =>
          obtain ⟨held, member⟩ := (holds.gives_iff setting).mp taken
          exact Or.inr ⟨.error (.repeatedSetting setting), by simp [Request.add, taken],
            .secondSetting member⟩
      | false =>
          have fresh (held : Option String) : .setting setting held ∉ items := by
            intro member
            have given := (holds.gives_iff setting).mpr ⟨held, member⟩
            rw [taken] at given
            contradiction
          cases value with
          | none =>
              exact Or.inr ⟨.error (.missingValue setting.flag), by simp [Request.add, taken],
                .settingAlone fresh⟩
          | some value =>
              refine Or.inl ⟨_, by simp [Request.add, taken], holds.add_setting setting value, ?_⟩
              rintro answer (_ | _)
              exact fresh _ (by assumption)
  | unknown text => exact Or.inr ⟨.error (.unknownOption text), rfl, .unknown⟩

/-- Either all items pass and the request holds them, or the first that stops is answered. -/
theorem Holds.foldlM (holds : request.Holds before) (items : List Item) :
    (∃ next, items.foldlM Request.add request = .ok next ∧ next.Holds (before ++ items) ∧
      Passes before items) ∨
    ∃ halt earlier item later, items.foldlM Request.add request = .error halt ∧
      items = earlier ++ item :: later ∧ Passes before earlier ∧
      Stops (before ++ earlier) item halt.answer := by
  induction items generalizing request before with
  | nil => exact Or.inl ⟨request, rfl, by simpa using holds, trivial⟩
  | cons item rest ih =>
      rw [List.foldlM_cons]
      rcases holds.add item with ⟨next, added, holdsNext, passes⟩ | ⟨halt, stopped, stops⟩
      · rw [added]
        rcases ih holdsNext with ⟨last, read, holdsLast, passesRest⟩ |
          ⟨halt, earlier, stopping, later, read, split, passesEarlier, stops⟩
        · refine Or.inl ⟨last, read, ?_, passes, passesRest⟩
          simpa using holdsLast
        · refine Or.inr ⟨halt, item :: earlier, stopping, later, read, ?_, ?_, ?_⟩
          · rw [split, List.cons_append]
          · exact ⟨passes, passesEarlier⟩
          · simpa using stops
      · rw [stopped]
        exact Or.inr ⟨halt, [], item, rest, rfl, rfl, trivial, by simpa using stops⟩

theorem Holds.foldlM_of_passes (holds : request.Holds before) {items : List Item}
    (passes : Passes before items) :
    ∃ next, items.foldlM Request.add request = .ok next ∧ next.Holds (before ++ items) := by
  rcases holds.foldlM items with ⟨next, read, holdsNext, _⟩ |
    ⟨halt, earlier, item, later, _, rfl, _, stops⟩
  · exact ⟨next, read, holdsNext⟩
  · exact absurd stops (passes.not_stops _)

theorem Holds.foldlM_of_stops (holds : request.Holds before) {earlier later : List Item}
    {item : Item} {answer : Answer} (passes : Passes before earlier)
    (stops : Stops (before ++ earlier) item answer) :
    ∃ halt, (earlier ++ item :: later).foldlM Request.add request = .error halt ∧
      halt.answer = answer := by
  obtain ⟨next, read, holdsNext⟩ := holds.foldlM_of_passes passes
  rcases holdsNext.add item with ⟨_, _, _, passed⟩ | ⟨halt, stopped, answered⟩
  · exact absurd stops (passed answer)
  · refine ⟨halt, ?_, answered.unique stops⟩
    rw [List.foldlM_append, read]
    change List.foldlM Request.add next (item :: later) = _
    rw [List.foldlM_cons, stopped]
    rfl

end Request

end ProverInput.CommandLine
