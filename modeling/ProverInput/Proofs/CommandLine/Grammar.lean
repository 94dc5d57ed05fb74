import Mathlib.Logic.Basic
import ProverInput.CommandLine.Request

/-!
The grammar of the command line. A command line is a row of groups that spell one item each; only an
option at the very end can lack its value. Every command line has exactly one reading.
-/

namespace ProverInput.CommandLine

def StartsWithDash (argument : String) : Prop :=
  argument.toList.head? = some '-'

instance (argument : String) : Decidable (StartsWithDash argument) :=
  inferInstanceAs (Decidable (_ = _))

def helpFlags : List String := ["--help", "-h"]

def blockFlags : List String := ["--block-number", "-b"]

def settingFlags : List String := Setting.all.map Setting.flag

def knownFlags : List String := helpFlags ++ "--version" :: blockFlags ++ settingFlags

namespace Item

inductive Spells : Item → List String → Prop
  | word {text} : ¬ StartsWithDash text → Spells (.word text) [text]
  | help {flag} : flag ∈ helpFlags → Spells .help [flag]
  | version : Spells .version ["--version"]
  | block {option value} : option ∈ blockFlags →
      Spells (.block option (some value)) [option, value]
  | setting {setting value} : Spells (.setting setting (some value)) [setting.flag, value]
  | unknown {text} : StartsWithDash text → text ∉ knownFlags → Spells (.unknown text) [text]

end Item

inductive Reads : List String → List Item → Prop
  | done : Reads [] []
  | group {item arguments rest items} : item.Spells arguments → Reads rest items →
      Reads (arguments ++ rest) (item :: items)
  | blockAlone {option} : option ∈ blockFlags → Reads [option] [.block option none]
  | settingAlone {setting : Setting} : Reads [setting.flag] [.setting setting none]

namespace Item

theorem startsWithDash_of_known {flag : String} (known : flag ∈ knownFlags) :
    StartsWithDash flag := by
  have all : ∀ flag ∈ knownFlags, StartsWithDash flag := by decide
  exact all flag known

theorem ofFlag?_eq_none_iff (argument : String) :
    Setting.ofFlag? argument = none ↔ argument ∉ settingFlags := by
  simp [Setting.ofFlag?, settingFlags]

theorem ofOption?_of_block {option : String} (known : option ∈ blockFlags) :
    ofOption? option = some (.block option) := by
  have either : option = "--block-number" ∨ option = "-b" := by simpa [blockFlags] using known
  rw [ofOption?, if_pos either]

theorem ofOption?_flag (setting : Setting) :
    ofOption? setting.flag = some (.setting setting) := by
  have neither : ¬ (setting.flag = "--block-number" ∨ setting.flag = "-b") := by
    cases setting <;> decide
  have found : Setting.ofFlag? setting.flag = some setting := by
    cases setting <;> decide
  rw [ofOption?, if_neg neither, found]
  rfl

theorem ofOption?_eq_none_iff (argument : String) :
    ofOption? argument = none ↔ argument ∉ blockFlags ∧ argument ∉ settingFlags := by
  rw [← ofFlag?_eq_none_iff, ofOption?]
  by_cases block : argument = "--block-number" ∨ argument = "-b"
  · simp [block, blockFlags]
  · simp [block, blockFlags]

theorem ofOption?_eq_some {argument : String} {item : Option String → Item}
    (option : ofOption? argument = some item) :
    (argument ∈ blockFlags ∧ item = .block argument) ∨
      ∃ setting : Setting, argument = setting.flag ∧ item = .setting setting := by
  rw [ofOption?] at option
  split at option
  · rename_i either
    exact Or.inl ⟨by simpa [blockFlags] using either, (Option.some.inj option).symm⟩
  · obtain ⟨setting, found, rfl⟩ := Option.map_eq_some_iff.mp option
    have flag : setting.flag = argument := by simpa using List.find?_some found
    exact Or.inr ⟨setting, flag.symm, rfl⟩

theorem ofArgument_of_bare {argument : String} (bare : ¬ StartsWithDash argument) :
    ofArgument argument = .word argument :=
  if_pos bare

theorem ofArgument_of_dash {argument : String} (dash : StartsWithDash argument) :
    ofArgument argument = if argument ∈ helpFlags then .help
      else if argument = "--version" then .version else .unknown argument := by
  have notBare : ¬ argument.toList.head? ≠ some '-' := not_not.mpr dash
  rw [ofArgument, if_neg notBare]
  simp only [helpFlags, List.mem_cons, List.not_mem_nil, or_false]

theorem spells_ofArgument {argument : String} (plain : ofOption? argument = none) :
    (ofArgument argument).Spells [argument] := by
  obtain ⟨notBlock, notSetting⟩ := (ofOption?_eq_none_iff argument).mp plain
  by_cases dash : StartsWithDash argument
  · rw [ofArgument_of_dash dash]
    by_cases help : argument ∈ helpFlags
    · rw [if_pos help]
      exact .help help
    · rw [if_neg help]
      by_cases version : argument = "--version"
      · rw [if_pos version, version]
        exact .version
      · rw [if_neg version]
        refine .unknown dash ?_
        simp only [knownFlags, List.mem_append, List.mem_cons, not_or]
        exact ⟨⟨help, version, notBlock⟩, notSetting⟩
  · rw [ofArgument_of_bare dash]
    exact .word dash

theorem ofArguments_of_plain {argument : String} (plain : ofOption? argument = none)
    (rest : List String) :
    ofArguments (argument :: rest) = ofArgument argument :: ofArguments rest := by
  rw [ofArguments.eq_def]
  simp only [plain]

theorem ofArguments_of_option {argument : String} {item : Option String → Item}
    (option : ofOption? argument = some item) (value : String) (rest : List String) :
    ofArguments (argument :: value :: rest) = item (some value) :: ofArguments rest := by
  rw [ofArguments.eq_def]
  simp only [option]

theorem ofArguments_of_last {argument : String} {item : Option String → Item}
    (option : ofOption? argument = some item) : ofArguments [argument] = [item none] := by
  rw [ofArguments.eq_def]
  simp only [option]

/-- What is spelled first is read first, whatever follows it. -/
theorem Spells.ofArguments_append {item : Item} {arguments : List String}
    (spells : item.Spells arguments) (rest : List String) :
    ofArguments (arguments ++ rest) = item :: ofArguments rest := by
  cases spells with
  | @word text bare =>
      have plain : ofOption? text = none := by
        rw [ofOption?_eq_none_iff]
        constructor
        · intro block
          exact bare (startsWithDash_of_known (by simp [knownFlags, block]))
        · intro setting
          exact bare (startsWithDash_of_known (by simp [knownFlags, setting]))
      rw [List.singleton_append, ofArguments_of_plain plain, ofArgument_of_bare bare]
  | @help flag known =>
      have plain : ∀ flag ∈ helpFlags, ofOption? flag = none := by
        simp only [ofOption?_eq_none_iff]
        decide
      have dash := startsWithDash_of_known (by simp [knownFlags, known] : flag ∈ knownFlags)
      rw [List.singleton_append, ofArguments_of_plain (plain flag known), ofArgument_of_dash dash,
        if_pos known]
  | version =>
      have plain : ofOption? "--version" = none := by
        rw [ofOption?_eq_none_iff]
        decide
      exact ofArguments_of_plain plain rest
  | block known => exact ofArguments_of_option (ofOption?_of_block known) _ rest
  | @setting setting value => exact ofArguments_of_option (ofOption?_flag setting) _ rest
  | @unknown text dash strange =>
      simp only [knownFlags, List.mem_append, List.mem_cons, not_or] at strange
      obtain ⟨⟨noHelp, noVersion, noBlock⟩, noSetting⟩ := strange
      have plain : ofOption? text = none := (ofOption?_eq_none_iff text).mpr ⟨noBlock, noSetting⟩
      rw [List.singleton_append, ofArguments_of_plain plain, ofArgument_of_dash dash,
        if_neg noHelp, if_neg noVersion]

end Item

theorem Reads.eq_ofArguments {arguments : List String} {items : List Item}
    (reads : Reads arguments items) : items = Item.ofArguments arguments := by
  induction reads with
  | done => rfl
  | group spells _ ih => rw [spells.ofArguments_append, ← ih]
  | blockAlone known => exact (Item.ofArguments_of_last (Item.ofOption?_of_block known)).symm
  | @settingAlone setting => exact (Item.ofArguments_of_last (Item.ofOption?_flag setting)).symm

theorem reads_ofArguments (arguments : List String) :
    Reads arguments (Item.ofArguments arguments) := by
  induction arguments using Item.ofArguments.induct with
  | case1 => exact .done
  | case2 argument rest plain ih =>
      rw [Item.ofArguments_of_plain plain]
      exact .group (Item.spells_ofArgument plain) ih
  | case3 argument item option =>
      rw [Item.ofArguments_of_last option]
      rcases Item.ofOption?_eq_some option with ⟨known, rfl⟩ | ⟨setting, rfl, rfl⟩
      · exact .blockAlone known
      · exact .settingAlone
  | case4 argument item option value later ih =>
      rw [Item.ofArguments_of_option option]
      rcases Item.ofOption?_eq_some option with ⟨known, rfl⟩ | ⟨setting, rfl, rfl⟩
      · exact .group (.block known) ih
      · exact .group .setting ih

theorem reads_iff (arguments : List String) (items : List Item) :
    Reads arguments items ↔ items = Item.ofArguments arguments := by
  constructor
  · exact Reads.eq_ofArguments
  · rintro rfl
    exact reads_ofArguments arguments

end ProverInput.CommandLine
