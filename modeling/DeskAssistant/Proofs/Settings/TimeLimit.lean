import DeskAssistant.Command.Runner
import DeskAssistant.Proofs.Text.Spelling
import DeskAssistant.Settings

/-!
# The time limit of a command

A text sets the time limit when it spells an integer, which is brought between one second and one
hour; any other text leaves the limit at five minutes (`Settings.isTimeLimit_timeout`). A runner
takes the limit of its settings as it is, because that is never below one second
(`Settings.seconds_ofEnvironment`), so every environment puts a command behind a guard that stops it
within the hour (`Settings.guardedWithin_ofEnvironment`).
-/

set_option autoImplicit false
set_option relaxedAutoImplicit false

namespace DeskAssistant

namespace Settings

/-! ### The limit that a text sets -/

theorem one_le_clamp (seconds : Int) : 1 ≤ clamp seconds := Int.le_max_left 1 _

theorem clamp_le (seconds : Int) : clamp seconds ≤ 3600 := by
  unfold clamp
  omega

/-- A blank text spells no integer, so it needs no case of its own. -/
theorem snd_timeout_some (text : String) :
    (timeout (some text)).2 = ((Text.parseInteger text.toList).map clamp).getD 300 := by
  unfold timeout
  dsimp only
  split_ifs with hblank
  · have hnone : Text.parseInteger text.toList = none := by
      rw [Text.parseInteger, List.isEmpty_iff.mp hblank]
      rfl
    rw [hnone]
    rfl
  · cases Text.parseInteger text.toList <;> rfl

/-- What the time limit is in view of a text that may set it. -/
structure IsTimeLimit (text : Option String) (seconds : Int) : Prop where
  one_le : 1 ≤ seconds
  le_hour : seconds ≤ 3600
  eq_of_spelling : ∀ spelling : Text.Spelling, text = some (String.ofList spelling.text) →
    seconds = max 1 (min 3600 spelling.value)
  eq_of_no_spelling : (∀ spelling : Text.Spelling, text ≠ some (String.ofList spelling.text)) →
    seconds = 300

theorem isTimeLimit_of_spelling (spelling : Text.Spelling) :
    IsTimeLimit (some (String.ofList spelling.text)) (clamp spelling.value) where
  one_le := one_le_clamp _
  le_hour := clamp_le _
  eq_of_spelling other hother := by
    have htext : spelling.text = other.text := String.ofList_injective (Option.some.inj hother)
    have hvalue : some spelling.value = some other.value := by
      rw [← spelling.parseInteger_text, htext, other.parseInteger_text]
    rw [clamp, Option.some.inj hvalue]
  eq_of_no_spelling hnone := absurd rfl (hnone spelling)

theorem isTimeLimit_default {text : Option String}
    (hnone : ∀ spelling : Text.Spelling, text ≠ some (String.ofList spelling.text)) :
    IsTimeLimit text 300 where
  one_le := by decide
  le_hour := by decide
  eq_of_spelling spelling htext := absurd htext (hnone spelling)
  eq_of_no_spelling _ := rfl

theorem isTimeLimit_timeout (text : Option String) : IsTimeLimit text (timeout text).2 := by
  cases text with
  | none => exact isTimeLimit_default nofun
  | some text =>
    rw [snd_timeout_some]
    cases hparse : Text.parseInteger text.toList with
    | some value =>
      obtain ⟨spelling, htext, rfl⟩ := Text.parseInteger_eq_some_iff.mp hparse
      have hlimit := isTimeLimit_of_spelling spelling
      rw [htext, String.ofList_toList] at hlimit
      exact hlimit
    | none =>
      refine isTimeLimit_default fun spelling htext ↦ ?_
      have hread := spelling.parseInteger_text
      rw [← String.toList_ofList (l := spelling.text), ← Option.some.inj htext, hparse] at hread
      cases hread

/-- Digits of two scripts, a sign and an underscore. -/
example : (timeout (some "\t+1_\u0662\u0663 ")).2 = 123 := by decide +kernel

/-! ### The guard -/

theorem timeoutSeconds_ofEnvironment (environment : Environment) :
    (ofEnvironment environment).2.timeoutSeconds =
      (timeout (environment.get? Command.timeoutVariable)).2 := by
  unfold ofEnvironment
  cases defaultAgent (environment.get? providerVariable)
  cases timeout (environment.get? Command.timeoutVariable)
  rfl

/-- The limit of an environment is never raised by the runner. -/
theorem seconds_ofEnvironment (environment : Environment) :
    (Command.Runner.ofSeconds (ofEnvironment environment).2.timeoutSeconds).seconds =
      (timeout (environment.get? Command.timeoutVariable)).2 := by
  rw [timeoutSeconds_ofEnvironment]
  exact max_eq_right (isTimeLimit_timeout _).one_le

/-- What is started in place of a command, in view of the environment and of what the search for the
guard has found. -/
structure GuardedWithin (environment : Environment) (found : Option String)
    (command started : List String) : Prop where
  of_found : ∀ path, found = some path → path ≠ "" →
    ∃ seconds, IsTimeLimit (environment.get? Command.timeoutVariable) seconds ∧
      started = [path, "--signal=KILL", toString seconds ++ "s"] ++ command
  of_missing : found.getD "" = "" → started = command

theorem guardedWithin_ofEnvironment (environment : Environment) (found : Option String)
    (command : List String) :
    GuardedWithin environment found command
      ((Command.Runner.ofSeconds (ofEnvironment environment).2.timeoutSeconds).wrap found
        command).2 where
  of_found := by
    rintro path rfl hpath
    refine ⟨_, isTimeLimit_timeout (environment.get? Command.timeoutVariable), ?_⟩
    have hfound : (some path).filter (fun path ↦ !path.isEmpty) = some path := by
      rw [Option.filter_some, if_pos]
      simpa using hpath
    rw [← seconds_ofEnvironment]
    simp only [Command.Runner.wrap, hfound, List.cons_append, List.nil_append]
  of_missing hmissing := by
    have hnone : found.filter (fun path ↦ !path.isEmpty) = none := by
      cases found with
      | none => rfl
      | some path =>
        rw [Option.filter_some, if_neg]
        simpa using hmissing
    simp only [Command.Runner.wrap, hnone]

/-- Every text sets a time limit, and every environment starts commands within its own. -/
theorem timeLimits_and_guards :
    (∀ text, IsTimeLimit text (timeout text).2) ∧
      ∀ environment found command, GuardedWithin environment found command
        ((Command.Runner.ofSeconds (ofEnvironment environment).2.timeoutSeconds).wrap found
          command).2 :=
  ⟨isTimeLimit_timeout, guardedWithin_ofEnvironment⟩

end Settings

end DeskAssistant
