import ReleasePacker.Config.Resolve

/-!
# Failures of the configuration

Before a run has a configuration it has only read options, variables and a file, so what can fail
there is the configuration or the version that was asked for.
-/

namespace ReleasePacker

/-- What all failures of two computations have in common, all failures of the two in a row have. -/
theorem forall_error_bind {ε α β : Type} {holds : ε → Prop} {first : Except ε α}
    {next : α → Except ε β} (ofFirst : ∀ error, first = .error error → holds error)
    (ofNext : ∀ a error, next a = .error error → holds error) :
    ∀ error, first >>= next = .error error → holds error := by
  intro error failed
  cases first with
  | error failure =>
    cases failed
    exact ofFirst error rfl
  | ok a => exact ofNext a error failed

/-- Two computations in a row succeed if both do. -/
theorem exists_of_bind_eq_ok {ε α β : Type} {first : Except ε α} {next : α → Except ε β} {b : β}
    (succeeded : first >>= next = .ok b) : ∃ a, first = .ok a ∧ next a = .ok b := by
  cases first with
  | error failure => cases succeeded
  | ok a => exact ⟨a, rfl, succeeded⟩

/-- A failure that is there before anything is run. -/
def ReleaseError.IsEarly (error : ReleaseError) : Prop :=
  error.stage = .configuration ∨ error.stage = .version

theorem ProjectFile.isEarly_of_load {files : FileSystem} {projectRoot : Path} {error : ReleaseError}
    (failed : ProjectFile.load files projectRoot = .error error) : error.IsEarly := by
  unfold load parse at failed
  dsimp only at failed
  split at failed
  · split at failed
    · cases failed
    · cases failed
      exact .inl rfl
  · split at failed
    · cases failed
    · cases failed
      exact .inl rfl

theorem isEarly_of_parseVersion {text : String} {error : ReleaseError}
    (failed : parseVersion text = .error error) : error.IsEarly := by
  rw [parseVersion] at failed
  split at failed
  · cases failed
  · cases failed
    exact .inr rfl

theorem Options.isEarly_of_merge {options : Options} {context : ProcessContext} {file : ProjectFile}
    {error : ReleaseError} (failed : options.merge context file = .error error) :
    error.IsEarly := by
  refine forall_error_bind (fun error failed => ?_) (fun version => nofun) error failed
  cases tag : options.tag <|> (options.countedVariables context).tag with
  | none =>
    rw [tag] at failed
    cases failed
  | some tag' =>
    rw [tag, versionSource] at failed
    cases parsed : parseVersion tag' with
    | ok label =>
      rw [parsed] at failed
      cases failed
    | error failure =>
      rw [parsed] at failed
      cases failed
      exact isEarly_of_parseVersion parsed

theorem isEarly_of_validateName {name : String} {error : ReleaseError}
    (failed : validateName name = .error error) : error.IsEarly := by
  rw [validateName] at failed
  split at failed
  · cases failed
    exact .inl rfl
  · split at failed
    · cases failed
      exact .inl rfl
    · cases failed

theorem ReleaseConfig.isEarly_of_validate {config : ReleaseConfig} {error : ReleaseError}
    (failed : config.validate = .error error) : error.IsEarly := by
  refine forall_error_bind (fun _ => isEarly_of_validateName) (fun _ => forall_error_bind
    (fun _ => isEarly_of_validateName) fun _ => ?_) error failed
  intro error failed
  by_cases blank : Text.isBlankText config.tool.program = true
  · simp only [if_pos blank] at failed
    cases failed
    exact .inl rfl
  · by_cases hasty : config.timeout = some 0
    · simp only [if_neg blank, if_pos hasty] at failed
      cases failed
      exact .inl rfl
    · simp only [if_neg blank, if_neg hasty] at failed
      cases failed

/-- What keeps options from giving a configuration is there before anything is run. -/
theorem Options.isEarly_of_resolve {options : Options} {context : ProcessContext}
    {files : FileSystem} {error : ReleaseError}
    (failed : options.resolve context files = .error error) : error.IsEarly := by
  refine forall_error_bind (fun _ => ProjectFile.isEarly_of_load) (fun file => ?_) error failed
  refine forall_error_bind (fun _ => isEarly_of_merge) fun config => ?_
  exact forall_error_bind (fun _ => ReleaseConfig.isEarly_of_validate) fun _ _ failed => by
    cases failed

end ReleasePacker
