import ErrorUnion.Command.Run
import ErrorUnion.Proofs.Generation.Plan

/- Where the options of a run come from: a flag goes before a variable, and a variable before the
   default. Every variable that is set is read, though. One that cannot be read ends the run, even
   if a flag has been given in its place. -/
namespace ErrorUnion
open Text Name

inductive Setting where
  | renameExceptions
  | retryPolicy
  | runtimeCrate

namespace Setting

@[reducible] def Val : Setting → Type
  | renameExceptions => Bool
  | retryPolicy => RetryPolicy
  | runtimeCrate => String

def variableName : Setting → String
  | renameExceptions => renameExceptionsVariable
  | retryPolicy => retryPolicyVariable
  | runtimeCrate => runtimeCrateVariable

def value : (s : Setting) → Options → s.Val
  | renameExceptions, o => o.renameExceptions
  | retryPolicy, o => o.retryPolicy
  | runtimeCrate, o => o.runtimeCrate

def flag? : (s : Setting) → Override → Option s.Val
  | renameExceptions, v => v.renameExceptions
  | retryPolicy, v => v.retryPolicy
  | runtimeCrate, v => v.runtimeCrate

def read : (s : Setting) → String → Except OptionFault s.Val
  | renameExceptions, text => match flagValue? text with
    | some b => .ok b
    | none => .error (.renameExceptions text)
  | retryPolicy, text => (RetryPolicy.ofName text).mapError .retryPolicy
  | runtimeCrate, text => match cratePathFault? (trim text) with
    | none => .ok (trim text)
    | some f => .error (.runtimeCrate f)

def inherited (s : Setting) (env : Environment) : Except OptionFault s.Val :=
  match env s.variableName with
  | none => .ok (s.value .default)
  | some text => s.read text

def Readable (s : Setting) (given : Option String) : Prop :=
  ∀ text, given = some text → ∃ v, s.read text = .ok v

end Setting

def Environment.set (env : Environment) (name : String) (given : Option String) : Environment :=
  fun n => if n = name then given else env n

/-- The options of a run: flags over the environment over the defaults. -/
def effectiveOptions (env : Environment) (flags : Override) : Except OptionFault Options :=
  match Options.default.withEnvironment env with
  | .error f => .error f
  | .ok o => flags.apply o

theorem run_by_options (parser : SyntaxCheck) (t : FileTree) (env : Environment)
    (a : GenerateArgs) :
    runGenerateArgs parser t env a =
      match effectiveOptions env a.flags with
      | .error f => ⟨t, [], .error f.failure⟩
      | .ok o => runGenerate parser t a.model a.out o a.check := by
  unfold runGenerateArgs effectiveOptions
  cases Options.default.withEnvironment env <;> rfl

theorem checked_ok_iff (o p : Options) :
    o.checked = .ok p ↔ p = o ∧ IsCratePath o.runtimeCrate := by
  rw [← option_fault_none_iff, Options.checked]
  cases o.fault? <;> simp [eq_comm]

theorem retry_policy_inherited (env : Environment) :
    Options.default.withRetryPolicy env =
      (Setting.retryPolicy.inherited env).map
        fun p => { Options.default with retryPolicy := p } := by
  simp only [Options.withRetryPolicy, Setting.inherited, Setting.variableName]
  cases env retryPolicyVariable with
  | none => rfl
  | some text =>
    simp only [Setting.read]
    cases RetryPolicy.ofName text <;> rfl

theorem rename_exceptions_inherited (env : Environment) (p : RetryPolicy) (c : String) :
    Options.withRenameExceptions ⟨true, p, c, true⟩ env =
      (Setting.renameExceptions.inherited env).map fun b => ⟨b, p, c, true⟩ := by
  simp only [Options.withRenameExceptions, Setting.inherited, Setting.variableName]
  cases env renameExceptionsVariable with
  | none => rfl
  | some text =>
    simp only [Setting.read]
    cases flagValue? text <;> rfl

theorem runtime_crate_replaced (env : Environment) :
    ∃ c, ∀ b p, Options.withRuntimeCrate ⟨b, p, "errgen_runtime", true⟩ env = ⟨b, p, c, true⟩ := by
  unfold Options.withRuntimeCrate
  cases env runtimeCrateVariable with
  | none => exact ⟨_, fun _ _ => rfl⟩
  | some text => exact ⟨_, fun _ _ => rfl⟩

theorem runtime_crate_inherited (env : Environment) (b : Bool) (p : RetryPolicy) :
    (Options.withRuntimeCrate ⟨b, p, "errgen_runtime", true⟩ env).checked =
      (Setting.runtimeCrate.inherited env).map fun c => ⟨b, p, c, true⟩ := by
  simp only [Options.withRuntimeCrate, Setting.inherited, Setting.variableName]
  cases env runtimeCrateVariable with
  | none =>
    have valid : cratePathFault? "errgen_runtime" = none := by decide +kernel
    simp only [Options.checked, Options.fault?, valid]
    rfl
  | some text =>
    simp only [Setting.read, Options.checked, Options.fault?]
    cases cratePathFault? (trim text) <;> rfl

theorem environment_read (env : Environment) :
    Options.default.withEnvironment env = (do
      let p ← Setting.retryPolicy.inherited env
      let b ← Setting.renameExceptions.inherited env
      let c ← Setting.runtimeCrate.inherited env
      .ok ⟨b, p, c, true⟩) := by
  unfold Options.withEnvironment
  rw [retry_policy_inherited]
  cases Setting.retryPolicy.inherited env with
  | error f => rfl
  | ok p =>
    obtain ⟨c, replaced⟩ := runtime_crate_replaced env
    simp only [Except.map, bind, Except.bind, Options.default, replaced,
      rename_exceptions_inherited]
    cases Setting.renameExceptions.inherited env with
    | error f => rfl
    | ok b =>
      have checked := runtime_crate_inherited env b p
      rw [replaced] at checked
      exact checked

theorem effective_options_read (env : Environment) (flags : Override) :
    effectiveOptions env flags = (do
      let p ← Setting.retryPolicy.inherited env
      let b ← Setting.renameExceptions.inherited env
      let c ← Setting.runtimeCrate.inherited env
      (flags.over ⟨b, p, c, true⟩).checked) := by
  rw [effectiveOptions, environment_read]
  cases Setting.retryPolicy.inherited env with
  | error f => rfl
  | ok p =>
    cases Setting.renameExceptions.inherited env with
    | error f => rfl
    | ok b =>
      cases Setting.runtimeCrate.inherited env with
      | error f => rfl
      | ok c => rfl

theorem effective_options_ok_iff (env : Environment) (flags : Override) (o : Options) :
    effectiveOptions env flags = .ok o ↔
      (∀ s : Setting, ∃ v, s.inherited env = .ok v ∧ s.value o = (s.flag? flags).getD v) ∧
        o.verifySyntax = true ∧ IsCratePath o.runtimeCrate := by
  rw [effective_options_read]
  constructor
  · intro ended
    cases policy : Setting.retryPolicy.inherited env with
    | error f => simp [policy, bind, Except.bind] at ended
    | ok p =>
      cases rename : Setting.renameExceptions.inherited env with
      | error f => simp [policy, rename, bind, Except.bind] at ended
      | ok b =>
        cases crate : Setting.runtimeCrate.inherited env with
        | error f => simp [policy, rename, crate, bind, Except.bind] at ended
        | ok c =>
          simp only [policy, rename, crate, bind, Except.bind] at ended
          obtain ⟨rfl, path⟩ := (checked_ok_iff _ _).mp ended
          refine ⟨?_, rfl, path⟩
          rintro (_ | _ | _)
          · exact ⟨b, rename, rfl⟩
          · exact ⟨p, policy, rfl⟩
          · exact ⟨c, crate, rfl⟩
  · rintro ⟨values, verify, path⟩
    obtain ⟨p, policy, p_value⟩ := values .retryPolicy
    obtain ⟨b, rename, b_value⟩ := values .renameExceptions
    obtain ⟨c, crate, c_value⟩ := values .runtimeCrate
    have same : flags.over ⟨b, p, c, true⟩ = o := by
      cases o
      simp only [Setting.value, Setting.flag?] at p_value b_value c_value verify
      simp only [Override.over, p_value, b_value, c_value, verify]
    simp only [policy, rename, crate, bind, Except.bind, same]
    exact (checked_ok_iff _ _).mpr ⟨rfl, path⟩

theorem inherited_set_other {s other : Setting} (apart : other ≠ s) (env : Environment)
    (given : Option String) :
    other.inherited (env.set s.variableName given) = other.inherited env := by
  have names : other.variableName ≠ s.variableName := by
    cases s <;> cases other <;> first | decide | exact absurd rfl apart
  simp only [Setting.inherited, Environment.set, if_neg names]

theorem inherited_set_readable {s : Setting} {given : Option String} (readable : s.Readable given)
    (env : Environment) : ∃ v, s.inherited (env.set s.variableName given) = .ok v := by
  simp only [Setting.inherited, Environment.set, if_pos]
  cases given with
  | none => exact ⟨_, rfl⟩
  | some text => exact readable text rfl

theorem flag_hides_variable {s : Setting} {flags : Override} (given : (s.flag? flags).isSome)
    {x y : Option String} (first : s.Readable x) (second : s.Readable y) (env : Environment) :
    effectiveOptions (env.set s.variableName x) flags =
      effectiveOptions (env.set s.variableName y) flags := by
  obtain ⟨v, read⟩ := inherited_set_readable first env
  obtain ⟨w, reread⟩ := inherited_set_readable second env
  obtain ⟨flag, held⟩ := Option.isSome_iff_exists.mp given
  have others := fun other apart => @inherited_set_other s other apart env
  simp only [effective_options_read]
  cases s with
  | renameExceptions =>
    rw [others .retryPolicy nofun, others .retryPolicy nofun, others .runtimeCrate nofun,
      others .runtimeCrate nofun, read, reread]
    simp only [Setting.flag?] at held
    simp only [bind, Except.bind, Override.over, held, Option.getD_some]
  | retryPolicy =>
    rw [others .renameExceptions nofun, others .renameExceptions nofun,
      others .runtimeCrate nofun, others .runtimeCrate nofun, read, reread]
    simp only [Setting.flag?] at held
    simp only [bind, Except.bind, Override.over, held, Option.getD_some]
  | runtimeCrate =>
    rw [others .retryPolicy nofun, others .retryPolicy nofun, others .renameExceptions nofun,
      others .renameExceptions nofun, read, reread]
    simp only [Setting.flag?] at held
    simp only [bind, Except.bind, Override.over, held, Option.getD_some]

theorem unreadable_variable {s : Setting} {given : Option String} (unreadable : ¬ s.Readable given)
    (env : Environment) (flags : Override) :
    ∃ f, effectiveOptions (env.set s.variableName given) flags = .error f := by
  cases ended : effectiveOptions (env.set s.variableName given) flags with
  | error f => exact ⟨f, rfl⟩
  | ok o =>
    obtain ⟨v, read, -⟩ := ((effective_options_ok_iff _ _ _).mp ended).1 s
    refine absurd ?_ unreadable
    rintro text rfl
    simp only [Setting.inherited, Environment.set, if_pos] at read
    exact ⟨v, read⟩

theorem log_filter_set (env : Environment) (s : Setting) (given : Option String) (verbose : Bool) :
    logFilter (env.set s.variableName given) verbose = logFilter env verbose := by
  have apart : logVariable ≠ s.variableName := by cases s <;> decide
  simp only [logFilter, Environment.set, if_neg apart]

/-- A run takes each option from its flag, else from its variable, else from the defaults, and the
variable of a flag that is given can be changed at will between values that can be read: the run
stays what it is. A value that cannot be read ends the run before anything is written. -/
theorem flags_go_first {parser : SyntaxCheck} {t : FileTree} {env : Environment}
    {args : List String} {verbose : Bool} {a : GenerateArgs}
    (call : Invocation.ofArgs args = .ok ⟨verbose, .generate a⟩) :
    (∀ o, effectiveOptions env a.flags = .ok o →
      runGenerateArgs parser t env a = runGenerate parser t a.model a.out o a.check) ∧
    (∀ o, effectiveOptions env a.flags = .ok o ↔
      (∀ s : Setting, ∃ v, s.inherited env = .ok v ∧ s.value o = (s.flag? a.flags).getD v) ∧
        o.verifySyntax = true ∧ IsCratePath o.runtimeCrate) ∧
    ∀ s : Setting, (s.flag? a.flags).isSome → ∀ x : Option String,
      (s.Readable x → ∀ y, s.Readable y →
        runArgs parser t (env.set s.variableName x) args =
          runArgs parser t (env.set s.variableName y) args) ∧
      (¬ s.Readable x →
        (runArgs parser t (env.set s.variableName x) args).exit = 2 ∧
          (runArgs parser t (env.set s.variableName x) args).files = t) := by
  refine ⟨?_, effective_options_ok_iff env a.flags, ?_⟩
  · intro o ended
    rw [run_by_options, ended]
  · intro s given x
    refine ⟨fun first y second => ?_, fun unreadable => ?_⟩
    · simp only [runArgs, call, run, run_by_options, log_filter_set,
        flag_hides_variable given first second]
    · obtain ⟨f, ended⟩ := unreadable_variable unreadable env a.flags
      simp only [runArgs, call, run, run_by_options, ended]
      exact ⟨rfl, rfl⟩

def plainFolder : FileTree where
  nodes :=
    [(["work"], .folder),
     (["work", "m.json"],
       .file "\x7b\"schema_version\":\"errgen.model@0.1.0\",\"namespace\":\"a\"\x7d".toUTF8 .full)]
  here := ["work"]

def policyArgs : List String :=
  ["gen", "--model", "m.json", "--out", "o.rs", "--retry-policy", "client-only"]

def policyCall : GenerateArgs := ⟨"m.json", "o.rs", false, ⟨none, some .clientOnly, none⟩⟩

theorem policy_args_read : Invocation.ofArgs policyArgs = .ok ⟨false, .generate policyCall⟩ := by
  decide +kernel

theorem policy_flag_goes_first :
    Invocation.ofArgs policyArgs = .ok ⟨false, .generate policyCall⟩ ∧
      runArgs .byPath plainFolder
          (Environment.set (fun _ => none) "ERRGEN_RETRY_POLICY" (some "fault-side")) policyArgs =
        runArgs .byPath plainFolder (Environment.set (fun _ => none) "ERRGEN_RETRY_POLICY" none)
          policyArgs := by
  obtain ⟨-, -, alike⟩ := @flags_go_first .byPath plainFolder (fun _ => none) _ _ _ policy_args_read
  refine ⟨policy_args_read, (alike .retryPolicy rfl _).1 ?_ none ?_⟩
  · rintro text ⟨⟩
    exact ⟨.faultSide, rfl⟩
  · rintro text ⟨⟩

/-- The variable of a flag that is given can still make the run fail. -/
theorem hidden_variable_ends_run :
    ¬ ∀ (t : FileTree) (env : Environment) (args : List String) (verbose : Bool) (a : GenerateArgs),
      Invocation.ofArgs args = .ok ⟨verbose, .generate a⟩ →
      ∀ s : Setting, (s.flag? a.flags).isSome → ∀ x y : Option String,
        (runArgs .byPath t (env.set s.variableName x) args).exit =
          (runArgs .byPath t (env.set s.variableName y) args).exit := by
  intro all
  have same := all plainFolder (fun _ => none) policyArgs false policyCall policy_args_read
    .retryPolicy rfl (some "always") none
  have failed : (runArgs .byPath plainFolder (Environment.set (fun _ => none) "ERRGEN_RETRY_POLICY"
      (some "always")) policyArgs).exit = 2 := by decide +kernel
  have written : (runArgs .byPath plainFolder (Environment.set (fun _ => none) "ERRGEN_RETRY_POLICY"
      none) policyArgs).exit = 0 := by decide +kernel
  exact absurd (failed.symm.trans (same.trans written)) (by decide)

end ErrorUnion
