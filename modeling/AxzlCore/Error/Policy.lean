import Mathlib.Data.List.Basic

/-!
# `Error.cpp` — which unrecoverable-error policy is in force

`ErrorPolicy` asks the environment first (`ErrorEnvPolicy`) and falls back to the policy the build selected
(`ErrorConfiguredPolicy`).  Both answers are kept in function-local statics, so the first call of a process
decides.

* `errorPolicy_fresh` — the first call, by the state of the environment variable: with the variable absent
  the conversion of the absent value to a string faults; with the variable set its value is not looked at.
* `errorPolicy_cached` — later calls repeat the first answer whatever the environment has become.
* `errorPolicy_resolves_iff` — the states of environment and build in which the documented resolution is
  what `ErrorPolicy` returns.
-/

set_option autoImplicit false

namespace AxzlCore

/-- `enum class UnrecoverableErrorPolicy`. -/
inductive UnrecoverableErrorPolicy
  | throwException
  | logAndThrowException
  | logAndCallHandler
  | logAndAbort
  deriving DecidableEq, Repr

/-- The preprocessor definition the build adds for the option `AXZL_UNRECOVERABLE_ERROR_POLICY`;
`undefined` is a build that adds none of them. -/
inductive PolicyDefinition
  | throw
  | logAndThrow
  | logAndCallHandler
  | logAndAbort
  | undefined
  deriving DecidableEq, Repr

/-- Ways in which resolving the policy does not produce one. -/
inductive PolicyFault
  /-- An absent C string was read as a string. -/
  | nullString
  /-- The selected branch names an enumerator that does not exist, so there is no program to run. -/
  | illFormed (enumerator : String)
  deriving DecidableEq, Repr

/-- The function-local statics of `Error.cpp`, unset until their initialiser has run. -/
structure PolicyStatics where
  envPolicy : Option (Option String) := none
  axzlEnvPolicy : Option (Option UnrecoverableErrorPolicy) := none
  axzlErrorPolicy : Option UnrecoverableErrorPolicy := none
  deriving DecidableEq, Repr

/-- Code that may initialise statics and may fault. -/
abbrev PolicyM := StateT PolicyStatics (Except PolicyFault)

/-- `static auto x { init };`: run the initialiser only while the static is unset. -/
def staticInit {α : Type} (get : PolicyStatics → Option α) (set : α → PolicyStatics → PolicyStatics)
    (init : PolicyM α) : PolicyM α := fun st =>
  match get st with
  | some value => .ok (value, st)
  | none => do
      let (value, st') ← init st
      return (value, set value st')

/-- `std::string policy { envPolicy }`: the conversion of a C string, undefined on a null pointer. -/
def stdString : Option String → Except PolicyFault String
  | some value => .ok value
  | none => .error .nullString

/-- The four comparisons of `ErrorEnvPolicy`, on the lower-cased value. -/
def matchPolicy (policy : List Char) : Option UnrecoverableErrorPolicy :=
  if policy = "throw".toList then
    some .throwException
  else if policy = "logandthrow".toList then
    some .logAndThrowException
  else if policy = "logandcallhandler".toList then
    some .logAndCallHandler
  else if policy = "logandabort".toList then
    some .logAndAbort
  else
    none

/-- `ErrorEnvPolicy`, where `env` is what `secure_getenv` returns. -/
def errorEnvPolicy (env : Option String) : PolicyM (Option UnrecoverableErrorPolicy) := do
  let envPolicy ← staticInit (·.envPolicy) (fun v st => { st with envPolicy := some v }) (pure env)
  -- the guard of the source is `if (!envPolicy)`
  if envPolicy.isNone then
    let policy ← (stdString envPolicy : Except PolicyFault String)
    return matchPolicy (policy.toList.map Char.toLower)
  else
    return none

/-- `ErrorConfiguredPolicy`.  Two of its branches name enumerators the enumeration does not have. -/
def errorConfiguredPolicy : PolicyDefinition → Except PolicyFault UnrecoverableErrorPolicy
  | .throw => .ok .throwException
  | .logAndThrow => .ok .logAndThrowException
  | .logAndCallHandler => .error (.illFormed "UnrecoverableErrorPolicy::logAndCallHandler")
  | .logAndAbort => .error (.illFormed "UnrecoverableErrorPolicy::Abort")
  | .undefined => .ok .throwException

/-- `ErrorPolicy`. -/
def errorPolicy (build : PolicyDefinition) (env : Option String) :
    PolicyM UnrecoverableErrorPolicy := do
  let axzlEnvPolicy ← staticInit (·.axzlEnvPolicy)
    (fun v st => { st with axzlEnvPolicy := some v }) (errorEnvPolicy env)
  staticInit (·.axzlErrorPolicy) (fun v st => { st with axzlErrorPolicy := some v })
    (match axzlEnvPolicy with
      | some policy => pure policy
      | none => (errorConfiguredPolicy build : Except PolicyFault UnrecoverableErrorPolicy))

/-! ## The documented resolution -/

/-- Equality of two strings up to the case of ASCII letters. -/
def EqIgnoringCase (s t : String) : Prop :=
  s.toList.map Char.toLower = t.toList.map Char.toLower

instance (s t : String) : Decidable (EqIgnoringCase s t) :=
  inferInstanceAs (Decidable (_ = _))

/-- The documented values of the variable with the policies they name. -/
def documentedPolicies : List (String × UnrecoverableErrorPolicy) :=
  [("throw", .throwException), ("logAndThrow", .logAndThrowException),
    ("logAndCallHandler", .logAndCallHandler), ("logAndAbort", .logAndAbort)]

/-- The policy a value of the variable names, if any. -/
def namedPolicy (value : String) : Option UnrecoverableErrorPolicy :=
  (documentedPolicies.find? fun entry => decide (EqIgnoringCase value entry.1)).map Prod.snd

/-- The policy a build option selects. -/
def configuredPolicy : PolicyDefinition → UnrecoverableErrorPolicy
  | .throw => .throwException
  | .logAndThrow => .logAndThrowException
  | .logAndCallHandler => .logAndCallHandler
  | .logAndAbort => .logAndAbort
  | .undefined => .throwException

/-- The documented resolution: the policy the variable names, else the one of the build. -/
def documentedPolicy (build : PolicyDefinition) (env : Option String) : UnrecoverableErrorPolicy :=
  (env.bind namedPolicy).getD (configuredPolicy build)

/-- The comparisons of the source recognise exactly the documented names. -/
theorem matchPolicy_toLower (value : String) :
    matchPolicy (value.toList.map Char.toLower) = namedPolicy value := by
  have hthrow : "throw".toList.map Char.toLower = "throw".toList := by decide
  have hlog : "logAndThrow".toList.map Char.toLower = "logandthrow".toList := by decide
  have hhandler :
      "logAndCallHandler".toList.map Char.toLower = "logandcallhandler".toList := by decide
  have habort : "logAndAbort".toList.map Char.toLower = "logandabort".toList := by decide
  unfold namedPolicy documentedPolicies matchPolicy
  simp only [List.find?_cons, EqIgnoringCase, hthrow, hlog, hhandler, habort]
  split
  · next h => simp [h]
  · next h₁ =>
      simp only [h₁, decide_false]
      split
      · next h => simp [h]
      · next h₂ =>
          simp only [h₂, decide_false]
          split
          · next h => simp [h]
          · next h₃ =>
              simp only [h₃, decide_false]
              split
              · next h => simp [h]
              · next h₄ =>
                  simp only [h₄, decide_false, List.find?_nil, Option.map_none]

/-! ## What the first call does -/

/-- **The first call of a process.**  An absent variable faults; a present one is ignored. -/
theorem errorPolicy_fresh (build : PolicyDefinition) (env : Option String) :
    errorPolicy build env {} =
      match env with
      | none => .error .nullString
      | some value => (errorConfiguredPolicy build).map fun policy =>
          (policy, ⟨some (some value), some none, some policy⟩) := by
  cases env with
  | none => rfl
  | some value => cases build <;> rfl

/-- Once a policy was resolved, every later call returns it, whatever the environment is by then. -/
theorem errorPolicy_cached {build : PolicyDefinition} {env : Option String}
    {policy : UnrecoverableErrorPolicy} {st : PolicyStatics}
    (h : errorPolicy build env {} = .ok (policy, st)) (later : Option String) :
    errorPolicy build later st = .ok (policy, st) := by
  rw [errorPolicy_fresh] at h
  cases env with
  | none => cases h
  | some value =>
      cases build <;> cases h <;> rfl

/-- `ErrorPolicy` completes on the first call and returns the documented policy. -/
def ResolvesAsDocumented (build : PolicyDefinition) (env : Option String) : Prop :=
  ∃ st, errorPolicy build env {} = .ok (documentedPolicy build env, st)

/-- The builds whose branch of `ErrorConfiguredPolicy` names an existing enumerator. -/
def BuildCompiles (build : PolicyDefinition) : Prop :=
  build ≠ .logAndCallHandler ∧ build ≠ .logAndAbort

theorem errorConfiguredPolicy_of_compiles {build : PolicyDefinition} (h : BuildCompiles build) :
    errorConfiguredPolicy build = .ok (configuredPolicy build) := by
  cases build with
  | throw | logAndThrow | undefined => rfl
  | logAndCallHandler => exact absurd rfl h.1
  | logAndAbort => exact absurd rfl h.2

theorem compiles_of_errorConfiguredPolicy {build : PolicyDefinition}
    {policy : UnrecoverableErrorPolicy} (h : errorConfiguredPolicy build = .ok policy) :
    BuildCompiles build ∧ policy = configuredPolicy build := by
  cases build <;> cases h <;> exact ⟨⟨by decide, by decide⟩, rfl⟩

/-- **Exactly when the policy is resolved as documented**: the build compiles, the variable is set, and
its value names no policy or names the one the build selects anyway. -/
theorem errorPolicy_resolves_iff (build : PolicyDefinition) (env : Option String) :
    ResolvesAsDocumented build env ↔
      BuildCompiles build ∧ ∃ value, env = some value ∧
        (namedPolicy value = none ∨ namedPolicy value = some (configuredPolicy build)) := by
  unfold ResolvesAsDocumented
  rw [errorPolicy_fresh]
  cases env with
  | none => simp
  | some value =>
      -- a variable that is set is ignored, so its value may only say what the build says
      have hdoc : documentedPolicy build (some value) = configuredPolicy build ↔
          namedPolicy value = none ∨ namedPolicy value = some (configuredPolicy build) := by
        unfold documentedPolicy
        cases hname : namedPolicy value with
        | none => simp [hname]
        | some policy => simp [hname]
      constructor
      · rintro ⟨st, hst⟩
        cases hbuild : errorConfiguredPolicy build with
        | error fault =>
            rw [hbuild] at hst
            cases hst
        | ok policy =>
            obtain ⟨hcompiles, hpolicy⟩ := compiles_of_errorConfiguredPolicy hbuild
            rw [hbuild] at hst
            have heq : policy = documentedPolicy build (some value) :=
              congrArg Prod.fst (Except.ok.inj hst)
            exact ⟨hcompiles, value, rfl, hdoc.mp (heq.symm.trans hpolicy)⟩
      · rintro ⟨hbuild, value', hvalue, hname⟩
        cases hvalue
        rw [errorConfiguredPolicy_of_compiles hbuild, hdoc.mpr hname]
        exact ⟨_, rfl⟩

/-- With the variable unset nothing is returned: the absent value is read as a string. -/
theorem errorPolicy_unset_not_resolved :
    errorPolicy .throw none {} = .error .nullString ∧ ¬ ResolvesAsDocumented .throw none := by
  refine ⟨rfl, ?_⟩
  rintro ⟨st, hst⟩
  cases hst

end AxzlCore
