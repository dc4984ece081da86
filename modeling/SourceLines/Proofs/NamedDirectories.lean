/-
# The directories that a command line names

The directories of a command line can be read off without its checks: they are the
arguments that are no options and that no option takes for its value, and all arguments
behind two dashes that stand alone. A line that asks for a scan asks for exactly these
directories, in the order of the line, and for a directory that is named twice twice.

While the arguments are taken, directories and values wait. What is kept through this is
which directories have been named, checked or not, and whether an option waits for its
value; each kind of argument has a lemma about both.
-/

import SourceLines.CommandLine
import SourceLines.Problem

namespace SourceLines

namespace CommandLine

/-- The names of the options with a value. -/
def valueOptionNames : List String := ["format", "config", "jobs"]

/-- The argument, without its two dashes, is an option that takes the next argument for
its value. -/
def longAsksForValue (argument : Bytes) : Bool :=
  (NativeText.mk (argument.takeWhile (· != equalSign))).toString?.any valueOptionNames.contains &&
    !argument.contains equalSign

/-- The letters behind a single dash end with an option that takes the next argument for
its value. -/
def lettersAskForValue : Bytes → Bool
  | letterV :: rest => lettersAskForValue rest
  | [letterJ] => true
  | _ => false

/-- The directories that some arguments name. The first argument is none if an option
takes it for its value. -/
def namedDirectories (isValue : Bool) : List NativeText → List NativeText
  | [] => []
  | argument :: rest =>
      match argument.bytes with
      | dash :: dash :: [] => rest
      | dash :: dash :: name => namedDirectories (longAsksForValue name) rest
      | dash :: letter :: letters =>
          namedDirectories (lettersAskForValue (letter :: letters)) rest
      | _ =>
          if isValue then namedDirectories false rest
          else argument :: namedDirectories false rest

/-- The directories that are still to be checked. -/
def Waiting.named : Waiting → List NativeText
  | .directories names => names
  | _ => []

theorem directories_of_setOption {arguments after : Arguments} {option : ValueOption}
    {value : NativeText} (done : setOption arguments option value = .ok after) :
    after.directories = arguments.directories := by
  unfold setOption at done
  -- A value is refused because there is one already, or for what it is.
  split at done <;> split at done
  · cases done
  · split at done <;> cases done
    rfl
  · cases done
  · split at done <;> cases done
    rfl
  · cases done
  · split at done <;> cases done
    rfl

namespace State

/-- The directories that have been named so far. -/
def named (state : State) : List NativeText :=
  state.arguments.directories ++ state.waiting.named

/-- An option waits for its value. -/
def awaitsValue (state : State) : Bool :=
  match state.waiting with
  | .option _ none => true
  | _ => false

/-- On the way from one state to another these directories are named, and in the end an
option waits for its value or does not. -/
structure Names (before after : State) (directories : List NativeText) (isValue : Bool) : Prop where
  named : after.named = before.named ++ directories
  awaitsValue : after.awaitsValue = isValue

theorem Names.trans {first second third : State} {before after : List NativeText} {isValue : Bool}
    {wasValue : Bool} (start : Names first second before wasValue)
    (finish : Names second third after isValue) : Names first third (before ++ after) isValue where
  named := by rw [finish.named, start.named, List.append_assoc]
  awaitsValue := finish.awaitsValue

variable {state after : State}

/-- What is settled has all the directories, and a value that is missing cannot be. -/
theorem of_settle {arguments : Arguments} (settled : state.settle = .ok arguments) :
    arguments.directories = state.named ∧ state.awaitsValue = false := by
  unfold settle at settled
  unfold named awaitsValue
  split at settled
  · next waiting =>
    cases settled
    simp [waiting, Waiting.named]
  · cases settled
  · next waiting =>
    have kept := directories_of_setOption settled
    simp [waiting, Waiting.named, kept]
  · next directories waiting =>
    split at settled <;> cases settled
    simp [waiting, Waiting.named]

/-- Once everything is settled nothing waits but what comes next. -/
theorem names_of_settle {arguments : Arguments} (settled : state.settle = .ok arguments)
    {next : State} (same : next.arguments.directories = arguments.directories) :
    Names state next next.waiting.named next.awaitsValue where
  named := by rw [named, same, (of_settle settled).1]
  awaitsValue := rfl

/-! ## One argument -/

theorem names_of_raiseVerbosity (taken : state.raiseVerbosity = .ok after) :
    Names state after [] false := by
  obtain ⟨arguments, settled, taken⟩ := bind_eq_ok_iff.mp taken
  cases taken
  exact names_of_settle settled rfl

/-- A question about the program leads to no further state. -/
theorem stopWith_ne_ok (answer : UsageProblem) : state.stopWith answer ≠ .ok after := by
  intro taken
  obtain ⟨arguments, settled, taken⟩ := bind_eq_ok_iff.mp taken
  cases taken

theorem names_of_takeOption {option : ValueOption} {attached : Option NativeText}
    (taken : state.takeOption option attached = .ok after) :
    Names state after [] attached.isNone := by
  obtain ⟨arguments, settled, taken⟩ := bind_eq_ok_iff.mp taken
  cases attached with
  | none =>
      cases taken
      exact names_of_settle settled rfl
  | some value =>
      obtain ⟨changed, given, taken⟩ := bind_eq_ok_iff.mp taken
      cases taken
      exact names_of_settle settled (directories_of_setOption given)

/-- A directory is named unless an option waits for its value. -/
theorem names_of_takeDirectory {directory : NativeText}
    (taken : state.takeDirectory directory = .ok after) :
    state.awaitsValue = false ∧ Names state after [directory] false := by
  unfold takeDirectory at taken
  split at taken
  · next directories waiting =>
    cases taken
    refine ⟨by rw [awaitsValue, waiting], ?_, rfl⟩
    simp [named, Waiting.named, waiting]
  · obtain ⟨arguments, settled, taken⟩ := bind_eq_ok_iff.mp taken
    cases taken
    exact ⟨(of_settle settled).2, names_of_settle settled rfl⟩

theorem names_of_takePlain {argument : NativeText} (taken : state.takePlain argument = .ok after) :
    Names state after (if state.awaitsValue then [] else [argument]) false := by
  unfold takePlain at taken
  split at taken
  · next option waiting =>
    cases taken
    refine ⟨?_, rfl⟩
    simp [named, awaitsValue, Waiting.named, waiting]
  · obtain ⟨notAwaiting, names⟩ := names_of_takeDirectory taken
    rw [notAwaiting]
    exact names

/-- An option has no value attached to it when there is no equal sign. -/
theorem isNone_attached (argument : Bytes) :
    (match argument.dropWhile (· != equalSign) with
      | _ :: value => some (NativeText.mk value)
      | [] => none).isNone = !argument.contains equalSign := by
  induction argument with
  | nil => rfl
  | cons byte rest ih =>
      by_cases sign : byte = equalSign
      · subst sign
        rfl
      · rw [List.contains_cons, beq_false_of_ne (Ne.symm sign), Bool.false_or, ← ih,
          List.dropWhile_cons_of_pos]
        exact bne_iff_ne.mpr sign

theorem names_of_takeLong {argument : Bytes} (taken : state.takeLong argument = .ok after) :
    Names state after [] (longAsksForValue argument) := by
  have attached := isNone_attached argument
  unfold takeLong at taken
  dsimp only at taken
  rw [longAsksForValue, ← attached]
  generalize (NativeText.mk (argument.takeWhile (· != equalSign))).toString? = name at taken ⊢
  split at taken
  · exact names_of_takeOption taken
  · exact names_of_takeOption taken
  · exact names_of_takeOption taken
  · split at taken
    · cases taken
    · exact names_of_raiseVerbosity taken
  · split at taken
    · cases taken
    · exact absurd taken (stopWith_ne_ok _)
  · split at taken
    · cases taken
    · exact absurd taken (stopWith_ne_ok _)
  · cases taken

/-- Flags that share a dash are taken one by one; only the last letter can ask for a
value. -/
theorem names_of_takeLetters {letters : Bytes} (notNil : letters ≠ [])
    (taken : state.takeLetters letters = .ok after) :
    Names state after [] (lettersAskForValue letters) := by
  induction letters generalizing state with
  | nil => contradiction
  | cons letter rest ih =>
      unfold takeLetters at taken
      split at taken
      · contradiction
      · next same =>
        cases same
        obtain ⟨next, raised, taken⟩ := bind_eq_ok_iff.mp taken
        have names := names_of_raiseVerbosity raised
        by_cases last : rest = []
        · subst last
          cases taken
          exact names
        · exact names.trans (ih last taken)
      · exact absurd taken (stopWith_ne_ok _)
      · exact absurd taken (stopWith_ne_ok _)
      · next same =>
        cases same
        exact names_of_takeOption taken
      · next same =>
        cases same
        exact names_of_takeOption taken
      · next value notLast _ same =>
        cases same
        cases rest with
        | nil => exact absurd rfl notLast
        | cons c others => exact names_of_takeOption taken
      · cases taken

/-! ## The whole line -/

/-- Behind two dashes every argument is a directory. -/
theorem named_of_foldlM {directories : List NativeText}
    (taken : directories.foldlM takeDirectory state = .ok after) :
    after.named = state.named ++ directories := by
  induction directories generalizing state with
  | nil =>
      cases taken
      exact (List.append_nil _).symm
  | cons directory rest ih =>
      rw [List.foldlM_cons] at taken
      obtain ⟨next, first, others⟩ := bind_eq_ok_iff.mp taken
      rw [ih others, (names_of_takeDirectory first).2.named, List.append_assoc,
        List.singleton_append]

/-- One argument after another, what has been named grows by what the arguments name. -/
theorem named_of_takeAll {line : List NativeText} (taken : state.takeAll line = .ok after) :
    after.named = state.named ++ namedDirectories state.awaitsValue line := by
  induction line generalizing state with
  | nil =>
      cases taken
      exact (List.append_nil _).symm
  | cons argument rest ih =>
      unfold takeAll at taken
      split at taken
      · next alone =>
        rw [namedDirectories, alone]
        exact named_of_foldlM taken
      · next name notNil long =>
        obtain ⟨next, first, others⟩ := bind_eq_ok_iff.mp taken
        have names := names_of_takeLong first
        rw [ih others, names.named, names.awaitsValue, List.append_nil, namedDirectories]
        simp only [long]
      · next c letters notAlone notLong short =>
        obtain ⟨next, first, others⟩ := bind_eq_ok_iff.mp taken
        have names := names_of_takeLetters (List.cons_ne_nil _ _) first
        rw [ih others, names.named, names.awaitsValue, List.append_nil, namedDirectories]
        simp only [short]
      · next notAlone notLong notShort =>
        obtain ⟨next, first, others⟩ := bind_eq_ok_iff.mp taken
        have names := names_of_takePlain first
        rw [ih others, names.named, names.awaitsValue, namedDirectories]
        cases state.awaitsValue <;> simp

end State

/-- The directories that the arguments ask for are those that the line names, in the same
order, and there is at least one. -/
theorem directories_of_parse {line : List NativeText} {arguments : Arguments}
    (accepted : parse line = .ok arguments) :
    arguments.directories = namedDirectories false line ∧ arguments.directories ≠ [] := by
  obtain ⟨state, taken, rest⟩ := bind_eq_ok_iff.mp accepted
  obtain ⟨settled, isSettled, rest⟩ := bind_eq_ok_iff.mp rest
  have named := State.named_of_takeAll taken
  have kept := (State.of_settle isSettled).1
  dsimp only at rest
  split at rest
  · cases rest
  · next notEmpty =>
    cases rest
    exact ⟨kept.trans named, fun none => notEmpty (List.isEmpty_iff.mpr none)⟩

example : namedDirectories false ["-vj", "4", "a", "--format=json", "-", "--", "-b"] =
    (["a", "-", "-b"] : List NativeText) := rfl

end CommandLine

end SourceLines
