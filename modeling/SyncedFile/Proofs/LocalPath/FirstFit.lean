import SyncedFile.LocalPath

/-!
# The plan that fits first

Each strategy has one place to offer for a file. The first place whose full path fits is taken, and
those that did not fit are told as fallbacks. All that later modules know of a chosen plan comes
from this one case analysis.

* `Target`, `Target.candidate`, `Target.firstFit?` — the places of a file, and the first that fits;
* `Target.choose_eq` — every outcome of choosing a plan;
* `Target.choose_eq_ok_iff`, `Target.byteLength_fullPath` — the plans that are chosen, and their
  lengths.
-/

namespace SyncedFile.LocalPath

/-! ## Places -/

def Strategy.fileName (name : Text) : Strategy → Text
  | full => name
  | hashedName | shortDirectory => digestName name

/-- Only the full strategy keeps a name. -/
theorem fileName_cases (strategy : Strategy) (name : Text) :
    strategy = .full ∨ strategy.fileName name = digestName name := by
  cases strategy with
  | full => exact .inl rfl
  | hashedName => exact .inr rfl
  | shortDirectory => exact .inr rfl

/-- The strategies that are tried before another. -/
def Strategy.earlier : Strategy → List Strategy
  | full => []
  | hashedName => [full]
  | shortDirectory => [full, hashedName]

/-- What a local path is made for. -/
structure Target where
  segments : List Text
  root : Text
  identity : Text
  name : Text

namespace Target

variable (target : Target)

def directory : Strategy → Text
  | .full | .hashedName =>
    LocalPath.directory target.root target.identity (serverPath target.segments)
  | .shortDirectory => LocalPath.directory target.root target.identity []

/-- The full path that a strategy offers. This is what is measured. -/
def candidate (strategy : Strategy) : Text :=
  fullPath (target.directory strategy) (strategy.fileName target.name)

/-- The plan that a strategy leads to. -/
def plan (strategy : Strategy) : Plan where
  directory := target.directory strategy
  fileName := sanitize (strategy.fileName target.name)
  strategy := strategy

/-- The first strategy whose full path is within the limit. -/
def firstFit? (limit : Int) : Option Strategy :=
  [.full, .hashedName, .shortDirectory].find? fun strategy =>
    Text.byteLength (target.candidate strategy) ≤ limit

/-- The fallbacks on the way to a strategy: one for each full path that did not fit. -/
def fallbacks (limit : Int) : Strategy → List Fallback
  | .full => []
  | .hashedName => [⟨.hashedName, target.candidate .full, limit⟩]
  | .shortDirectory =>
    [⟨.hashedName, target.candidate .full, limit⟩,
      ⟨.shortDirectory, target.candidate .hashedName, limit⟩]

variable {target} {limit : Int} {strategy : Strategy}

theorem firstFit?_eq_some_iff :
    target.firstFit? limit = some strategy ↔
      Text.byteLength (target.candidate strategy) ≤ limit ∧
        ∀ other ∈ strategy.earlier, limit < Text.byteLength (target.candidate other) := by
  by_cases full : Text.byteLength (target.candidate .full) ≤ limit <;>
  by_cases hashed : Text.byteLength (target.candidate .hashedName) ≤ limit <;>
  by_cases short : Text.byteLength (target.candidate .shortDirectory) ≤ limit <;>
  cases strategy <;>
  simp [firstFit?, Strategy.earlier, full, hashed, short] <;>
  omega

theorem firstFit?_eq_none_iff :
    target.firstFit? limit = none ↔
      ∀ strategy, limit < Text.byteLength (target.candidate strategy) := by
  simp only [firstFit?, List.find?_eq_none, decide_eq_true_eq, Int.not_le]
  constructor
  · intro refused strategy
    exact refused strategy (by cases strategy <;> simp)
  · exact fun refused strategy _ => refused strategy

end Target

/-! ## Lengths -/

theorem byteLength_digestName (name : Text) : Text.byteLength (digestName name) = 32 := by
  have single : ∀ c ∈ Digest.Md5.upperDigits, c.utf8Size = 1 := by decide
  rw [← Digest.Md5.length_hex name, digestName]
  exact Text.byteLength_eq_length fun c mem => single c (Digest.Md5.hexDigit_of_mem_hex mem)

theorem byteLength_sanitize (name : Text) :
    Text.byteLength (sanitize name) = Text.byteLength name := by
  have size : ∀ c ∈ forbidden, replacement.utf8Size = c.utf8Size := by decide
  rw [sanitize_eq_map]
  induction name with
  | nil => rfl
  | cons c rest ih =>
    have first : (sanitizeChar c).utf8Size = c.utf8Size := by
      rw [sanitizeChar]
      split
      · next bad => exact size c bad
      · rfl
    rw [List.map_cons, Text.byteLength_cons, Text.byteLength_cons, first, ih]

theorem byteLength_fullPath (directory fileName : Text) :
    Text.byteLength (fullPath directory fileName) =
      Text.byteLength directory + 1 + Text.byteLength fileName := by
  have slash : ('/' : Char).utf8Size = 1 := rfl
  rw [fullPath, Text.byteLength_append, Text.byteLength_cons, slash, Nat.add_assoc]

/-- A plan keeps its budgets with the name that has been measured: it stands under that name without
the forbidden characters, which is as long. -/
structure Plan.Keeps (plan : Plan) (budget : Budget) (measured : Text) : Prop where
  fullPath_le : Text.byteLength plan.fullPath ≤ budget.fullPath
  fileName_le : Text.byteLength plan.fileName ≤ budget.fileName
  allowed : ∀ c ∈ plan.fileName, c ∉ forbidden
  fileName_eq : plan.fileName = sanitize measured
  byteLength_eq : Text.byteLength plan.fileName = Text.byteLength measured

namespace Target

variable {target : Target} {budget : Budget} {limit : Int} {strategy : Strategy} {plan : Plan}

/-- A plan is as long as what has been measured for it, although its name is sanitized later. -/
theorem byteLength_plan (target : Target) (strategy : Strategy) :
    Text.byteLength (target.plan strategy).fullPath =
      Text.byteLength (target.candidate strategy) := by
  rw [Plan.fullPath, candidate, byteLength_fullPath, byteLength_fullPath, plan,
    byteLength_sanitize]

/-- In one directory a digest is only shorter than what it stands for if that has more octets than
the digest. -/
theorem lt_byteLength_of_hashedName (chosen : target.firstFit? limit = some .hashedName) :
    32 < Text.byteLength target.name := by
  obtain ⟨fits, refused⟩ := firstFit?_eq_some_iff.1 chosen
  have long := refused .full List.mem_cons_self
  rw [candidate, byteLength_fullPath] at fits long
  simp only [directory, Strategy.fileName, byteLength_digestName] at fits long
  omega

/-! ## Choosing -/

/-- Every outcome of choosing a plan: where a place fits, the first one is taken, if its name fits,
too; where none does, the last one is reported. -/
theorem choose_eq (target : Target) (budget : Budget) :
    choose target.segments target.root target.identity target.name budget =
      match target.firstFit? budget.fullPath with
      | some strategy =>
        ⟨target.fallbacks budget.fullPath strategy,
          finish budget (target.directory strategy) (strategy.fileName target.name) strategy⟩
      | none =>
        ⟨target.fallbacks budget.fullPath .shortDirectory,
          .error (.pathTooLong (target.candidate .shortDirectory) budget.fullPath)⟩ := by
  have measured (strategy : Strategy) :
      budget.fits (target.directory strategy) (strategy.fileName target.name) =
        decide (Text.byteLength (target.candidate strategy) ≤ budget.fullPath) := rfl
  have full := measured .full
  have hashed := measured .hashedName
  have short := measured .shortDirectory
  simp only [directory, Strategy.fileName] at full hashed short
  simp only [choose, full, hashed, short, firstFit?, List.find?]
  cases decide (Text.byteLength (target.candidate .full) ≤ budget.fullPath) with
  | true => rfl
  | false =>
    cases decide (Text.byteLength (target.candidate .hashedName) ≤ budget.fullPath) with
    | true => rfl
    | false =>
      cases decide (Text.byteLength (target.candidate .shortDirectory) ≤ budget.fullPath) with
      | true => rfl
      | false => rfl

theorem finish_eq (target : Target) (budget : Budget) (strategy : Strategy) :
    finish budget (target.directory strategy) (strategy.fileName target.name) strategy =
      if budget.fileName < Text.byteLength (strategy.fileName target.name) then
        .error (.fileNameTooLong (strategy.fileName target.name) budget.fileName)
      else .ok (target.plan strategy) := rfl

/-- There is a plan if some place fits and the name of the first that does fits, too. -/
theorem choose_eq_ok_iff (target : Target) :
    (choose target.segments target.root target.identity target.name budget).result = .ok plan ↔
      ∃ strategy, target.firstFit? budget.fullPath = some strategy ∧
        Text.byteLength (strategy.fileName target.name) ≤ budget.fileName ∧
        plan = target.plan strategy := by
  rw [choose_eq]
  cases target.firstFit? budget.fullPath with
  | none => simp
  | some strategy =>
    simp only [finish_eq, Option.some.injEq, exists_eq_left', ← Int.not_lt]
    split
    · next long => simp [long]
    · next fits => simp [fits, eq_comm]

theorem keeps_of_choose (target : Target)
    (chosen : (choose target.segments target.root target.identity target.name budget).result =
      .ok plan) :
    plan.Keeps budget (plan.strategy.fileName target.name) := by
  obtain ⟨strategy, first, fitting, rfl⟩ := (target.choose_eq_ok_iff).1 chosen
  have measured := byteLength_sanitize (strategy.fileName target.name)
  refine {
    fullPath_le := ?_
    fileName_le := ?_
    allowed := fun _ mem => notMem_forbidden_of_mem_sanitize mem
    fileName_eq := rfl
    byteLength_eq := measured }
  · rw [Target.byteLength_plan]
    exact (Target.firstFit?_eq_some_iff.1 first).1
  · rw [Target.plan, measured]
    exact fitting

end Target

def Strategy.inOrder : List Strategy :=
  [.full, .hashedName, .shortDirectory]

/-- The number of fallbacks tells which strategy is the one that a choice has come to. A path is
found to be too long only after both of them. -/
structure Choice.Counted (choice : Choice) : Prop where
  length_le : choice.fallbacks.length ≤ 2
  strategy : ∀ plan, choice.result = .ok plan →
    Strategy.inOrder[choice.fallbacks.length]? = some plan.strategy
  pathTooLong : ∀ failure, choice.result = .error failure → failure.kind = .pathTooLong →
    choice.fallbacks.length = 2

theorem Target.length_fallbacks (target : Target) (limit : Int) (strategy : Strategy) :
    (target.fallbacks limit strategy).length = strategy.earlier.length := by
  cases strategy <;> rfl

theorem Strategy.earlier_inOrder (strategy : Strategy) :
    strategy.earlier.length ≤ 2 ∧ inOrder[strategy.earlier.length]? = some strategy := by
  cases strategy <;> decide

theorem counted_choose (segments : List Text) (root identity name : Text) (budget : Budget) :
    (choose segments root identity name budget).Counted := by
  have chosen := Target.choose_eq ⟨segments, root, identity, name⟩ budget
  dsimp only at chosen
  rw [chosen]
  split
  · next strategy first =>
    obtain ⟨few, place⟩ := strategy.earlier_inOrder
    refine ⟨?_, fun plan finished => ?_, fun failure refused kind => ?_⟩
    · rwa [Target.length_fallbacks]
    · rw [Target.finish_eq] at finished
      split at finished
      · cases finished
      · obtain rfl := Except.ok.inj finished
        rwa [Target.length_fallbacks]
    · -- A path is not what is too long once a place has been found.
      rw [Target.finish_eq] at refused
      split at refused
      · cases refused
        cases kind
      · cases refused
  · exact ⟨Nat.le_refl 2, nofun, fun _ _ _ => rfl⟩

end SyncedFile.LocalPath
