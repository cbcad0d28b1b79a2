import SyncedFile.Digest.Md5
import SyncedFile.Locator.Basic
import SyncedFile.Path.Lexical

/-!
# Local paths

Where the file of a remote locator lives on disk: under the root, in a directory named for the
identity, below it the path on the server without its last segment, and there under the file name.
Where the full path does not fit its budget the file name gives way to its digest, and where that is
not enough the path on the server is left out too.

* `serverPath`, `directory` — the directory of a locator;
* `replaceEach`, `sanitize`, `digestName` — the forms of a file name;
* `Plan`, `Choice`, `choose` — the plan that fits first, with the fallbacks tried before it.

Main statement: replacing characters one after the other comes to one map (`replaceEach_eq_map`).
-/

namespace SyncedFile.LocalPath

/-! ## Names and directories -/

def fullPath (directory fileName : Text) : Text :=
  directory ++ '/' :: fileName

def serverPath : List Text → Text
  | [] => []
  | [segment] => segment
  | segments => Text.joinWith ['/'] segments.dropLast

def digestName (fileName : Text) : Text :=
  Digest.Md5.hex fileName

def forbidden : List Char := ['<', '>', ':', '"', '/', '\\', '|', '?', '*']

def replacement : Char := '_'

def replace (fileName : Text) (c : Char) : Text :=
  fileName.map fun d => if d = c then replacement else d

def replaceEach (chars : List Char) (fileName : Text) : Text :=
  chars.foldl replace fileName

def sanitize (fileName : Text) : Text :=
  replaceEach forbidden fileName

def sanitizeChar (c : Char) : Char :=
  if c ∈ forbidden then replacement else c

def directory (root identity : Text) (subPath : Text) : Text :=
  Path.joinAll (Path.join root identity) ((Text.splitOn '/' subPath).filter (· ≠ []))

/-! ## Plans -/

/-- The steps in which a path is shortened. -/
inductive Strategy where
  | full
  | hashedName
  | shortDirectory
  deriving DecidableEq

def Strategy.name : Strategy → Text
  | full => "full"
  | hashedName => "hashed_name"
  | shortDirectory => "short_directory"

/-- The place of a file on disk, and the step that led to it. -/
structure Plan where
  directory : Text
  fileName : Text
  strategy : Strategy
  deriving DecidableEq

def Plan.fullPath (plan : Plan) : Text :=
  LocalPath.fullPath plan.directory plan.fileName

/-- How many octets the full path and the file name may have. -/
structure Budget where
  fullPath : Int := 256
  fileName : Int := 255

def Budget.standard : Budget := {}

/-- A step that is taken because the path so far did not fit. -/
structure Fallback where
  strategy : Strategy
  fullPath : Text
  limit : Int
  deriving DecidableEq

/-- A plan or the reason why there is none, and the fallbacks on the way. -/
structure Choice where
  fallbacks : List Fallback
  result : Except Failure Plan

def Budget.fits (budget : Budget) (directory fileName : Text) : Bool :=
  Text.byteLength (LocalPath.fullPath directory fileName) ≤ budget.fullPath

/-- The plan with a given directory and name, if the name fits its own budget. -/
def finish (budget : Budget) (directory name : Text) (strategy : Strategy) :
    Except Failure Plan :=
  if budget.fileName < Text.byteLength name then .error (.fileNameTooLong name budget.fileName)
  else .ok { directory := directory, fileName := sanitize name, strategy := strategy }

/-- The first plan that fits: with the name itself, with its digest, or with the digest right under
the identity's directory. -/
def choose (segments : List Text) (root identity name : Text) (budget : Budget) : Choice :=
  let long := directory root identity (serverPath segments)
  let short := directory root identity []
  let hashed := digestName name
  let toDigest : Fallback := ⟨.hashedName, fullPath long name, budget.fullPath⟩
  let toShort : Fallback := ⟨.shortDirectory, fullPath long hashed, budget.fullPath⟩
  if budget.fits long name then ⟨[], finish budget long name .full⟩
  else if budget.fits long hashed then ⟨[toDigest], finish budget long hashed .hashedName⟩
  else if budget.fits short hashed then
    ⟨[toDigest, toShort], finish budget short hashed .shortDirectory⟩
  else
    ⟨[toDigest, toShort], .error (.pathTooLong (fullPath short hashed) budget.fullPath)⟩

/-! ## Laws of file names -/

/-- Replacing characters one after the other is replacing all of them at once: what has taken the
place of one of them is left alone, or replaced by itself. -/
theorem replaceEach_eq_map (chars : List Char) (fileName : Text) :
    replaceEach chars fileName =
      fileName.map fun c => if c ∈ chars then replacement else c := by
  induction chars generalizing fileName with
  | nil => simp [replaceEach]
  | cons first rest ih =>
    have step : replaceEach (first :: rest) fileName =
        replaceEach rest (replace fileName first) := rfl
    rw [step, ih, replace, List.map_map]
    apply List.map_congr_left
    intro c _
    by_cases same : c = first
    · simp [same]
    · simp [same]

theorem sanitize_eq_map (fileName : Text) : sanitize fileName = fileName.map sanitizeChar :=
  replaceEach_eq_map forbidden fileName

@[simp] theorem length_sanitize (fileName : Text) :
    (sanitize fileName).length = fileName.length := by
  rw [sanitize_eq_map, List.length_map]

theorem sanitizeChar_notMem (c : Char) : sanitizeChar c ∉ forbidden := by
  by_cases h : c ∈ forbidden
  · simp [sanitizeChar, h]; decide
  · simp [sanitizeChar, h]

theorem notMem_forbidden_of_mem_sanitize {fileName : Text} {c : Char}
    (mem : c ∈ sanitize fileName) : c ∉ forbidden := by
  rw [sanitize_eq_map] at mem
  obtain ⟨given, -, rfl⟩ := List.mem_map.1 mem
  exact sanitizeChar_notMem given

end SyncedFile.LocalPath
