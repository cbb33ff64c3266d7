import DecompilerBridge.Script.Interpreter
import DecompilerBridge.Shell.Program

/-!
# Where modules are found

The base directory comes from the first of four sources that names one (`BaseFrom`). A module is
looked up at one path below it, and there is an answer in every case: the text of the file, or the
reason why there is none (`Resolver.Answers`).

Paths are joined as texts. A relative part goes behind the base and a separator (`join_relative`),
so different parts lead to different paths (`join_inj`); an absolute part replaces the base.
-/

set_option autoImplicit false

namespace DecompilerBridge

/-! ## Joined paths -/

namespace Path

/-- Whether a path does not start at the root. -/
def IsRelative (path : String) : Prop := path.toList.head? ≠ some '/'

instance (path : String) : Decidable (IsRelative path) := inferInstanceAs (Decidable (_ ≠ _))

/-- What goes between a base and a relative part. -/
def separator (base : String) : String :=
  if base = "" ∨ base.toList.getLast? = some '/' then "" else "/"

/-- A path is relative exactly if it is not absolute. -/
theorem isAbsolute_eq_false_iff {path : String} : isAbsolute path = false ↔ IsRelative path := by
  simp [isAbsolute, IsRelative]

/-- A relative part goes behind the base. -/
theorem join_relative {part : String} (relative : IsRelative part) (base : String) :
    join base part = base ++ separator base ++ part := by
  have empty : base.toList.isEmpty = decide (base = "") := by
    rw [Bool.eq_iff_iff, List.isEmpty_iff, decide_eq_true_eq, String.toList_eq_nil_iff]
  unfold join separator
  rw [if_neg (by simp [isAbsolute_eq_false_iff.2 relative]), empty]
  by_cases bare : base = "" ∨ base.toList.getLast? = some '/'
  · rw [if_pos (by simpa using bare), if_pos bare, String.append_empty]
  · rw [if_neg (by simpa using bare), if_neg bare]

/-- An absolute part replaces the base. -/
theorem join_absolute {part : String} (absolute : ¬IsRelative part) (base : String) :
    join base part = part :=
  if_pos (by simpa [isAbsolute, IsRelative] using absolute)

/-- Different relative parts lead to different paths. -/
theorem join_inj {part other : String} (relative : IsRelative part)
    (relativeOther : IsRelative other)
    {base : String} : join base part = join base other ↔ part = other := by
  rw [join_relative relative, join_relative relativeOther]
  refine ⟨fun same => ?_, fun same => by rw [same]⟩
  rw [← String.toList_inj, String.toList_append, String.toList_append (t := other)] at same
  exact String.toList_inj.1 (List.append_cancel_left same)

/-- Two joins in a row are one join of both parts. -/
theorem join_join {first second : String} (relative : IsRelative first)
    (relativeSecond : IsRelative second) (nonempty : first ≠ "")
    (ends : first.toList.getLast? ≠ some '/') (base : String) :
    join (join base first) second = join base (first ++ "/" ++ second) := by
  have chars : first.toList ≠ [] := mt String.toList_eq_nil_iff.1 nonempty
  have both : IsRelative (first ++ "/" ++ second) := by
    obtain ⟨c, rest, start⟩ := List.exists_cons_of_ne_nil chars
    simpa [IsRelative, String.toList_append, start] using relative
  -- the joined path ends like its last part
  have between : separator (join base first) = "/" := by
    refine if_neg (not_or.2 ⟨fun empty => ?_, ?_⟩)
    · rw [join_relative relative] at empty
      have none := congrArg String.toList empty
      simp [String.toList_append, chars] at none
    · have last := List.getLast?_eq_some_getLast chars
      rw [last] at ends
      rw [join_relative relative, String.toList_append, List.getLast?_append, last]
      exact ends
  rw [join_relative relativeSecond, between, join_relative relative, join_relative both]
  simp only [String.append_assoc]

end Path

/-! ## The base directory -/

/-- The base directory that four sources call for: a flag, a configuration file, a setting of the
environment that is not empty, and the data directory. The first that is there counts. -/
structure BaseFrom (given configured set data base : Option String) : Prop where
  flag : ∀ dir, given = some dir → base = some dir
  file : given = none → ∀ dir, configured = some dir → base = some dir
  setting : given = none → configured = none → ∀ dir, set = some dir → dir ≠ "" → base = some dir
  installed : given = none → configured = none → set.getD "" = "" → ∀ dir, data = some dir →
    base = some (Path.join dir "radare2/r2pm/git/r2dec-js")
  missing : given = none → configured = none → set.getD "" = "" → data = none → base = none

/-- The package is installed four directories below the data directory. -/
theorem installParts_join (dir : String) :
    installParts.foldl Path.join dir = Path.join dir "radare2/r2pm/git/r2dec-js" := by
  have first : Path.join (Path.join dir "radare2") "r2pm" = Path.join dir "radare2/r2pm" :=
    Path.join_join (by decide) (by decide) (by decide) (by decide) dir
  have second : Path.join (Path.join dir "radare2/r2pm") "git" = Path.join dir "radare2/r2pm/git" :=
    Path.join_join (by decide) (by decide) (by decide) (by decide) dir
  have third : Path.join (Path.join dir "radare2/r2pm/git") "r2dec-js" =
      Path.join dir "radare2/r2pm/git/r2dec-js" :=
    Path.join_join (by decide) (by decide) (by decide) (by decide) dir
  simp only [installParts, List.foldl_cons, List.foldl_nil, first, second, third]

/-- A setting that is not empty is the base. -/
theorem baseDirectory_of_setting {dir : String} (nonempty : dir ≠ "") (data : Option String) :
    baseDirectory (some dir) data = some dir :=
  if_neg nonempty

/-- Without a setting the package is below the data directory. -/
theorem baseDirectory_of_data {setting : Option String} (unset : setting.getD "" = "")
    (data : Option String) : baseDirectory setting data =
      data.map fun dir => Path.join dir "radare2/r2pm/git/r2dec-js" := by
  have installed : baseDirectory.installed data =
      data.map fun dir => Path.join dir "radare2/r2pm/git/r2dec-js" := by
    simp only [baseDirectory.installed, installParts_join]
  cases setting with
  | none => exact installed
  | some dir => exact (if_pos unset).trans installed

namespace Shell

/-- The base directory under settings of a configuration file and the command line. -/
theorem resolve_baseFrom (config : ShellConfig) (flags : Flags) (environment : Environment)
    (files : FileTree) :
    BaseFrom flags.home config.home environment.scriptHome environment.dataDirectory
      (Resolver.directory ⟨(config.resolve flags).base, environment, files⟩) := by
  have based : (config.resolve flags).base =
      (flags.home <|> config.home).elim .environment .fixed := rfl
  constructor
  · intro dir flag
    rw [based, flag]
    rfl
  · intro flag dir file
    rw [based, flag, file]
    rfl
  · intro flag file dir setting nonempty
    rw [based, flag, file]
    show baseDirectory environment.scriptHome environment.dataDirectory = some dir
    rw [setting, baseDirectory_of_setting nonempty]
  · intro flag file unset dir data
    rw [based, flag, file]
    show baseDirectory environment.scriptHome environment.dataDirectory = _
    rw [baseDirectory_of_data unset, data]
    rfl
  · intro flag file unset data
    rw [based, flag, file]
    show baseDirectory environment.scriptHome environment.dataDirectory = _
    rw [baseDirectory_of_data unset, data]
    rfl

end Shell

/-! ## Look-ups -/

/-- The file names of different modules differ, and start at the root if the module names do. -/
theorem ModuleKind.fileName_inj {kind : ModuleKind} {name other : String} :
    kind.fileName name = kind.fileName other ↔ name = other := by
  cases kind with
  | load => exact Iff.rfl
  | require => simp [fileName]

/-- The file of a module is relative exactly if its name is. -/
theorem ModuleKind.isRelative_fileName {kind : ModuleKind} {name : String} :
    Path.IsRelative (kind.fileName name) ↔ Path.IsRelative name := by
  cases kind with
  | load => exact Iff.rfl
  | require =>
    rw [fileName, Path.IsRelative, Path.IsRelative, String.toList_append]
    cases name.toList <;> simp

namespace Resolver

variable {r : Resolver} {kind : ModuleKind} {name : String}

/-- The path of a module is its file below the base. -/
theorem path_of_base {dir : String} (base : r.directory = some dir) :
    r.path kind name = .ok (Path.join dir (kind.fileName name)) := by
  simp only [path, base]

/-- Without a base there is no module. -/
theorem read_of_noBase (base : r.directory = none) :
    (r.read kind name).1 = .error (.noBaseDirectory (kind.fileName name)) := by
  simp only [Resolver.read, path, base]

/-- A file that is missing or empty is not found. -/
theorem read_of_missing {dir : String} (base : r.directory = some dir)
    (empty : ∀ bytes, r.files.read (Path.join dir (kind.fileName name)) = .ok bytes → bytes = []) :
    (r.read kind name).1 =
      .error (.notFound (kind.fileName name) (Path.join dir (kind.fileName name))) := by
  rcases file : r.files.read (Path.join dir (kind.fileName name)) with e | _ | ⟨b, bytes⟩
  · simp only [Resolver.read, path_of_base base, file]
  · simp only [Resolver.read, path_of_base base, file]
  · exact nomatch empty _ file

/-- A file that is not empty is read. -/
theorem read_of_file {dir : String} (base : r.directory = some dir) {bytes : List UInt8}
    (file : r.files.read (Path.join dir (kind.fileName name)) = .ok bytes) (some : bytes ≠ []) :
    (r.read kind name).1 = .ok
      ⟨kind.fileName name, Path.join dir (kind.fileName name), Text.ofBytes bytes⟩ := by
  obtain ⟨b, bytes, rfl⟩ := List.exists_cons_of_ne_nil some
  simp only [Resolver.read, path_of_base base, file]

variable (r kind name) in
/-- What a resolver answers when it is asked for a module. -/
structure Answers : Prop where
  /-- There is no base directory. -/
  noBase : ∀ file, (r.read kind name).1 = .error (.noBaseDirectory file) ↔
    r.directory = none ∧ file = kind.fileName name
  /-- There is no file that can be read, or an empty one. -/
  notFound : ∀ file path, (r.read kind name).1 = .error (.notFound file path) ↔
    ∃ dir, r.directory = some dir ∧ file = kind.fileName name ∧ path = Path.join dir file ∧
      ∀ bytes, r.files.read path = .ok bytes → bytes = []
  /-- There is a file that is not empty. -/
  found : ∀ m, (r.read kind name).1 = .ok m ↔
    ∃ dir bytes, r.directory = some dir ∧
      r.files.read (Path.join dir (kind.fileName name)) = .ok bytes ∧ bytes ≠ [] ∧
      m = ⟨kind.fileName name, Path.join dir (kind.fileName name), Text.ofBytes bytes⟩

/-- There is an answer in every case, and its cause can be told from it. -/
theorem answers (r : Resolver) (kind : ModuleKind) (name : String) : r.Answers kind name := by
  -- the three cases, with the answer in each of them
  have cases : (r.directory = none ∧
        (r.read kind name).1 = .error (.noBaseDirectory (kind.fileName name))) ∨
      (∃ dir, r.directory = some dir ∧
        (∀ bytes, r.files.read (Path.join dir (kind.fileName name)) = .ok bytes → bytes = []) ∧
        (r.read kind name).1 =
          .error (.notFound (kind.fileName name) (Path.join dir (kind.fileName name)))) ∨
      ∃ dir bytes, r.directory = some dir ∧
        r.files.read (Path.join dir (kind.fileName name)) = .ok bytes ∧ bytes ≠ [] ∧
        (r.read kind name).1 = .ok
          ⟨kind.fileName name, Path.join dir (kind.fileName name), Text.ofBytes bytes⟩ := by
    cases base : r.directory with
    | none => exact .inl ⟨rfl, read_of_noBase base⟩
    | some dir =>
      by_cases empty : ∀ bytes,
          r.files.read (Path.join dir (kind.fileName name)) = .ok bytes → bytes = []
      · exact .inr (.inl ⟨dir, rfl, empty, read_of_missing base empty⟩)
      · obtain ⟨bytes, file, some⟩ : ∃ bytes,
            r.files.read (Path.join dir (kind.fileName name)) = .ok bytes ∧ bytes ≠ [] := by
          simpa using empty
        exact .inr (.inr ⟨dir, bytes, rfl, file, some, read_of_file base file some⟩)
  constructor
  · intro file
    refine ⟨fun answer => ?_, fun ⟨base, same⟩ => same ▸ read_of_noBase base⟩
    rcases cases with ⟨base, given⟩ | ⟨_, _, _, given⟩ | ⟨_, _, _, _, _, given⟩ <;>
      rw [given] at answer <;> cases answer
    exact ⟨base, rfl⟩
  · intro file path
    constructor
    · intro answer
      rcases cases with ⟨_, given⟩ | ⟨dir, base, empty, given⟩ | ⟨_, _, _, _, _, given⟩ <;>
        rw [given] at answer <;> cases answer
      exact ⟨dir, base, rfl, rfl, empty⟩
    · rintro ⟨dir, base, rfl, rfl, empty⟩
      exact read_of_missing base empty
  · intro m
    constructor
    · intro answer
      rcases cases with ⟨_, given⟩ | ⟨_, _, _, given⟩ | ⟨dir, bytes, base, file, some, given⟩ <;>
        rw [given] at answer <;> cases answer
      exact ⟨dir, bytes, base, file, some, rfl⟩
    · rintro ⟨dir, bytes, base, file, some, rfl⟩
      exact read_of_file base file some

/-- A required module is the one that is loaded with the ending of scripts, errors and records
included. -/
theorem require_eq_load (r : Resolver) (name : String) :
    r.read .require name = r.read .load (name ++ ".js") := rfl

/-- The paths of modules below a base directory. -/
structure Places (r : Resolver) (dir : String) : Prop where
  relative : ∀ kind name, Path.IsRelative name →
    r.path kind name = .ok (dir ++ Path.separator dir ++ ModuleKind.fileName kind name)
  distinct : ∀ kind name other, Path.IsRelative name → Path.IsRelative other → name ≠ other →
    r.path kind name ≠ r.path kind other
  absolute : ∀ kind name, ¬Path.IsRelative name →
    r.path kind name = .ok (ModuleKind.fileName kind name)

/-- A base directory decides about every module. -/
theorem places {dir : String} (base : r.directory = some dir) : r.Places dir where
  relative kind name relative := by
    rw [path_of_base base, Path.join_relative (ModuleKind.isRelative_fileName.2 relative)]
  distinct kind name other relative relativeOther differ := by
    rw [path_of_base base, path_of_base base]
    intro same
    have files : kind.fileName name = kind.fileName other :=
      (Path.join_inj (ModuleKind.isRelative_fileName.2 relative)
        (ModuleKind.isRelative_fileName.2 relativeOther)).1 (Except.ok.inj same)
    exact differ (ModuleKind.fileName_inj.1 files)
  absolute kind name absolute := by
    rw [path_of_base base, Path.join_absolute (mt ModuleKind.isRelative_fileName.1 absolute)]

end Resolver

/-- Where a shell finds its modules, whatever its configuration and its surroundings are. The base
directory is the first that is named by the flag, the configuration file, the setting of the
environment and the data directory. A look-up says that there is no base directory, that there is no
file or an empty one at the path, or what the file holds. A required module is the one that is
loaded with the ending of scripts. Below a base directory different names have different paths,
unless they start at the root and replace it. -/
theorem Shell.module_lookup (config : ShellConfig) (flags : Flags) (around : Surroundings) :
    let r := ((config.resolve flags).setup around).machine.resolver
    BaseFrom flags.home config.home around.environment.scriptHome
        around.environment.dataDirectory r.directory ∧
      (∀ name, r.read .require name = r.read .load (name ++ ".js")) ∧
      (∀ kind name, r.Answers kind name) ∧
      ∀ dir, r.directory = some dir → r.Places dir :=
  ⟨resolve_baseFrom config flags around.environment around.files,
    Resolver.require_eq_load _, Resolver.answers _, fun _ base => Resolver.places base⟩

/-- With a directory in the configuration file, which ends with a separator, the setting of the
environment does not count: modules are read below the directory, one that is not there is named
with its path, and a name from the root stands alone. -/
theorem Shell.module_lookup_configured :
    let around : Surroundings :=
      { environment := { scriptHome := some "/env" }
        files := { members := [("pkg", .directory [("a.js", .file [0x31])])] }
        engine := Script.jsonInterpreter.engine
        depth := Script.jsonInterpreter.levels }
    let r := ((ShellConfig.resolve { home := some "/pkg/" } {}).setup around).machine.resolver
    r.directory = some "/pkg/" ∧ (r.read .require "a").1 = .ok ⟨"a.js", "/pkg/a.js", "1"⟩ ∧
      (r.read .load "b").1 = .error (.notFound "b" "/pkg/b") ∧ r.path .load "/b" = .ok "/b" := by
  intro around r
  obtain ⟨base, -, answers, places⟩ :=
    Shell.module_lookup { home := some "/pkg/" } {} around
  have directory : r.directory = some "/pkg/" := base.file rfl _ rfl
  have read : (r.files.read (Path.join "/pkg/" "a.js")).toOption = some [0x31] := by
    decide +kernel
  have missing : (r.files.read "/pkg/b").toOption = none := by decide +kernel
  have file : r.files.read (Path.join "/pkg/" "a.js") = .ok [0x31] := by
    cases found : r.files.read (Path.join "/pkg/" "a.js") <;> rw [found] at read <;> cases read
    rfl
  refine ⟨directory, ?_, ?_, (places _ directory).absolute .load "/b" (by decide)⟩
  · exact ((answers .require "a").found _).2
      ⟨_, [0x31], directory, file, by decide, by decide +kernel⟩
  · refine ((answers .load "b").notFound _ _).2 ⟨_, directory, rfl, by decide +kernel, ?_⟩
    intro bytes found
    rw [found] at missing
    cases missing

end DecompilerBridge
