import DecompilerBridge.Proofs.Json.ReadBack
import DecompilerBridge.Proofs.Shell.ConfigValues

/-!
# Which configuration files are accepted

A file that holds a JSON object is read as the configuration that its members describe
(`ShellConfig.parse_object_iff`). `ShellConfig.Describes` speaks of which members there are and not
of their order, so it says at once what is accepted, what every field holds, and that neither the
order of the members nor the blanks between them count (`ShellConfig.object_file_accepted`).

The step from the loop to `ShellConfig.Describes` is one member: it takes a field that no other
member takes, and leaves the rest to the members after it (`ShellConfig.Describes.cons`,
`ShellConfig.Describes.of_cons`).
-/

set_option autoImplicit false

namespace DecompilerBridge.Shell

open Json

variable {α : Type}

/-! ## Fields -/

namespace Field

/-- What a field holds. -/
def Content : Field → Type
  | program => Option String
  | home => Option String
  | timeout => Option Nat
  | preferences => Table String

/-- What a value is to a field. -/
def meaning : (f : Field) → Written → Option f.Content
  | program => optionalOf textOf
  | home => optionalOf textOf
  | timeout => optionalOf secondsOf
  | preferences => entriesOf

/-- A field is known by its name. -/
theorem ofName?_eq_some_iff {name : String} {f : Field} :
    ofName? name = some f ↔ f.name = name := by
  constructor
  · intro found
    simpa using List.find?_some found
  · rintro rfl
    cases f <;> rfl

/-- Fields have different names. -/
theorem name_inj {f g : Field} (same : f.name = g.name) : f = g :=
  Option.some.inj ((ofName?_eq_some_iff.2 rfl).symm.trans (ofName?_eq_some_iff.2 same.symm))

/-- The names of the fields are these four. -/
theorem exists_name_iff {name : String} :
    name ∈ ["r2", "home", "timeout_secs", "preferences"] ↔ ∃ f : Field, f.name = name := by
  constructor
  · intro mem
    simp only [List.mem_cons, List.not_mem_nil, or_false] at mem
    rcases mem with rfl | rfl | rfl | rfl
    · exact ⟨program, rfl⟩
    · exact ⟨home, rfl⟩
    · exact ⟨timeout, rfl⟩
    · exact ⟨preferences, rfl⟩
  · rintro ⟨f, rfl⟩
    cases f <;> decide

end Field

namespace ShellConfig

/-- What a configuration has in a field. -/
def content (config : ShellConfig) : (f : Field) → f.Content
  | .program => config.program
  | .home => config.home
  | .timeout => config.timeout
  | .preferences => config.preferences

/-- A configuration with another content of a field. -/
def put (config : ShellConfig) : (f : Field) → f.Content → ShellConfig
  | .program, x => { config with program := x }
  | .home, x => { config with home := x }
  | .timeout, x => { config with timeout := x }
  | .preferences, x => { config with preferences := x }

/-- A field that is put has its new content. -/
@[simp] theorem content_put_self (config : ShellConfig) (f : Field) (x : f.Content) :
    (config.put f x).content f = x := by
  cases f <;> rfl

/-- Putting one field leaves the others alone. -/
theorem content_put_of_ne {f g : Field} (other : g ≠ f) (config : ShellConfig) (x : f.Content) :
    (config.put f x).content g = config.content g := by
  cases f <;> cases g <;> first | rfl | exact absurd rfl other

/-- A configuration is known by its fields. -/
theorem ext_content {config config' : ShellConfig}
    (same : ∀ f, config.content f = config'.content f) : config = config' := by
  have program : config.program = config'.program := same .program
  have home : config.home = config'.home := same .home
  have timeout : config.timeout = config'.timeout := same .timeout
  have preferences : config.preferences = config'.preferences := same .preferences
  cases config
  cases config'
  simp_all

/-- A field is read as the content that its value means. -/
theorem reads_field (config : ShellConfig) (f : Field) :
    Reads (fun cs => config.readField cs f) fun v => (f.meaning v).map (config.put f) := by
  cases f with
  | program => exact (reads_text .path).optional.map (config.put .program)
  | home => exact (reads_text .path).optional.map (config.put .home)
  | timeout => exact reads_seconds.optional.map (config.put .timeout)
  | preferences => exact reads_preferences.map (config.put .preferences)

/-- A configuration takes in a member, whose value has to fit a field that no earlier member named.
The fields named so far stand beside the configuration. -/
def takeMember (s : List Field × ShellConfig) (member : String × Written) :
    Option (List Field × ShellConfig) :=
  (Field.ofName? member.1).bind fun f =>
    if f ∈ s.1 then none else (f.meaning member.2).map fun x => (f :: s.1, s.2.put f x)

/-- A member is taken in if it names a field that is free and means something to it. -/
theorem takeMember_eq_some_iff {s s' : List Field × ShellConfig} {m : String × Written} :
    takeMember s m = some s' ↔ ∃ f x, f.name = m.1 ∧ f ∉ s.1 ∧ f.meaning m.2 = some x ∧
      s' = (f :: s.1, s.2.put f x) := by
  rw [takeMember, Option.bind_eq_some_iff]
  constructor
  · rintro ⟨f, named, made⟩
    by_cases free : f ∈ s.1
    · rw [if_pos free] at made
      cases made
    · rw [if_neg free, Option.map_eq_some_iff] at made
      obtain ⟨x, fits, rfl⟩ := made
      exact ⟨f, x, Field.ofName?_eq_some_iff.1 named, free, fits, rfl⟩
  · rintro ⟨f, x, named, free, fits, rfl⟩
    exact ⟨f, Field.ofName?_eq_some_iff.2 named, by rw [if_neg free, fits]; rfl⟩

/-- Members are taken in one after the other as they are read. -/
theorem takesMembers_readMembers :
    TakesMembers (fun fuel first s cs => (readMembers fuel first s.1 s.2 cs).toOption)
      takeMember Prod.snd where
  step {fuel first s lead name gap value rest key v} leads named blank spelled ends := by
    obtain ⟨inside, after, opened, read, colon⟩ :=
      nextMember_opens leads named (gap ++ (value ++ rest))
    rw [readMembers, opened, takeMember]
    simp only [ok_bind, if_true, read, scanned_ok, colon]
    cases Field.ofName? key with
    | none => rfl
    | some f =>
      have given := reads_field s.2 f blank spelled ends
      simp only [Option.bind_some] at given ⊢
      by_cases mem : f ∈ s.1
      · rw [if_pos mem, if_pos mem]
        rfl
      · rw [if_neg mem, if_neg mem, toOption_bind, given]
        cases f.meaning v <;> rfl
  close {fuel first s gap rest} blank := by
    rw [readMembers, nextMember_closes first blank]
    rfl

/-- A text that is an object is read as its members. -/
theorem parse_object {text : String} {members : List (String × Written)}
    (spelled : Padded Spells text.toList (.object members)) :
    (parse text).toOption = (members.foldlM takeMember ([], {})).map Prod.snd := by
  generalize whole : text.toList = cs at spelled
  obtain @⟨before, object, after, _, blank, spelled, blankAfter⟩ := spelled
  obtain ⟨inside, rfl, read⟩ := takesMembers_readMembers.object spelled
  have ended : (skipBlanks after).isEmpty = true := by
    rw [← List.append_nil after, blankAfter.skip]
    rfl
  have opened : skipBlanks text.toList = '\x7b' :: (inside ++ after) := by
    rw [whole]
    exact spelled.skip blank after
  have entered : parse text = (do
      let result ← readMembers ((inside ++ after).length + 1) true [] {} (inside ++ after)
      if (skipBlanks result.2).isEmpty then .ok result.1 else .error .malformed) := by
    rw [parse, opened]
    rfl
  rw [entered, toOption_bind, read ([], {}) after]
  cases members.foldlM takeMember ([], {}) with
  | none => rfl
  | some s => exact congrArg Except.toOption (if_pos ended)

/-- What members make of a configuration some fields of which are taken. Each member names a field
that is not taken, and no two name the same one. A field holds what its member says, and without a
member what it held before. -/
structure Describes (taken : List Field) (before : ShellConfig) (members : List (String × Written))
    (config : ShellConfig) : Prop where
  named : ∀ m ∈ members, ∃ f, f ∉ taken ∧ f.name = m.1
  once : (members.map Prod.fst).Nodup
  given : ∀ f v, (f.name, v) ∈ members → f.meaning v = some (config.content f)
  absent : ∀ f, f.name ∉ members.map Prod.fst → config.content f = before.content f

variable {taken : List Field} {before config : ShellConfig} {rest : List (String × Written)}
  {f : Field} {v : Written}

/-- A field that is taken is not named again. -/
theorem Describes.name_notMem (described : Describes (f :: taken) before rest config) :
    f.name ∉ rest.map Prod.fst := by
  intro mem
  obtain ⟨m, mem, same⟩ := List.mem_map.1 mem
  obtain ⟨g, free, named⟩ := described.named m mem
  obtain rfl := Field.name_inj (named.trans same)
  exact free List.mem_cons_self

/-- A member takes its field, and the members after it describe the rest. -/
theorem Describes.cons {x : f.Content} (free : f ∉ taken) (fits : f.meaning v = some x)
    (later : Describes (f :: taken) (before.put f x) rest config) :
    Describes taken before ((f.name, v) :: rest) config := by
  have new := later.name_notMem
  have held : config.content f = x := (later.absent f new).trans (content_put_self _ _ _)
  refine ⟨?_, List.nodup_cons.2 ⟨new, later.once⟩, ?_, ?_⟩
  · rw [List.forall_mem_cons]
    refine ⟨⟨f, free, rfl⟩, fun m mem => ?_⟩
    obtain ⟨g, freeStill, named⟩ := later.named m mem
    exact ⟨g, fun mem => freeStill (List.mem_cons_of_mem _ mem), named⟩
  · intro g w mem
    rcases List.mem_cons.1 mem with here | after
    · obtain ⟨same, rfl⟩ := Prod.mk.inj here
      obtain rfl := Field.name_inj same
      rw [fits, held]
    · exact later.given g w after
  · intro g missing
    obtain ⟨other, missing⟩ := not_or.1 (mt List.mem_cons.2 missing)
    rw [later.absent g missing, content_put_of_ne]
    rintro rfl
    exact other rfl

/-- A description of some members describes the first and then the rest. -/
theorem Describes.of_cons {name : String}
    (described : Describes taken before ((name, v) :: rest) config) :
    ∃ f x, f.name = name ∧ f ∉ taken ∧ f.meaning v = some x ∧
      Describes (f :: taken) (before.put f x) rest config := by
  obtain ⟨named, once, given, absent⟩ := described
  obtain ⟨f, free, rfl⟩ := named _ List.mem_cons_self
  obtain ⟨new, once⟩ := List.nodup_cons.1 once
  refine ⟨f, config.content f, rfl, free, given f v List.mem_cons_self, ?_, once, ?_, ?_⟩
  · intro m mem
    obtain ⟨g, freeStill, same⟩ := named m (List.mem_cons_of_mem _ mem)
    have other : g ≠ f := by
      rintro rfl
      exact new (List.mem_map.2 ⟨m, mem, same.symm⟩)
    exact ⟨g, by simp [other, freeStill], same⟩
  · exact fun g w mem => given g w (List.mem_cons_of_mem _ mem)
  · intro g missing
    by_cases same : g = f
    · subst same
      exact (content_put_self _ _ _).symm
    · rw [content_put_of_ne same]
      refine absent g fun mem => ?_
      rcases List.mem_cons.1 mem with here | later
      · exact same (Field.name_inj here)
      · exact missing later

/-- Members that are taken in, one after the other, describe what comes out. -/
theorem foldlM_takeMember_iff {members : List (String × Written)} :
    (members.foldlM takeMember (taken, before)).map Prod.snd = some config ↔
      Describes taken before members config := by
  induction members generalizing taken before with
  | nil =>
    rw [List.foldlM_nil]
    constructor
    · rintro ⟨⟩
      exact ⟨nofun, .nil, nofun, fun _ _ => rfl⟩
    · intro described
      exact congrArg some (ext_content fun f => (described.absent f nofun).symm)
  | cons m rest ih =>
    obtain ⟨name, v⟩ := m
    have steps : ((takeMember (taken, before) (name, v) >>= (rest.foldlM takeMember ·)).map
        Prod.snd = some config) ↔ ∃ s, takeMember (taken, before) (name, v) = some s ∧
          (rest.foldlM takeMember s).map Prod.snd = some config := by
      cases takeMember (taken, before) (name, v) <;> simp
    rw [List.foldlM_cons, steps]
    constructor
    · rintro ⟨s, taking, later⟩
      obtain ⟨f, x, rfl, free, fits, rfl⟩ := takeMember_eq_some_iff.1 taking
      exact .cons free fits (ih.1 later)
    · intro described
      obtain ⟨f, x, named, free, fits, later⟩ := described.of_cons
      exact ⟨_, takeMember_eq_some_iff.2 ⟨f, x, named, free, fits, rfl⟩, ih.2 later⟩

/-- A text that is an object is read as the configuration that its members describe. -/
theorem parse_object_iff {text : String} {members : List (String × Written)}
    (spelled : Padded Spells text.toList (.object members)) {config : ShellConfig} :
    parse text = .ok config ↔ Describes [] {} members config := by
  rw [← foldlM_takeMember_iff, ← parse_object spelled]
  cases parse text <;> simp [Except.toOption]

end ShellConfig

/-! ## Acceptance -/

/-- The members that a configuration file may have. -/
structure Acceptable (members : List (String × Written)) : Prop where
  known : ∀ m ∈ members, m.1 ∈ ["r2", "home", "timeout_secs", "preferences"]
  once : (members.map Prod.fst).Nodup
  program : ∀ v, ("r2", v) ∈ members → v = .null ∨ ∃ s, v = .string s
  home : ∀ v, ("home", v) ∈ members → v = .null ∨ ∃ s, v = .string s
  timeout : ∀ v, ("timeout_secs", v) ∈ members →
    v = .null ∨ ∃ n ≤ 0xFFFFFFFFFFFFFFFF, v = .number (Nat.toDigits 10 n)
  preferences : ∀ v, ("preferences", v) ∈ members →
    ∃ entries, v = .object entries ∧ ∀ e ∈ entries, ∃ s, e.2 = .string s

/-- What a configuration has in its fields if these are the members of its file. -/
structure Carries (members : List (String × Written)) (config : ShellConfig) : Prop where
  program : ∀ s, config.program = some s ↔ ("r2", .string s) ∈ members
  home : ∀ s, config.home = some s ↔ ("home", .string s) ∈ members
  timeout : ∀ n, config.timeout = some n ↔ ("timeout_secs", .number (Nat.toDigits 10 n)) ∈ members
  preferences : ∀ entries, ("preferences", .object entries) ∈ members → ∀ key s,
    config.preferences.find? key = some s ↔ lastValue entries key = some (.string s)
  ordered : (config.preferences.map Prod.fst).Pairwise (· < ·)
  noPreferences : "preferences" ∉ members.map Prod.fst → config.preferences = []

/-- Members are acceptable if each names a field, no two the same one, and its value fits. -/
theorem acceptable_iff {members : List (String × Written)} :
    Acceptable members ↔ (∀ m ∈ members, ∃ f : Field, f.name = m.1) ∧
      (members.map Prod.fst).Nodup ∧
        ∀ (f : Field) v, (f.name, v) ∈ members → (f.meaning v).isSome = true := by
  constructor
  · rintro ⟨known, once, program, home, timeout, preferences⟩
    refine ⟨fun m mem => Field.exists_name_iff.1 (known m mem), once, fun f v mem => ?_⟩
    cases f with
    | program => exact optional_text_isSome_iff.2 (program v mem)
    | home => exact optional_text_isSome_iff.2 (home v mem)
    | timeout => exact optional_seconds_isSome_iff.2 (timeout v mem)
    | preferences => exact entriesOf_isSome_iff.2 (preferences v mem)
  · rintro ⟨known, once, fits⟩
    exact {
      known := fun m mem => Field.exists_name_iff.2 (known m mem)
      once := once
      program := fun v mem => optional_text_isSome_iff.1 (fits .program v mem)
      home := fun v mem => optional_text_isSome_iff.1 (fits .home v mem)
      timeout := fun v mem => optional_seconds_isSome_iff.1 (fits .timeout v mem)
      preferences := fun v mem => entriesOf_isSome_iff.1 (fits .preferences v mem) }

namespace ShellConfig

/-- If a name stands for one value only and the values fit, each field has a content. -/
theorem exists_content {members : List (String × Written)} (once : (members.map Prod.fst).Nodup)
    (fits : ∀ (f : Field) v, (f.name, v) ∈ members → (f.meaning v).isSome = true) (f : Field) :
    ∃ x : f.Content, (∀ v, (f.name, v) ∈ members → f.meaning v = some x) ∧
      (f.name ∉ members.map Prod.fst → x = content {} f) := by
  by_cases present : f.name ∈ members.map Prod.fst
  · obtain ⟨⟨name, v⟩, mem, same⟩ := List.mem_map.1 present
    obtain rfl : name = f.name := same
    obtain ⟨x, fit⟩ := Option.isSome_iff_exists.1 (fits f v mem)
    refine ⟨x, fun w mem' => ?_, fun missing => absurd present missing⟩
    have found := (Table.find?_eq_some_iff once).2 mem
    rw [(Table.find?_eq_some_iff once).2 mem', Option.some.injEq] at found
    rwa [found]
  · exact ⟨_, fun v mem => absurd (List.mem_map_of_mem mem) present, fun _ => rfl⟩

/-- Acceptable members describe a configuration, and no others do. -/
theorem exists_describes_iff {members : List (String × Written)} :
    (∃ config, Describes [] {} members config) ↔ Acceptable members := by
  rw [acceptable_iff]
  constructor
  · rintro ⟨config, named, once, given, -⟩
    refine ⟨fun m mem => ?_, once, fun f v mem => ?_⟩
    · obtain ⟨f, -, same⟩ := named m mem
      exact ⟨f, same⟩
    · rw [given f v mem]
      rfl
  · rintro ⟨named, once, fits⟩
    obtain ⟨x, chosen⟩ := Classical.axiomOfChoice (exists_content once fits)
    let config : ShellConfig := ⟨x .program, x .home, x .timeout, x .preferences⟩
    have held : ∀ f, config.content f = x f := by
      intro f
      cases f <;> rfl
    refine ⟨config, fun m mem => ?_, once, fun f v mem => ?_, fun f missing => ?_⟩
    · obtain ⟨f, same⟩ := named m mem
      exact ⟨f, List.not_mem_nil, same⟩
    · rw [held, (chosen f).1 v mem]
    · rw [held, (chosen f).2 missing]

/-- An optional field holds what is written for it, and nothing if that is `null` or nothing is
written. -/
theorem optional_iff {members : List (String × Written)} {of : Written → Option α}
    {written : α → Written} {name : String} {content : Option α}
    (ofWritten : ∀ v a, of v = some a → v = written a) (inj : Function.Injective written)
    (notNull : ∀ a, written a ≠ .null)
    (given : ∀ v, (name, v) ∈ members → optionalOf of v = some content)
    (absent : name ∉ members.map Prod.fst → content = none) (a : α) :
    content = some a ↔ (name, written a) ∈ members := by
  constructor
  · rintro rfl
    by_cases present : name ∈ members.map Prod.fst
    · obtain ⟨⟨_, v⟩, mem, rfl⟩ := List.mem_map.1 present
      rcases of_optionalOf_eq_some (given v mem) with ⟨-, wrong⟩ | ⟨b, held, same⟩
      · cases wrong
      · cases same
        obtain rfl := ofWritten v a held
        exact mem
    · cases absent present
  · intro mem
    rcases of_optionalOf_eq_some (given _ mem) with ⟨wrong, -⟩ | ⟨b, held, rfl⟩
    · exact absurd wrong (notNull a)
    · rw [inj (ofWritten _ b held)]

/-- A configuration that members describe carries what each of them says. -/
theorem Describes.carries {members : List (String × Written)} {config : ShellConfig}
    (described : Describes [] {} members config) : Carries members config := by
  obtain ⟨named, once, given, absent⟩ := described
  have digits : Function.Injective fun n => Written.number (Nat.toDigits 10 n) := by
    intro n m same
    rw [← Nat.ofDigitChars_ten_toDigits (n := n), Written.number.inj same,
      Nat.ofDigitChars_ten_toDigits]
  have strings : Function.Injective Written.string := fun _ _ same => Written.string.inj same
  have path : ∀ {name : String} {content : Option String},
      (∀ v, (name, v) ∈ members → optionalOf textOf v = some content) →
        (name ∉ members.map Prod.fst → content = none) →
          ∀ s, content = some s ↔ (name, .string s) ∈ members :=
    optional_iff (fun _ _ held => textOf_eq_some_iff.1 held) strings nofun
  have none : "preferences" ∉ members.map Prod.fst → config.preferences = [] := absent .preferences
  exact {
    program := path (given .program) (absent .program)
    home := path (given .home) (absent .home)
    timeout := optional_iff (fun _ _ held => (secondsOf_eq_some_iff.1 held).1) digits nofun
      (given .timeout) (absent .timeout)
    preferences := by
      intro entries mem
      obtain ⟨-, _, same, found⟩ := of_entriesOf_eq_some (given .preferences _ mem)
      cases same
      exact found
    ordered := by
      by_cases present : "preferences" ∈ members.map Prod.fst
      · obtain ⟨⟨_, v⟩, mem, rfl⟩ := List.mem_map.1 present
        exact (of_entriesOf_eq_some (given .preferences v mem)).1
      · rw [none present]
        exact .nil
    noPreferences := none }

/-- Members are described in any order. -/
theorem Describes.perm {members members' : List (String × Written)} {config : ShellConfig}
    (described : Describes [] {} members config) (perm : members.Perm members') :
    Describes [] {} members' config where
  named m mem := described.named m (perm.mem_iff.2 mem)
  once := (perm.map Prod.fst).nodup_iff.1 described.once
  given f v mem := described.given f v (perm.mem_iff.2 mem)
  absent f missing := described.absent f (mt (perm.map Prod.fst).mem_iff.1 missing)

/-- Which configuration files are accepted, among those that hold a JSON object: those whose members
are acceptable. The configuration has what they say, whatever their order is and whatever blanks
there are between them. -/
theorem object_file_accepted {text : String} {members : List (String × Written)}
    (spelled : Padded Spells text.toList (.object members)) :
    ((∃ config, parse text = .ok config) ↔ Acceptable members) ∧
      (∀ config, parse text = .ok config → Carries members config) ∧
        ∀ {other : String} {members' : List (String × Written)},
          Padded Spells other.toList (.object members') → members.Perm members' →
            ∀ config, parse text = .ok config ↔ parse other = .ok config := by
  refine ⟨?_, ?_, ?_⟩
  · rw [← exists_describes_iff]
    exact exists_congr fun config => parse_object_iff spelled
  · exact fun config read => ((parse_object_iff spelled).1 read).carries
  · intro other members' spelledOther perm config
    rw [parse_object_iff spelled, parse_object_iff spelledOther]
    exact ⟨fun described => described.perm perm, fun described => described.perm perm.symm⟩

/-- With two members in either order, and a blank in front of one of the texts, both texts are read
as the same configuration. Of a preference that is there twice the last value counts. -/
theorem object_file_accepted_reordered :
    ∃ config,
      parse "\x7b\"timeout_secs\":30,\"preferences\":\x7b\"r\":\"a\",\"r\":\"b\"\x7d\x7d" =
        .ok config ∧
      parse " \x7b\"preferences\":\x7b\"r\":\"a\",\"r\":\"b\"\x7d,\"timeout_secs\":30\x7d" =
        .ok config ∧
      config.timeout = some 30 ∧ config.preferences.find? "r" = some "b" := by
  let entries : List (String × Written) := [("r", .string "a"), ("r", .string "b")]
  let timeout : String × Written := ("timeout_secs", .number ['3', '0'])
  let preferences : String × Written := ("preferences", .object entries)
  -- what both texts are made of
  have literal : ∀ s, StringLiteral (Text.jsonString s.toList) s := by
    intro s
    have quoted := StringLiteral.jsonString s.toList
    rwa [String.ofList_toList] at quoted
  have member : ∀ {cs v}, Spells cs v → ∀ name, Member Spells _ (name, v) := fun spelled name =>
    .named (.gaps .nil (literal name) .nil) (.gaps .nil spelled .nil)
  have entry : ∀ s, Member Spells _ ("r", .string s) := fun s => member (.string (literal s)) "r"
  have digits : IsDigits ['3', '0'] := ⟨List.cons_ne_nil _ _, List.all_eq_true.1 rfl⟩
  have first : Member Spells _ timeout :=
    member (.number (.parts (.inl rfl) digits (by decide) (.inl rfl) (.inl rfl))) _
  have second : Member Spells _ preferences :=
    member (.members (.more (entry "a") (.last (entry "b")))) _
  have object : ∀ {gap cs members}, Gap gap → CommaList (Member Spells) cs members →
      ∀ {text : String}, text.toList = gap ++ ('\x7b' :: (cs ++ ['\x7d']) ++ []) →
        Padded Spells text.toList (.object members) := by
    intro gap cs members blank list text whole
    rw [whole]
    exact .gaps blank (.members list) .nil
  have spelled : Padded Spells
      "\x7b\"timeout_secs\":30,\"preferences\":\x7b\"r\":\"a\",\"r\":\"b\"\x7d\x7d".toList
      (.object [timeout, preferences]) :=
    object .nil (.more first (.last second)) (by decide +kernel)
  have blank : Gap [' '] := List.forall_mem_singleton.2 List.mem_cons_self
  have reordered : Padded Spells
      " \x7b\"preferences\":\x7b\"r\":\"a\",\"r\":\"b\"\x7d,\"timeout_secs\":30\x7d".toList
      (.object [preferences, timeout]) :=
    object blank (.more second (.last first)) (by decide +kernel)
  obtain ⟨accepted, carries, again⟩ := object_file_accepted spelled
  have acceptable : Acceptable [timeout, preferences] := {
    known := by decide
    once := by decide
    program := by simp [timeout, preferences]
    home := by simp [timeout, preferences]
    timeout := fun v mem => by
      have number : v = .number ['3', '0'] := by simpa [timeout, preferences] using mem
      exact .inr ⟨30, by decide, number⟩
    preferences := fun v mem => by
      have object : v = .object entries := by simpa [timeout, preferences] using mem
      exact ⟨entries, object, by simp +contextual [entries, or_imp]⟩ }
  obtain ⟨config, held⟩ := accepted.2 acceptable
  have carried := carries config held
  refine ⟨config, held, (again reordered (.swap ..) config).1 held, ?_, ?_⟩
  · exact (carried.timeout 30).2 List.mem_cons_self
  · exact (carried.preferences entries (List.mem_cons_of_mem _ List.mem_cons_self) "r" "b").2 rfl

end ShellConfig

end DecompilerBridge.Shell
