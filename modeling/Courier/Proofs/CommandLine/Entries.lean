import Courier.Proofs.CommandLine.Args
import Mathlib.Data.List.Basic

/-! A command line that gives flags their values, in any order and in either spelling. It sets what
it names, and nothing else. -/

namespace Courier.CommandLine

inductive Flag.IsCalled : Flag → String → Prop where
  | name (flag : Flag) : IsCalled flag flag.name
  | second : IsCalled .keepaliveInterval "keepalive-internal"

theorem Flag.IsCalled.ofName? {flag : Flag} {name : String} (called : flag.IsCalled name) :
    Flag.ofName? name = some flag := by
  cases called with
  | name => cases flag <;> decide +kernel
  | second => decide +kernel

structure IsFlagName (name : String) : Prop where
  uncut : '=' ∉ name.toList
  filled : name.toList ≠ []
  unhelpful : name ≠ "help"
  unversioned : name ≠ "version"

theorem Flag.IsCalled.isFlagName {flag : Flag} {name : String} (called : flag.IsCalled name) :
    IsFlagName name := by
  cases called with
  | name => cases flag <;> constructor <;> decide +kernel
  | second => constructor <;> decide +kernel

namespace Argument

variable {name text : String}

private theorem ofText_long {rest : List Char} (chars : text.toList = '-' :: '-' :: rest)
    (filled : rest ≠ []) :
    ofText text =
      match Text.cutFirst? ['='] rest with
      | some (name, value) => .long (String.ofList name) (some (String.ofList value))
      | none => .long (String.ofList rest) none := by
  rw [ofText, chars]
  cases rest with
  | nil => exact absurd rfl filled
  | cons c rest => rfl

theorem ofText_joined (uncut : '=' ∉ name.toList) :
    ofText ("--" ++ name ++ "=" ++ text) = .long name (some text) := by
  have chars : ("--" ++ name ++ "=" ++ text).toList =
      '-' :: '-' :: (name.toList ++ '=' :: text.toList) := by
    simp
  rw [ofText_long chars (by simp), Text.cutFirst?_append uncut]
  simp

theorem ofText_apart (uncut : '=' ∉ name.toList) (filled : name.toList ≠ []) :
    ofText ("--" ++ name) = .long name none := by
  have chars : ("--" ++ name).toList = '-' :: '-' :: name.toList := by simp
  rw [ofText_long chars filled, Text.cutFirst?_eq_none uncut]
  simp

theorem ofText_plain (plain : text.toList.head? ≠ some '-') : ofText text = .plain text := by
  unfold ofText
  split
  case h_1 same | h_2 same | h_3 same => simp [same] at plain
  case h_4 => rfl

end Argument

/-- A flag with its value, as they stand on a command line: in one argument, or in two when the text
of the value does not look like a flag. -/
structure Entry where
  flag : Flag
  name : String
  called : flag.IsCalled name
  text : String
  value : flag.Value
  taken : flag.read text = .ok value
  joined : Bool
  plain : joined = false → text.toList.head? ≠ some '-'

namespace Entry

def arguments (entry : Entry) : List String :=
  if entry.joined then ["--" ++ entry.name ++ "=" ++ entry.text]
  else ["--" ++ entry.name, entry.text]

def setting (entry : Entry) : (flag : Flag) × flag.Value := ⟨entry.flag, entry.value⟩

end Entry

namespace Progress

variable {progress settled : Progress} {entry : Entry} {entries : List Entry} {flag : Flag}

def take (progress : Progress) (entry : Entry) : Progress :=
  ⟨progress.args.set entry.flag entry.value, entry.flag :: progress.given, none⟩

theorem give_entry (fresh : entry.flag ∉ progress.given) :
    progress.give entry.flag entry.text = .ok (progress.take entry) := by
  rw [give, if_neg fresh, entry.taken]
  rfl

theorem readLong_flag {name : String} (called : flag.IsCalled name)
    (settles : progress.settle = .ok settled) (value : Option String) :
    progress.readLong name value =
      match value with
      | some text => settled.give flag text
      | none => .ok { settled with opened := some (flag, none) } := by
  have named := called.isFlagName
  unfold readLong
  split
  case h_1 | h_3 => exact absurd rfl named.unhelpful
  case h_2 | h_4 => exact absurd rfl named.unversioned
  case h_5 => cases value <;> simp only [called.ofName?, settles]

private theorem read_long {argument name : String} {value : Option String} {next : Progress}
    (form : Argument.ofText argument = .long name value)
    (reads : progress.readLong name value = .ok next) (rest : List String) :
    progress.read (argument :: rest) = next.read rest := by
  cases rest <;> simp only [read, form, reads]

private theorem read_plain {text : String} (form : Argument.ofText text = .plain text)
    (rest : List String) :
    { progress with opened := some (flag, none) }.read (text :: rest) =
      { progress with opened := some (flag, some text) }.read rest := by
  cases rest <;> simp only [read, form]

theorem read_entry (settles : progress.settle = .ok settled)
    (fresh : entry.flag ∉ settled.given) :
    ∃ next : Progress, next.settle = .ok (settled.take entry) ∧
      ∀ rest, progress.read (entry.arguments ++ rest) = next.read rest := by
  have named := entry.called.isFlagName
  have reads := readLong_flag entry.called settles
  cases spelling : entry.joined with
  | true =>
      refine ⟨settled.take entry, rfl, fun rest => ?_⟩
      have given := (reads (some entry.text)).trans (give_entry fresh)
      rw [Entry.arguments, if_pos spelling, List.singleton_append,
        read_long (Argument.ofText_joined named.uncut) given]
  | false =>
      -- The flag has got its value, but stays open until the next one comes, or the end.
      refine ⟨{ settled with opened := some (entry.flag, some entry.text) }, give_entry fresh,
        fun rest => ?_⟩
      rw [Entry.arguments, if_neg (Bool.eq_false_iff.mp spelling), List.cons_append,
        List.singleton_append,
        read_long (Argument.ofText_apart named.uncut named.filled) (reads none),
        read_plain (Argument.ofText_plain (entry.plain spelling))]

theorem read_entries (settles : progress.settle = .ok settled)
    (once : (entries.map (·.flag)).Nodup) (fresh : ∀ entry ∈ entries, entry.flag ∉ settled.given) :
    progress.read (entries.flatMap Entry.arguments) = .ok (entries.foldl take settled) := by
  induction entries generalizing progress settled with
  | nil =>
      rw [List.flatMap_nil, read]
      exact settles
  | cons entry entries induction =>
      rw [List.map_cons, List.nodup_cons] at once
      rw [List.forall_mem_cons] at fresh
      obtain ⟨next, settles, reads⟩ := read_entry settles fresh.1
      rw [List.flatMap_cons, reads, List.foldl_cons]
      refine induction settles once.2 fun other member given => ?_
      rcases List.mem_cons.mp given with same | earlier
      · exact once.1 (same ▸ List.mem_map_of_mem member)
      · exact fresh.2 other member earlier

theorem get_foldl_of_not_mem (absent : flag ∉ entries.map (·.flag)) :
    (entries.foldl take progress).args.get flag = progress.args.get flag := by
  induction entries generalizing progress with
  | nil => rfl
  | cons entry entries induction =>
      rw [List.map_cons, List.mem_cons, not_or] at absent
      rw [List.foldl_cons, induction absent.2]
      exact Args.get_set_of_ne _ _ absent.1

theorem get_foldl_of_mem (once : (entries.map (·.flag)).Nodup) (member : entry ∈ entries) :
    (entries.foldl take progress).args.get entry.flag = entry.value := by
  induction entries generalizing progress with
  | nil => cases member
  | cons first entries induction =>
      rw [List.map_cons, List.nodup_cons] at once
      rw [List.foldl_cons]
      rcases List.mem_cons.mp member with rfl | later
      · rw [get_foldl_of_not_mem once.1]
        exact Args.get_set ..
      · exact induction once.2 later

end Progress

/-- A configuration in which each setting is made, and which else is that of a client that is told
nothing. -/
structure Told (settings : List ((flag : Flag) × flag.Value)) (config : Config) : Prop where
  named : ∀ setting ∈ settings, config.valueOf setting.1 = setting.2
  others : ∀ flag, (∀ setting ∈ settings, setting.1 ≠ flag) →
    config.valueOf flag = ({ topic := "" } : Config).valueOf flag
  polls : config.flowControl.pollInterval = ({ topic := "" } : Config).flowControl.pollInterval

theorem Told.unique {settings : List ((flag : Flag) × flag.Value)} {config config' : Config}
    (told : Told settings config) (told' : Told settings config') : config = config' := by
  refine Config.eq_of_valueOf (fun flag => ?_) (told.polls.trans told'.polls.symm)
  by_cases named : ∃ setting ∈ settings, setting.1 = flag
  · obtain ⟨setting, member, rfl⟩ := named
    exact (told.named setting member).trans (told'.named setting member).symm
  · have absent : ∀ setting ∈ settings, setting.1 ≠ flag :=
      fun setting member same => named ⟨setting, member, same⟩
    exact (told.others flag absent).trans (told'.others flag absent).symm

theorem Told.of_perm {settings settings' : List ((flag : Flag) × flag.Value)} {config : Config}
    (told : Told settings config) (same : settings'.Perm settings) : Told settings' config where
  named := fun setting member => told.named setting (same.mem_iff.mp member)
  others := fun flag absent =>
    told.others flag fun setting member => absent setting (same.mem_iff.mpr member)
  polls := told.polls

theorem parse_told {entries : List Entry} (once : (entries.map (·.flag)).Nodup) :
    ∃ config, parse (entries.flatMap Entry.arguments) = .ok config ∧
      Told (entries.map Entry.setting) config := by
  have read : Progress.read ⟨{}, [], none⟩ _ = .ok (entries.foldl Progress.take ⟨{}, [], none⟩) :=
    Progress.read_entries rfl once fun _ _ => List.not_mem_nil
  refine ⟨(entries.foldl Progress.take ⟨{}, [], none⟩).args.toConfig, ?_, ?_, ?_,
    Args.pollInterval_toConfig _⟩
  · rw [parse, Args.parse, read]
    rfl
  · intro setting member
    obtain ⟨entry, listed, rfl⟩ := List.mem_map.mp member
    rw [Args.valueOf_toConfig]
    exact Progress.get_foldl_of_mem once listed
  · intro flag absent
    have absent : flag ∉ entries.map (·.flag) := by
      intro member
      obtain ⟨entry, member, same⟩ := List.mem_map.mp member
      exact absent _ (List.mem_map_of_mem member) same
    rw [Args.valueOf_toConfig, Progress.get_foldl_of_not_mem absent]
    exact Args.get_default flag

/-- Flags of which none comes twice are all set to their values, each in its own place, and all else
stays as it is by default; neither their order nor their spelling matters. -/
theorem command_line_sets_what_it_names (entries : List Entry)
    (once : (entries.map (·.flag)).Nodup) :
    ∃ config, parse (entries.flatMap Entry.arguments) = .ok config ∧
      Told (entries.map Entry.setting) config ∧
        (∀ other, Told (entries.map Entry.setting) other → other = config) ∧
          ∀ entries' : List Entry,
            (entries'.map Entry.setting).Perm (entries.map Entry.setting) →
              parse (entries'.flatMap Entry.arguments) = .ok config := by
  obtain ⟨config, parsed, told⟩ := parse_told once
  refine ⟨config, parsed, told, fun other told' => told'.unique told, fun entries' same => ?_⟩
  have flags : (entries'.map (·.flag)).Perm (entries.map (·.flag)) := by
    simpa [Function.comp_def, Entry.setting] using same.map Sigma.fst
  obtain ⟨config', parsed', told'⟩ := parse_told (flags.nodup_iff.mpr once)
  rw [parsed', told'.unique (told.of_perm same)]

private def timeout (joined : Bool) : Entry where
  flag := .keepaliveTimeout
  name := "keepalive-timeout"
  called := .name _
  text := "3s"
  value := .ofSeconds 3
  taken := Flag.read_eq_ok_iff.mpr (by decide +kernel)
  joined
  plain := fun _ => by decide

private def interval (joined : Bool) : Entry where
  flag := .keepaliveInterval
  name := "keepalive-internal"
  called := .second
  text := "1m30s"
  value := .ofSeconds 90
  taken := Flag.read_eq_ok_iff.mpr (by decide +kernel)
  joined
  plain := fun _ => by decide

private def message : Entry where
  flag := .msg
  name := "msg"
  called := .name _
  text := "-x=y"
  value := "-x=y"
  taken := rfl
  joined := true
  plain := nofun

theorem command_line_sets_what_it_names_where_mixed :
    ([timeout true, message, interval false].map (·.flag)).Nodup ∧ ∃ config,
      parse ["--keepalive-timeout=3s", "--msg=-x=y", "--keepalive-internal", "1m30s"] =
        .ok config ∧
      parse ["--keepalive-internal=1m30s", "--msg=-x=y", "--keepalive-timeout", "3s"] =
        .ok config ∧
      config.connection.keepaliveTimeout = .ofSeconds 3 ∧
        config.connection.keepaliveInterval = .ofSeconds 90 ∧
          config.publishing.message = "-x=y" ∧ config.connection.connectTimeout = .ofSeconds 10 := by
  have once : ([timeout true, message, interval false].map (·.flag)).Nodup := by decide
  obtain ⟨config, parsed, told, -, alike⟩ := command_line_sets_what_it_names _ once
  have reversed := alike [interval true, message, timeout false]
    (List.reverse_perm ([timeout true, message, interval false].map Entry.setting))
  refine ⟨once, config, parsed, reversed, told.named (timeout true).setting (by simp),
    told.named (interval false).setting (by simp), told.named message.setting (by simp), ?_⟩
  exact told.others .connectTimeout fun setting member => by
    simp only [List.map_cons, List.map_nil, List.mem_cons, List.not_mem_nil, or_false] at member
    rcases member with rfl | rfl | rfl <;> decide

end Courier.CommandLine
