import CaptureFlow.Proofs.Command.Recall
import CaptureFlow.Proofs.Preference.Typed
/-! # Numbers on the command line

Whether a number can be stored depends on how it is typed.  A minus sign looks like the dash of an
option, so a negative number behind its key is refused before anything is read or stored
(`ofArguments_set_negative`).  Behind `--` no word is an option, and there every number can be
stored, under every key (`ofArguments_set_trailing`).

`numbers_stored` says this of whole runs: which numbers are stored, what is printed, and what the
next run finds. -/

namespace CaptureFlow

namespace Command

/-- A word that cannot be taken for an option. -/
def Plain (word : String) : Prop := word.toList.head? ≠ some '-'

instance (word : String) : Decidable (Plain word) :=
  inferInstanceAs (Decidable (word.toList.head? ≠ some '-'))

/-! ### One word after the other -/

section matching

variable {command word argument : String} {spec child : CommandSpec} {p p' : Progress}
  {fault : UsageFault}

theorem levels_subcommand (named : spec.subcommand? word = some child) (rest : List String) :
    spec.levels command (word :: rest) = (⟨command, []⟩ :: ·) <$> child.levels word rest := by
  have here : spec.isSubcommand word = true := by simp [CommandSpec.isSubcommand, named]
  rw [CommandSpec.levels, CommandSpec.matchFrom, if_pos (by simp [Progress.awaitsValue, here])]
  simp only [named]
  rfl

theorem matchFrom_leaf (childless : spec.subcommands = []) (rest : List String) :
    spec.matchFrom command p (argument :: rest) =
      (do spec.matchFrom command (← p.meetArgument spec argument) rest) := by
  have no_child : spec.isSubcommand argument = false := by
    simp [CommandSpec.isSubcommand, CommandSpec.subcommand?, childless]
  rw [CommandSpec.matchFrom, if_neg (by simp [no_child])]

theorem matchFrom_met (childless : spec.subcommands = [])
    (met : p.meetArgument spec argument = .ok p') (rest : List String) :
    spec.matchFrom command p (argument :: rest) = spec.matchFrom command p' rest := by
  rw [matchFrom_leaf childless, met]
  rfl

theorem matchFrom_refused (childless : spec.subcommands = [])
    (refused : p.meetArgument spec argument = .error fault) (rest : List String) :
    spec.matchFrom command p (argument :: rest) = .error fault := by
  rw [matchFrom_leaf childless, refused]
  rfl

/-- Behind `--` every word stands for itself. -/
theorem meetArgument_trailing (trailing : p.trailing = true) :
    p.meetArgument spec argument = p.meetWord spec argument := if_pos trailing

/-- A plain word is the value that an option waits for, or stands for itself. -/
theorem meetArgument_plain (plain : Plain argument) (before : p.trailing = false) :
    p.meetArgument spec argument =
      match p.pending with
      | some ⟨name, form, none⟩ => .ok { p with pending := some ⟨name, form, some argument⟩ }
      | _ => p.meetWord spec argument := by
  unfold Plain at plain
  rw [Progress.meetArgument, if_neg (by simp [before])]
  split
  case h_4 => rfl
  all_goals
    next dashed =>
      rw [dashed] at plain
      exact absurd rfl plain

/-- A minus sign in front of a digit is taken for the dash of an option, and no digit is one. -/
theorem meetArgument_negative {digit : Char} {digits : List Char}
    (negative : argument.toList = '-' :: digit :: digits) (dash : digit ≠ '-')
    (none : spec.short? digit = none) (before : p.trailing = false) :
    p.meetArgument spec argument = .error .unknownArgument := by
  rw [Progress.meetArgument, if_neg (by simp [before]), negative]
  split
  case h_3 letter more same =>
    obtain ⟨rfl, rfl⟩ := List.cons.inj (List.cons.inj same).2
    rw [Progress.meetShort, none]
  case h_4 other => exact absurd rfl (other digit digits)
  all_goals
    next same => exact absurd (List.cons.inj (List.cons.inj same).2).1 dash

end matching

/-! ### Setting and getting -/

def setSpec : CommandSpec := leaf [⟨"kind", some 'k', .value .text⟩] ["key", "value"] []

def getSpec : CommandSpec := leaf [] ["key"] []

theorem named_prefs : programSpec.subcommand? "prefs" = some prefsSpec := rfl

theorem named_set : prefsSpec.subcommand? "set" = some setSpec := rfl

theorem named_get : prefsSpec.subcommand? "get" = some getSpec := rfl

theorem levels_prefs {word : String} {spec : CommandSpec}
    (named : prefsSpec.subcommand? word = some spec) (rest : List String) :
    programSpec.levels "stagegate" ("prefs" :: word :: rest) =
      ([⟨"stagegate", []⟩, ⟨"prefs", []⟩] ++ ·) <$> spec.levels word rest := by
  rw [levels_subcommand named_prefs, levels_subcommand named]
  cases spec.levels word rest <;> rfl

/-- What has been matched when a word for the argument `name` has been met. -/
def Progress.behind (given : Given) (name word : String) (others : List String)
    (trailing : Bool) : Progress :=
  { given, pending := some ⟨name, .text, some word⟩, positionals := others, trailing }

variable {key raw kind : String}

theorem levels_set_key (plain : Plain key) (rest : List String) :
    setSpec.levels "set" (key :: rest) =
      setSpec.matchFrom "set" (.behind [] "key" key ["value"] false) rest := by
  refine matchFrom_met rfl ?_ rest
  rw [meetArgument_plain plain rfl]
  rfl

theorem ofArguments_set (plain : Plain key) (plain' : Plain raw) (plain'' : Plain kind) :
    Invocation.ofArguments ["prefs", "set", key, raw, "--kind", kind] =
      .ok { request := .prefs (.set key raw kind) } := by
  have value : (Progress.behind [] "key" key ["value"] false).meetArgument setSpec raw =
      .ok (.behind [("key", key)] "value" raw [] false) := by
    rw [meetArgument_plain plain' rfl]
    rfl
  have option :
      (Progress.behind [("key", key)] "value" raw [] false).meetArgument setSpec "--kind" =
        .ok { given := [("key", key), ("value", raw)], pending := some ⟨"kind", .text, none⟩,
              positionals := [] } := rfl
  have matched : setSpec.levels "set" [key, raw, "--kind", kind] =
      .ok [⟨"set", [("key", key), ("value", raw), ("kind", kind)]⟩] := by
    rw [levels_set_key plain, matchFrom_met rfl value, matchFrom_met rfl option,
      matchFrom_met rfl (meetArgument_plain plain'' rfl)]
    rfl
  rw [Invocation.ofArguments, levels_prefs named_set, matched]
  rfl

/-- A minus sign and a digit behind the key are refused, whatever comes after them. -/
theorem ofArguments_set_negative {digit : Char} {digits : List Char} (plain : Plain key)
    (negative : raw.toList = '-' :: digit :: digits) (decimal : digit.isDigit = true)
    (rest : List String) : Invocation.ofArguments ("prefs" :: "set" :: key :: raw :: rest) =
      .error .unknownArgument := by
  have letters : (setSpec.options.filterMap (·.letter)).all (!·.isDigit) = true := rfl
  have none : setSpec.short? digit = none := by
    refine List.find?_eq_none.mpr fun option mem same => ?_
    have listed := List.mem_filterMap.mpr ⟨option, mem, of_decide_eq_true same⟩
    have other := List.all_eq_true.mp letters digit listed
    rw [decimal] at other
    cases other
  have dash : digit ≠ '-' := by
    rintro rfl
    cases decimal
  have refused := meetArgument_negative (p := .behind [] "key" key ["value"] false) negative dash
    none rfl
  rw [Invocation.ofArguments, levels_prefs named_set, levels_set_key plain,
    matchFrom_refused rfl refused]
  rfl

theorem ofArguments_set_trailing (key raw : String) (plain : Plain kind) :
    Invocation.ofArguments ["prefs", "set", "--kind", kind, "--", key, raw] =
      .ok { request := .prefs (.set key raw kind) } := by
  have front : setSpec.levels "set" ["--kind", kind, "--", key, raw] = setSpec.matchFrom "set"
      (.behind [] "kind" kind ["key", "value"] true) [key, raw] := by
    rw [CommandSpec.levels, matchFrom_met rfl rfl, matchFrom_met rfl (meetArgument_plain plain rfl),
      matchFrom_met rfl rfl]
    rfl
  have matched : setSpec.levels "set" ["--kind", kind, "--", key, raw] =
      .ok [⟨"set", [("kind", kind), ("key", key), ("value", raw)]⟩] := by
    rw [front, matchFrom_met rfl (meetArgument_trailing rfl),
      matchFrom_met rfl (meetArgument_trailing rfl)]
    rfl
  rw [Invocation.ofArguments, levels_prefs named_set, matched]
  rfl

theorem ofArguments_get (plain : Plain key) :
    Invocation.ofArguments ["prefs", "get", key] = .ok { request := .prefs (.get key) } := by
  have matched : getSpec.levels "get" [key] = .ok [⟨"get", [("key", key)]⟩] := by
    rw [CommandSpec.levels, matchFrom_met rfl (meetArgument_plain plain rfl)]
    rfl
  rw [Invocation.ofArguments, levels_prefs named_get, matched]
  rfl

theorem ofArguments_get_trailing (key : String) :
    Invocation.ofArguments ["prefs", "get", "--", key] = .ok { request := .prefs (.get key) } := by
  have matched : getSpec.levels "get" ["--", key] = .ok [⟨"get", [("key", key)]⟩] := by
    rw [CommandSpec.levels, matchFrom_met rfl rfl, matchFrom_met rfl (meetArgument_trailing rfl)]
    rfl
  rw [Invocation.ofArguments, levels_prefs named_get, matched]
  rfl

end Command

namespace FileSystem

open Command

variable {fs : FileSystem} {set get : Invocation} {rows : Table Bytes} {key raw kind : String}
  {value : Preference}

/-! ### From one run to the next -/

/-- A value with a stored form is stored under every valid key. -/
theorem answer_set {bytes : Bytes} (request : set.request = .prefs (.set key raw kind))
    (opened : fs.openDatabase set.database = .ok rows) (valid : validateKey key = .ok ())
    (read : Preference.read kind raw = .ok value) (encoded : value.encode = .ok bytes) :
    (fs.execute set).1 = .ok (.stored key value) := by
  obtain ⟨file, placed, opened⟩ := openDatabase_eq_ok_iff.mp opened
  rw [(execute_prefs request placed opened).1, PrefsAction.run_set valid read encoded]

/-- The next run finds what a run has stored. -/
theorem answer_get_of_stored (request : set.request = .prefs (.set key raw kind))
    (request' : get.request = .prefs (.get key)) (same : get.database = set.database)
    (done : (fs.execute set).1 = .ok (.stored key value)) :
    ((fs.execute set).2.execute get).1 = .ok (.found key (some value)) := by
  obtain ⟨file, value', bytes, placed, -, valid, encoded, answer, stored⟩ := rowAt_set request done
  obtain ⟨-, rfl⟩ := Answer.stored.inj answer
  have decoded : Durable.decodeRow (some bytes) = .ok (some value) := by
    rw [Durable.decodeRow, Preference.decode_encode encoded]
    rfl
  have placed := (databasePlace_execute fs set).mpr (same ▸ placed)
  rw [answer_get request' placed stored, valid, decoded]
  rfl

/-- A run with the arguments `set` stores `n` under `key` and says so, and so does a run with the
arguments `get` that follows it. -/
def Stores (fs : FileSystem) (set get : List String) (key : String) (n : Int64) : Prop :=
  let said : Exit := ⟨0, banner ++ s!"{key} = {n.toInt}\n"⟩
  (fs.run set).1 = said ∧ ((fs.run set).2.run get).1 = said

theorem stores_number {n : Int64} {setting getting : List String}
    (opened : fs.openDatabase defaultDatabase = .ok rows) (valid : validateKey key = .ok ())
    (matched : Invocation.ofArguments setting =
      .ok { request := .prefs (.set key (toString n.toInt) "int") })
    (matched' : Invocation.ofArguments getting = .ok { request := .prefs (.get key) }) :
    fs.Stores setting getting key n := by
  have short : (Preference.number n).payload.length ≤ 65531 :=
    Preference.length_payload_le_iff.mpr fun _ other => by cases other
  obtain ⟨bytes, encoded⟩ := Preference.exists_encode_iff.mpr short
  let set : Invocation := { request := .prefs (.set key (toString n.toInt) "int") }
  let get : Invocation := { request := .prefs (.get key) }
  have done : (fs.execute set).1 = .ok (.stored key (.number n)) :=
    answer_set rfl opened valid (Preference.read_shown (.number n)) encoded
  have found : ((fs.execute set).2.execute get).1 = .ok (.found key (some (.number n))) :=
    answer_get_of_stored rfl rfl rfl done
  have said : (Answer.stored key (.number n)).printed false = s!"{key} = {n.toInt}\n" := by
    show "" ++ (Answer.entryLine key (.number n) ++ "\n") = _
    rw [String.empty_append]
    rfl
  simp only [Stores, run, matched, matched']
  refine ⟨?_, ?_⟩
  · show set.exit (fs.execute set).1 = _
    rw [done]
    exact congrArg (Exit.mk 0) (congrArg (banner ++ ·) said)
  · show get.exit ((fs.execute set).2.execute get).1 = _
    rw [found]
    exact congrArg (Exit.mk 0) (congrArg (banner ++ ·) ((printed_found ..).trans said))

/-! ### Numbers of either sign -/

theorem plain_toString {z : Int} (natural : 0 ≤ z) : Plain (toString z) := by
  obtain ⟨n, rfl⟩ := Int.eq_ofNat_of_zero_le natural
  exact (Text.natural_repr n).unsigned

theorem toList_toString_negative {z : Int} (negative : z < 0) :
    ∃ digit digits, (toString z).toList = '-' :: digit :: digits ∧ digit.isDigit = true := by
  have whole := Text.whole_toString z
  generalize (toString z).toList = cs at whole ⊢
  cases whole with
  | natural numeral => omega
  | @minus cs n digits =>
      cases cs with
      | nil => exact absurd rfl digits.some_digit
      | cons digit rest => exact ⟨digit, rest, rfl, digits.head_digit⟩

/-- **Numbers that are stored.**  In every file system whose default database can be opened, for
every valid key and every number of 64 bits: if the key does not begin with a dash, the number is
stored under it, and printed again by a run that gets the key afterwards, if and only if it is not
negative; a negative one is refused as wrong usage, nothing is printed, and all files stay as they
are.  Behind `--` every number is stored and printed again, under whatever key. -/
theorem numbers_stored (opened : fs.openDatabase defaultDatabase = .ok rows)
    (valid : validateKey key = .ok ()) (n : Int64) :
    let typed := ["prefs", "set", key, toString n.toInt, "--kind", "int"]
    (Plain key → (fs.Stores typed ["prefs", "get", key] key n ↔ 0 ≤ n.toInt) ∧
      (n.toInt < 0 → fs.run typed = (⟨2, ""⟩, fs))) ∧
    fs.Stores ["prefs", "set", "--kind", "int", "--", key, toString n.toInt]
      ["prefs", "get", "--", key] key n := by
  intro typed
  have kind : Plain "int" := by decide
  refine ⟨fun plain => ?_, ?_⟩
  · have refused : n.toInt < 0 → fs.run typed = (⟨2, ""⟩, fs) := by
      intro negative
      obtain ⟨digit, digits, minus, decimal⟩ := toList_toString_negative negative
      rw [run, ofArguments_set_negative plain minus decimal]
      rfl
    refine ⟨⟨fun stored => ?_, fun natural => ?_⟩, refused⟩
    · by_contra negative
      have code := congrArg Exit.code stored.1
      rw [refused (Int.not_le.mp negative)] at code
      cases code
    · exact stores_number opened valid (ofArguments_set plain (plain_toString natural) kind)
        (ofArguments_get plain)
  · exact stores_number opened valid (ofArguments_set_trailing key _ kind)
      (ofArguments_get_trailing key)

/-- The largest and the smallest number, under a key that a command could be named: the smallest is
stored behind `--` only. -/
theorem numbers_stored_extremes :
    ({} : FileSystem).Stores ["prefs", "set", "help", "9223372036854775807", "--kind", "int"]
      ["prefs", "get", "help"] "help" Int64.maxValue ∧
    ({} : FileSystem).Stores ["prefs", "set", "--kind", "int", "--", "help", "-9223372036854775808"]
      ["prefs", "get", "--", "help"] "help" Int64.minValue ∧
    FileSystem.run {} ["prefs", "set", "help", "-9223372036854775808", "--kind", "int"] =
      (⟨2, ""⟩, {}) := by
  have placed : ({} : FileSystem).databasePlace defaultDatabase = .ok [defaultDatabase] := by
    decide +kernel
  have opened : ({} : FileSystem).openDatabase defaultDatabase = .ok .empty :=
    (openDatabase_eq placed).trans rfl
  have valid : validateKey "help" = .ok () := by decide +kernel
  have plain : Plain "help" := by decide
  have largest : toString Int64.maxValue.toInt = "9223372036854775807" := by decide +kernel
  have smallest : toString Int64.minValue.toInt = "-9223372036854775808" := by decide +kernel
  have stored := ((numbers_stored opened valid Int64.maxValue).1 plain).1.mpr (by decide)
  obtain ⟨unmarked, marked⟩ := numbers_stored opened valid Int64.minValue
  have refused := (unmarked plain).2 (by decide)
  rw [largest] at stored
  rw [smallest] at marked refused
  exact ⟨stored, marked, refused⟩

/-- A negative number behind its key is not stored. -/
theorem negative_not_stored : ¬∀ (n : Int64) (key : String), validateKey key = .ok () → Plain key →
    ({} : FileSystem).Stores ["prefs", "set", key, toString n.toInt, "--kind", "int"]
      ["prefs", "get", key] key n := by
  intro every
  have valid : validateKey "count" = .ok () := by decide +kernel
  have plain : Plain "count" := by decide
  have code := congrArg Exit.code (every (-5) "count" valid plain).1
  have refused :
      (FileSystem.run {} ["prefs", "set", "count", "-5", "--kind", "int"]).1.code = 2 := by
    decide +kernel
  cases refused.symm.trans code

end FileSystem

end CaptureFlow
