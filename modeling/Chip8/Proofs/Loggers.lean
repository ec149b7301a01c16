-- What loggers have in common with the settings that they share, after any
-- calls. As long as every level that is asked for is one of the five, every
-- logger follows the settings. A level that is none of them is kept
-- nevertheless, and then new loggers and new settings are refused until another
-- one is asked for.
import Chip8.Journal.Registry
import Chip8.Proofs.Calls
namespace Chip8

/-! ## Levels -/

/-- A name of one of the five levels, in any case. -/
def Level.Known (name : String) : Prop := ∃ level, Level.parse name = .ok level

theorem Level.parse_name (level : Level) : parse level.name = .ok level := by
  cases level <;> rfl

theorem Level.capitals_of_parse {name : String} {level : Level} (h : parse name = .ok level) :
    Text.capitals name = level.name := by
  unfold parse ofName? at h
  split at h
  · rename_i found hfound
    cases h
    have hname := List.find?_some hfound
    exact (of_decide_eq_true hname).symm
  · cases h

/-- A logger is as the settings say. Colours show on a terminal only. -/
structure Logger.Follows (l : Logger) (s : LogSettings) : Prop where
  level : Level.parse s.level = .ok l.level
  stream : l.stream = s.stream
  colors : l.colors = (s.colors && s.stream.terminal)
  timestamps : l.timestamps = s.timestamps

/-! ## One logger -/

namespace LogSettings

variable {s : LogSettings} {level : Level} {refusal : Refusal}

theorem exists_logger (h : Level.parse s.level = .ok level) (name : Text.Value) (now : Float) :
    ∃ l, s.logger name now = .ok l ∧ l.Follows s := by
  unfold logger Logger.new
  rw [h]
  exact ⟨_, rfl, h, rfl, rfl, rfl⟩

theorem logger_of_unknown (h : Level.parse s.level = .error refusal) (name : Text.Value)
    (now : Float) : s.logger name now = .error refusal := by
  unfold logger Logger.new
  rw [h]
  rfl

theorem exists_apply (h : Level.parse s.level = .ok level) (l : Logger) :
    ∃ followed, s.apply l = (.ok (), followed) ∧ followed.Follows s := by
  unfold apply Logger.setLevel
  rw [h]
  exact ⟨_, rfl, h, rfl, rfl, rfl⟩

/-- A logger that refuses the level has its stream changed already. -/
theorem apply_of_unknown (h : Level.parse s.level = .error refusal) (l : Logger) :
    s.apply l = (.error refusal, { l with stream := s.stream }) := by
  unfold apply Logger.setLevel
  rw [h]
  rfl

end LogSettings

/-! ## All of them -/

namespace Registry

/-- What is asked of the registry. -/
inductive Call where
  | get (name : Text.Value) (now : Float)
  | configure (c : LogChange)

/-- The level that a call asks for. -/
def Call.level? : Call → Option String
  | .get .. => none
  | .configure c => c.level

def perform (r : Registry) : Call → Except Refusal Unit × Registry
  | .get name now => ((r.get name now).1.map fun _ => (), (r.get name now).2)
  | .configure c => r.configure c

variable {r : Registry} {s : LogSettings} {level : Level} {refusal : Refusal}

theorem exists_applyAll (h : Level.parse s.level = .ok level) (loggers : List Logger) :
    ∃ followed, applyAll s loggers = (.ok (), followed) ∧ followed.length = loggers.length ∧
      ∀ l ∈ followed, l.Follows s := by
  induction loggers with
  | nil => exact ⟨[], rfl, rfl, nofun⟩
  | cons l rest ih =>
    obtain ⟨first, hfirst, hfollows⟩ := LogSettings.exists_apply h l
    obtain ⟨others, hothers, hlength, hrest⟩ := ih
    refine ⟨first :: others, ?_, by simp [hlength], List.forall_mem_cons.2 ⟨hfollows, hrest⟩⟩
    unfold applyAll
    rw [hfirst, hothers]

theorem applyAll_of_unknown (h : Level.parse s.level = .error refusal) (l : Logger)
    (rest : List Logger) :
    applyAll s (l :: rest) = (.error refusal, { l with stream := s.stream } :: rest) := by
  unfold applyAll
  rw [LogSettings.apply_of_unknown h]

theorem exists_configure {c : LogChange} (h : Level.parse (r.settings.change c).level = .ok level) :
    ∃ followed, r.configure c = (.ok (), ⟨r.settings.change c, followed⟩) ∧
      followed.length = r.loggers.length ∧ ∀ l ∈ followed, l.Follows (r.settings.change c) := by
  obtain ⟨followed, happly, hrest⟩ := exists_applyAll h r.loggers
  refine ⟨followed, ?_, hrest⟩
  show ((applyAll (r.settings.change c) r.loggers).1, (_ : Registry)) = _
  rw [happly]

/-- A level that is none is kept, and so is the stream of the first logger. -/
theorem configure_of_unknown {c : LogChange} {first : Logger} {rest : List Logger}
    (hloggers : r.loggers = first :: rest)
    (h : Level.parse (r.settings.change c).level = .error refusal) :
    r.configure c = (.error refusal, ⟨r.settings.change c,
      { first with stream := (r.settings.change c).stream } :: rest⟩) := by
  have happly := applyAll_of_unknown h first rest
  rw [← hloggers] at happly
  show ((applyAll (r.settings.change c) r.loggers).1, (_ : Registry)) = _
  rw [happly]

/-- Every logger follows the settings, unless these have a level that is none. -/
structure Orderly (r : Registry) : Prop where
  nonempty : r.loggers ≠ []
  follows : ∀ level, Level.parse r.settings.level = .ok level →
    ∀ l ∈ r.loggers, l.Follows r.settings

theorem orderly_initial (start : Float) : (initial start).Orderly := by
  refine ⟨?_, fun level _ l hl => ?_⟩
  · unfold initial Notice.parts
    simp
  · obtain ⟨name, -, rfl⟩ := List.mem_map.1 hl
    exact ⟨Level.parse_name .warning, rfl, rfl, rfl⟩

theorem Orderly.get (h : r.Orderly) (name : Text.Value) (now : Float) :
    (r.get name now).2.Orderly := by
  unfold Registry.get
  split
  · exact h
  · exact h
  · cases hparse : Level.parse r.settings.level with
    | error e =>
      rw [LogSettings.logger_of_unknown hparse]
      exact h
    | ok level =>
      obtain ⟨l, hl, hfollows⟩ := LogSettings.exists_logger hparse name now
      rw [hl]
      refine ⟨by simp, fun level hlevel m hm => ?_⟩
      rcases List.mem_append.1 hm with hm | hm
      · exact h.follows level hlevel m hm
      · rw [List.mem_singleton.1 hm]
        exact hfollows

theorem Orderly.configure (h : r.Orderly) (c : LogChange) : (r.configure c).2.Orderly := by
  obtain ⟨first, rest, hloggers⟩ := List.exists_cons_of_ne_nil h.nonempty
  cases hparse : Level.parse (r.settings.change c).level with
  | error e =>
    rw [configure_of_unknown hloggers hparse]
    refine ⟨nofun, fun level hlevel => ?_⟩
    cases hparse.symm.trans hlevel
  | ok level =>
    obtain ⟨followed, hconfigure, hlength, hfollows⟩ := exists_configure hparse
    rw [hconfigure]
    refine ⟨fun hnil => h.nonempty ?_, fun _ _ => hfollows⟩
    rw [show followed = [] from hnil] at hlength
    exact List.length_eq_zero_iff.1 hlength.symm

theorem Orderly.perform (h : r.Orderly) (call : Call) : (r.perform call).2.Orderly := by
  cases call with
  | get name now => exact h.get name now
  | configure c => exact h.configure c

theorem Orderly.after (h : r.Orderly) (calls : List Call) :
    (after Registry.perform r calls).Orderly := by
  induction calls generalizing r with
  | nil => exact h
  | cons call rest ih => exact ih (h.perform call)

/-! ## The level that was asked for last -/

theorem settings_get (r : Registry) (name : Text.Value) (now : Float) :
    (r.get name now).2.settings = r.settings := by
  unfold get
  split
  · rfl
  · rfl
  · split <;> rfl

theorem level_perform (r : Registry) (call : Call) :
    (r.perform call).2.settings.level =
      (call.level?.map Text.capitals).getD r.settings.level := by
  cases call with
  | get name now => exact congrArg LogSettings.level (r.settings_get name now)
  | configure c => rfl

/-- The settings have the level that was asked for last, be it known or not. -/
theorem level_after (r : Registry) (calls : List Call) :
    (after Registry.perform r calls).settings.level =
      ((calls.filterMap Call.level?).getLast?.map Text.capitals).getD r.settings.level := by
  induction calls generalizing r with
  | nil => rfl
  | cons call rest ih =>
    rw [after_cons, ih, level_perform]
    cases hlevel : call.level? with
    | none =>
      rw [List.filterMap_cons_none hlevel]
      rfl
    | some name =>
      rw [List.filterMap_cons_some hlevel, List.getLast?_cons]
      cases (rest.filterMap Call.level?).getLast? <;> rfl

theorem level_after_initial (start : Float) {calls : List Call} {level : Level}
    (hlast : Level.parse ((calls.filterMap Call.level?).getLast?.getD "WARNING") = .ok level) :
    (after Registry.perform (.initial start) calls).settings.level = level.name := by
  rw [level_after, ← Level.capitals_of_parse hlast]
  cases (calls.filterMap Call.level?).getLast? with
  | none => rfl
  | some name => rfl

/-! ## What is answered -/

theorem exists_get {name key : Text.Value} (hkey : name.asKey = .ok key)
    (h : Level.parse r.settings.level = .ok level) (now : Float) :
    ∃ l, (r.get name now).1 = .ok l := by
  unfold get
  rw [hkey]
  cases r.find? name with
  | some l => exact ⟨l, rfl⟩
  | none =>
    obtain ⟨l, hl, -⟩ := LogSettings.exists_logger h name now
    simp only [hl]
    exact ⟨l, rfl⟩

theorem get_of_unknown {name key : Text.Value} (hkey : name.asKey = .ok key)
    (hnew : r.find? name = none) (h : Level.parse r.settings.level = .error refusal) (now : Float) :
    (r.get name now).1 = .error refusal := by
  unfold get
  rw [hkey, hnew]
  simp only [LogSettings.logger_of_unknown h]

/-- A change is refused for its level, and only then is it done by half. -/
theorem Orderly.refused (h : r.Orderly) {c : LogChange}
    (hrefused : (r.configure c).1 = .error refusal) :
    Level.parse (r.settings.change c).level = .error refusal ∧
    ∃ first rest, r.loggers = first :: rest ∧ r.configure c = (.error refusal,
      ⟨r.settings.change c, { first with stream := (r.settings.change c).stream } :: rest⟩) := by
  obtain ⟨first, rest, hloggers⟩ := List.exists_cons_of_ne_nil h.nonempty
  cases hparse : Level.parse (r.settings.change c).level with
  | error e =>
    have hconfigure := configure_of_unknown hloggers hparse
    rw [hconfigure] at hrefused
    cases hrefused
    exact ⟨rfl, first, rest, hloggers, hconfigure⟩
  | ok level =>
    obtain ⟨followed, hconfigure, -⟩ := exists_configure hparse
    rw [hconfigure] at hrefused
    cases hrefused

theorem Orderly.refuses (h : r.Orderly) {c : LogChange}
    (hparse : Level.parse (r.settings.change c).level = .error refusal) :
    (r.configure c).1 = .error refusal := by
  obtain ⟨first, rest, hloggers⟩ := List.exists_cons_of_ne_nil h.nonempty
  rw [configure_of_unknown hloggers hparse]

/-- A level that is asked for is the new one, and else the level stays. -/
theorem exists_parse_change {c : LogChange} (hknown : ∀ name ∈ c.level, Level.Known name)
    (h : c.level = none → ∃ level, Level.parse s.level = .ok level) :
    ∃ level, Level.parse (s.change c).level = .ok level := by
  show ∃ level, Level.parse ((c.level.map Text.capitals).getD s.level) = .ok level
  cases hlevel : c.level with
  | none => exact h hlevel
  | some name =>
    obtain ⟨level, hparse⟩ := hknown name hlevel
    refine ⟨level, ?_⟩
    show Level.parse (Text.capitals name) = .ok level
    rw [Level.capitals_of_parse hparse]
    exact level.parse_name

/-- All loggers are as the settings say, which have a known level. -/
structure Consistent (r : Registry) (level : Level) : Prop where
  settings : r.settings.level = level.name
  level : ∀ l ∈ r.loggers, l.level = level
  stream : ∀ l ∈ r.loggers, l.stream = r.settings.stream
  timestamps : ∀ l ∈ r.loggers, l.timestamps = r.settings.timestamps
  colors : ∀ l ∈ r.loggers, l.colors = (r.settings.colors && r.settings.stream.terminal)

theorem Orderly.consistent (h : r.Orderly) (hlevel : r.settings.level = level.name) :
    r.Consistent level := by
  have hparse : Level.parse r.settings.level = .ok level := by
    rw [hlevel]
    exact level.parse_name
  have hfollows := h.follows level hparse
  refine ⟨hlevel, fun l hl => ?_, fun l hl => (hfollows l hl).stream,
    fun l hl => (hfollows l hl).timestamps, fun l hl => (hfollows l hl).colors⟩
  exact Except.ok.inj ((hfollows l hl).level.symm.trans hparse)

/-- Nobody is refused by a registry that has a known level. -/
theorem Consistent.answers (h : r.Consistent level) :
    (∀ name now key, name.asKey = .ok key → ∃ l, (r.get name now).1 = .ok l) ∧
    ∀ c : LogChange, (∀ name ∈ c.level, Level.Known name) → (r.configure c).1 = .ok () := by
  have hparse : Level.parse r.settings.level = .ok level := by
    rw [h.settings]
    exact level.parse_name
  refine ⟨fun name now key hkey => exists_get hkey hparse now, fun c hc => ?_⟩
  obtain ⟨next, hnext⟩ := exists_parse_change hc fun _ => ⟨level, hparse⟩
  obtain ⟨followed, hconfigure, -⟩ := exists_configure hnext
  rw [hconfigure]

/-- With a level that is none, the registry refuses new loggers and changes that
leave the level. -/
theorem refusals_of_unknown {first : Logger} {rest : List Logger}
    (hloggers : r.loggers = first :: rest) (h : Level.parse r.settings.level = .error refusal) :
    (∀ name now key, name.asKey = .ok key → r.find? name = none →
      (r.get name now).1 = .error refusal) ∧
    (∀ c : LogChange, c.level = none → (r.configure c).1 = .error refusal) ∧
    ∀ (c : LogChange) name, c.level = some name → Level.Known name →
      (r.configure c).1 = .ok () := by
  refine ⟨fun name now key hkey hnew => get_of_unknown hkey hnew h now, fun c hc => ?_,
    fun c name hname hknown => ?_⟩
  · have hstays : (r.settings.change c).level = r.settings.level := by
      show (c.level.map Text.capitals).getD r.settings.level = _
      rw [hc]
      rfl
    rw [← hstays] at h
    rw [configure_of_unknown hloggers h]
  · have hlevel : ∃ level, Level.parse (r.settings.change c).level = .ok level := by
      refine exists_parse_change (fun given hgiven => ?_) fun hnone => ?_
      · rw [hname] at hgiven
        cases hgiven
        exact hknown
      · cases hname.symm.trans hnone
    obtain ⟨level, hlevel⟩ := hlevel
    obtain ⟨followed, hconfigure, -⟩ := exists_configure hlevel
    rw [hconfigure]

/-- As long as the level that was asked for last is known, every logger is as the
settings say, and no logger and no change of the settings to a known level is
refused. A change is refused for its level only, and then it is done by half: the
settings have it, the first logger has its stream, and the others are as before.
Until a known level is asked for, new loggers and further changes are refused,
too. -/
theorem loggers_follow_known_levels (start : Float) (calls : List Call) :
    let r := after Registry.perform (.initial start) calls
    (∀ level, Level.parse ((calls.filterMap Call.level?).getLast?.getD "WARNING") = .ok level →
      r.Consistent level ∧
      (∀ name now key, name.asKey = .ok key → ∃ l, (r.get name now).1 = .ok l) ∧
      ∀ c : LogChange, (∀ name ∈ c.level, Level.Known name) → (r.configure c).1 = .ok ()) ∧
    ∀ c refusal,
      ((r.configure c).1 = .error refusal ↔
        Level.parse (r.settings.change c).level = .error refusal) ∧
      ((r.configure c).1 = .error refusal →
        let broken := (r.configure c).2
        (∃ first rest, r.loggers = first :: rest ∧ broken = ⟨r.settings.change c,
          { first with stream := (r.settings.change c).stream } :: rest⟩) ∧
        (∀ name now key, name.asKey = .ok key → broken.find? name = none →
          (broken.get name now).1 = .error refusal) ∧
        (∀ c' : LogChange, c'.level = none → (broken.configure c').1 = .error refusal) ∧
        ∀ (c' : LogChange) name, c'.level = some name → Level.Known name →
          (broken.configure c').1 = .ok ()) := by
  intro r
  have hr : r.Orderly := (orderly_initial start).after calls
  constructor
  · intro level hlast
    have hconsistent := hr.consistent (level_after_initial start hlast)
    exact ⟨hconsistent, hconsistent.answers⟩
  · intro c refusal
    refine ⟨⟨fun h => (hr.refused h).1, hr.refuses⟩, fun hrefused => ?_⟩
    intro broken
    obtain ⟨hparse, first, rest, hloggers, hconfigure⟩ := hr.refused hrefused
    have hbroken : broken = ⟨r.settings.change c,
        { first with stream := (r.settings.change c).stream } :: rest⟩ :=
      congrArg Prod.snd hconfigure
    refine ⟨⟨first, rest, hloggers, hbroken⟩, ?_⟩
    rw [hbroken]
    exact refusals_of_unknown rfl hparse

/-- The level debug, in small letters, puts everything in order again. -/
theorem known_level_puts_loggers_in_order :
    let calls : List Call := [.get (.text "fresh") 0,
      .configure ⟨some "VERBOSE", some ⟨"log", true⟩, none, some false⟩,
      .configure ⟨some "debug", none, none, none⟩]
    let r := after Registry.perform (.initial 0) calls
    r.Consistent .debug ∧ (∃ l, (r.get (.text "other") 0).1 = .ok l) ∧
    ((r.configure ⟨some "VERBOSE", none, none, none⟩).2.configure ⟨none, none, none, none⟩).1 =
      .error (.unknownLevel "VERBOSE") := by
  intro calls r
  have hlevels : calls.filterMap Call.level? = ["VERBOSE", "debug"] := rfl
  -- From here on only the levels of the calls matter.
  clear_value calls
  obtain ⟨hordered, hrefused⟩ := loggers_follow_known_levels 0 calls
  obtain ⟨hconsistent, hget, -⟩ := hordered .debug (by rw [hlevels]; rfl)
  have hunknown : Level.parse (r.settings.change ⟨some "VERBOSE", none, none, none⟩).level =
      .error (.unknownLevel "VERBOSE") := by
    show Level.parse (Text.capitals "VERBOSE") = _
    rfl
  obtain ⟨hiff, htraces⟩ := hrefused ⟨some "VERBOSE", none, none, none⟩ (.unknownLevel "VERBOSE")
  obtain ⟨-, -, hstuck, -⟩ := htraces (hiff.2 hunknown)
  exact ⟨hconsistent, hget _ 0 _ rfl, hstuck _ rfl⟩

/-- A level that nobody knows is refused, but it is kept, and the first logger
writes to the new stream. After that nobody can have a new logger, and the
stream cannot be put back. -/
theorem refused_change_leaves_traces :
    let r := initial 0
    let c : LogChange := ⟨some "VERBOSE", some ⟨"log", false⟩, none, none⟩
    let broken := (r.configure c).2
    (r.configure c).1 = .error (.unknownLevel "VERBOSE") ∧
    r.settings.level = "WARNING" ∧ broken.settings.level = "VERBOSE" ∧
    (broken.loggers.take 2).map (·.stream.name) = ["log", "stdout"] ∧
    (r.get (.text "fresh") 0).1.isOk = true ∧
    (broken.get (.text "fresh") 0).1.isOk = false ∧
    (broken.configure ⟨none, some .standard, none, none⟩).1 =
      .error (.unknownLevel "VERBOSE") := by
  exact ⟨rfl, rfl, rfl, rfl, rfl, rfl, rfl⟩

end Registry

end Chip8
