import PluginKit.Proofs.Log.Blocks
import PluginKit.Proofs.Text.Lines
import PluginKit.Proofs.Text.Utf8

/-!
A logger with a console and a file, each with a level. Records of the package pass the logger before any handler, and the
logger has the level of the console; so the file gets a record only if both levels admit it, and only after the console
could show it.
-/

namespace PluginKit.Log

open Activity

def bothArguments (level fileLevel : Int) (place : String) : List (String × Value) :=
  [("level", .int level), ("console", .flag true), ("file_path", .text place), ("file_log_level", .int fileLevel)]

theorem ofArguments_both (level : Int) {fileLevel : Int} (positive : 0 < fileLevel) (place : String) :
    Setup.ofArguments (bothArguments level fileLevel place) =
      .ok ⟨.number level, true, true, true, .text place, .number fileLevel⟩ := by
  have given : (Value.int fileLevel).isVoid = false := by
    simp [Value.isVoid]
    omega
  have known : Setup.signature.fault? ((bothArguments level fileLevel place).map Prod.fst) = none := rfl
  have first : (bothArguments level fileLevel place).lookup "level" = some (.int level) := rfl
  have last : (bothArguments level fileLevel place).lookup "file_log_level" = some (.int fileLevel) := rfl
  simp only [Setup.ofArguments, known, first, last, given]
  rfl

/-! ## The state between records -/

structure Ready (level fileLevel : Level) (path : Path) (data : List UInt8) (l : Logging) : Prop where
  threshold : l.logger.level = level
  handlers : l.logger.handlers.map Handler.fresh = [⟨.console true false, level⟩, ⟨.file path, fileLevel⟩]
  file : l.files.find path = .ok (.file data)

variable {level fileLevel : Level} {path : Path} {data : List UInt8} {l : Logging}

theorem fresh_eq_console {h : Handler} (same : h.fresh = ⟨.console true false, level⟩) :
    ∃ timeShown, h = ⟨.console true timeShown, level⟩ := by
  obtain ⟨target, level'⟩ := h
  cases target with
  | console showTime timeShown =>
      cases same
      exact ⟨timeShown, rfl⟩
  | stream => cases same
  | file path => cases same

theorem fresh_eq_file {h : Handler} (same : h.fresh = ⟨.file path, fileLevel⟩) : h = ⟨.file path, fileLevel⟩ := by
  obtain ⟨target, level'⟩ := h
  cases target with
  | console showTime timeShown => cases same
  | stream => cases same
  | file path => exact same

theorem Ready.handlers_eq (ready : Ready level fileLevel path data l) :
    ∃ timeShown, l.logger.handlers = [⟨.console true timeShown, level⟩, ⟨.file path, fileLevel⟩] := by
  obtain ⟨console, rest, split, first, others⟩ := List.map_eq_cons_iff.mp ready.handlers
  obtain ⟨file, last, rfl, second, done⟩ := List.map_eq_cons_iff.mp others
  cases List.map_eq_nil_iff.mp done
  obtain ⟨timeShown, rfl⟩ := fresh_eq_console first
  cases fresh_eq_file second
  exact ⟨timeShown, split⟩

/-! ## One record -/

def fileBytes? (fileLevel : Level) (r : Record) : Option (List UInt8) :=
  if fileLevel.value ≤ r.level.value then (Utf8.encodeStrict (Logging.plainLine r ++ "\n")).toOption else none

namespace Logging

theorem write_console (r : Record) (showTime timeShown : Bool) (level : Level) (l : Logging) :
    write r ⟨.console showTime timeShown, level⟩ l = match Markup.plain r.message.toList with
      | .error fault => (.error (.markup fault), l)
      | .ok text => (.ok ⟨.console showTime true, level⟩,
          { l with screen := l.screen ++ styledLines l.width showTime timeShown r.level text }) := by
  unfold write
  cases Markup.plain r.message.toList <;> rfl

theorem deliver_file (found : l.files.find path = .ok (.file data)) (r : Record) (i : Nat) :
    ∃ files handlers, deliver r i [⟨.file path, fileLevel⟩] l =
        (.ok (), { l with files := files, logger := { l.logger with handlers := handlers } }) ∧
      match fileBytes? fileLevel r with
      | some bytes => files.find path = .ok (.file (data ++ bytes))
      | none => files = l.files := by
  rw [deliver, fileBytes?]
  by_cases high : fileLevel.value ≤ r.level.value
  · rw [if_pos high, if_pos high]
    cases encoded : Utf8.encodeStrict (plainLine r ++ "\n") with
    | error fault =>
        have wrote : write r ⟨.file path, fileLevel⟩ l = (.ok ⟨.file path, fileLevel⟩, l) := by
          simp only [write]
          rw [get_bind]
          simp only [found, encoded]
          rfl
        exact ⟨l.files, _, bind_ok wrote, rfl⟩
    | ok bytes =>
        obtain ⟨written, put⟩ := Files.write_over found (data ++ bytes)
        have wrote : write r ⟨.file path, fileLevel⟩ l =
            (.ok ⟨.file path, fileLevel⟩, { l with files := written }) := by
          simp only [write]
          rw [get_bind]
          simp only [found, encoded, put]
          rfl
        exact ⟨written, _, bind_ok wrote, Files.find_write put⟩
  · rw [if_neg high, if_neg high]
    exact ⟨l.files, l.logger.handlers, rfl, rfl⟩

theorem deliver_both (found : l.files.find path = .ok (.file data)) {r : Record}
    (high : level.value ≤ r.level.value) (fileLevel : Level) (timeShown : Bool) :
    match Markup.plain r.message.toList with
    | .error fault =>
        deliver r 0 [⟨.console true timeShown, level⟩, ⟨.file path, fileLevel⟩] l = (.error (.markup fault), l)
    | .ok text => ∃ files handlers,
        deliver r 0 [⟨.console true timeShown, level⟩, ⟨.file path, fileLevel⟩] l =
          (.ok (), { l with
            files := files, logger := { l.logger with handlers := handlers },
            screen := l.screen ++ styledLines l.width true timeShown r.level text }) ∧
        match fileBytes? fileLevel r with
        | some bytes => files.find path = .ok (.file (data ++ bytes))
        | none => files = l.files := by
  -- The file has its turn after the console, if that can show the record.
  have wrote := write_console r true timeShown level l
  rw [deliver, if_pos high]
  cases plain : Markup.plain r.message.toList with
  | error fault =>
      rw [plain] at wrote
      exact bind_error wrote
  | ok text =>
      rw [plain] at wrote
      dsimp only
      rw [bind_ok wrote, onLogger, modify_bind]
      exact deliver_file (l := { l with
        logger := { l.logger with handlers := l.logger.handlers.set 0 ⟨.console true true, level⟩ },
        screen := l.screen ++ styledLines l.width true timeShown r.level text }) found r 1

end Logging

inductive Accepted (level fileLevel : Level) (path : Path) (data : List UInt8) (r : Record) (l : Logging) :
    Except Error Unit × Logging → Prop
  | refused (low : r.level.value < level.value) : Accepted level fileLevel path data r l (.ok (), l)
  | unshown {fault : Markup.Fault} (high : level.value ≤ r.level.value)
      (bad : Markup.plain r.message.toList = .error fault) :
      Accepted level fileLevel path data r l (.error (.markup fault), l)
  | shown {text : List Char} {timeShown : Bool} {after : Logging} (high : level.value ≤ r.level.value)
      (plain : Markup.plain r.message.toList = .ok text)
      (screen : after.screen = l.screen ++ Logging.styledLines l.width true timeShown r.level text)
      (file : match fileBytes? fileLevel r with
        | some bytes => after.files.find path = .ok (.file (data ++ bytes))
        | none => after.files = l.files) :
      Accepted level fileLevel path data r l (.ok (), after)

namespace Ready

variable (ready : Ready level fileLevel path data l) (positive : 0 < level.value)

include ready positive

theorem admits_eq {name : String} (own : isOfPackage name = true) (said : Level) :
    l.admits name said = decide (level.value ≤ said.value) := by
  simp only [Logging.admits, own, if_true, Logger.admits, ready.threshold]
  by_cases high : level.value ≤ said.value <;> simp [high] <;> omega

theorem accept {r : Record} (own : isOfPackage r.logger = true) :
    Accepted level fileLevel path data r l (Logging.accept r l) := by
  rw [Logging.accept, get_bind, ready.admits_eq positive own, own]
  by_cases high : level.value ≤ r.level.value
  · obtain ⟨timeShown, handlers⟩ := ready.handlers_eq
    have delivered := Logging.deliver_both ready.file high fileLevel timeShown
    simp only [high, decide_true, if_true, handlers]
    cases plain : Markup.plain r.message.toList with
    | error fault =>
        rw [plain] at delivered
        rw [bind_error delivered]
        exact .unshown high plain
    | ok text =>
        rw [plain] at delivered
        obtain ⟨files, handlers', delivered, file⟩ := delivered
        rw [bind_ok delivered]
        -- The root may hear of the record too, which leaves screen and files as they are.
        split
        · exact .shown high plain rfl file
        · exact .shown high plain rfl file
  · simp only [high, decide_false]
    exact .refused (by omega)

theorem emit {name template message : String} {said : Level} {args : List Value} (own : isOfPackage name = true)
    (filled : format template args = .ok message) :
    Accepted level fileLevel path data ⟨name, said, message⟩ l (Logging.emit name said template args l) := by
  rw [Logging.emit, get_bind, ready.admits_eq positive own, filled]
  by_cases high : level.value ≤ said.value
  · simp only [high, decide_true, if_true]
    exact ready.accept positive own
  · simp only [high, decide_false]
    exact .refused (by dsimp only; omega)

theorem emit_unfilled {name template : String} {said : Level} {args : List Value} {fault : TemplateFault}
    (own : isOfPackage name = true) (unfilled : format template args = .error fault) :
    Logging.emit name said template args l =
      if level.value ≤ said.value then (.error (.template fault), l) else (.ok (), l) := by
  obtain ⟨timeShown, handlers⟩ := ready.handlers_eq
  rw [Logging.emit, get_bind, ready.admits_eq positive own, unfilled]
  by_cases high : level.value ≤ said.value
  · have heard : l.isHeard name said = true := by simp [Logging.isHeard, handlers, high, own]
    simp only [high, decide_true, if_true, heard]
    rfl
  · simp only [high, decide_false, if_false]
    rfl

omit positive in
theorem after_emit (name : String) (said : Level) (template : String) (args : List Value) :
    ∃ data', Ready level fileLevel path data' (Logging.emit name said template args l).2 := by
  have stable : Logging.Stable fun files => ∃ data, files.find path = .ok (.file data) := by
    rintro files path data written ⟨old, found⟩ wrote
    exact Files.find_file_write found wrote
  obtain ⟨same, data', found⟩ := (Logging.emit_kept stable name said template args).keeps l ⟨rfl, data, ready.file⟩
  refine ⟨data', ?_, ?_, found⟩
  · exact (congrArg (fun logger => logger.level) same).trans ready.threshold
  · exact (congrArg (fun logger => logger.handlers) same).trans ready.handlers

end Ready

/-! ## Records after a set-up -/

def ReachesConsole (before : Logging) (outcome : Except Error Unit × Logging) : Prop :=
  before.screen.length < outcome.2.screen.length ∨ ∃ e, outcome.1 = .error e

def ReachesFile (path : Path) (r : Record) (before after : Logging) : Prop :=
  ∃ data bytes, Utf8.encodeStrict (Logging.plainLine r ++ "\n") = .ok bytes ∧
    before.files.find path = .ok (.file data) ∧ after.files.find path = .ok (.file (data ++ bytes))

def IsShown (message : String) : Prop := ∃ text, Markup.plain message.toList = .ok text

def IsEncoded (r : Record) : Prop := ∃ bytes, Utf8.encodeStrict (Logging.plainLine r ++ "\n") = .ok bytes

theorem styledLines_ne_nil (width : Nat) (showTime timeShown : Bool) (said : Level) (message : List Char) :
    Logging.styledLines width showTime timeShown said message ≠ [] := by
  simp [Logging.styledLines, Console.textLines, Text.splitAt_ne_nil]

theorem head?_append {s : String} {c : Char} (starts : s.toList.head? = some c) (t : String) :
    (s ++ t).toList.head? = some c := by
  rw [String.toList_append, List.head?_append, starts]
  rfl

theorem plainLine_head (r : Record) : (Logging.plainLine r ++ "\n").toList.head? = some '1' := by
  unfold Logging.plainLine
  iterate 6 apply head?_append
  decide

theorem not_reachesFile_of_same {r : Record} {after : Logging} (same : after.files = l.files) :
    ¬ReachesFile path r l after := by
  rintro ⟨data, bytes, encoded, found, again⟩
  have starts := plainLine_head r
  rw [same, found] at again
  injection again with again
  injection again with again
  exact Utf8.encodeStrict_ne_nil starts (by decide) encoded (List.self_eq_append_right.mp again)

theorem Accepted.reachesConsole_iff {r : Record} {outcome : Except Error Unit × Logging}
    (accepted : Accepted level fileLevel path data r l outcome) :
    ReachesConsole l outcome ↔ level.value ≤ r.level.value := by
  cases accepted with
  | refused low =>
      refine ⟨?_, fun high => by omega⟩
      rintro (more | ⟨e, failed⟩)
      · exact absurd more (lt_irrefl _)
      · cases failed
  | unshown high bad => exact ⟨fun _ => high, fun _ => .inr ⟨_, rfl⟩⟩
  | shown high plain screen file =>
      refine ⟨fun _ => high, fun _ => .inl ?_⟩
      rw [screen, List.length_append]
      exact Nat.lt_add_of_pos_right (List.length_pos_iff.mpr (styledLines_ne_nil l.width true _ r.level _))

theorem Accepted.reachesFile_iff {r : Record} {outcome : Except Error Unit × Logging}
    (found : l.files.find path = .ok (.file data)) (accepted : Accepted level fileLevel path data r l outcome) :
    (ReachesFile path r l outcome.2 ↔ level.value ≤ r.level.value ∧ fileLevel.value ≤ r.level.value ∧
        IsShown r.message ∧ IsEncoded r) ∧
      (¬ReachesFile path r l outcome.2 → outcome.2.files = l.files) := by
  cases accepted with
  | refused low =>
      refine ⟨⟨fun reaches => absurd reaches (not_reachesFile_of_same rfl), ?_⟩, fun _ => rfl⟩
      rintro ⟨high, -⟩
      omega
  | unshown high bad =>
      refine ⟨⟨fun reaches => absurd reaches (not_reachesFile_of_same rfl), ?_⟩, fun _ => rfl⟩
      rintro ⟨-, -, ⟨text, plain⟩, -⟩
      rw [bad] at plain
      cases plain
  | shown high plain screen file =>
      rw [fileBytes?] at file
      by_cases admitted : fileLevel.value ≤ r.level.value
      · rw [if_pos admitted] at file
        cases encoded : Utf8.encodeStrict (Logging.plainLine r ++ "\n") with
        | ok bytes =>
            rw [encoded] at file
            have reaches : ReachesFile path r l _ := ⟨data, bytes, encoded, found, file⟩
            exact ⟨⟨fun _ => ⟨high, admitted, ⟨_, plain⟩, bytes, encoded⟩, fun _ => reaches⟩, absurd reaches⟩
        | error fault =>
            rw [encoded] at file
            refine ⟨⟨fun reaches => absurd reaches (not_reachesFile_of_same file), ?_⟩, fun _ => file⟩
            rintro ⟨-, -, -, bytes, encoded'⟩
            rw [encoded] at encoded'
            cases encoded'
      · rw [if_neg admitted] at file
        exact ⟨⟨fun reaches => absurd reaches (not_reachesFile_of_same file), fun holds => absurd holds.2.1 admitted⟩,
          fun _ => file⟩

def Step.isEmit : Step → Bool
  | .emit .. => true
  | _ => false

namespace Session

variable {s t u : Session} {place : String}

theorem ready_of_configured {level fileLevel : Int} (positive : 0 < fileLevel) (named : place ≠ "")
    (configured : s.perform (.configure (bothArguments level fileLevel place)) = some t) :
    ∃ data, Ready (.number level) (.number fileLevel) (Path.ofString place) data t.logging := by
  obtain ⟨setup, files, read, rfl, there⟩ := perform_configure configured
  rw [ofArguments_both level positive place] at read
  cases read
  have asked : Setup.fileHandler? ⟨.number level, true, true, true, .text place, .number fileLevel⟩ =
      some ⟨.file (Path.ofString place), .number fileLevel⟩ := by
    rw [Setup.fileHandler?]
    exact if_neg (by simpa using named)
  obtain ⟨data, found⟩ := there _ _ asked
  refine ⟨data, rfl, ?_, found⟩
  rw [Setup.handlers_fresh, Setup.handlers, asked]
  rfl

theorem ready_of_emits {level fileLevel : Level} {path : Path} {data : List UInt8} {steps : List Step}
    (ready : Ready level fileLevel path data s.logging) (ran : s.run steps = some t)
    (only : ∀ step ∈ steps, step.isEmit = true) : ∃ data', Ready level fileLevel path data' t.logging := by
  induction steps generalizing s data with
  | nil =>
      cases ran
      exact ⟨data, ready⟩
  | cons step rest ih =>
      obtain ⟨s', performed, ran⟩ := run_cons.mp ran
      have later : ∀ step ∈ rest, step.isEmit = true := fun step member => only step (List.mem_cons_of_mem _ member)
      cases step with
      | emit name said template args =>
          cases performed
          obtain ⟨data', ready'⟩ := ready.after_emit name said template args
          exact ih ready' ran later
      | _ => cases only _ List.mem_cons_self

/-- After a set-up with a console and a file, and any records since, a record of the package reaches the console just if
the console's level admits it. It reaches the file just if both levels admit it, the console can show it and its text has an
encoding; else no file changes. So for records that can be shown, the file keeps to its own level just if this is not below
the console's. -/
theorem outputs_obey_levels {level fileLevel : Int} {name : String} {before : List Step} (positive : 0 < level)
    (positive' : 0 < fileLevel) (named : place ≠ "")
    (configured : s.perform (.configure (bothArguments level fileLevel place)) = some t)
    (ran : t.run before = some u) (only : ∀ step ∈ before, step.isEmit = true) (own : isOfPackage name = true)
    (template : String) (args : List Value) :
    let outcome (said : Int) := Logging.emit name (.number said) template args u.logging
    let told (said : Int) (message : String) :=
      ReachesFile (Path.ofString place) ⟨name, .number said, message⟩ u.logging (outcome said).2
    (∀ said, 0 < said → (ReachesConsole u.logging (outcome said) ↔ level ≤ said)) ∧
    (∀ said, 0 < said → ∀ message, format template args = .ok message →
      (told said message ↔ level ≤ said ∧ fileLevel ≤ said ∧ IsShown message ∧ IsEncoded ⟨name, .number said, message⟩)) ∧
    (∀ said, 0 < said → (∀ message, format template args = .ok message → ¬told said message) →
      (outcome said).2.files = u.logging.files) ∧
    (∀ message, format template args = .ok message → IsShown message →
      (∀ said : Int, IsEncoded ⟨name, .number said, message⟩) →
      ((∀ said, 0 < said → (told said message ↔ fileLevel ≤ said)) ↔ level ≤ fileLevel)) := by
  intro outcome told
  obtain ⟨_, start⟩ := ready_of_configured positive' named configured
  obtain ⟨data, ready⟩ := ready_of_emits start ran only
  have filled {message : String} (said : Int) (found : format template args = .ok message) :
      Accepted (.number level) (.number fileLevel) _ data ⟨name, .number said, message⟩ u.logging (outcome said) :=
    ready.emit positive own found
  have unfilled {fault : TemplateFault} (said : Int) (found : format template args = .error fault) :
      outcome said = if level ≤ said then (.error (.template fault), u.logging) else (.ok (), u.logging) :=
    ready.emit_unfilled positive own found
  have reaches {message : String} (said : Int) (found : format template args = .ok message) :
      told said message ↔ level ≤ said ∧ fileLevel ≤ said ∧ IsShown message ∧ IsEncoded ⟨name, .number said, message⟩ :=
    ((filled said found).reachesFile_iff ready.file).1
  refine ⟨fun said _ => ?_, fun said _ message found => reaches said found, fun said _ unheard => ?_, ?_⟩
  · cases found : format template args with
    | ok message => exact (filled said found).reachesConsole_iff
    | error fault =>
        rw [unfilled said found]
        by_cases high : level ≤ said <;> simp [ReachesConsole, high]
  · cases found : format template args with
    | ok message => exact ((filled said found).reachesFile_iff ready.file).2 (unheard message found)
    | error fault =>
        rw [unfilled said found]
        split <;> rfl
  · intro message found shown encoded
    constructor
    · intro law
      have own := (law fileLevel positive').mpr (Int.le_refl _)
      exact ((reaches fileLevel found).mp own).1
    · intro ordered said _
      rw [reaches said found]
      exact ⟨fun holds => holds.2.1, fun high => ⟨Int.le_trans ordered high, high, shown, encoded said⟩⟩

def setUp? (level fileLevel : Int) (place : String) : Option Session :=
  (start 80 .empty fun _ => infoLevel).perform (.configure (bothArguments level fileLevel place))

theorem setUp?_isSome :
    ∀ levels ∈ [(10, 30), (30, 10), (10, 10)], (setUp? levels.1 levels.2 "log").isSome = true := by
  decide +kernel

theorem file_above_console : ∃ t u, setUp? 10 30 "log" = some t ∧
    t.run [.emit packageLogger infoLevel "ready" []] = some u ∧
    let outcome (said : Int) := Logging.emit (partLogger "host") (.number said) "%s left" [.int 2] u.logging
    let told (said : Int) :=
      ReachesFile (Path.ofString "log") ⟨partLogger "host", .number said, "2 left"⟩ u.logging (outcome said).2
    ReachesConsole u.logging (outcome 20) ∧ ¬told 20 ∧ told 30 := by
  obtain ⟨t, configured⟩ := Option.isSome_iff_exists.mp (setUp?_isSome (10, 30) (by simp))
  have only : ∀ step ∈ [Step.emit packageLogger infoLevel "ready" []], step.isEmit = true := by simp [Step.isEmit]
  obtain ⟨console, file, -, -⟩ := outputs_obey_levels (by decide) (by decide) (by decide) configured rfl only
    (by decide : isOfPackage (partLogger "host") = true) "%s left" [.int 2]
  have filled : format "%s left" [.int 2] = .ok "2 left" := toOption_eq_some_iff.mp (by decide)
  have shown : IsShown "2 left" := ⟨"2 left".toList, toOption_eq_some_iff.mp (by decide)⟩
  have unmarked : Text.standInMark ∉ (Logging.plainLine ⟨partLogger "host", .number 30, "2 left"⟩ ++ "\n").toList := by
    decide
  have encoded : IsEncoded ⟨partLogger "host", .number 30, "2 left"⟩ :=
    ⟨_, Utf8.encodeStrict_of_unmarked (by rw [String.contains_char_eq, decide_eq_false unmarked])⟩
  refine ⟨t, _, configured, rfl, (console 20 (by decide)).mpr (by decide), ?_, ?_⟩
  · exact fun told => absurd ((file 20 (by decide) _ filled).mp told).2.1 (by decide)
  · exact (file 30 (by decide) _ filled).mpr ⟨by decide, by decide, shown, encoded⟩

/-- The file does not get a record that only its own level admits, nor one that the console fails to show. -/
theorem file_misses_records :
    (∃ t, setUp? 30 10 "log" = some t ∧ ¬ReachesFile (Path.ofString "log") ⟨packageLogger, infoLevel, "ready"⟩ t.logging
      (Logging.emit packageLogger infoLevel "ready" [] t.logging).2) ∧
    ∃ t, setUp? 10 10 "log" = some t ∧ ¬ReachesFile (Path.ofString "log") ⟨packageLogger, infoLevel, "[/]"⟩ t.logging
      (Logging.emit packageLogger infoLevel "[/]" [] t.logging).2 := by
  obtain ⟨t, configured⟩ := Option.isSome_iff_exists.mp (setUp?_isSome (30, 10) (by simp))
  obtain ⟨t', configured'⟩ := Option.isSome_iff_exists.mp (setUp?_isSome (10, 10) (by simp))
  have own : isOfPackage packageLogger = true := by decide
  have bad : (Markup.plain "[/]".toList).toOption = none := by decide
  refine ⟨⟨t, configured, fun told => ?_⟩, t', configured', fun told => ?_⟩
  · obtain ⟨data, ready⟩ := ready_of_configured (by decide) (by decide) configured
    have accepted : Accepted _ _ _ _ ⟨packageLogger, infoLevel, "ready"⟩ _ _ :=
      ready.emit (by decide) own (rfl : format "ready" [] = .ok "ready")
    exact absurd ((accepted.reachesFile_iff ready.file).1.mp told).1 (by decide)
  · obtain ⟨data, ready⟩ := ready_of_configured (by decide) (by decide) configured'
    have accepted : Accepted _ _ _ _ ⟨packageLogger, infoLevel, "[/]"⟩ _ _ :=
      ready.emit (by decide) own (rfl : format "[/]" [] = .ok "[/]")
    obtain ⟨-, -, ⟨text, plain⟩, -⟩ := (accepted.reachesFile_iff ready.file).1.mp told
    rw [plain] at bad
    cases bad

end Session

end PluginKit.Log
