import PluginKit.Proofs.Command.Logging
import PluginKit.Proofs.Plugin.Acceptance
import PluginKit.Proofs.Plugin.Bisimulation
import PluginKit.Proofs.Text.Utf8

/-!
Formatting a file. A run loads and configures a plugin, has it format the text of the file, and then prints or writes
the result. None of this depends on the log, but a run ends where a record cannot be printed.
-/

namespace PluginKit

variable {σ ρ α β : Type}

open Activity

/-! ## Journals -/

namespace Plugin

def Muted (p : Plugin σ) : Prop := ∀ r ∈ p.journal, r.level = Log.debugLevel

theorem Muted.log {p : Plugin σ} (muted : p.Muted) (message : String) : (p.log message).Muted := by
  intro r member
  rcases List.mem_append.mp member with old | new
  · exact muted r old
  · rw [List.mem_singleton.mp new]

theorem Muted.call {p : Plugin σ} (muted : p.Muted) (name : String) (args : List Int) : (p.call name args).2.Muted := by
  unfold Plugin.call
  split
  · exact muted
  · generalize p.guest.call name args p.memory p.state = result
    have called : Muted ⟨p.guest, result.memory, result.state,
        p.journal ++ result.imports.map fun call => ⟨hostLogger, Log.debugLevel, call.message⟩⟩ := by
      intro r member
      rcases List.mem_append.mp member with old | new
      · exact muted r old
      · obtain ⟨call, -, rfl⟩ := List.mem_map.mp new
        rfl
    dsimp only
    split
    · exact called
    · exact called.log _

theorem muted_bisimulation : Bisimulation fun p q => q = p ∧ Muted (σ := σ) p :=
  .of_invariant (fun muted name args => muted.call name args) (fun muted _ => muted)
    fun muted message => muted.log message

end Plugin

namespace Formatter

open Plugin Bisimulation

theorem setConfig_muted (globals : GlobalArg) (plugin : Value) :
    Keeps (fun f : Formatter σ => f.plugin.Muted) (setConfig globals plugin) :=
  keeps_plugin (setConfig_bisimilar muted_bisimulation globals plugin)

theorem format_muted (request : Request) (text override : Value) :
    Keeps (fun f : Formatter σ => f.plugin.Muted) (format request text override) :=
  keeps_plugin (format_bisimilar muted_bisimulation request text override)

theorem load_muted (engine : Engine σ) (patience : Nat) (bytes : List UInt8) :
    ∀ r ∈ (load engine patience bytes).2, r.level = Log.debugLevel := by
  have called : ∀ name ∈ Load.calls, Keeps (Muted (σ := σ)) (Host.call .running name []) :=
    fun name _ => keeps (Host.call_bisimilar muted_bisimulation .running name [])
  have inspected := Load.inspect_keeps called fun p message muted => muted.log message
  unfold load
  rcases Load.compile_cases engine bytes with ⟨g, m, s, compiled, -⟩ | ⟨_, _, failed, -⟩
  · rw [compiled]
    have started : Muted ⟨g, m, s, []⟩ := fun r member => absurd member List.not_mem_nil
    have after := inspected _ (started.log ("Compiled plugin module (" ++ toString bytes.length ++ " bytes)"))
    dsimp only
    split <;> (rename_i run; rw [run] at after; exact after)
  · rw [failed]
    exact fun r member => absurd member List.not_mem_nil

theorem loadSource_muted (engine : Engine σ) (patience : Nat) (files : Files) (source : ModuleSource) :
    ∀ r ∈ (loadSource engine patience files source).2, r.level = Log.debugLevel := by
  intro r member
  unfold loadSource at member
  split at member
  · exact absurd member List.not_mem_nil
  · rcases List.mem_cons.mp member with rfl | later
    · rfl
    · exact load_muted engine patience _ r later

end Formatter

namespace Command

/-! ## The configured plugin -/

def plugin? (files : Files) (settings : Settings) : Option String → Option Path
  | some text => do
    if ← (files.isFile (Path.ofString text)).toOption then some (Path.ofString text) else none
  | none => (Package.path files settings.plugin).toOption

def done? (op : Formatter.Op σ α) (f : Formatter σ) : Option (α × Formatter σ) :=
  match op f with
  | (.ok a, after) => some (a, Verify.clear after)
  | (.error _, _) => none

def configured? (tools : Tools σ) (files : Files) (settings : Settings) (place : Path) : Option (Formatter σ) := do
  let loaded ← (Formatter.loadSource tools.engine tools.patience files (.path place)).1.toOption
  match GlobalConfig.ofFields (configFields settings.format) with
  | .invalid _ => none
  | .valid config =>
    let plugin := Value.object settings.format.pluginConfig
    return (← done? (Formatter.setConfig (.config config) plugin) (Verify.clear loaded)).2

def settings? (tools : Tools σ) (files : Files) : Option Settings :=
  ((Settings.load files tools.env none).run []).1.toOption

def formatter? (tools : Tools σ) (files : Files) (path : Option String) : Option (Formatter σ) := do
  let settings ← settings? tools files
  configured? tools files settings (← plugin? files settings path)

def lineFeeds (text : String) : String := String.ofList (Text.universalNewlines text.toList)

def formatted? (tools : Tools σ) (files : Files) (settings : Settings) (file : String) (path : Option String) :
    Option (String × String) := do
  let target := Path.ofString file
  if ← (files.isFile target).toOption then
    let place ← plugin? files settings path
    let data ← (files.read target).toOption
    let raw ← (Utf8.decode data).toOption
    let f ← configured? tools files settings place
    let request := Formatter.format (.value (.text target.text)) (.text (lineFeeds raw)) .null
    return (lineFeeds raw, (← done? request f).1)
  else none

variable {verbose : Bool} {files : Files} {tools : Tools σ} {settings : Settings}

theorem isFile_gives (p : Path) : Gives verbose files (isFile p : Run ρ Bool) (files.isFile p).toOption := by
  refine .get_bind fun s same => ?_
  rw [same]
  cases files.isFile p with
  | ok found => exact .pure found
  | error fault => exact .fail _

theorem readBytes_gives (p : Path) :
    Gives verbose files (readBytes p : Run ρ (List UInt8)) (files.read p).toOption := by
  refine .get_bind fun s same => ?_
  rw [same]
  cases files.read p with
  | ok data => exact .pure data
  | error fault => exact .fail _

theorem pluginPath_gives (path : Option String) :
    Gives verbose files (pluginPath settings path : Run ρ Path) (plugin? files settings path) := by
  refine .get_bind fun s same => ?_
  rw [same]
  cases path with
  | some text =>
      refine .bind (isFile_gives _) fun found _ => ?_
      cases found with
      | true => exact .pure _
      | false => exact .giveUp _ _
  | none =>
      dsimp only [plugin?]
      split <;> rename_i found <;> rw [found]
      · exact .pure _
      · exact .giveUp _ _
      · exact .fail _

theorem onFormatter_gives (headline : String) {op : Formatter.Op σ α} {f : Formatter σ}
    (muted : (op f).2.plugin.Muted) :
    Gives verbose files (onFormatter headline op f : Run ρ (α × Formatter σ)) (done? op f) := by
  obtain ⟨result, after, run⟩ : ∃ result after, op f = (result, after) := ⟨_, _, rfl⟩
  have run' : op.run f = (result, after) := run
  rw [run] at muted
  rw [onFormatter, run', done?, run]
  cases result with
  | ok a => exact .logged muted (.pure _)
  | error e => exact .logged muted (.report headline e)

theorem clear_muted (f : Formatter σ) : (Verify.clear f).plugin.Muted :=
  fun _ member => absurd member List.not_mem_nil

theorem configured_gives (headline : String) (place : Path) :
    Gives verbose files (configured tools settings headline place : Run ρ (Formatter σ))
      (configured? tools files settings place) := by
  refine .get_bind fun s same => ?_
  rw [same]
  have minor := Formatter.loadSource_muted tools.engine tools.patience files (.path place)
  obtain ⟨loaded, journal, run⟩ : ∃ loaded journal,
      Formatter.loadSource tools.engine tools.patience files (.path place) = (loaded, journal) := ⟨_, _, rfl⟩
  rw [run] at minor
  rw [configured?, run]
  cases loaded with
  | error e =>
      cases e with
      | source fault => exact .logged minor (.fail _)
      | plugin e => exact .logged minor (.report headline e)
  | ok f =>
      refine .logged minor ?_
      dsimp only [Except.toOption, bind, Option.bind]
      cases GlobalConfig.ofFields (configFields settings.format) with
      | invalid faults => exact .fail _
      | valid config =>
          have muted := Formatter.setConfig_muted (.config config) (.object settings.format.pluginConfig) _
            (clear_muted f)
          exact .bind (onFormatter_gives headline muted) fun _ _ => .pure _

theorem done?_muted {op : Formatter.Op σ α} {f after : Formatter σ} {a : α} (done : done? op f = some (a, after)) :
    after.plugin.Muted := by
  unfold done? at done
  split at done
  · cases done
    exact clear_muted _
  · cases done

theorem configured?_muted {place : Path} {f : Formatter σ} (made : configured? tools files settings place = some f) :
    f.plugin.Muted := by
  obtain ⟨loaded, -, made⟩ := Option.bind_eq_some_iff.mp made
  split at made
  · cases made
  · obtain ⟨⟨_, after⟩, done, made⟩ := Option.bind_eq_some_iff.mp made
    cases made
    exact done?_muted done

/-! ## What is done with the result -/

def formattedBody (target : Path) : String := "Formatted [path]" ++ target.text ++ "[/path]"

def unchangedBody (target : Path) : String := "[path]" ++ target.text ++ "[/path] already formatted"

def settle (target : Path) (write : Bool) (text result : String) : Run ρ Unit :=
  if !write then deliver result
  else if result = text then printStyled (Console.say .success (unchangedBody target) none)
  else do
    writeText target result
    printStyled (Console.say .success (formattedBody target) none)

theorem runFormat_follows (file : String) (path : Option String) (write : Bool) :
    Follows verbose files (runFormat tools settings file path write : Run ρ Unit)
      (formatted? tools files settings file path) fun made => settle (Path.ofString file) write made.1 made.2 := by
  refine .bind (isFile_gives _) fun found _ => ?_
  cases found with
  | false => exact .stop (.giveUp _ _)
  | true =>
      refine .bind (pluginPath_gives path) fun place _ => .bind (readBytes_gives _) fun data _ => ?_
      cases Utf8.decode data with
      | error fault => exact .fail _
      | ok raw =>
          refine .bind (configured_gives _ place) fun f made => ?_
          have muted := Formatter.format_muted (.value (.text (Path.ofString file).text)) (.text (lineFeeds raw))
            .null f (configured?_muted made)
          refine .bind (onFormatter_gives _ muted) fun made _ => ?_
          obtain ⟨result, after⟩ := made
          have last : Follows verbose files (settle (Path.ofString file) write (lineFeeds raw) result : Run ρ Unit)
            (some (lineFeeds raw, result)) fun made => settle (Path.ofString file) write made.1 made.2 := .here _
          exact last

def Announced (body shown : String) : Prop :=
  ∃ lines, Console.say .success body none = .ok lines ∧ shown = String.join (lines.map (· ++ "\n"))

theorem announce_cases (body : String) (s : Shell ρ) :
    (∃ shown, Announced body shown ∧
        printStyled (Console.say .success body none) s = (.ok (), { s with output := s.output ++ shown })) ∨
      ∃ cause, cause.isPrinting = true ∧
        printStyled (Console.say .success body none) s = (.error (.failure cause), s) := by
  refine (printStyled_cases _ s).imp_left ?_
  rintro ⟨lines, said, printed⟩
  exact ⟨_, ⟨lines, said, rfl⟩, printed⟩

theorem deliver_success {text : String} {s : Shell ρ} (success : IsSuccess (deliver text s).1) :
    deliver text s = (.ok (), { s with output := s.output ++ Text.withoutSequences text }) := by
  rw [deliver] at success ⊢
  cases encoded : Utf8.encodeFault? (Text.withoutSequences text) with
  | some fault =>
      rw [encoded] at success
      exact absurd success id
  | none => rfl

theorem writeText_ok {target : Path} {text : String} {s : Shell ρ} {data : List UInt8} {written : Files}
    (encoded : Utf8.encodeStrict text = .ok data) (put : s.files.write target data = .ok written) :
    writeText target text s = (.ok (), { s with files := written }) := by
  rw [writeText, get_bind]
  simp only [encoded, Except.toOption, Option.getD_some, put]
  rfl

theorem writeText_cases (target : Path) (text : String) (s : Shell ρ) :
    (∃ data written, Utf8.encodeStrict text = .ok data ∧ s.files.write target data = .ok written ∧
      writeText target text s = (.ok (), { s with files := written })) ∨
      ∃ cause s', writeText target text s = (.error (.failure cause), s') := by
  cases encoded : Utf8.encodeStrict text with
  | error fault =>
      rw [writeText, get_bind]
      right
      cases written : s.files.write target [] with
      | error _ => simp only [encoded, Except.toOption, Option.getD_none, written]; exact ⟨_, _, rfl⟩
      | ok files => simp only [encoded, Except.toOption, Option.getD_none, written]; exact ⟨_, _, rfl⟩
  | ok data =>
      cases written : s.files.write target data with
      | error _ =>
          rw [writeText, get_bind]
          simp only [encoded, Except.toOption, Option.getD_some, written]
          exact .inr ⟨_, _, rfl⟩
      | ok files => exact .inl ⟨data, files, rfl, written, writeText_ok encoded written⟩

theorem settle_success {target : Path} {write : Bool} {text result : String} {s : Shell ρ}
    (success : IsSuccess (settle target write text result s).1) :
    ∃ s', settle target write text result s = (.ok (), s') ∧
      ((write = false ∧ s' = { s with output := s.output ++ Text.withoutSequences result }) ∨
      (write = true ∧ result = text ∧ ∃ shown, Announced (unchangedBody target) shown ∧
        s' = { s with output := s.output ++ shown }) ∨
      (write = true ∧ result ≠ text ∧ ∃ data written shown, Utf8.encodeStrict result = .ok data ∧
        s.files.write target data = .ok written ∧ Announced (formattedBody target) shown ∧
        s' = { s with files := written, output := s.output ++ shown })) := by
  unfold settle at success ⊢
  cases write with
  | false => exact ⟨_, deliver_success success, .inl ⟨rfl, rfl⟩⟩
  | true =>
      rw [if_neg (by simp)] at success ⊢
      by_cases same : result = text
      · rw [if_pos same] at success ⊢
        rcases announce_cases (unchangedBody target) s with ⟨shown, announced, printed⟩ | ⟨cause, -, failed⟩
        · exact ⟨_, printed, .inr (.inl ⟨rfl, same, shown, announced, rfl⟩)⟩
        · rw [failed] at success
          exact absurd success id
      · rw [if_neg same] at success ⊢
        rcases writeText_cases target result s with ⟨data, written, encoded, put, wrote⟩ | ⟨cause, s', failed⟩
        · rw [bind_ok wrote] at success ⊢
          rcases announce_cases (formattedBody target) { s with files := written } with
            ⟨shown, announced, printed⟩ | ⟨cause, -, failed⟩
          · exact ⟨_, printed, .inr (.inr ⟨rfl, same, data, written, shown, encoded, put, announced, rfl⟩)⟩
          · rw [failed] at success
            exact absurd success id
        · rw [bind_error failed] at success
          exact absurd success id

/-! ## Whole runs -/

def runLogger (verbose : Bool) : Log.Logger :=
  let level := if verbose then Log.debugLevel else Log.warningLevel
  ⟨level, [⟨.console true false, level⟩], []⟩

theorem runLogger_tuned (verbose : Bool) : Tuned verbose (runLogger verbose) where
  console := by
    intro h member
    rw [List.mem_singleton.mp member]
    exact ⟨true, false, rfl⟩
  quiet := by
    rintro rfl
    rfl

theorem configure_start (verbose : Bool) {s : Shell ρ} (fresh : s.logger = .start) :
    onLogging (Log.Logging.configure { Log.Setup.default with
      level := if verbose then Log.debugLevel else Log.warningLevel }) s =
        (.ok (), { s with logger := runLogger verbose }) := by
  have configured : Log.Logging.configure { Log.Setup.default with
      level := if verbose then Log.debugLevel else Log.warningLevel } ⟨s.width, s.logger, s.files, [], []⟩ =
        (.ok (), ⟨s.width, runLogger verbose, s.files, [], []⟩) := by
    rw [fresh]
    rfl
  rw [onLogging_apply _ s configured, bind_ok (print_nil _)]
  rfl

theorem prepare_start (debug : Bool) {s : Shell ρ} (fresh : s.logger = .start) :
    (∀ settings, settings? tools s.files = some settings →
      prepare tools debug s = (.ok settings, { s with logger := runLogger (debug || settings.debug) })) ∧
    (settings? tools s.files = none → ∃ cause, prepare tools debug s = (.error (.failure cause), s)) := by
  obtain ⟨loaded, records, run⟩ :
    ∃ loaded records, (Settings.load s.files tools.env none).run [] = (loaded, records) := ⟨_, _, rfl⟩
  have logged : logAll records s = (.ok (), s) := logAll_deaf (by rw [fresh]; rfl) records
  rw [settings?, run, prepare, get_bind]
  simp only [run]
  rw [bind_ok logged]
  cases loaded with
  | error e =>
      refine ⟨fun _ found => ?_, fun _ => ⟨_, rfl⟩⟩
      cases found
  | ok settings =>
      refine ⟨fun _ found => ?_, fun missing => ?_⟩
      · cases found
        exact bind_ok (configure_start (debug || settings.debug) fresh)
      · cases missing

def isVerbose (tools : Tools σ) (debug : Bool) (files : Files) : Bool :=
  debug || ((settings? tools files).map Settings.debug).getD false

theorem isVerbose_eq (found : settings? tools files = some settings) (debug : Bool) :
    isVerbose tools debug files = (debug || settings.debug) := by
  rw [isVerbose, found]
  rfl

section

variable {words rest : List String} {debug : Bool} (opening : Opening.ofWords words = .run debug .plugin rest)
  (width : Nat) (server : Server ρ) (state : ρ)

include opening

theorem run_unsettled (missing : settings? tools files = none) :
    ¬IsSuccess (run tools words (.start width server state files)).1 ∧
      (run tools words (.start width server state files)).2.files = files := by
  obtain ⟨cause, failed⟩ :
      ∃ cause, prepare tools debug (.start width server state files) = (.error (.failure cause), _) :=
    (prepare_start debug rfl).2 missing
  rw [run, opening]
  dsimp only
  rw [bind_error failed]
  exact ⟨id, rfl⟩

theorem run_performs {α : Type} {command : Command} (request : Request.ofWords .plugin rest = .run command)
    (found : settings? tools files = some settings) {expected : Option α} {k : α → Run ρ Unit}
    (follows : Follows (isVerbose tools debug files) files (perform tools settings command) expected k) :
    (∀ a, expected = some a → ∃ logger log, Tuned (isVerbose tools debug files) logger ∧
      (isVerbose tools debug files = false → log = "") ∧
      (run tools words (.start width server state files) = k a ⟨width, ⟨server, state, []⟩, logger, files, log⟩ ∨
        isVerbose tools debug files = true ∧ ∃ cause, cause.isPrinting = true ∧
          run tools words (.start width server state files) =
            (.error (.failure cause), ⟨width, ⟨server, state, []⟩, logger, files, log⟩))) ∧
    (expected = none → ¬IsSuccess (run tools words (.start width server state files)).1 ∧
      (run tools words (.start width server state files)).2.files = files) := by
  have ran : run tools words (.start width server state files) = perform tools settings command
      ⟨width, ⟨server, state, []⟩, runLogger (isVerbose tools debug files), files, ""⟩ := by
    have prepared : prepare tools debug (.start width server state files) = (.ok settings, _) :=
      (prepare_start debug rfl).1 settings found
    rw [run, opening]
    dsimp only
    rw [bind_ok prepared, request, isVerbose_eq found]
    rfl
  have outcome := follows ⟨width, ⟨server, state, []⟩, _, files, ""⟩ rfl (runLogger_tuned _)
  rw [ran]
  constructor
  · rintro a rfl
    obtain ⟨_, ⟨logger, log, rfl, tuned, quiet⟩, went⟩ := outcome
    exact ⟨logger, "" ++ log, tuned, fun loud => by rw [quiet loud]; rfl, went⟩
  · rintro rfl
    exact outcome

variable {file : String} {path : Option String} {write : Bool}
  (request : Request.ofWords .plugin rest = .run (.format file path write))

include request

theorem run_follows (found : settings? tools files = some settings) :
    match formatted? tools files settings file path with
    | some made => ∃ logger log, (isVerbose tools debug files = false → log = "") ∧
        (run tools words (.start width server state files) =
            settle (Path.ofString file) write made.1 made.2 ⟨width, ⟨server, state, []⟩, logger, files, log⟩ ∨
          isVerbose tools debug files = true ∧ ∃ cause, cause.isPrinting = true ∧
            run tools words (.start width server state files) =
              (.error (.failure cause), ⟨width, ⟨server, state, []⟩, logger, files, log⟩))
    | none => ¬IsSuccess (run tools words (.start width server state files)).1 ∧
        (run tools words (.start width server state files)).2.files = files := by
  have outcome := run_performs opening width server state request found (runFormat_follows file path write)
  cases made : formatted? tools files settings file path with
  | none => exact outcome.2 made
  | some made' =>
      obtain ⟨logger, log, -, quiet, went⟩ := outcome.1 made' made
      exact ⟨logger, log, quiet, went⟩

theorem run_success (success : IsSuccess (run tools words (.start width server state files)).1) :
    ∃ settings made logger log, settings? tools files = some settings ∧
      formatted? tools files settings file path = some made ∧ (isVerbose tools debug files = false → log = "") ∧
      run tools words (.start width server state files) =
        settle (Path.ofString file) write made.1 made.2 ⟨width, ⟨server, state, []⟩, logger, files, log⟩ := by
  cases found : settings? tools files with
  | none => exact absurd success (run_unsettled opening width server state found).1
  | some settings =>
      have follows := run_follows opening width server state request found
      cases made : formatted? tools files settings file path with
      | none =>
          rw [made] at follows
          exact absurd success follows.1
      | some result =>
          rw [made] at follows
          obtain ⟨logger, log, quiet, settled | ⟨-, cause, -, failed⟩⟩ := follows
          · exact ⟨settings, result, logger, log, rfl, made, quiet, settled⟩
          · rw [failed] at success
            exact absurd success id

end

end Command

end PluginKit
