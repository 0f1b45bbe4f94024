import PluginKit.Proofs.Command.Formatting
import PluginKit.Proofs.Files
import PluginKit.Proofs.Plugin.Telling
import PluginKit.Proofs.Plugin.Delivery
import PluginKit.Proofs.Plugin.Shapes
import PluginKit.Proofs.Plugin.Verification
import PluginKit.Proofs.Text.Lines

/-!
Files are formatted as they are read, with every line end turned into a line feed. What a run prints or leaves in a file
is what the plugin makes of that text, and it is the formatted file only if there was no other line end in it.
-/

namespace PluginKit

open Activity

/-! ## Control sequences -/

namespace Text

def Unsequenced (s : List Char) : Prop := ∀ before rest, s = before ++ '\x1b' :: rest → sequenceLength? rest = none

theorem length_withoutSequencesFrom (skip : Nat) (s : List Char) : (withoutSequencesFrom skip s).length ≤ s.length := by
  fun_induction withoutSequencesFrom skip s with
  | case1 => exact Nat.le_refl _
  | case2 c rest k ih => exact Nat.le_succ_of_le ih
  | case3 c rest n found ih => exact Nat.le_succ_of_le ih
  | case4 c rest none ih => exact Nat.succ_le_succ ih

theorem unsequenced_cons {c : Char} {rest : List Char} :
    Unsequenced (c :: rest) ↔ (c = '\x1b' → sequenceLength? rest = none) ∧ Unsequenced rest := by
  constructor
  · refine fun plain => ⟨fun escape => plain [] rest (by rw [escape]; rfl), fun before later split => ?_⟩
    exact plain (c :: before) later (by rw [split]; rfl)
  · rintro ⟨first, others⟩ before later split
    cases before with
    | nil =>
        cases split
        exact first rfl
    | cons d before =>
        cases split
        exact others before later rfl

theorem withoutSequencesFrom_eq_self_iff (s : List Char) : withoutSequencesFrom 0 s = s ↔ Unsequenced s := by
  induction s with
  | nil =>
      refine ⟨fun _ before rest split => ?_, fun _ => rfl⟩
      cases before <;> cases split
  | cons c rest ih =>
      rw [unsequenced_cons, ← ih, withoutSequencesFrom]
      cases found : if c = '\x1b' then sequenceLength? rest else none with
      | some length =>
          have shorter := length_withoutSequencesFrom length rest
          constructor
          · intro same
            rw [show withoutSequencesFrom length rest = c :: rest from same, List.length_cons] at shorter
            omega
          · rintro ⟨plain, -⟩
            split at found
            · rename_i escape
              rw [plain escape] at found
              cases found
            · cases found
      | none =>
          rw [List.cons.injEq, eq_self, true_and]
          exact ⟨fun same => ⟨fun escape => by rwa [if_pos escape] at found, same⟩, And.right⟩

theorem withoutSequences_eq_self_iff (s : String) : withoutSequences s = s ↔ Unsequenced s.toList := by
  rw [← withoutSequencesFrom_eq_self_iff, withoutSequences, ← String.toList_inj, String.toList_ofList]

end Text

variable {σ ρ : Type}

/-! ## Results of plugins -/

namespace Formatter

def Returns (f : Formatter σ) (name text result : String) : Prop :=
  (format (.value (.text name)) (.text text) .null f).1 = .ok result

theorem format_named (name text : String) :
    format (σ := σ) (.value (.text name)) (.text text) .null = formatRequest ⟨name, text, .null⟩ := by
  have coerced : (Request.value (.text name)).coerce (.text text) .null = .ok (.request ⟨name, text, .null⟩) :=
    Request.Asks.positional.coerce (o := none) nofun
  rw [format, coerced]

def IsDecoded (text : String) : Prop := ∃ data, Utf8.decode data = .ok text

theorem receiveFrom_decoded (stage : Stage) (name : String) (args : List Int) (f : Formatter σ) {text : String}
    (received : (receiveFrom stage name args f).1 = .ok text) : IsDecoded text := by
  rw [receiveFrom, get_bind, host_apply] at received
  obtain ⟨length, p, -, received⟩ := bind_fst_ok received
  obtain ⟨data, -, decoded⟩ := Host.receive_ok (Prod.ext received rfl)
  exact ⟨data, decoded⟩

theorem Returns.decoded {f : Formatter σ} {name text result : String} (returns : f.Returns name text result)
    (changed : result ≠ text) : IsDecoded result := by
  rw [Returns, format_named] at returns
  obtain ⟨_, f₁, -, returns⟩ := bind_fst_ok returns
  obtain ⟨_, f₂, -, returns⟩ := bind_fst_ok returns
  obtain ⟨_, f₃, -, returns⟩ := bind_fst_ok returns
  obtain ⟨_, f₄, -, returns⟩ := bind_fst_ok returns
  obtain ⟨_, f₅, -, returns⟩ := bind_fst_ok returns
  obtain ⟨_, f₆, -, returns⟩ := bind_fst_ok returns
  obtain ⟨code, f₇, -, returns⟩ := bind_fst_ok returns
  unfold formatReply at returns
  split at returns
  · obtain ⟨_, f₈, -, returns⟩ := bind_fst_ok returns
    exact absurd (Except.ok.inj returns).symm changed
  split at returns
  · obtain ⟨_, f₈, -, returns⟩ := bind_fst_ok returns
    exact receiveFrom_decoded _ _ _ f₈ returns
  split at returns
  · obtain ⟨_, f₈, -, returns⟩ := bind_fst_ok returns
    cases returns
  · cases returns

end Formatter

namespace Command

variable {tools : Tools σ} {files : Files} {settings : Settings} {words rest : List String} {debug write : Bool}
  {file : String} {path : Option String} {data : List UInt8} {text : String}

theorem lineFeeds_eq_self_iff (text : String) : lineFeeds text = text ↔ '\r' ∉ text.toList := by
  rw [← Text.universalNewlines_eq_self_iff, lineFeeds, ← String.toList_inj, String.toList_ofList]

theorem formatter?_eq (found : settings? tools files = some settings) (path : Option String) :
    formatter? tools files path = (plugin? files settings path).bind (configured? tools files settings) := by
  rw [formatter?, found]
  rfl

theorem formatted?_eq_some (read : files.read (Path.ofString file) = .ok data) (decoded : Utf8.decode data = .ok text)
    {made : String × String} : formatted? tools files settings file path = some made ↔
      ∃ f, (plugin? files settings path).bind (configured? tools files settings) = some f ∧
        made.1 = lineFeeds text ∧ f.Returns (Path.ofString file).text (lineFeeds text) made.2 := by
  have unfolded : formatted? tools files settings file path = (plugin? files settings path).bind fun place =>
      (configured? tools files settings place).bind fun f =>
        (done? (Formatter.format (.value (.text (Path.ofString file).text)) (.text (lineFeeds text)) .null) f).bind
          fun done => some (lineFeeds text, done.1) := by
    simp only [formatted?, Files.isFile_of_read read, read, Except.toOption, bind, Option.bind, if_true, decoded]
    rfl
  obtain ⟨first, second⟩ := made
  rw [unfolded, ← Option.bind_assoc, Option.bind_eq_some_iff]
  refine exists_congr fun f => and_congr_right fun _ => ?_
  unfold Formatter.Returns done?
  rcases run_cases (Formatter.format (.value (.text (Path.ofString file).text)) (.text (lineFeeds text)) .null) f with
    ⟨result, f', run⟩ | ⟨e, f', run⟩ <;> rw [run]
  · simp [eq_comm]
  · simp

theorem execute_ok {s s' : Shell ρ} (ran : run tools words s = (.ok (), s')) :
    execute tools words s = ⟨0, none, s'⟩ := by
  rw [execute, ExceptT.run, ran]

theorem execute_failure {s s' : Shell ρ} {cause : Failure} (ran : run tools words s = (.error (.failure cause), s')) :
    execute tools words s = ⟨1, some cause, s'⟩ := by
  rw [execute, ExceptT.run, ran]

theorem isSuccess_of_code {s : Shell ρ} (succeeded : (execute tools words s).code = 0) :
    IsSuccess (run tools words s).1 := by
  rcases run_cases (run tools words) s with ⟨_, s', ran⟩ | ⟨e, s', ran⟩
  · rw [ran]
    trivial
  · rw [execute, ExceptT.run, ran] at succeeded
    rw [ran]
    cases e with
    | exit code => exact succeeded
    | failure cause => cases succeeded

section

variable {width : Nat} {server : Server ρ} {state : ρ}

inductive Settled (target : Path) (before : Files) (log text result : String) : Bool → Shell ρ → Prop
  | printed {s : Shell ρ} (same : s.files = before) (output : s.output = log ++ Text.withoutSequences result) :
      Settled target before log text result false s
  | unchanged {s : Shell ρ} {shown : String} (alike : result = text) (same : s.files = before)
      (announced : Announced (unchangedBody target) shown) (output : s.output = log ++ shown) :
      Settled target before log text result true s
  | written {s : Shell ρ} {data : List UInt8} {shown : String} (differs : result ≠ text)
      (encoded : Utf8.encodeStrict result = .ok data) (put : before.write target data = .ok s.files)
      (announced : Announced (formattedBody target) shown) (output : s.output = log ++ shown) :
      Settled target before log text result true s

theorem settled_of_success {target : Path} {result log : String} {s : Shell ρ} (start : s.output = log)
    (success : IsSuccess (settle target write text result s).1) :
    ∃ s', settle target write text result s = (.ok (), s') ∧ Settled target s.files log text result write s' := by
  subst start
  obtain ⟨s', settled, done⟩ := settle_success success
  refine ⟨s', settled, ?_⟩
  rcases done with ⟨rfl, rfl⟩ | ⟨rfl, alike, shown, announced, rfl⟩ |
    ⟨rfl, differs, data, written, shown, encoded, put, announced, rfl⟩
  · exact .printed rfl rfl
  · exact .unchanged alike rfl announced rfl
  · exact .written differs encoded put announced rfl

theorem execute_settled (opening : Opening.ofWords words = .run debug .plugin rest)
    (request : Request.ofWords .plugin rest = .run (.format file path write))
    (read : files.read (Path.ofString file) = .ok data) (decoded : Utf8.decode data = .ok text)
    (succeeded : (execute tools words (.start width server state files)).code = 0) :
    ∃ f result log, formatter? tools files path = some f ∧
      f.Returns (Path.ofString file).text (lineFeeds text) result ∧
      (isVerbose tools debug files = false → log = "") ∧
      Settled (Path.ofString file) files log (lineFeeds text) result write
        (execute tools words (.start width server state files)).shell := by
  have success := isSuccess_of_code succeeded
  obtain ⟨settings, ⟨first, result⟩, logger, log, found, made, quiet, ran⟩ :=
    run_success opening width server state request success
  obtain ⟨f, loaded, rfl, returns⟩ := (formatted?_eq_some read decoded).mp made
  rw [ran] at success
  obtain ⟨s', ended, settled⟩ := settled_of_success rfl success
  refine ⟨f, result, log, (formatter?_eq found path).trans loaded, returns, quiet, ?_⟩
  rw [execute_ok (ran.trans ended)]
  exact settled

theorem execute_unchanged (opening : Opening.ofWords words = .run debug .plugin rest)
    (request : Request.ofWords .plugin rest = .run (.format file path true))
    (read : files.read (Path.ofString file) = .ok data) (decoded : Utf8.decode data = .ok text) {f : Formatter σ}
    (loaded : formatter? tools files path = some f)
    (returns : f.Returns (Path.ofString file).text (lineFeeds text) (lineFeeds text)) :
    let again := execute tools words (.start width server state files)
    again.shell.files = files ∧
      ((again.code = 0 ∧ ∃ log shown, (isVerbose tools debug files = false → log = "") ∧
          Announced (unchangedBody (Path.ofString file)) shown ∧ again.shell.output = log ++ shown) ∨
        ∃ cause, cause.isPrinting = true ∧ again.failure = some cause) := by
  intro again
  obtain ⟨settings, found, loaded'⟩ := Option.bind_eq_some_iff.mp loaded
  have made : formatted? tools files settings file path = some (lineFeeds text, lineFeeds text) :=
    (formatted?_eq_some read decoded).mpr ⟨f, loaded', rfl, returns⟩
  have follows := run_follows opening width server state request found
  rw [made] at follows
  obtain ⟨logger, log, quiet, settled | ⟨-, cause, printing, failed⟩⟩ := follows
  · rw [settle, if_neg (by simp), if_pos rfl] at settled
    rcases announce_cases (unchangedBody (Path.ofString file)) ⟨width, ⟨server, state, []⟩, logger, files, log⟩ with
      ⟨shown, announced, printed⟩ | ⟨cause, printing, failed⟩
    · have ended : again = _ := execute_ok (settled.trans printed)
      rw [ended]
      exact ⟨rfl, .inl ⟨rfl, log, shown, quiet, announced, rfl⟩⟩
    · have ended : again = _ := execute_failure (settled.trans failed)
      rw [ended]
      exact ⟨rfl, .inr ⟨cause, printing, rfl⟩⟩
  · have ended : again = _ := execute_failure failed
    rw [ended]
    exact ⟨rfl, .inr ⟨cause, printing, rfl⟩⟩

theorem execute_prints (opening : Opening.ofWords words = .run debug .plugin rest)
    (request : Request.ofWords .plugin rest = .run (.format file path false))
    (read : files.read (Path.ofString file) = .ok data) (decoded : Utf8.decode data = .ok text) {f : Formatter σ}
    (loaded : formatter? tools files path = some f) {result : String}
    (returns : f.Returns (Path.ofString file).text (lineFeeds text) result)
    (quiet : isVerbose tools debug files = false)
    (printable : Utf8.encodeFault? (Text.withoutSequences result) = none) :
    let outcome := execute tools words (.start width server state files)
    outcome.code = 0 ∧ outcome.shell.output = Text.withoutSequences result := by
  intro outcome
  obtain ⟨settings, found, loaded'⟩ := Option.bind_eq_some_iff.mp loaded
  have made : formatted? tools files settings file path = some (lineFeeds text, result) :=
    (formatted?_eq_some read decoded).mpr ⟨f, loaded', rfl, returns⟩
  have follows := run_follows opening width server state request found
  rw [made] at follows
  obtain ⟨logger, log, unlogged, settled | ⟨loud, -⟩⟩ := follows
  · rw [settle, if_pos (by simp), deliver, printable] at settled
    have ended : outcome = _ := execute_ok settled
    rw [ended, unlogged quiet]
    exact ⟨rfl, String.empty_append⟩
  · rw [quiet] at loud
    cases loud

theorem Settled.read {target : Path} {log result : String} {s : Shell ρ}
    (settled : Settled target files log (lineFeeds text) result true s) (read : files.read target = .ok data)
    (decoded : Utf8.decode data = .ok text) (received : result ≠ lineFeeds text → Formatter.IsDecoded result) :
    ∃ left, s.files.read target = .ok left ∧
      Utf8.decode left = .ok (if result = lineFeeds text then text else result) := by
  cases settled with
  | unchanged alike same announced output =>
      refine ⟨data, by rw [same, read], ?_⟩
      rw [if_pos alike, decoded]
  | written differs encoded put announced output =>
      obtain ⟨left, decoded'⟩ := received differs
      refine ⟨left, ?_, by rw [if_neg differs, decoded']⟩
      rw [Utf8.encodeStrict_of_decode decoded'] at encoded
      cases encoded
      exact Files.read_write read put

end

/-! ## Two files -/

section

open Reference

def desk : Files :=
  ⟨["desk"], [(["desk", "p"], .file moduleHeader), (["desk", "crlf"], .file (Utf8.bytes "a\r\nb")),
    (["desk", "lf"], .file (Utf8.bytes "a\nb"))], false⟩

def idleServer : Server Unit := ⟨fun _ state => (.timeout "", state)⟩

def deskTools : Tools State := ⟨candidEngine, 0, 0, []⟩

def isReady (tools : Tools σ) (files : Files) : Bool :=
  match settings? tools files with
  | none => false
  | some settings => !settings.debug && match GlobalConfig.ofFields (configFields settings.format) with
    | .valid config => (Json.unwritable? (Configuration.mk config.present settings.format.pluginConfig).record).isNone
    | .invalid _ => false

theorem desk_ready : isReady deskTools desk = true := by decide +kernel

theorem setConfig_tells {a : Answers} {configId : Nat} {f : Formatter State} (tells : Tells a false configId f)
    (config : GlobalConfig) (plugin : Fields)
    (writable : Json.unwritable? (Configuration.mk config.present plugin).record = none) :
    ∃ f', Formatter.setConfig (.config config) (.object plugin) f = (.ok (), f') ∧ Tells a true (configId + 1) f' := by
  rw [Formatter.setConfig, (Formatter.GlobalArg.Gives.config config).toFields, Value.toMapping_object]
  obtain ⟨_, _, rests⟩ := tells
  obtain ⟨f', applied, after⟩ := applyConfig_rests (compliant_telling a) ⟨config.present, plugin⟩ writable rests
  exact ⟨f', applied, _, _, after⟩

theorem clear_tells {a : Answers} {configured : Bool} {configId : Nat} {f : Formatter State}
    (tells : Tells a configured configId f) : Tells a configured configId (Verify.clear f) := by
  obtain ⟨_, _, _, _, rfl⟩ := tells
  exact ⟨_, _, _, _, rfl⟩

theorem desk_place : ∀ name ∈ ["p", "crlf", "lf"], Path.ofString name = ⟨"", [name]⟩ := by decide +kernel

theorem desk_plugin {engine : Engine State} {loaded : Formatter State} {P : Formatter State → Prop}
    (load : (Formatter.load engine 0 moduleHeader).1 = .ok loaded)
    (takes : ∀ (config : GlobalConfig) (plugin : Fields),
      Json.unwritable? (Configuration.mk config.present plugin).record = none →
      ∃ f, Formatter.setConfig (.config config) (.object plugin) (Verify.clear loaded) = (.ok (), f) ∧
        P (Verify.clear f)) :
    isVerbose ⟨engine, 0, 0, []⟩ false desk = false ∧
      ∃ f, formatter? ⟨engine, 0, 0, []⟩ desk (some "p") = some f ∧ P f := by
  have ready : isReady ⟨engine, 0, 0, []⟩ desk = true := desk_ready
  unfold isReady at ready
  split at ready
  · cases ready
  rename_i settings found
  rw [Bool.and_eq_true] at ready
  obtain ⟨silent, valid⟩ := ready
  split at valid
  swap
  · cases valid
  rename_i config checked
  obtain ⟨f, set, after⟩ := takes config settings.format.pluginConfig (by simpa using valid)
  refine ⟨by simpa [isVerbose_eq found] using silent, Verify.clear f, ?_, after⟩
  have place : Path.ofString "p" = ⟨"", ["p"]⟩ := desk_place _ (by simp)
  have named : plugin? desk settings (some "p") = some ⟨"", ["p"]⟩ := by
    rw [plugin?, place]
    rfl
  have held : (ModuleSource.path ⟨"", ["p"]⟩).resolve desk = .ok moduleHeader := by decide
  rw [formatter?_eq found, named, Option.bind_some, configured?, Verify.loadSource_ok held load, checked]
  simp only [Except.toOption, bind, Option.bind, done?, set]
  rfl

theorem desk_formatter : isVerbose deskTools false desk = false ∧
    ∃ f configId, formatter? deskTools desk (some "p") = some f ∧ Tells candid true configId f := by
  obtain ⟨loaded, load, tells⟩ := load_tells candid 0
  obtain ⟨quiet, f, found, configId, tells'⟩ := desk_plugin (P := fun f => ∃ configId, Tells candid true configId f)
    load fun config plugin writable => by
      obtain ⟨f, set, tells'⟩ := setConfig_tells (clear_tells tells) config plugin writable
      exact ⟨f, set, _, clear_tells tells'⟩
  exact ⟨quiet, f, configId, found, tells'⟩

theorem desk_returns {f : Formatter State} {configId : Nat} (tells : Tells candid true configId f) {name text : String}
    (named : name.contains Text.standInMark = false) (plain : text.contains Text.standInMark = false) :
    f.Returns name text text := by
  obtain ⟨f', _, run, -⟩ :=
    formatRequest_tells tells (Utf8.encodeStrict_of_unmarked named) (Utf8.encodeStrict_of_unmarked plain)
  rw [Formatter.Returns, Formatter.format_named, run]

theorem decode_unmarked {text : String} (plain : text.contains Text.standInMark = false) :
    Utf8.decode (Utf8.bytes text) = .ok text := by
  rw [Utf8.decode_bytes, Text.held_of_unmarked plain]

theorem desk_unmarked :
    ∀ text ∈ ["crlf", "lf", "a\r\nb", "a\nb"], text.contains Text.standInMark = false := by
  simp only [String.contains_char_eq]
  decide

theorem desk_words : ∀ name ∈ ["crlf", "lf"],
    Opening.ofWords ["plugin", "format", name, "--path", "p"] = .run false .plugin ["format", name, "--path", "p"] ∧
      Request.ofWords .plugin ["format", name, "--path", "p"] = .run (.format name (some "p") false) := by
  decide +kernel

theorem desk_prints {name shown : String} (member : name ∈ ["crlf", "lf"])
    (read : desk.read (Path.ofString name) = .ok (Utf8.bytes text)) (feeds : lineFeeds text = shown)
    (named : (Path.ofString name).text.contains Text.standInMark = false)
    (plain : text.contains Text.standInMark = false) (plain' : shown.contains Text.standInMark = false)
    (same : Text.withoutSequences shown = shown) :
    let outcome := execute deskTools ["plugin", "format", name, "--path", "p"] (.start 80 idleServer () desk)
    outcome.code = 0 ∧ outcome.shell.output = shown := by
  obtain ⟨opening, request⟩ := desk_words name member
  obtain ⟨quiet, f, configId, loaded, tells⟩ := desk_formatter
  have returns : f.Returns (Path.ofString name).text (lineFeeds text) shown := by
    rw [feeds]
    exact desk_returns tells named plain'
  have printable : Utf8.encodeFault? (Text.withoutSequences shown) = none := by
    rw [same, ← Text.held_of_unmarked plain', Utf8.encodeFault?_held]
  have printed : let outcome := execute deskTools _ (.start 80 idleServer () desk)
      outcome.code = 0 ∧ outcome.shell.output = Text.withoutSequences shown :=
    execute_prints opening request read (decode_unmarked plain) loaded returns quiet printable
  rwa [same] at printed

end

/-- A run that formats a file and goes well prints or leaves what the configured plugin makes of the file's text, but of
the text with line feeds for all line ends; it prints no control sequences, and does not write when nothing but line
ends would change. For a file without carriage returns this is what the plugin makes of the file. If the plugin leaves
its result alone, and this has no carriage returns, a second run reports that and touches nothing, or fails to
print. -/
theorem file_formatted_as_read (opening : Opening.ofWords words = .run debug .plugin rest)
    (request : Request.ofWords .plugin rest = .run (.format file path write))
    (read : files.read (Path.ofString file) = .ok data) (decoded : Utf8.decode data = .ok text)
    {width : Nat} {server : Server ρ} {state : ρ}
    (succeeded : (execute tools words (.start width server state files)).code = 0) :
    let target := Path.ofString file
    let after := (execute tools words (.start width server state files)).shell
    ∃ f result log, formatter? tools files path = some f ∧ f.Returns target.text (lineFeeds text) result ∧
      (isVerbose tools debug files = false → log = "") ∧
      (write = false → after.files = files ∧ after.output = log ++ Text.withoutSequences result) ∧
      (write = true → ∃ left shown, after.files.read target = .ok left ∧
        Utf8.encodeStrict (if result = lineFeeds text then text else result) = .ok left ∧
        Announced (if result = lineFeeds text then unchangedBody target else formattedBody target) shown ∧
        after.output = log ++ shown) ∧
      ('\r' ∉ text.toList → f.Returns target.text text result ∧
        (write = false → Text.Unsequenced result.toList → after.output = log ++ result) ∧
        (write = true → ∃ left, after.files.read target = .ok left ∧ Utf8.encodeStrict result = .ok left)) ∧
      (write = true → '\r' ∉ result.toList ∨ result = lineFeeds text →
        ∀ f', formatter? tools after.files path = some f' → f'.Returns target.text result result →
        ∀ (width' : Nat) (server' : Server ρ) (state' : ρ),
          let again := execute tools words (.start width' server' state' after.files)
          again.shell.files = after.files ∧
          ((again.code = 0 ∧ ∃ log' shown, (isVerbose tools debug after.files = false → log' = "") ∧
              Announced (unchangedBody target) shown ∧ again.shell.output = log' ++ shown) ∨
            ∃ cause, cause.isPrinting = true ∧ again.failure = some cause)) := by
  intro target after
  obtain ⟨f, result, log, loaded, returns, quiet, settled⟩ := execute_settled opening request read decoded succeeded
  have leaves : write = true → ∃ left, after.files.read target = .ok left ∧
      Utf8.decode left = .ok (if result = lineFeeds text then text else result) := by
    rintro rfl
    exact settled.read read decoded returns.decoded
  refine ⟨f, result, log, loaded, returns, quiet, ?_, ?_, ?_, ?_⟩
  · rintro rfl
    cases settled with
    | printed same output => exact ⟨same, output⟩
  · intro writes
    obtain ⟨left, found, decoded'⟩ := leaves writes
    subst writes
    cases settled with
    | unchanged alike _ announced output =>
        exact ⟨left, _, found, Utf8.encodeStrict_of_decode decoded', by rwa [if_pos alike], output⟩
    | written differs _ _ announced output =>
        exact ⟨left, _, found, Utf8.encodeStrict_of_decode decoded', by rwa [if_neg differs], output⟩
  · intro plain
    have same := (lineFeeds_eq_self_iff text).mpr plain
    refine ⟨by rwa [same] at returns, ?_, fun writes => ?_⟩
    · rintro rfl unsequenced
      cases settled with
      | printed _ output => rw [output, (Text.withoutSequences_eq_self_iff result).mpr unsequenced]
    · obtain ⟨left, found, decoded'⟩ := leaves writes
      refine ⟨left, found, Utf8.encodeStrict_of_decode (decoded'.trans ?_)⟩
      rw [same]
      split
      · rename_i equal
        rw [equal]
      · rfl
  · intro writes plain f' loaded' stable width' server' state'
    obtain ⟨left, found, decoded'⟩ := leaves writes
    subst writes
    have again : lineFeeds (if result = lineFeeds text then text else result) = result := by
      split
      · rename_i equal
        exact equal.symm
      · rename_i other
        exact (lineFeeds_eq_self_iff result).mpr (plain.resolve_right other)
    exact execute_unchanged opening request found decoded' loaded' (by rwa [again])

/-- The plugin would leave the file as it is, but what is printed has another line end. -/
theorem carriage_return_dropped :
    let outcome := execute deskTools ["plugin", "format", "crlf", "--path", "p"] (.start 80 idleServer () desk)
    desk.read (Path.ofString "crlf") = .ok (Utf8.bytes "a\r\nb") ∧
      (∃ f, formatter? deskTools desk (some "p") = some f ∧ f.Returns "crlf" "a\r\nb" "a\r\nb") ∧
      outcome.code = 0 ∧ outcome.shell.output = "a\nb" := by
  have place : Path.ofString "crlf" = ⟨"", ["crlf"]⟩ := desk_place _ (by simp)
  have read : desk.read (Path.ofString "crlf") = .ok (Utf8.bytes "a\r\nb") := by
    rw [place]
    rfl
  have plain : "a\r\nb".contains Text.standInMark = false := desk_unmarked _ (by simp)
  have named : "crlf".contains Text.standInMark = false := desk_unmarked _ (by simp)
  obtain ⟨-, f, configId, loaded, tells⟩ := desk_formatter
  refine ⟨read, ⟨f, loaded, desk_returns tells named plain⟩, ?_⟩
  have shown : "a\nb".contains Text.standInMark = false := desk_unmarked _ (by simp)
  exact desk_prints (by simp) read (by decide) (by rwa [place]) plain shown (by decide)

theorem line_feeds_kept :
    let outcome := execute deskTools ["plugin", "format", "lf", "--path", "p"] (.start 80 idleServer () desk)
    desk.read (Path.ofString "lf") = .ok (Utf8.bytes "a\nb") ∧ outcome.code = 0 ∧
      ∃ f, formatter? deskTools desk (some "p") = some f ∧ f.Returns "lf" "a\nb" "a\nb" ∧
        outcome.shell.output = "a\nb" := by
  have place : Path.ofString "lf" = ⟨"", ["lf"]⟩ := desk_place _ (by simp)
  have read : desk.read (Path.ofString "lf") = .ok (Utf8.bytes "a\nb") := by
    rw [place]
    rfl
  have plain : "a\nb".contains Text.standInMark = false := desk_unmarked _ (by simp)
  have named : "lf".contains Text.standInMark = false := desk_unmarked _ (by simp)
  have member : "lf" ∈ ["crlf", "lf"] := by simp
  obtain ⟨opening, request⟩ := desk_words "lf" member
  have unsequenced : Text.withoutSequences "a\nb" = "a\nb" := by decide
  have succeeded := (desk_prints member read (by decide) (by rwa [place]) plain plain unsequenced).1
  obtain ⟨f, result, log, loaded, -, quiet, -, -, same, -⟩ :=
    file_formatted_as_read opening request read (decode_unmarked plain) succeeded
  obtain ⟨returns, printed, -⟩ := same (by simp)
  obtain ⟨silent, f', configId, loaded', tells⟩ := desk_formatter
  rw [loaded] at loaded'
  cases loaded'
  have kept : f.Returns "lf" "a\nb" "a\nb" := desk_returns tells named plain
  rw [place] at returns
  obtain rfl := Except.ok.inj (returns.symm.trans kept)
  refine ⟨read, succeeded, f, loaded, kept, ?_⟩
  rw [printed rfl ((Text.withoutSequences_eq_self_iff "a\nb").mp unsequenced), quiet silent, String.empty_append]

end Command

end PluginKit
