import PluginKit.Proofs.Command.LineEnds
import PluginKit.Proofs.Plugin.Refinement

/-!
What a formatting run writes: nothing, unless it was asked to and the plugin has changed the text that was read, and then
the given file and no other one.
-/

namespace PluginKit.Command

variable {σ ρ : Type}

open Activity

variable {tools : Tools σ} {files : Files} {settings : Settings} {words rest : List String} {debug write : Bool}
  {file : String} {path : Option String} {text result : String}

/-- All goes well before anything is written: the file can be read, the settings lead to a plugin that can be loaded and
takes its configuration, and it makes a result of the text. -/
def Makes (tools : Tools σ) (files : Files) (file : String) (path : Option String) (text result : String) : Prop :=
  ∃ data raw f, files.read (Path.ofString file) = .ok data ∧ Utf8.decode data = .ok raw ∧ text = lineFeeds raw ∧
    formatter? tools files path = some f ∧ f.Returns (Path.ofString file).text text result

theorem read_of_formatted? {made : String × String} (found : formatted? tools files settings file path = some made) :
    ∃ data raw, files.read (Path.ofString file) = .ok data ∧ Utf8.decode data = .ok raw := by
  obtain ⟨there, -, found⟩ := Option.bind_eq_some_iff.mp found
  cases there with
  | false => cases found
  | true =>
      obtain ⟨place, -, found⟩ := Option.bind_eq_some_iff.mp found
      obtain ⟨data, read, found⟩ := Option.bind_eq_some_iff.mp found
      obtain ⟨raw, decoded, -⟩ := Option.bind_eq_some_iff.mp found
      exact ⟨data, raw, toOption_eq_some_iff.mp read, toOption_eq_some_iff.mp decoded⟩

theorem makes_iff (found : settings? tools files = some settings) :
    Makes tools files file path text result ↔ formatted? tools files settings file path = some (text, result) := by
  have loads := formatter?_eq found path
  constructor
  · rintro ⟨data, raw, f, read, decoded, rfl, loaded, returns⟩
    exact (formatted?_eq_some read decoded).mpr ⟨f, loads.symm.trans loaded, rfl, returns⟩
  · intro made
    obtain ⟨data, raw, read, decoded⟩ := read_of_formatted? made
    obtain ⟨f, loaded, rfl, returns⟩ := (formatted?_eq_some read decoded).mp made
    exact ⟨data, raw, f, read, decoded, rfl, loads.trans loaded, returns⟩

theorem Makes.exists_settings (makes : Makes tools files file path text result) :
    ∃ settings, settings? tools files = some settings := by
  obtain ⟨_, _, _, -, -, -, loaded, -⟩ := makes
  obtain ⟨settings, found, -⟩ := Option.bind_eq_some_iff.mp loaded
  exact ⟨settings, found⟩

/-! ## The end of a run -/

theorem settle_keeps {target : Path} (idle : write = false ∨ result = text) (s : Shell ρ) :
    (settle target write text result s).2.files = s.files := by
  unfold settle
  cases write with
  | false =>
      rw [if_pos (by simp), deliver]
      cases Utf8.encodeFault? (Text.withoutSequences result) <;> rfl
  | true =>
      rw [if_neg (by simp), if_pos (by simpa using idle)]
      rcases announce_cases (unchangedBody target) s with ⟨_, -, printed⟩ | ⟨_, -, failed⟩
      · rw [printed]
      · rw [failed]

theorem settle_writes {target : Path} {s : Shell ρ} {data : List UInt8} (read : s.files.read target = .ok data)
    (changed : result ≠ text) (received : Formatter.IsDecoded result) :
    ∃ left written, Utf8.encodeStrict result = .ok left ∧ s.files.write target left = .ok written ∧
      (settle target true text result s).2.files = written := by
  -- A changed text is written whole, since it was received whole.
  obtain ⟨left, decoded⟩ := received
  have encoded := Utf8.encodeStrict_of_decode decoded
  obtain ⟨written, put⟩ := Files.write_over (Files.find_of_read read).1 left
  refine ⟨left, written, encoded, put, ?_⟩
  rw [settle, if_neg (by simp), if_neg changed, bind_ok (writeText_ok encoded put)]
  rcases announce_cases (formattedBody target) { s with files := written } with ⟨_, -, printed⟩ | ⟨_, -, failed⟩
  · rw [printed]
  · rw [failed]

theorem execute_shell (tools : Tools σ) (words : List String) (s : Shell ρ) :
    (execute tools words s).shell = (run tools words s).2 := by
  rw [execute, ExceptT.run]
  rcases run_cases (run tools words) s with ⟨_, s', ran⟩ | ⟨e, s', ran⟩ <;> rw [ran]
  cases e <;> rfl

/-! ## Whole runs -/

/-- A formatting run that is not asked to write, or that fails before it has a result, leaves all files as they are. Else
it has read a text and made a result of it. If these are the same, or a record of the log cannot be printed, all files
stay as they are too; else the given file holds the result, and nothing is different at any other place. -/
theorem formatting_writes_target_only (opening : Opening.ofWords words = .run debug .plugin rest)
    (request : Request.ofWords .plugin rest = .run (.format file path write))
    (width : Nat) (server : Server ρ) (state : ρ) :
    let target := Path.ofString file
    let outcome := execute tools words (.start width server state files)
    let after := outcome.shell.files
    (write = false → after = files) ∧
    ((¬∃ text result, Makes tools files file path text result) → after = files ∧ outcome.code ≠ 0) ∧
    ∀ text result, Makes tools files file path text result →
      (result = text → after = files) ∧
      (write = true → result ≠ text →
        (∃ place data, files.locate target = .ok place ∧ Utf8.encodeStrict result = .ok data ∧
          after.get? place = some (.file data) ∧ after.read target = .ok data ∧ files.AgreeBut place after) ∨
        after = files ∧ isVerbose tools debug files = true ∧
          ∃ cause, cause.isPrinting = true ∧ outcome.failure = some cause) := by
  intro target outcome after
  have shell : after = (run tools words (.start width server state files)).2.files :=
    congrArg Shell.files (execute_shell tools words _)
  have code : outcome.code = 0 → IsSuccess (run tools words (.start width server state files)).1 := isSuccess_of_code
  -- What becomes of a run that makes a result.
  have made (text result : String) (makes : Makes tools files file path text result) :
      (write = false ∨ result = text → after = files) ∧ (write = true → result ≠ text →
        (∃ place data, files.locate target = .ok place ∧ Utf8.encodeStrict result = .ok data ∧
          after.get? place = some (.file data) ∧ after.read target = .ok data ∧ files.AgreeBut place after) ∨
        after = files ∧ isVerbose tools debug files = true ∧
          ∃ cause, cause.isPrinting = true ∧ outcome.failure = some cause) := by
    obtain ⟨settings, found⟩ := makes.exists_settings
    have follows := run_follows opening width server state request found
    rw [(makes_iff found).mp makes] at follows
    obtain ⟨logger, log, -, settled | ⟨loud, cause, printing, failed⟩⟩ := follows
    · rw [settled] at shell
      refine ⟨fun idle => shell.trans (settle_keeps idle _), ?_⟩
      rintro rfl changed
      obtain ⟨data, raw, f, read, -, -, -, returns⟩ := makes
      obtain ⟨left, written, encoded, put, leaves⟩ := settle_writes
        (s := ⟨width, ⟨server, state, []⟩, logger, files, log⟩) read changed (returns.decoded changed)
      obtain ⟨place, located, there, agree⟩ := Files.write_agreeBut (Files.find_of_read read).1 put
      rw [shell, leaves]
      exact .inl ⟨place, left, located, encoded, there, Files.read_write read put, agree⟩
    · rw [failed] at shell
      refine ⟨fun _ => shell, fun _ _ => .inr ⟨shell, loud, cause, printing, ?_⟩⟩
      exact congrArg Outcome.failure (execute_failure failed)
  have unmade (fails : ¬∃ text result, Makes tools files file path text result) :
      after = files ∧ outcome.code ≠ 0 := by
    have ended : ¬IsSuccess (run tools words (.start width server state files)).1 ∧
        (run tools words (.start width server state files)).2.files = files := by
      cases found : settings? tools files with
      | none => exact run_unsettled opening width server state found
      | some settings =>
          have follows := run_follows opening width server state request found
          cases result : formatted? tools files settings file path with
          | none =>
              rw [result] at follows
              exact follows
          | some made => exact absurd ⟨made.1, made.2, (makes_iff found).mpr result⟩ fails
    exact ⟨shell.trans ended.2, fun zero => ended.1 (code zero)⟩
  refine ⟨fun unasked => ?_, unmade, fun text result makes => ?_⟩
  · by_cases ends : ∃ text result, Makes tools files file path text result
    · obtain ⟨text, result, makes⟩ := ends
      exact (made text result makes).1 (.inl unasked)
    · exact (unmade ends).1
  · exact ⟨fun same => (made text result makes).1 (.inr same), (made text result makes).2⟩

section

open Reference

def uniformTools (made : String) : Tools State := ⟨engine (fun _ _ _ _ => (1, Utf8.bytes made)) .direct, 0, 0, []⟩

theorem uniform_formatter (made : String) : isVerbose (uniformTools made) false desk = false ∧
    ∃ f, formatter? (uniformTools made) desk (some "p") = some f ∧
      ∃ c, f.Serves (fun _ _ _ _ => .change made) (view .direct) c := by
  have load : ∃ f : Formatter State, f.Loaded (fun _ _ _ _ => .change made) (view .direct)
      (engine (fun _ _ _ _ => (1, Utf8.bytes made)) .direct) 0 moduleHeader := by
    refine ⟨_, rfl, fun p compiled => ?_, View.fitsConfig_of_roomy (fun _ => trivial) _ _⟩
    cases compiled
    exact ⟨implements trivial fun _ _ _ _ => rfl, sound_start _ _, rfl⟩
  obtain ⟨loaded, load⟩ := load
  refine desk_plugin load.loaded fun config plugin writable => ?_
  have serves := load.serves
  have cleared : (Verify.clear loaded).Serves (fun _ _ _ _ => .change made) (view .direct) .empty :=
    ⟨serves.implements, serves.sound, serves.idle, serves.config, serves.initial⟩
  obtain ⟨f, run, after, -⟩ :=
    Formatter.applyConfig_serves cleared (View.fitsConfig_of_roomy (fun _ => trivial) _ _) writable
  refine ⟨f, ?_, _, after.implements, after.sound, after.idle, after.config, after.initial⟩
  rw [Formatter.setConfig, (Formatter.GlobalArg.Gives.config config).toFields, Value.toMapping_object]
  exact run

end

theorem changed_file_written :
    let after := (execute (uniformTools "x") ["plugin", "format", "/desk/lf", "--path", "p", "--write"]
      (.start 80 idleServer () desk)).shell.files
    after.read (Path.ofString "lf") = .ok (Utf8.bytes "x") ∧
      after.read (Path.ofString "crlf") = .ok (Utf8.bytes "a\r\nb") := by
  intro after
  have words : Opening.ofWords ["plugin", "format", "/desk/lf", "--path", "p", "--write"] =
        .run false .plugin ["format", "/desk/lf", "--path", "p", "--write"] ∧
      Request.ofWords .plugin ["format", "/desk/lf", "--path", "p", "--write"] =
        .run (.format "/desk/lf" (some "p") true) := by
    decide +kernel
  have target : Path.ofString "/desk/lf" = ⟨"/", ["desk", "lf"]⟩ := by decide +kernel
  have unmarked (text : String) (member : text ∈ ["/desk/lf", "a\nb", "x"]) :
      text.contains Text.standInMark = false := by
    revert text
    simp only [String.contains_char_eq]
    decide
  obtain ⟨quiet, f, loaded, c, serves⟩ := uniform_formatter "x"
  have returns : f.Returns "/desk/lf" "a\nb" "x" := by
    obtain ⟨f', run, -⟩ :
        ∃ f', Formatter.formatRequest ⟨Text.held "/desk/lf", Text.held "a\nb", .null⟩ f = (_, f') ∧ _ :=
      Formatter.formatRequest_serves serves (View.fitsRequest_of_roomy (fun _ => trivial) _) (.inl rfl)
    rw [Text.held_of_unmarked (unmarked "/desk/lf" (by simp)), Text.held_of_unmarked (unmarked "a\nb" (by simp))] at run
    rw [Formatter.Returns, Formatter.format_named, run]
    exact congrArg Except.ok (Text.held_of_unmarked (unmarked "x" (by simp)))
  have makes : Makes (uniformTools "x") desk "/desk/lf" (some "p") "a\nb" "x" := by
    refine ⟨Utf8.bytes "a\nb", "a\nb", f, ?_, decode_unmarked (unmarked _ (by simp)), by decide, loaded, ?_⟩
    · rw [target]
      rfl
    · rwa [target]
  obtain ⟨-, -, outcome⟩ := formatting_writes_target_only words.1 words.2 80 idleServer ()
  obtain ⟨place, data, located, encoded, there, -, agree⟩ | ⟨-, loud, -⟩ := (outcome _ _ makes).2 rfl (by decide)
  · rw [Utf8.encodeStrict_of_unmarked (unmarked "x" (by simp))] at encoded
    cases encoded
    have leads : desk.locate ⟨"/", ["desk", "lf"]⟩ = .ok ["desk", "lf"] := rfl
    rw [target, leads] at located
    obtain rfl : ["desk", "lf"] = place := Except.ok.inj located
    -- The file is met again under its other name.
    have named : after.find (Path.ofString "lf") = .ok (.file (Utf8.bytes "x")) := by
      refine Files.find_eq_ok.mpr ⟨_, ?_, there⟩
      rw [agree.ways, desk_place _ (by simp)]
      rfl
    constructor
    · rw [Files.read, named, agree.locked]
      rfl
    · refine (agree.read ?_).trans ?_
      · have apart : desk.locate ⟨"", ["crlf"]⟩ = .ok ["desk", "crlf"] := rfl
        rw [desk_place _ (by simp), apart]
        simp
      · rw [desk_place _ (by simp)]
        rfl
  · rw [quiet] at loud
    cases loud

end PluginKit.Command
