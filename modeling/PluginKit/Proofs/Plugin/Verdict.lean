import Mathlib.Data.List.Forall2
import PluginKit.Proofs.Plugin.Telling
import PluginKit.Proofs.Plugin.Verification

/-!
The verdict on a module. Verifying it is compared with two sessions, one with each of its instances, in which nothing is
formatted but the cases: there is a report exactly if all their answers are the expected texts, and otherwise the error
tells where they first differ.
-/

namespace PluginKit

variable {σ : Type}

open Activity Formatter

/-! ## Journals -/

namespace Plugin

def Unlogged (p q : Plugin σ) : Prop := ∃ journal, q = { p with journal := journal }

theorem call_unlogged (p : Plugin σ) (journal : List Log.Record) (name : String) (args : List Int) :
    (p.call name args).1 = (Plugin.call { p with journal := journal } name args).1 ∧
      Unlogged (p.call name args).2 (Plugin.call { p with journal := journal } name args).2 := by
  unfold Plugin.call
  dsimp only
  split
  · exact ⟨rfl, _, rfl⟩
  · cases (p.guest.call name args p.memory p.state).outcome with
    | returned reply => exact ⟨rfl, _, rfl⟩
    | trapped => exact ⟨rfl, _, rfl⟩

theorem unlogged_bisimulation : Bisimulation (Unlogged (σ := σ)) where
  memory := by
    rintro p _ ⟨journal, rfl⟩
    rfl
  exports := by
    rintro p _ ⟨journal, rfl⟩
    rfl
  takes := by
    rintro p _ ⟨journal, rfl⟩
    rfl
  call := by
    rintro p _ ⟨journal, rfl⟩
    exact call_unlogged p journal
  write := by
    rintro p _ ⟨journal, rfl⟩ m
    exact ⟨journal, rfl⟩
  log := by
    rintro p _ ⟨journal, rfl⟩ message
    exact ⟨_, rfl⟩

end Plugin

/-! ## Sessions about cases -/

structure Outputs where
  buffer : String × String
  path : String × String

namespace Outputs

def labelled (o : Outputs) : List (String × String) :=
  [("buffer:positional", o.buffer.1), ("buffer:structured", o.buffer.2),
    ("path:positional", o.path.1), ("path:structured", o.path.2)]

def Meet (case : VerificationCase) (o : Outputs) : Prop := ∀ output ∈ o.labelled, output.2 = case.expected

end Outputs

namespace Verify

def requests (cases : List VerificationCase) : List Operation := cases.flatMap VerificationCase.requests

def answers (texts : List (String × String)) : List Operation.Result :=
  texts.flatMap fun pair => [.ok (.text pair.1), .ok (.text pair.2)]

structure Answered (buffer path : Formatter σ) (cases : List VerificationCase) (outputs : List Outputs) : Prop where
  buffer : (run (requests cases) buffer).1 = answers (outputs.map Outputs.buffer)
  path : (run (requests cases) path).1 = answers (outputs.map Outputs.path)

section

variable {buffer path : Formatter σ} {case : VerificationCase} {cases rest : List VerificationCase} {o : Outputs}
  {os : List Outputs}

theorem length_requests (cases : List VerificationCase) : (requests cases).length = 2 * cases.length := by
  simp [requests, VerificationCase.requests, List.map_const', Nat.mul_comm]

theorem length_answers (texts : List (String × String)) : (answers texts).length = 2 * texts.length := by
  simp [answers, List.map_const', Nat.mul_comm]

theorem requests_append (before after : List VerificationCase) :
    requests (before ++ after) = requests before ++ requests after :=
  List.flatMap_append

theorem run_requests_append {before after : List VerificationCase} {f : Formatter σ}
    {texts more : List (String × String)} (same : before.length = texts.length) :
    (run (requests (before ++ after)) f).1 = answers (texts ++ more) ↔
      (run (requests before) f).1 = answers texts ∧
        (run (requests after) (run (requests before) f).2).1 = answers more := by
  have aligned : (run (requests before) f).1.length = (answers texts).length := by
    rw [length_results, length_requests, length_answers, same]
  rw [requests_append, run_append, answers, List.flatMap_append]
  constructor
  · exact fun both => List.append_inj both aligned
  · rintro ⟨first, others⟩
    rw [first, others]
    rfl

theorem answered_append {before after : List VerificationCase} {outputs more : List Outputs}
    (same : before.length = outputs.length) :
    Answered buffer path (before ++ after) (outputs ++ more) ↔
      Answered buffer path before outputs ∧
        Answered (run (requests before) buffer).2 (run (requests before) path).2 after more := by
  constructor
  · rintro ⟨fromBuffer, fromPath⟩
    rw [List.map_append, run_requests_append (by rw [List.length_map, same])] at fromBuffer fromPath
    exact ⟨⟨fromBuffer.1, fromPath.1⟩, fromBuffer.2, fromPath.2⟩
  · rintro ⟨⟨first, first'⟩, others, others'⟩
    constructor <;> rw [List.map_append, run_requests_append (by rw [List.length_map, same])]
    · exact ⟨first, others⟩
    · exact ⟨first', others'⟩

theorem answered_cons : Answered buffer path (case :: rest) (o :: os) ↔
    Answered buffer path [case] [o] ∧
      Answered (run (requests [case]) buffer).2 (run (requests [case]) path).2 rest os := by
  have singles : [case].length = [o].length := rfl
  exact answered_append singles

/-- Every request that is made is answered with a text: all those for a case are, if the answers for the cases before it
are as expected. -/
def Returns (buffer path : Formatter σ) (cases : List VerificationCase) : Prop :=
  ∀ before case after outputs, cases = before ++ case :: after → Answered buffer path before outputs →
    List.Forall₂ Outputs.Meet before outputs → ∃ o, Answered buffer path (before ++ [case]) (outputs ++ [o])

structure Fails (buffer path : Formatter σ) (before : List VerificationCase) (case : VerificationCase)
    (outputs : List Outputs) (o : Outputs) : Prop where
  answered : Answered buffer path (before ++ [case]) (outputs ++ [o])
  met : List.Forall₂ Outputs.Meet before outputs
  differs : ¬o.Meet case

theorem Answered.length_eq {outputs : List Outputs} (answered : Answered buffer path cases outputs) :
    cases.length = outputs.length := by
  have lengths := congrArg List.length answered.buffer
  rw [length_results, length_requests, length_answers, List.length_map] at lengths
  omega

theorem Returns.of_answered {outputs : List Outputs} (answered : Answered buffer path cases outputs) :
    Returns buffer path cases := by
  rintro before case after found rfl first -
  have lengths := answered.length_eq
  rw [List.length_append, List.length_cons] at lengths
  rw [← List.take_append_drop before.length outputs] at answered
  cases more : outputs.drop before.length with
  | nil =>
      have short := List.drop_eq_nil_iff.mp more
      omega
  | cons o rest =>
      rw [more, answered_append (by rw [List.length_take]; omega)] at answered
      exact ⟨o, (answered_append first.length_eq).mpr ⟨first, (answered_cons.mp answered.2).1⟩⟩

theorem Returns.later (returns : Returns buffer path (case :: rest)) (answered : Answered buffer path [case] [o])
    (meet : o.Meet case) : Returns (run (requests [case]) buffer).2 (run (requests [case]) path).2 rest := by
  intro before next after outputs split first met
  obtain ⟨o', both⟩ := returns (case :: before) next after (o :: outputs) (by rw [split, List.cons_append])
    (answered_cons.mpr ⟨answered, first⟩) (.cons meet met)
  exact ⟨o', (answered_cons.mp both).2⟩

theorem Returns.passes_or_fails (returns : Returns buffer path cases) :
    (∃ outputs, Answered buffer path cases outputs ∧ List.Forall₂ Outputs.Meet cases outputs) ∨
      ∃ before case after outputs o, cases = before ++ case :: after ∧ Fails buffer path before case outputs o := by
  induction cases generalizing buffer path with
  | nil => exact .inl ⟨[], ⟨rfl, rfl⟩, .nil⟩
  | cons case rest ih =>
      obtain ⟨o, answered⟩ := returns [] case rest [] rfl ⟨rfl, rfl⟩ .nil
      by_cases meet : o.Meet case
      · rcases ih (returns.later answered meet) with
          ⟨outputs, others, met⟩ | ⟨before, next, after, outputs, o', rfl, fails⟩
        · exact .inl ⟨o :: outputs, answered_cons.mpr ⟨answered, others⟩, .cons meet met⟩
        · refine .inr ⟨case :: before, next, after, o :: outputs, o', rfl, ?_, .cons meet fails.met, fails.differs⟩
          exact answered_cons.mpr ⟨answered, fails.answered⟩
      · exact .inr ⟨[], case, rest, [], o, rfl, answered, .nil, meet⟩

/-! ## Running the cases -/

theorem bisimilar_clear (f : Formatter σ) : Bisimilar Plugin.Unlogged f (clear f) := ⟨⟨[], rfl⟩, rfl, rfl, rfl, rfl⟩

theorem clear_eq {f h : Formatter σ} (similar : Bisimilar Plugin.Unlogged f h) : clear h = clear f := by
  obtain ⟨⟨journal, plugin⟩, transfer, configured, configId, patience⟩ := similar
  unfold clear
  rw [plugin, transfer, configured, configId, patience]

theorem format_of_perform {request : Request} {text override : Value} {f : Formatter σ} {s : String}
    (performed : ((Operation.format request text override).perform f).1 = .ok (.text s)) :
    Formatter.format request text override f = (.ok s, ((Operation.format request text override).perform f).2) := by
  rw [Operation.perform, bind_pure_fst] at performed
  rw [Operation.perform, bind_pure_snd]
  refine Prod.ext ?_ rfl
  cases result : (Formatter.format request text override f).1 with
  | ok s' =>
      rw [result] at performed
      cases performed
      rfl
  | error e =>
      rw [result] at performed
      cases performed

theorem asked {f : Formatter σ} {texts : String × String} (answered : (run (requests [case]) f).1 = answers [texts]) :
    ∃ h₁ h₂, positional case (clear f) = (.ok texts.1, h₁) ∧ structured case (clear h₁) = (.ok texts.2, h₂) ∧
      clear h₂ = clear (run (requests [case]) f).2 := by
  have mirrors := perform_bisimilar (Plugin.unlogged_bisimulation (σ := σ))
  obtain ⟨first, after⟩ := mirrors (.format (.path case.path) (.text case.text) .null) f _ (bisimilar_clear f)
  have cleared := bisimilar_clear ((Operation.format (.path case.path) (.text case.text) .null).perform f).2
  rw [← clear_eq after] at cleared
  obtain ⟨second, last⟩ := mirrors (.format (.value (.record [("filePath", .text case.path),
    ("fileText", .text case.text)])) .null .null) _ _ cleared
  simp only [requests, VerificationCase.requests, answers, List.flatMap_cons, List.flatMap_nil, List.append_nil,
    run_cons, run_nil, List.cons.injEq, and_true] at answered
  exact ⟨_, _, format_of_perform (first.symm.trans answered.1), format_of_perform (second.symm.trans answered.2),
    clear_eq last⟩

theorem passed_iff : (CaseResult.mk case o.labelled).passed = true ↔ o.Meet case := by
  simp [CaseResult.passed, Outputs.Meet, Outputs.labelled]

theorem mismatched_eq : (CaseResult.mk case o.labelled).mismatched =
    o.labelled.filter fun output => output.2 ≠ case.expected := by
  unfold CaseResult.mismatched
  congr 1
  funext output
  simp [bne, beq_eq_decide]

def results (cases : List VerificationCase) (outputs : List Outputs) : List CaseResult :=
  List.zipWith (fun case o => ⟨case, o.labelled⟩) cases outputs

def left (buffer path : Formatter σ) (cases : List VerificationCase) : Pair σ :=
  ⟨clear (run (requests cases) buffer).2, clear (run (requests cases) path).2⟩

theorem runCase_answered (answered : Answered buffer path [case] [o]) (log : List Log.Record) :
    ∃ log', runCase case (⟨clear buffer, clear path⟩, log) =
      (if (CaseResult.mk case o.labelled).passed then .ok ⟨case, o.labelled⟩
        else .error (.unexpectedOutputs case (CaseResult.mk case o.labelled).mismatched),
      (left buffer path [case], log')) := by
  obtain ⟨h₁, h₂, first, second, fromBuffer⟩ := asked answered.buffer
  obtain ⟨f₁, f₂, third, fourth, fromPath⟩ := asked answered.path
  rw [runCase, bind_ok (onBuffer_ok first log), bind_ok (onBuffer_ok second _), bind_ok (onPath_ok third _),
    bind_ok (onPath_ok fourth _), left, ← fromBuffer, ← fromPath]
  dsimp only
  change ∃ log', (ite ((CaseResult.mk case o.labelled).passed = true) _ _ : Run σ CaseResult) _ = _
  split
  · exact ⟨_, rfl⟩
  · exact ⟨_, rfl⟩

theorem left_append (buffer path : Formatter σ) (before after : List VerificationCase) :
    left (run (requests before) buffer).2 (run (requests before) path).2 after =
      left buffer path (before ++ after) := by
  rw [left, left, requests_append, run_append, run_append]

theorem runCases_met {before : List VerificationCase} {outputs : List Outputs}
    (met : List.Forall₂ Outputs.Meet before outputs) (answered : Answered buffer path before outputs)
    (after : List VerificationCase) (log : List Log.Record) :
    ∃ log', runCases (before ++ after) (⟨clear buffer, clear path⟩, log) =
      (do pure (results before outputs ++ (← runCases after)))
        (left buffer path before, log') := by
  induction met generalizing buffer path log with
  | nil => exact ⟨log, (congrFun (bind_pure (runCases after)) _).symm⟩
  | @cons case o rest os meet met ih =>
      obtain ⟨first, others⟩ := answered_cons.mp answered
      obtain ⟨log₁, run⟩ := runCase_answered first log
      rw [if_pos (passed_iff.mpr meet)] at run
      obtain ⟨log₂, more⟩ := ih others log₁
      rw [left_append] at more
      refine ⟨log₂, ?_⟩
      have rest_eq : runCases (rest ++ after) (left buffer path [case], log₁) = _ := more
      rw [List.cons_append, runCases, bind_ok run, bind_apply, rest_eq, ← bind_apply, bind_assoc]
      rfl

theorem runCases_fails {before : List VerificationCase} {outputs : List Outputs}
    (fails : Fails buffer path before case outputs o) (after : List VerificationCase) (log : List Log.Record) :
    ∃ log', runCases (before ++ case :: after) (⟨clear buffer, clear path⟩, log) =
      (.error (.unexpectedOutputs case (o.labelled.filter fun output => output.2 ≠ case.expected)),
        (left buffer path (before ++ [case]), log')) := by
  obtain ⟨answered, last⟩ := (answered_append fails.met.length_eq).mp fails.answered
  obtain ⟨log₁, run⟩ := runCases_met fails.met answered (case :: after) log
  obtain ⟨log₂, failed⟩ := runCase_answered last log₁
  rw [if_neg (mt passed_iff.mp fails.differs), mismatched_eq, left_append] at failed
  have raised : runCases (case :: after) (left buffer path before, log₁) = _ := bind_error failed
  exact ⟨log₂, by rw [run, bind_error raised]⟩

/-! ## Verifying a module -/

variable {loaded : Formatter σ} {about : PluginInfo}

theorem runPair_differs (differs : loaded.schema ≠ path.schema) (cases : List VerificationCase)
    (log : List Log.Record) :
    (runPair cases (⟨clear loaded, clear path⟩, log)).1 = .error (.schemaDiffers loaded.schema path.schema) := by
  rw [runPair, get_bind]
  dsimp only
  rw [if_pos (show (clear loaded).schema ≠ (clear path).schema from differs)]
  rfl

theorem runPair_same (same : loaded.schema = path.schema) (informed : info loaded = (.ok about, buffer))
    (cases : List VerificationCase) (log : List Log.Record) :
    ∃ log', runPair cases (⟨clear loaded, clear path⟩, log) =
      (do pure (VerificationReport.mk loaded.schema about.name about.version (← runCases cases)))
        (⟨clear buffer, clear path⟩, log') := by
  obtain ⟨result, after⟩ := info_bisimilar Plugin.unlogged_bisimulation _ _ (bisimilar_clear loaded)
  rw [informed] at result after
  have asked : info (clear loaded) = (.ok about, (info (clear loaded)).2) := Prod.ext result.symm rfl
  refine ⟨log ++ (info (clear loaded)).2.plugin.journal, ?_⟩
  rw [runPair, get_bind]
  dsimp only
  rw [if_neg (not_not.mpr (show (clear loaded).schema = (clear path).schema from same)), ← clear_eq after]
  exact bind_ok (onBuffer_ok asked log)

theorem runPair_passes (same : loaded.schema = path.schema) (informed : info loaded = (.ok about, buffer))
    {outputs : List Outputs} (answered : Answered buffer path cases outputs)
    (met : List.Forall₂ Outputs.Meet cases outputs) (log : List Log.Record) :
    (runPair cases (⟨clear loaded, clear path⟩, log)).1 =
      .ok ⟨loaded.schema, about.name, about.version, results cases outputs⟩ := by
  obtain ⟨log₁, run⟩ := runPair_same same informed cases log
  obtain ⟨log₂, passes⟩ := runCases_met met answered [] log₁
  rw [List.append_nil] at passes
  have found : runCases cases (⟨clear buffer, clear path⟩, log₁) =
      (.ok (results cases outputs ++ []), (left buffer path cases, log₂)) := passes
  rw [List.append_nil] at found
  rw [run, bind_ok found]
  rfl

theorem runPair_fails (same : loaded.schema = path.schema) (informed : info loaded = (.ok about, buffer))
    {before : List VerificationCase} {outputs : List Outputs} (fails : Fails buffer path before case outputs o)
    (after : List VerificationCase) (log : List Log.Record) :
    ∃ log', runPair (before ++ case :: after) (⟨clear loaded, clear path⟩, log) =
      (.error (.unexpectedOutputs case (o.labelled.filter fun output => output.2 ≠ case.expected)),
        (left buffer path (before ++ [case]), log')) := by
  obtain ⟨log₁, run⟩ := runPair_same same informed (before ++ case :: after) log
  obtain ⟨log₂, failed⟩ := runCases_fails fails after log₁
  exact ⟨log₂, by rw [run, bind_error failed]⟩

theorem passed_of_met {outputs : List Outputs} (met : List.Forall₂ Outputs.Meet cases outputs) :
    (results cases outputs).all CaseResult.passed = true := by
  induction met with
  | nil => rfl
  | cons meet _ ih =>
      rw [results, List.zipWith_cons_cons, List.all_cons, passed_iff.mpr meet]
      exact ih

/-- A verification in which everything that is asked is answered ends with a report exactly if the schemas are the
same and all the outputs are as expected. Otherwise it ends with the difference of the schemas, or with the first case
that fails and exactly those of its outputs that differ, and leaves the instances as the requests up to this case have
left them. -/
theorem report_iff_expected {engine : Engine σ} {patience : Nat} {files : Files} {data : List UInt8} {file : Path}
    (fromBuffer : (loadSource engine patience files (.buffer data)).1 = .ok loaded)
    (fromPath : (loadSource engine patience files (.path file)).1 = .ok path)
    (informed : info loaded = (.ok about, buffer))
    (returns : loaded.schema = path.schema → Returns buffer path cases) :
    (∀ report, (plugin engine patience files data file cases).1 = .ok report ↔
      loaded.schema = path.schema ∧ ∃ outputs, Answered buffer path cases outputs ∧
        List.Forall₂ Outputs.Meet cases outputs ∧
        report = ⟨loaded.schema, about.name, about.version, results cases outputs⟩) ∧
    (∀ report, (plugin engine patience files data file cases).1 = .ok report → report.passed = true) ∧
    (∀ e, (plugin engine patience files data file cases).1 = .error e ↔
      (loaded.schema ≠ path.schema ∧ e = .schemaDiffers loaded.schema path.schema) ∨
      (loaded.schema = path.schema ∧ ∃ before case after outputs o, cases = before ++ case :: after ∧
        Fails buffer path before case outputs o ∧
        e = .unexpectedOutputs case (o.labelled.filter fun output => output.2 ≠ case.expected))) ∧
    ∀ before case after outputs o, loaded.schema = path.schema → cases = before ++ case :: after →
      Fails buffer path before case outputs o →
        ∀ log, (runPair cases (⟨clear loaded, clear path⟩, log)).2.1 = left buffer path (before ++ [case]) := by
  obtain ⟨log, outcome⟩ := plugin_fst fromBuffer fromPath cases
  rw [outcome]
  refine and_assoc.mp (and_assoc.mp ⟨and_assoc.mpr ?_, ?_⟩)
  swap
  · rintro before case after outputs o same rfl fails log
    obtain ⟨log', failed⟩ := runPair_fails same informed fails after log
    rw [failed]
  by_cases same : loaded.schema = path.schema
  swap
  · rw [runPair_differs same]
    exact ⟨by simp [same], by simp, by simp [same, eq_comm]⟩
  rcases (returns same).passes_or_fails with
    ⟨outputs, answered, met⟩ | ⟨before, case, after, outputs, o, rfl, fails⟩
  · have passes := runPair_passes same informed answered met log
    refine ⟨fun report => ⟨fun ended => ?_, ?_⟩, fun report ended => ?_, fun e => ⟨fun ended => ?_, ?_⟩⟩
    · rw [passes] at ended
      cases ended
      exact ⟨same, outputs, answered, met, rfl⟩
    · rintro ⟨-, outputs', answered', met', rfl⟩
      exact runPair_passes same informed answered' met' log
    · rw [passes] at ended
      cases ended
      exact passed_of_met met
    · rw [passes] at ended
      cases ended
    · rintro (⟨differs, -⟩ | ⟨-, before, case, after, outputs', o, rfl, fails, -⟩)
      · exact absurd same differs
      · obtain ⟨log', failed⟩ := runPair_fails same informed fails after log
        rw [failed] at passes
        cases passes
  · obtain ⟨log', failed⟩ := runPair_fails same informed fails after log
    rw [failed]
    refine ⟨fun report => ⟨fun ended => (by cases ended), ?_⟩, fun report ended => (by cases ended), fun e => ⟨?_, ?_⟩⟩
    · rintro ⟨-, outputs', answered', met', rfl⟩
      have passes := runPair_passes same informed answered' met' log
      rw [failed] at passes
      cases passes
    · rintro ⟨⟩
      exact .inr ⟨same, before, case, after, outputs, o, rfl, fails, rfl⟩
    · rintro (⟨differs, -⟩ | ⟨-, before', case', after', outputs', o', split, fails', rfl⟩)
      · exact absurd same differs
      · obtain ⟨log₂, failed'⟩ := runPair_fails same informed fails' after' log
        rw [← split, failed] at failed'
        exact congrArg Prod.fst failed'

end

end Verify

namespace Reference

open Verify

variable {a : Answers} {configured : Bool} {configId : Nat} {f : Formatter State}

theorem run_tells (tells : Tells a configured configId f) (cases : List VerificationCase)
    (unmarked : ∀ case ∈ cases, case.path.contains Text.standInMark = false ∧
      case.text.contains Text.standInMark = false) :
    (run (requests cases) f).1 = answers (cases.map fun case => (case.text, case.text)) := by
  induction cases generalizing configured configId f with
  | nil => rfl
  | cons case rest ih =>
      obtain ⟨plainPath, plainText⟩ := unmarked case List.mem_cons_self
      have encodedPath := Utf8.encodeStrict_of_unmarked plainPath
      have encodedText := Utf8.encodeStrict_of_unmarked plainText
      obtain ⟨f₁, id₁, first, tells₁⟩ := formatRequest_tells tells encodedPath encodedText
      obtain ⟨f₂, id₂, second, tells₂⟩ := formatRequest_tells tells₁ encodedPath encodedText
      have performed : (Operation.format (.path case.path) (.text case.text) .null).perform f =
          (.ok (.text case.text), f₁) := bind_ok first
      have performed' : (Operation.format
          (.value (.record [("filePath", .text case.path), ("fileText", .text case.text)])) .null .null).perform f₁ =
            (.ok (.text case.text), f₂) := bind_ok second
      have others := ih tells₂ fun case member => unmarked case (List.mem_cons_of_mem _ member)
      have all : run (requests rest) f₂ = (_, _) := Prod.ext others rfl
      have more := run_performed performed (run_performed performed' all)
      exact congrArg Prod.fst more

end Reference

namespace Verify

theorem second_case_fails : ∃ (files : Files) (loaded path buffer : Formatter Reference.State),
    (loadSource Reference.candidEngine 0 files (.buffer moduleHeader)).1 = .ok loaded ∧
    (loadSource Reference.candidEngine 0 files (.path ⟨"", ["p"]⟩)).1 = .ok path ∧
    info loaded = (.ok Reference.about, buffer) ∧
    (loaded.schema = path.schema →
      Returns buffer path [⟨"a", "x", "x"⟩, ⟨"a", "y", "z"⟩, ⟨"a", "w", "w"⟩]) ∧
    (plugin Reference.candidEngine 0 files moduleHeader ⟨"", ["p"]⟩
      [⟨"a", "x", "x"⟩, ⟨"a", "y", "z"⟩, ⟨"a", "w", "w"⟩]).1 = .error (.unexpectedOutputs ⟨"a", "y", "z"⟩
        [("buffer:positional", "y"), ("buffer:structured", "y"),
          ("path:positional", "y"), ("path:structured", "y")]) := by
  obtain ⟨f, loaded, tells⟩ := Reference.load_tells Reference.candid 0
  obtain ⟨buffer, informed, tells'⟩ := Reference.info_candid tells
  let files : Files := ⟨["desk"], [(["desk", "p"], .file moduleHeader)], false⟩
  have held : (ModuleSource.path ⟨"", ["p"]⟩).resolve files = .ok moduleHeader := by decide
  have fromBuffer := loadSource_ok (rfl : (ModuleSource.buffer moduleHeader).resolve files = .ok moduleHeader) loaded
  have fromPath := loadSource_ok held loaded
  let o (text : String) : Outputs := ⟨(text, text), (text, text)⟩
  have answered : Answered buffer f [⟨"a", "x", "x"⟩, ⟨"a", "y", "z"⟩, ⟨"a", "w", "w"⟩] [o "x", o "y", o "w"] := by
    have unmarked : ∀ case ∈ ([⟨"a", "x", "x"⟩, ⟨"a", "y", "z"⟩, ⟨"a", "w", "w"⟩] : List VerificationCase),
        case.path.contains Text.standInMark = false ∧ case.text.contains Text.standInMark = false := by
      simp only [String.contains_char_eq]
      decide
    exact ⟨Reference.run_tells tells' _ unmarked, Reference.run_tells tells _ unmarked⟩
  have returns := Returns.of_answered answered
  refine ⟨files, f, f, buffer, fromBuffer, fromPath, informed, fun _ => returns, ?_⟩
  refine ((report_iff_expected fromBuffer fromPath informed fun _ => returns).2.2.1 _).mpr
    (.inr ⟨rfl, [⟨"a", "x", "x"⟩], ⟨"a", "y", "z"⟩, [⟨"a", "w", "w"⟩], [o "x"], o "y", rfl, ⟨?_, ?_, ?_⟩, ?_⟩)
  · exact ((answered_append (by rfl : [_, _].length = [o "x", o "y"].length)).mp answered).1
  · exact .cons (by simp [Outputs.Meet, Outputs.labelled, o]) .nil
  · simp [Outputs.Meet, Outputs.labelled, o]
  · simp [Outputs.labelled, o]

end Verify

end PluginKit
