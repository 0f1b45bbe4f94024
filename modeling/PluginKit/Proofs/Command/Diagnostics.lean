import PluginKit.Proofs.Command.LineEnds
import PluginKit.Proofs.Console.Layout

/-!
The report on a plugin. A run prints what the plugin tells about itself page by page, then its diagnostics, and ends with
exit code 1 just if there are any. A page that cannot be laid out or printed ends it with a failure, and so do diagnostics
that do not read as styled texts.
-/

namespace PluginKit

variable {σ ρ β : Type}

open Activity

namespace Formatter

open Plugin Bisimulation

theorem describe_muted : Keeps (fun f : Formatter σ => f.plugin.Muted) Command.describe := by
  have asked (name : String) : Keeps (fun f : Formatter σ => f.plugin.Muted) (ask name) :=
    keeps_plugin (ask_bisimilar muted_bisimulation name)
  refine .bind (keeps_plugin (info_bisimilar muted_bisimulation)) fun i => .bind ?_ fun found => ?_
  · rw [diagnostics_eq]
    exact .bind (asked _) fun value => keeps_plugin (readFound_bisimilar value)
  · exact .bind (asked _) fun resolved => .pure _

theorem license_muted : Keeps (fun f : Formatter σ => f.plugin.Muted) license :=
  keeps_plugin (receiveFrom_bisimilar muted_bisimulation .running "get_license_text" [])

end Formatter

namespace Command

variable {tools : Tools σ} {files : Files} {settings : Settings} {words rest : List String} {debug license verbose : Bool}
  {path : Option String} {width : Nat}

/-! ## Pages -/

def page? : Except Markup.Fault (List String) → Option String
  | .error _ => none
  | .ok lines => if (Utf8.encodeFault? (Console.printed lines)).isNone then some (Console.printed lines) else none

theorem printStyled_page (page : Except Markup.Fault (List String)) (s : Shell ρ) :
    match page? page with
    | some shown => printStyled page s = (.ok (), { s with output := s.output ++ shown })
    | none => ∃ cause, cause.isPrinting = true ∧ printStyled page s = (.error (.failure cause), s) := by
  cases page with
  | error fault => exact ⟨.markup fault, rfl, rfl⟩
  | ok lines =>
      rw [page?, printStyled, print, ← Console.printed]
      cases Utf8.encodeFault? (Console.printed lines) with
      | none => rfl
      | some fault => exact ⟨.unprintable fault, rfl, rfl⟩

theorem page?_eq_some {page : Except Markup.Fault (List String)} {text : String} :
    page? page = some text ↔
      ∃ lines, page = .ok lines ∧ Console.printed lines = text ∧ Utf8.encodeFault? text = none := by
  cases page with
  | error fault => simp [page?]
  | ok lines =>
      simp only [page?, Option.isNone_iff_eq_none, Option.ite_none_right_eq_some, Option.some.injEq, Except.ok.injEq,
        exists_eq_left']
      constructor
      · rintro ⟨printable, rfl⟩
        exact ⟨rfl, printable⟩
      · rintro ⟨rfl, printable⟩
        exact ⟨printable, rfl⟩

theorem encodeFault?_of_whole {text : String} (whole : Console.Whole text.toList) : Utf8.encodeFault? text = none := by
  rw [Utf8.encodeFault?, String.contains_char_eq, decide_eq_false whole]
  rfl

theorem page?_isSome {page : Except Markup.Fault (List String)} (shows : Console.Shows page) : (page? page).isSome := by
  obtain ⟨lines, rfl, whole⟩ := shows
  refine Option.isSome_iff_exists.mpr ⟨_, page?_eq_some.mpr ⟨_, rfl, rfl, encodeFault?_of_whole ?_⟩⟩
  rw [Console.toList_printed, Console.Whole, List.mem_flatMap]
  rintro ⟨line, among, within⟩
  rcases List.mem_append.mp within with inside | ends
  · exact whole line among inside
  · exact absurd (List.mem_singleton.mp ends) (by decide)

def Continues (width : Nat) (x : Run ρ β) (shown : Option (List String)) (k : Run ρ β) : Prop :=
  ∀ s : Shell ρ, s.width = width → match shown with
    | some texts => x s = k { s with output := s.output ++ String.join texts }
    | none => ∃ text cause, cause.isPrinting = true ∧
        x s = (.error (.failure cause), { s with output := s.output ++ text })

namespace Continues

variable {x k : Run ρ β} {shown : Option (List String)} {pages : List (Except Markup.Fault (List String))}

theorem done : Continues width k (some []) k := by
  intro s _
  simp

theorem get_bind {y : Shell ρ → Run ρ β} (later : ∀ s, s.width = width → Continues width (y s) shown k) :
    Continues width ((get : Run ρ (Shell ρ)) >>= y) shown k := fun s same => later s same s same

theorem page (page : Except Markup.Fault (List String)) (later : Continues width x (pages.mapM page?) k) :
    Continues width (printStyled page >>= fun _ => x) ((page :: pages).mapM page?) k := by
  intro s same
  have printed := printStyled_page page s
  rw [List.mapM_cons]
  cases first : page? page with
  | none =>
      rw [first] at printed
      obtain ⟨cause, printing, failed⟩ := printed
      refine ⟨"", cause, printing, ?_⟩
      rw [bind_error failed, String.append_empty]
  | some text =>
      rw [first] at printed
      rw [bind_ok printed]
      have next := later { s with output := s.output ++ text } same
      cases others : pages.mapM page? with
      | none =>
          rw [others] at next
          obtain ⟨more, cause, printing, failed⟩ := next
          refine ⟨text ++ more, cause, printing, ?_⟩
          rw [failed, String.append_assoc]
      | some texts =>
          rw [others] at next
          have joined : String.join (text :: texts) = text ++ String.join texts := by simp
          exact next.trans (by rw [joined, String.append_assoc])

theorem forM {α : Type} (items : List α) (show' : α → Except Markup.Fault (List String))
    (later : Continues width x (pages.mapM page?) k) :
    Continues width (items.forM (fun item => printStyled (show' item)) >>= fun _ => x)
      ((items.map show' ++ pages).mapM page?) k := by
  induction items with
  | nil => exact later
  | cons item rest ih =>
      change Continues width ((printStyled (show' item) >>= fun _ => rest.forM _) >>= fun _ => x) _ k
      rw [bind_assoc]
      exact page (show' item) ih

end Continues

/-! ## What a plugin tells -/

def described? (tools : Tools σ) (files : Files) (path : Option String) :
    Option ((PluginInfo × List Diagnostic × Value) × Formatter σ) := do
  done? describe (← formatter? tools files path)

def entries (fields : Fields) : List (String × Option String) :=
  fields.map fun (key, value) =>
    (match key with | .text s => s | k => k.literal, if value.isNull then none else some value.display)

theorem resolvedPairs_object (fields : Fields) : resolvedPairs (.object fields) = (pure (entries fields) : Run ρ _) := rfl

def introduction (width schema : Nat) (i : PluginInfo) (fields : Fields) : List (Except Markup.Fault (List String)) :=
  [.ok (Console.header width i.name (some ("v" ++ i.version)) (some pluginIcon)),
    (Console.Table.ofPairs none (infoPairs schema i)).lines width,
    Console.sectionRule width "Resolved Config" (some gearIcon),
    (Console.Table.ofPairs none (entries fields)).lines width]

def noticesTitle (width : Nat) : Except Markup.Fault (List String) :=
  Console.sectionRule width "Config Diagnostics" (some Console.Mood.warning.icon)

def notice (d : Diagnostic) : Except Markup.Fault (List String) := Console.say .warning d.text none

def notices (width : Nat) (found : List Diagnostic) : List (Except Markup.Fault (List String)) :=
  if found.isEmpty then [] else noticesTitle width :: found.map notice

def licenseTitle (width : Nat) : Except Markup.Fault (List String) :=
  Console.sectionRule width "License" (some fileIcon)

def licensePage (text : String) : Except Markup.Fault (List String) :=
  .ok (Console.toTexts (Console.textLines (Text.withEmojis text.toList)))

def close (found : List Diagnostic) : Run ρ Unit := if !found.isEmpty then throw (.exit 1) else pure ()

def showLicense (found : List Diagnostic) (f : Formatter σ) : Run ρ Unit := do
  let (result, after) := Formatter.license.run f
  logAll after.plugin.journal
  match result with
  | .ok text => printStyled (licensePage text)
  | .error error => fail (.plugin error)
  close found

def conclude (license : Bool) (found : List Diagnostic) (f : Formatter σ) : Run ρ Unit := do
  if license then
    printStyled (licenseTitle (← get).width)
    showLicense found f
  else close found

def tell (license : Bool) : (PluginInfo × List Diagnostic × Value) × Formatter σ → Run ρ Unit
  | ((i, found, resolved), f) => do
    print (Console.header (← get).width i.name (some ("v" ++ i.version)) (some pluginIcon))
    printStyled ((Console.Table.ofPairs none (infoPairs f.schema i)).lines (← get).width)
    printStyled (Console.sectionRule (← get).width "Resolved Config" (some gearIcon))
    printStyled ((Console.Table.ofPairs none (← resolvedPairs resolved)).lines (← get).width)
    if !found.isEmpty then
      printStyled (noticesTitle (← get).width)
      found.forM fun d => printStyled (notice d)
    conclude license found f

theorem runInfo_follows (found : settings? tools files = some settings) (path : Option String) (license : Bool) :
    Follows verbose files (runInfo tools settings path license : Run ρ Unit) (described? tools files path)
      (tell license) := by
  have loads : described? tools files path = (plugin? files settings path).bind fun place =>
      (configured? tools files settings place).bind (done? describe) := by
    rw [described?, formatter?_eq found]
    exact Option.bind_assoc ..
  rw [loads]
  refine .bind (pluginPath_gives path) fun place _ => .bind (configured_gives _ place) fun f made => ?_
  have muted := Formatter.describe_muted f (configured?_muted made)
  have told : Follows verbose files _ ((done? describe f).bind some) (tell (ρ := ρ) license) :=
    .bind (onFormatter_gives "Plugin error" muted) fun made _ => .here made
  rw [Option.bind_fun_some] at told
  exact told

theorem tell_continues (license : Bool) (i : PluginInfo) (found : List Diagnostic) (fields : Fields) (f : Formatter σ) :
    Continues width (tell license ((i, found, .object fields), f) : Run ρ Unit)
      ((introduction width f.schema i fields ++ notices width found).mapM page?) (conclude license found f) := by
  refine .get_bind fun s same => ?_
  rw [same]
  refine .page _ (.get_bind fun s same => ?_)
  rw [same]
  refine .page _ (.get_bind fun s same => ?_)
  rw [same]
  refine .page _ ?_
  rw [resolvedPairs_object, pure_bind]
  refine .get_bind fun s same => ?_
  rw [same]
  refine .page _ ?_
  cases found with
  | nil => exact .done
  | cons d rest =>
      refine .get_bind fun s same => ?_
      rw [same]
      refine .page _ ?_
      rw [← List.append_nil ((d :: rest).map notice)]
      exact .forM (d :: rest) notice .done

/-! ## Diagnostics -/

theorem titles_literal : ∀ title ∈ [Console.withIcon (some Console.Mood.warning.icon) "Config Diagnostics",
      Console.withIcon (some fileIcon) "License", Console.withIcon (some gearIcon) "Resolved Config"],
    Markup.isLiteral title.toList = true ∧ Console.Whole title.toList := by
  decide

theorem noticesTitle_shows (width : Nat) : Console.Shows (noticesTitle width) :=
  Console.sectionRule_shows (Console.reads_of_literal (titles_literal _ (by simp)))

theorem licenseTitle_shows (width : Nat) : Console.Shows (licenseTitle width) :=
  Console.sectionRule_shows (Console.reads_of_literal (titles_literal _ (by simp)))

theorem encodeFault?_notice (body : String) :
    Utf8.encodeFault? ("⚠ " ++ body ++ "\n") = none ↔ Utf8.encodeFault? body = none := by
  rw [Utf8.encodeFault?_line, Utf8.encodeFault?_append (by decide)]

theorem notice_of_plain {d : Diagnostic} {t : List Char} (read : Markup.plain d.text.toList = .ok t)
    (printable : ∀ c ∈ t, Markup.isControl c = false ∧ c ≠ '\t')
    (encodable : Utf8.encodeFault? (String.ofList t) = none) :
    page? (notice d) = some ("⚠ " ++ String.ofList t ++ "\n") := by
  obtain ⟨lines, said, same⟩ := Console.warning_of_plain read printable
  exact page?_eq_some.mpr ⟨lines, said, same, (encodeFault?_notice _).mpr encodable⟩

theorem notice_of_fault {d : Diagnostic} (unread : (Markup.plain d.text.toList).toOption = none) :
    page? (notice d) = none := by
  rw [notice, Console.say_warning]
  cases read : Markup.plain d.text.toList with
  | error fault => rfl
  | ok t =>
      rw [read] at unread
      cases unread

theorem notice_of_literal {d : Diagnostic} (literal : Markup.isLiteral d.text.toList = true)
    (encodable : Utf8.encodeFault? d.text = none) : page? (notice d) = some ("⚠ " ++ d.text ++ "\n") := by
  have shown := notice_of_plain (Markup.plain_of_literal literal) (Markup.printable_of_literal literal)
  rw [String.ofList_toList] at shown
  exact shown encodable

theorem literal_of_notice {d : Diagnostic} (nameless : Markup.Nameless d.text.toList)
    (shown : page? (notice d) = some ("⚠ " ++ d.text ++ "\n")) :
    Markup.isLiteral d.text.toList = true ∧ Utf8.encodeFault? d.text = none := by
  obtain ⟨lines, said, same, encodable⟩ := page?_eq_some.mp shown
  exact ⟨Console.literal_of_warning nameless said same, (encodeFault?_notice d.text).mp encodable⟩

/-! ## The end of a run -/

def verdict (found : List Diagnostic) : Except Stop Unit := if found.isEmpty then .ok () else .error (.exit 1)

theorem close_eq (found : List Diagnostic) (s : Shell ρ) : close found s = (verdict found, s) := by
  cases found <;> rfl

def licenseText? (f : Formatter σ) : Option String := do
  page? (licensePage (← done? Formatter.license f).1)

theorem showLicense_cases (found : List Diagnostic) {f : Formatter σ} (muted : f.plugin.Muted) {s : Shell ρ}
    (tuned : Tuned verbose s.logger) :
    ∃ s', (∃ log text, licenseText? f = some text ∧ (verbose = false → log = "") ∧ s'.output = s.output ++ (log ++ text) ∧
        showLicense found f s = (verdict found, s')) ∨
      (verbose = false → licenseText? f = none) ∧ ∃ cause, showLicense found f s = (.error (.failure cause), s') := by
  have minor := Formatter.license_muted f muted
  rw [licenseText?, done?]
  cases fetched : Formatter.license f with
  | mk result after =>
      rw [fetched] at minor
      have shown : showLicense (ρ := ρ) found f = (logAll after.plugin.journal >>= fun _ => (match result with
          | .ok text => printStyled (licensePage text) >>= fun _ => close found
          | .error error => fail (.plugin error) >>= fun _ : Unit => close found)) := by
        rw [showLicense, ExceptT.run, fetched]
      have gives : Gives verbose s.files (logAll after.plugin.journal : Run ρ Unit) (some ()) := logAll_gives minor
      obtain ⟨s₁, ⟨logger, log, rfl, -, quiet⟩, logged | ⟨loud, cause, -, failed⟩⟩ := gives s rfl tuned
      · rw [shown, bind_ok logged]
        cases result with
        | error error => exact ⟨_, .inr ⟨fun _ => rfl, .plugin error, rfl⟩⟩
        | ok text =>
            have printed := printStyled_page (licensePage text) { s with logger := logger, output := s.output ++ log }
            cases page : page? (licensePage text) with
            | none =>
                rw [page] at printed
                obtain ⟨cause, -, failed⟩ := printed
                exact ⟨_, .inr ⟨fun _ => page, cause, bind_error failed⟩⟩
            | some text' =>
                rw [page] at printed
                refine ⟨_, .inl ⟨log, text', page, quiet, ?_, (bind_ok printed).trans (close_eq found _)⟩⟩
                exact String.append_assoc ..
      · rw [shown]
        exact ⟨_, .inr ⟨fun silent => absurd (silent.symm.trans loud) Bool.false_ne_true, cause, bind_error failed⟩⟩

def license? (license : Bool) (width : Nat) (f : Formatter σ) : Option (String × String) :=
  if license then do return (← page? (licenseTitle width), ← licenseText? f) else some ("", "")

theorem license?_isSome (license : Bool) (width : Nat) (f : Formatter σ) :
    (license? license width f).isSome ↔ (license = true → (licenseText? f).isSome) := by
  obtain ⟨title, titled⟩ := Option.isSome_iff_exists.mp (page?_isSome (licenseTitle_shows width))
  cases license with
  | false => simp [license?]
  | true =>
      rw [license?, if_pos rfl, titled]
      cases licenseText? f <;> simp

theorem conclude_cases (license : Bool) (found : List Diagnostic) {f : Formatter σ} (muted : f.plugin.Muted) {s : Shell ρ}
    (tuned : Tuned verbose s.logger) :
    ∃ s', (∃ title log text, license? license s.width f = some (title, text) ∧
        (license = false ∨ verbose = false → log = "") ∧ s'.output = s.output ++ (title ++ log ++ text) ∧
        conclude license found f s = (verdict found, s')) ∨
      (verbose = false → license? license s.width f = none) ∧
        ∃ cause, conclude license found f s = (.error (.failure cause), s') := by
  cases license with
  | false =>
      refine ⟨s, .inl ⟨"", "", "", rfl, fun _ => rfl, ?_, close_eq found s⟩⟩
      rw [String.append_empty, String.append_empty, String.append_empty]
  | true =>
      have printed := printStyled_page (licenseTitle s.width) s
      rw [conclude, if_pos rfl, get_bind, license?, if_pos rfl]
      cases titled : page? (licenseTitle s.width) with
      | none =>
          rw [titled] at printed
          obtain ⟨cause, -, failed⟩ := printed
          exact ⟨s, .inr ⟨fun _ => rfl, cause, bind_error failed⟩⟩
      | some title =>
          rw [titled] at printed
          rw [bind_ok printed]
          obtain ⟨s', ⟨log, text, fetched, quiet, output, ended⟩ | ⟨unfetched, failed⟩⟩ :=
            showLicense_cases found muted (s := { s with output := s.output ++ title }) tuned
          · refine ⟨s', .inl ⟨title, log, text, ?_, fun silent => ?_, ?_, ended⟩⟩
            · rw [fetched]
              rfl
            · exact quiet (silent.resolve_left Bool.noConfusion)
            · rw [output]
              simp only [String.append_assoc]
          · refine ⟨s', .inr ⟨fun silent => ?_, failed⟩⟩
            rw [unfetched silent]
            rfl

/-! ## Whole runs -/

theorem execute_verdict {found : List Diagnostic} {s s' : Shell ρ} (ran : run tools words s = (verdict found, s')) :
    execute tools words s = ⟨if found = [] then 0 else 1, none, s'⟩ := by
  rw [execute, ExceptT.run, ran]
  cases found <;> rfl

theorem mapM_isSome {α : Type} {f : α → Option String} (items : List α) :
    (items.mapM f).isSome ↔ ∀ a ∈ items, (f a).isSome := by
  induction items with
  | nil => simp
  | cons a rest ih =>
      rw [List.forall_mem_cons, ← ih, List.mapM_cons]
      cases f a <;> cases rest.mapM f <;> simp

theorem pages_cases (width schema : Nat) (i : PluginInfo) (fields : Fields) (found : List Diagnostic) :
    ∃ title, (if found = [] then title = "" else page? (noticesTitle width) = some title) ∧
      ((introduction width schema i fields ++ notices width found).mapM page?).map String.join = (do
        return String.join (← (introduction width schema i fields).mapM page?) ++
          (title ++ String.join (← found.mapM fun d => page? (notice d)))) := by
  cases found with
  | nil =>
      refine ⟨"", by rw [if_pos rfl], ?_⟩
      rw [List.mapM_append]
      cases (introduction width schema i fields).mapM page? <;> simp [notices]
  | cons d rest =>
      obtain ⟨title, titled⟩ := Option.isSome_iff_exists.mp (page?_isSome (noticesTitle_shows width))
      refine ⟨title, by rw [if_neg (List.cons_ne_nil d rest), titled], ?_⟩
      have shown : (notices width (d :: rest)).mapM page? =
          ((d :: rest).mapM fun d => page? (notice d)).map (title :: ·) := by
        rw [notices, if_neg (by simp), List.mapM_cons, titled, List.mapM_map, Option.map_eq_bind]
        rfl
      rw [List.mapM_append, shown]
      cases (introduction width schema i fields).mapM page? <;>
        cases (d :: rest).mapM fun d => page? (notice d) <;> simp

/-- What is printed if nothing fails: the pages, the diagnostics in their order and the license, with the records of the log
before them and between the title of the license and its text. -/
def Reports (license verbose : Bool) (width : Nat) (i : PluginInfo) (found : List Diagnostic) (fields : Fields)
    (f : Formatter σ) (output : String) : Prop :=
  ∃ log head title shown before between text, (verbose = false → log = "") ∧
    (license = false ∨ verbose = false → between = "") ∧
    (introduction width f.schema i fields).mapM page? = some head ∧
    (if found = [] then title = "" else page? (noticesTitle width) = some title) ∧
    found.mapM (fun d => page? (notice d)) = some shown ∧ license? license width f = some (before, text) ∧
    output = log ++ String.join head ++ title ++ String.join shown ++ (before ++ between ++ text)

theorem run_told (opening : Opening.ofWords words = .run debug .plugin rest)
    (request : Request.ofWords .plugin rest = .run (.info path license)) {i : PluginInfo} {found : List Diagnostic}
    {fields : Fields} {f : Formatter σ} (told : described? tools files path = some ((i, found, .object fields), f))
    (width : Nat) (server : Server ρ) (state : ρ) :
    ∃ s', Reports license (isVerbose tools debug files) width i found fields f s'.output ∧
        run tools words (.start width server state files) = (verdict found, s') ∨
      (isVerbose tools debug files = false → (introduction width f.schema i fields).mapM page? = none ∨
          found.mapM (fun d => page? (notice d)) = none ∨ license? license width f = none) ∧
        ∃ cause, run tools words (.start width server state files) = (.error (.failure cause), s') := by
  obtain ⟨g, loaded, described⟩ := Option.bind_eq_some_iff.mp told
  obtain ⟨settings, settled, -⟩ := Option.bind_eq_some_iff.mp loaded
  have muted : f.plugin.Muted := done?_muted described
  obtain ⟨logger, log, tuned, quiet, ran | ⟨loud, cause, -, failed⟩⟩ :=
    (run_performs opening width server state request settled (runInfo_follows settled path license)).1 _ told
  · obtain ⟨title, titled, pages⟩ := pages_cases width f.schema i fields found
    have continues := tell_continues license i found fields f ⟨width, ⟨server, state, []⟩, logger, files, log⟩ rfl
    rw [← ran] at continues
    cases texts : (introduction width f.schema i fields ++ notices width found).mapM page? with
    | none =>
        rw [texts] at continues
        obtain ⟨text, cause, -, failed⟩ := continues
        refine ⟨_, .inr ⟨fun _ => ?_, cause, failed⟩⟩
        rcases Option.eq_none_or_eq_some ((introduction width f.schema i fields).mapM page?) with unshown | ⟨_, first⟩
        · exact .inl unshown
        · rcases Option.eq_none_or_eq_some (found.mapM fun d => page? (notice d)) with unshown | ⟨_, second⟩
          · exact .inr (.inl unshown)
          · rw [texts, first, second] at pages
            cases pages
    | some texts' =>
        rw [texts] at continues pages
        obtain ⟨s', ⟨before, between, text, licensed, silent, output, ended⟩ | ⟨unlicensed, cause, failed⟩⟩ :=
          conclude_cases license found muted
            (s := ⟨width, ⟨server, state, []⟩, logger, files, log ++ String.join texts'⟩) tuned
        · obtain ⟨head, first, pages⟩ := Option.bind_eq_some_iff.mp pages.symm
          obtain ⟨shown, second, pages⟩ := Option.bind_eq_some_iff.mp pages
          have joined := Option.some.inj pages
          refine ⟨s', .inl ⟨⟨log, head, title, shown, before, between, text, quiet, silent, first, titled, second,
            licensed, ?_⟩, continues.trans ended⟩⟩
          rw [output, ← joined]
          simp only [String.append_assoc]
        · exact ⟨s', .inr ⟨fun silent => .inr (.inr (unlicensed silent)), cause, continues.trans failed⟩⟩
  · exact ⟨_, .inr ⟨fun silent => absurd (silent.symm.trans loud) Bool.false_ne_true, cause, failed⟩⟩

/-- A run that has all it needs from a plugin prints pages, then the diagnostics in their order, then the license if that
is asked for. It ends as it should if all of this can be laid out and printed, and fails if not; it has exit code 1 just if
there are diagnostics. A diagnostic is printed as a styled text: as it is if nothing in it reads as anything but itself,
and only then if no pictographs are named in it. -/
theorem diagnostics_printed_as_styled_texts (opening : Opening.ofWords words = .run debug .plugin rest)
    (request : Request.ofWords .plugin rest = .run (.info path license)) {i : PluginInfo} {found : List Diagnostic}
    {fields : Fields} {f : Formatter σ} (told : described? tools files path = some ((i, found, .object fields), f))
    (width : Nat) (server : Server ρ) (state : ρ) :
    let outcome := execute tools words (.start width server state files)
    let verbose := isVerbose tools debug files
    (outcome.failure = none → outcome.code = (if found = [] then 0 else 1) ∧
      Reports license verbose width i found fields f outcome.shell.output) ∧
    (verbose = false → (outcome.failure = none ↔
      (∀ page ∈ introduction width f.schema i fields, (page? page).isSome) ∧
      (∀ d ∈ found, (page? (notice d)).isSome) ∧ (license = true → (licenseText? f).isSome))) ∧
    ∀ d ∈ found,
      (Markup.isLiteral d.text.toList = true → Utf8.encodeFault? d.text = none →
        page? (notice d) = some ("⚠ " ++ d.text ++ "\n")) ∧
      (Markup.Nameless d.text.toList → page? (notice d) = some ("⚠ " ++ d.text ++ "\n") →
        Markup.isLiteral d.text.toList = true ∧ Utf8.encodeFault? d.text = none) := by
  intro outcome verbose
  refine ⟨?_, ?_, fun d _ => ⟨notice_of_literal, literal_of_notice⟩⟩
  · intro ended
    rcases run_told opening request told width server state with ⟨s', ⟨reports, ran⟩ | ⟨-, cause, failed⟩⟩
    · have done : outcome = ⟨if found = [] then 0 else 1, none, s'⟩ := execute_verdict ran
      rw [done]
      exact ⟨rfl, reports⟩
    · have failure : outcome = ⟨1, some cause, s'⟩ := execute_failure failed
      rw [failure] at ended
      cases ended
  · intro silent
    rw [← mapM_isSome, ← mapM_isSome, ← license?_isSome license width f]
    rcases run_told opening request told width server state with ⟨s', ⟨reports, ran⟩ | ⟨missing, cause, failed⟩⟩
    · have done : outcome = ⟨if found = [] then 0 else 1, none, s'⟩ := execute_verdict ran
      obtain ⟨_, _, _, _, _, _, _, -, -, first, -, second, licensed, -⟩ := reports
      rw [done]
      exact iff_of_true rfl ⟨Option.isSome_of_eq_some first, Option.isSome_of_eq_some second,
        Option.isSome_of_eq_some licensed⟩
    · have failure : outcome = ⟨1, some cause, s'⟩ := execute_failure failed
      rw [failure]
      refine iff_of_false (Option.some_ne_none cause) ?_
      rintro ⟨first, second, licensed⟩
      rcases missing silent with unshown | unshown | unshown
      · rw [unshown] at first
        cases first
      · rw [unshown] at second
        cases second
      · rw [unshown] at licensed
        cases licensed

section

open Reference

def legendText : String :=
  "\x7b\"name\": \"n\", \"version\": \"1\", \"configKey\": \"c\", \"fileExtensions\": [\"e\"], " ++
    "\"fileNames\": [\"f\"], \"helpUrl\": \"h\", \"configSchemaUrl\": \"s\", \"updateUrl\": \"u\"\x7d"

def legend : PluginInfo := ⟨"n", "1", "c", ["e"], ["f"], "h", "s", some "u"⟩

theorem ofJson_legendText : PluginInfo.ofJson legendText = .valid legend := valid_of_toOption (by decide +kernel)

def findings (found : List Diagnostic) : Value :=
  .list (found.map fun d => .object [(.text "propertyName", .text d.propertyName), (.text "message", .text d.message)])

def troubled (found : List Diagnostic) : Answers :=
  ⟨legendText, some (Json.text (findings found)), some (Json.text (.object []))⟩

def Readable (found : List Diagnostic) : Prop :=
  ∀ d ∈ found, Text.standInMark ∉ d.propertyName.toList ∧ Text.standInMark ∉ d.message.toList

instance (found : List Diagnostic) : Decidable (Readable found) := by
  unfold Readable
  infer_instance

variable {found : List Diagnostic}

theorem findings_data (readable : Readable found) : Json.IsData 2 (findings found) := by
  refine .list fun v among => ?_
  obtain ⟨d, member, rfl⟩ := List.mem_map.mp among
  obtain ⟨_, property⟩ := Json.spells_of_unmarked (readable d member).1
  obtain ⟨_, message⟩ := Json.spells_of_unmarked (readable d member).2
  have names : ∀ name ∈ ["propertyName", "message"], ∃ points, Text.Spells points name :=
    fun name among => Json.spells_of_unmarked (by revert name; decide)
  refine .object (by simp) ?_ ?_
  · simpa using names
  · simp only [List.forall_mem_cons, List.not_mem_nil, false_implies, implies_true, and_true]
    exact ⟨.text property, .text message⟩

theorem findings_writable (found : List Diagnostic) : Json.unwritable? (findings found) = none := by
  rw [findings, Json.unwritable?, Json.unwritableItem?_eq_none]
  intro v among
  obtain ⟨d, -, rfl⟩ := List.mem_map.mp among
  rfl

theorem parse_text {d : Nat} {v : Value} (data : Json.IsData d v) (writable : Json.unwritable? v = none)
    (shallow : d ≤ Json.Limits.loose.depth) : Json.parse (Json.text v) = .ok v := by
  rw [Json.parse, Json.text, String.toList_ofList, Json.read_print data writable rfl shallow]
  rfl

theorem readFound_findings (found : List Diagnostic) (f : Formatter State) :
    Formatter.readFound (findings found) f = (.ok found, f) := by
  have read : Formatter.readDiagnostics (found.map fun d =>
      .object [(.text "propertyName", .text d.propertyName), (.text "message", .text d.message)]) = .ok found := by
    induction found with
    | nil => rfl
    | cons d rest ih =>
        have valid : Diagnostic.ofValue
            (.object [(.text "propertyName", .text d.propertyName), (.text "message", .text d.message)]) = .valid d := rfl
        rw [List.map_cons, Formatter.readDiagnostics, valid]
        simp only [ih]
        rfl
  rw [Formatter.readFound, findings, Value.iterate?]
  simp only [read]
  rfl

theorem describe_tells {configId : Nat} {f : Formatter State} (readable : Readable found)
    (tells : Tells (troubled found) true configId f) :
    ∃ f', describe f = (.ok (legend, found, .object []), f') ∧ Tells (troubled found) true configId f' := by
  have unmarked : legendText.contains Text.standInMark = false := by
    rw [String.contains_char_eq]
    decide +kernel
  obtain ⟨f₁, informed, tells₁⟩ := info_tells tells unmarked ofJson_legendText
  obtain ⟨f₂, asked, tells₂⟩ := ask_tells tells₁ (rfl : (troubled found).text? "get_config_diagnostics" = some _)
    (parse_text (findings_data readable) (findings_writable found) (by decide))
  obtain ⟨f₃, asked', tells₃⟩ := ask_tells tells₂ (rfl : (troubled found).text? "get_resolved_config" = some _)
    (parse_text (d := 1) (.object (by simp) (by simp) (by simp)) rfl (by decide))
  have diagnosed : Formatter.diagnostics f₁ = (.ok found, f₂) := by
    rw [Formatter.diagnostics_eq, bind_ok asked, readFound_findings]
  have resolved : Formatter.resolvedConfig f₂ = (.ok (.object []), f₃) := asked'
  exact ⟨f₃, (bind_ok informed).trans ((bind_ok diagnosed).trans (bind_ok resolved)), tells₃⟩

def troubledTools (found : List Diagnostic) : Tools State := ⟨tellingEngine (troubled found), 0, 0, []⟩

theorem desk_described (readable : Readable found) : isVerbose (troubledTools found) false desk = false ∧
    ∃ f, described? (troubledTools found) desk (some "p") = some ((legend, found, .object []), f) ∧ f.schema = 4 := by
  obtain ⟨loaded, load, tells⟩ := load_tells (troubled found) 0
  obtain ⟨quiet, f, made, configId, tells'⟩ :=
    desk_plugin (P := fun f => ∃ configId, Tells (troubled found) true configId f) load fun config plugin writable => by
      obtain ⟨f, set, tells'⟩ := setConfig_tells (clear_tells tells) config plugin writable
      exact ⟨f, set, _, clear_tells tells'⟩
  obtain ⟨f', described, tells''⟩ := describe_tells readable tells'
  refine ⟨quiet, Verify.clear f', ?_, ?_⟩
  · rw [described?, troubledTools, made]
    simp only [bind, Option.bind, done?, described]
  · obtain ⟨_, _, _, _, rfl⟩ := tells''
    rfl

theorem legend_introduction (width : Nat) : ∀ page ∈ introduction width 4 legend [], (page? page).isSome := by
  have named : Console.Whole (Console.withIcon (some pluginIcon) legend.name).toList := by decide
  have cells : ∀ pair ∈ infoPairs 4 legend, ∀ text ∈ [pair.1, pair.2.getD "[dim]N/A[/dim]"],
      Markup.isLiteral text.toList = true ∧ Console.Whole text.toList := by decide
  have header : Console.Shows (.ok (Console.header width legend.name (some ("v" ++ legend.version)) (some pluginIcon))) :=
    Console.header_shows named (by decide)
  have table : Console.Shows ((Console.Table.ofPairs none (infoPairs 4 legend)).lines width) :=
    Console.Table.ofPairs_shows fun pair among =>
      ⟨Console.reads_of_literal (cells pair among _ (by simp)), Console.reads_of_literal (cells pair among _ (by simp))⟩
  have rule : Console.Shows (Console.sectionRule width "Resolved Config" (some gearIcon)) :=
    Console.sectionRule_shows (Console.reads_of_literal (titles_literal _ (by simp)))
  have nothing : Console.Shows ((Console.Table.ofPairs none (entries [])).lines width) :=
    Console.Table.ofPairs_shows nofun
  simp only [introduction, List.forall_mem_cons, List.not_mem_nil, false_implies, implies_true, and_true]
  exact ⟨page?_isSome header, page?_isSome table, page?_isSome rule, page?_isSome nothing⟩

end

theorem info_words :
    Opening.ofWords ["plugin", "info", "--path", "p"] = .run false .plugin ["info", "--path", "p"] ∧
      Request.ofWords .plugin ["info", "--path", "p"] = .run (.info (some "p") false) := by
  decide +kernel

theorem two_diagnostics_reported :
    let outcome := execute (troubledTools [⟨"a", "x"⟩, ⟨"b", "y"⟩]) ["plugin", "info", "--path", "p"]
      (.start 80 idleServer () desk)
    outcome.code = 1 ∧ outcome.failure = none ∧ ∃ before, outcome.shell.output = before ++ "⚠ a: x\n⚠ b: y\n" := by
  intro outcome
  obtain ⟨quiet, f, told, schema⟩ := desk_described (by decide : Readable [⟨"a", "x"⟩, ⟨"b", "y"⟩])
  obtain ⟨opening, request⟩ := info_words
  have literal : ∀ d ∈ ([⟨"a", "x"⟩, ⟨"b", "y"⟩] : List Diagnostic),
      Markup.isLiteral d.text.toList = true ∧ Console.Whole d.text.toList := by decide
  obtain ⟨ends, succeeds, verbatim⟩ := diagnostics_printed_as_styled_texts opening request told 80 idleServer ()
  have shown : ∀ d ∈ ([⟨"a", "x"⟩, ⟨"b", "y"⟩] : List Diagnostic), page? (notice d) = some ("⚠ " ++ d.text ++ "\n") :=
    fun d among => (verbatim d among).1 (literal d among).1 (encodeFault?_of_whole (literal d among).2)
  have ended : outcome.failure = none := by
    refine (succeeds quiet).mpr ⟨?_, fun d among => ?_, nofun⟩
    · rw [schema]
      exact legend_introduction 80
    · rw [shown d among]
      rfl
  obtain ⟨code, log, head, title, texts, before, between, text, -, silent, -, -, printed, licensed, output⟩ := ends ended
  have texts' : texts = ["⚠ a: x\n", "⚠ b: y\n"] := by
    rw [List.mapM_cons, List.mapM_cons, List.mapM_nil, shown _ (by simp), shown _ (by simp)] at printed
    exact (Option.some.inj printed).symm
  cases licensed
  rw [silent (.inl rfl), texts'] at output
  refine ⟨code, ended, log ++ String.join head ++ title, ?_⟩
  rw [output]
  exact String.append_empty

/-- A tag in a message is lost, and one that closes what is not open ends the run with a failure. -/
theorem tagged_diagnostics_garbled :
    let report (message : String) := execute (troubledTools [⟨"prop", message⟩]) ["plugin", "info", "--path", "p"]
      (.start 80 idleServer () desk)
    (∀ message ∈ ["[b] bad", "[/] bad"], ∃ f, described? (troubledTools [⟨"prop", message⟩]) desk (some "p") =
      some ((legend, [⟨"prop", message⟩], .object []), f)) ∧
    ((report "[b] bad").code = 1 ∧ (report "[b] bad").failure = none ∧
      ∃ before, (report "[b] bad").shell.output = before ++ "⚠ prop:  bad\n") ∧
    (report "[/] bad").failure ≠ none := by
  intro report
  have readable (message : String) (among : message ∈ ["[b] bad", "[/] bad"]) : Readable [⟨"prop", message⟩] := by
    revert message
    decide
  obtain ⟨opening, request⟩ := info_words
  refine ⟨fun message among => ?_, ?_, ?_⟩
  · obtain ⟨-, f, told, -⟩ := desk_described (readable message among)
    exact ⟨f, told⟩
  · obtain ⟨quiet, f, told, schema⟩ := desk_described (readable "[b] bad" (by simp))
    have plain : Markup.plain (Diagnostic.text ⟨"prop", "[b] bad"⟩).toList = .ok "prop:  bad".toList :=
      toOption_eq_some_iff.mp (by decide +kernel)
    obtain ⟨left, whole⟩ : Markup.isLiteral "prop:  bad".toList = true ∧ Console.Whole "prop:  bad".toList := by
      decide
    have encodable : Utf8.encodeFault? (String.ofList "prop:  bad".toList) = none := by
      rw [String.ofList_toList]
      exact encodeFault?_of_whole whole
    have shown : [(⟨"prop", "[b] bad"⟩ : Diagnostic)].mapM (fun d => page? (notice d)) = some ["⚠ prop:  bad\n"] := by
      rw [List.mapM_cons, List.mapM_nil, notice_of_plain plain (Markup.printable_of_literal left) encodable]
      rfl
    rcases run_told opening request told 80 idleServer () with
      ⟨s', ⟨⟨log, head, title, texts, before, between, text, -, silent, -, -, printed, licensed, output⟩, ran⟩ |
        ⟨missing, -⟩⟩
    · have done : report "[b] bad" = ⟨1, none, s'⟩ := execute_verdict ran
      rw [shown] at printed
      cases printed
      cases licensed
      rw [done, output, silent (.inl rfl)]
      exact ⟨rfl, rfl, _, String.append_empty⟩
    · have introduced := (mapM_isSome _).mpr (legend_introduction 80)
      rw [schema, shown] at missing
      rcases missing quiet with unshown | unshown | unshown
      · rw [unshown] at introduced
        cases introduced
      · cases unshown
      · cases unshown
  · have closing : (Markup.plain (Diagnostic.text ⟨"prop", "[/] bad"⟩).toList).toOption = none := by decide
    obtain ⟨quiet, f, told, -⟩ := desk_described (readable "[/] bad" (by simp))
    rcases run_told opening request told 80 idleServer () with
      ⟨s', ⟨⟨_, _, _, _, _, _, _, -, -, -, -, printed, -⟩, -⟩ | ⟨-, cause, failed⟩⟩
    · rw [List.mapM_cons, notice_of_fault closing] at printed
      cases printed
    · have done : report "[/] bad" = ⟨1, some cause, s'⟩ := execute_failure failed
      rw [done]
      exact Option.some_ne_none cause

end Command

end PluginKit
