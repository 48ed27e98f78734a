import Mathlib.Data.List.Forall2
import SqlLint.CommandLine.Run
import SqlLint.Files.Tree

/-!
# The formats agree

Reports are written in three formats, by three pieces of code that walk over the same data. This
module reads the findings back from each of them and shows that nothing is lost, added or moved:
the plain JSON form and the SARIF form hold the same findings in the same order, and so do the lines
for people. The exit status of a run is then compared with what is read back.

## Reading back

A finding is what all formats show: a path, a line, a message, and the kind of the diagnostic,
which a syntax error does not have. JSON and SARIF are read as values, by the names of fields, so
the order of fields does not matter. The two forms name a kind differently. Each name belongs to one
kind only, and none of them is the rule that SARIF gives to syntax errors.

A line for people cannot be taken apart, since a path may contain anything. It is compared with the
finding instead. The headings are recognised because every other line contains a parenthesis.

## Main definitions

* `Report.entries`: the findings in a report, the errors first
* `Report.readJson`, `Report.readSarif`: the findings in a value
* `Finding.IsShownAs`: a line shows a finding

## Main results

* `readJson_json`, `readSarif_sarif`, `forall₂_isShownAs`: one for each format
* `formats_agree`: all formats and the exit status together
-/

namespace SqlLint

/-! ## Findings -/

/-- What every format shows of a syntax error or a diagnostic. A syntax error has no kind. -/
structure Finding where
  path : String
  line : Nat
  message : String
  kind : Option DiagnosticKind
  deriving DecidableEq, Repr

namespace Finding

def ofError (path : String) (e : SyntaxError) : Finding := ⟨path, e.line, e.message, none⟩

def ofDiagnostic (path : String) (d : Diagnostic) : Finding :=
  ⟨path, d.line, d.message, some d.kind⟩

/-- Whether the finding is a syntax error. -/
def isError (f : Finding) : Bool := f.kind.isNone

/-- The line shows the finding. The code of a syntax error is not part of the finding. -/
def IsShownAs (f : Finding) (line : String) : Prop :=
  match f.kind with
  | none => ∃ code : Nat, line = s!"{f.path}({f.line}) : ERROR {code} : {f.message}"
  | some kind => line = s!"{f.path}({f.line}) : WARNING {kind.number} : {f.message}"

end Finding

namespace DiagnosticKind

/-- The kind with a name. -/
def ofName? (s : String) : Option DiagnosticKind :=
  all.find? fun k => k.name == s

theorem ofName?_name (k : DiagnosticKind) : ofName? k.name = some k := by
  cases k <;> rfl

end DiagnosticKind

/-! ## Values -/

namespace Json

def text? : Json → Option String
  | string text => some text
  | _ => none

def number? : Json → Option Nat
  | number n => some n
  | _ => none

def items? : Json → Option (List Json)
  | array items => some items
  | _ => none

def field? (name : String) : Json → Option Json
  | object fields => fields.lookup name
  | _ => none

/-- The value at the end of a way of field names. -/
def at? (value : Json) (names : List String) : Option Json :=
  names.foldlM (fun value name => value.field? name) value

end Json

/-- A list is read back from what is written for each of its items. -/
theorem mapM_map_of_read {α β γ : Type} {read : β → Option γ} {write : α → β} {g : α → γ}
    (h : ∀ a, read (write a) = some (g a)) (as : List α) :
    (as.map write).mapM read = some (as.map g) := by
  have hread : read ∘ write = fun a => pure (g a) := funext h
  rw [List.mapM_map, hread, List.mapM_pure]
  rfl

namespace Report

/-- The findings in a report, the errors first. -/
def entries (r : Report) : List Finding :=
  r.findings.errors.map (Finding.ofError r.path) ++
  r.findings.diagnostics.map (Finding.ofDiagnostic r.path)

/-! ## JSON -/

/-- The finding that a value for a syntax error holds. -/
def readJsonError (path : String) (value : Json) : Option Finding := do
  let line ← (← value.field? "line").number?
  let message ← (← value.field? "message").text?
  return ⟨path, line, message, none⟩

/-- The finding that a value for a diagnostic holds. -/
def readJsonDiagnostic (path : String) (value : Json) : Option Finding := do
  let line ← (← value.field? "line").number?
  let message ← (← value.field? "message").text?
  let kind ← DiagnosticKind.ofIdentifier? (← (← value.field? "kind").text?)
  return ⟨path, line, message, some kind⟩

/-- The findings that the value for one input holds. -/
def readJsonFile (value : Json) : Option (List Finding) := do
  let path ← (← value.field? "file").text?
  let errors ← (← (← value.field? "errors").items?).mapM (readJsonError path)
  let diagnostics ← (← (← value.field? "diagnostics").items?).mapM (readJsonDiagnostic path)
  return errors ++ diagnostics

/-- The findings that the plain JSON form holds. -/
def readJson (value : Json) : Option (List Finding) := do
  let files ← (← (← value.field? "files").items?).mapM readJsonFile
  return files.flatten

theorem readJsonError_errorJson (path : String) (e : SyntaxError) :
    readJsonError path (errorJson e) = some (.ofError path e) := rfl

theorem readJsonDiagnostic_diagnosticJson (path : String) (d : Diagnostic) :
    readJsonDiagnostic path (diagnosticJson d) = some (.ofDiagnostic path d) := by
  change (DiagnosticKind.ofIdentifier? d.kind.identifier).bind _ = _
  rw [DiagnosticKind.ofIdentifier?_identifier]
  rfl

theorem readJsonFile_fileJson (r : Report) : readJsonFile (fileJson r) = some r.entries := by
  change ((r.findings.errors.map errorJson).mapM (readJsonError r.path)).bind (fun errors =>
    ((r.findings.diagnostics.map diagnosticJson).mapM (readJsonDiagnostic r.path)).bind
      fun diagnostics => some (errors ++ diagnostics)) = _
  rw [mapM_map_of_read (readJsonError_errorJson r.path),
    mapM_map_of_read (readJsonDiagnostic_diagnosticJson r.path)]
  rfl

theorem readJson_json (reports : List Report) :
    readJson (json reports) = some (reports.flatMap entries) := by
  change ((reports.map fileJson).mapM readJsonFile).bind (fun files => some files.flatten) = _
  rw [mapM_map_of_read readJsonFile_fileJson]
  rfl

/-! ## SARIF -/

/-- What a rule says about a finding: that it is a syntax error, or the kind of the diagnostic. -/
def ruleKind? (rule : String) : Option (Option DiagnosticKind) :=
  if rule = "syntax-error" then some none else (DiagnosticKind.ofName? rule).map some

theorem ruleKind?_name (k : DiagnosticKind) : ruleKind? k.name = some (some k) := by
  have hrule : k.name ≠ "syntax-error" := by cases k <;> decide
  rw [ruleKind?, if_neg hrule, DiagnosticKind.ofName?_name]
  rfl

/-- The finding that a result holds. -/
def readSarifResult (value : Json) : Option Finding := do
  let kind ← ruleKind? (← (← value.field? "ruleId").text?)
  let message ← (← value.at? ["message", "text"]).text?
  let location ← (← (← value.field? "locations").items?).head?
  let path ← (← location.at? ["physicalLocation", "artifactLocation", "uri"]).text?
  let line ← (← location.at? ["physicalLocation", "region", "startLine"]).number?
  return ⟨path, line, message, kind⟩

/-- The findings that a run holds. -/
def readSarifRun (value : Json) : Option (List Finding) := do
  (← (← value.field? "results").items?).mapM readSarifResult

/-- The findings that the SARIF form holds. -/
def readSarif (value : Json) : Option (List Finding) := do
  let runs ← (← (← value.field? "runs").items?).mapM readSarifRun
  return runs.flatten

theorem readSarifResult_sarifResult {rule : String} {kind : Option DiagnosticKind}
    (h : ruleKind? rule = some kind) (level message path : String) (line : Nat) :
    readSarifResult (sarifResult rule level message path line) =
      some ⟨path, line, message, kind⟩ := by
  change (ruleKind? rule).bind _ = _
  rw [h]
  rfl

theorem readSarifResult_sarifError (path : String) (e : SyntaxError) :
    readSarifResult (sarifError path e) = some (.ofError path e) :=
  readSarifResult_sarifResult (if_pos rfl) "error" e.message path e.line

theorem readSarifResult_sarifDiagnostic (path : String) (d : Diagnostic) :
    readSarifResult (sarifDiagnostic path d) = some (.ofDiagnostic path d) :=
  readSarifResult_sarifResult (ruleKind?_name d.kind) (sarifLevel d.severity) d.message path d.line

theorem mapM_readSarifResult (r : Report) :
    (sarifResults r).mapM readSarifResult = some r.entries := by
  rw [sarifResults, List.mapM_append, mapM_map_of_read (readSarifResult_sarifError r.path),
    mapM_map_of_read (readSarifResult_sarifDiagnostic r.path)]
  rfl

theorem mapM_readSarifResult_flatMap (reports : List Report) :
    (reports.flatMap sarifResults).mapM readSarifResult = some (reports.flatMap entries) := by
  induction reports with
  | nil => rfl
  | cons r reports ih =>
    rw [List.flatMap_cons, List.mapM_append, mapM_readSarifResult, ih]
    rfl

theorem readSarif_sarif (reports : List Report) :
    readSarif (sarif reports) = some (reports.flatMap entries) := by
  -- there is one run, and it holds everything
  change (List.mapM readSarifRun [_]).bind (fun runs => some runs.flatten) = _
  rw [List.mapM_cons, List.mapM_nil]
  change (((reports.flatMap sarifResults).mapM readSarifResult).bind fun found =>
    some [found]).bind (fun runs => some runs.flatten) = _
  rw [mapM_readSarifResult_flatMap]
  simp

/-! ## Lines for people -/

/-- Whether a line is a heading. -/
def isHeading (line : String) : Bool := line = "SQL Parse Errors:" || line = "Warnings:"

/-- The lines that show findings. -/
def findingLines (reports : List Report) : List String :=
  (reports.flatMap humanLines).filter fun line => !isHeading line

theorem isShownAs_errorLine (path : String) (e : SyntaxError) :
    (Finding.ofError path e).IsShownAs (errorLine path e) := ⟨e.code, rfl⟩

theorem isShownAs_warningLine (path : String) (d : Diagnostic) :
    (Finding.ofDiagnostic path d).IsShownAs (warningLine path d) := rfl

/-- A line that shows a finding contains a parenthesis. No heading does. -/
theorem isHeading_of_isShownAs {f : Finding} {line : String} (h : f.IsShownAs line) :
    isHeading line = false := by
  have hparen : '(' ∈ line.toList := by
    have hself : '(' ∈ (toString "(").toList := by decide
    unfold Finding.IsShownAs at h
    split at h
    · obtain ⟨code, rfl⟩ := h
      simp [hself]
    · subst h
      simp [hself]
  have hne : ∀ heading : String, '(' ∉ heading.toList → line ≠ heading :=
    fun heading hheading heq => hheading (heq ▸ hparen)
  simp [isHeading, hne "SQL Parse Errors:" (by decide), hne "Warnings:" (by decide)]

theorem filter_underHeading {heading : String} {lines : List String}
    (hheading : isHeading heading) (h : ∀ line ∈ lines, isHeading line = false) :
    (underHeading heading lines).filter (fun line => !isHeading line) = lines := by
  cases lines with
  | nil => rfl
  | cons line lines =>
    rw [underHeading, List.filter_cons_of_neg (by simp [hheading]), List.filter_eq_self]
    intro l hl
    simp [h l hl]

theorem filter_humanLines (r : Report) :
    (humanLines r).filter (fun line => !isHeading line) =
      r.findings.errors.map (errorLine r.path) ++
      r.findings.diagnostics.map (warningLine r.path) := by
  rw [humanLines, List.filter_append, filter_underHeading (by decide),
    filter_underHeading (by decide)]
  · intro line hline
    obtain ⟨d, -, rfl⟩ := List.mem_map.1 hline
    exact isHeading_of_isShownAs (isShownAs_warningLine r.path d)
  · intro line hline
    obtain ⟨e, -, rfl⟩ := List.mem_map.1 hline
    exact isHeading_of_isShownAs (isShownAs_errorLine r.path e)

theorem forall₂_isShownAs (reports : List Report) :
    List.Forall₂ Finding.IsShownAs (reports.flatMap entries) (findingLines reports) := by
  induction reports with
  | nil => exact .nil
  | cons r reports ih =>
    rw [findingLines, List.flatMap_cons, List.flatMap_cons, List.filter_append, filter_humanLines]
    refine List.rel_append (List.rel_append ?_ ?_) ih
    · rw [List.forall₂_map_left_iff, List.forall₂_map_right_iff, List.forall₂_same]
      exact fun e _ => isShownAs_errorLine r.path e
    · rw [List.forall₂_map_left_iff, List.forall₂_map_right_iff, List.forall₂_same]
      exact fun d _ => isShownAs_warningLine r.path d

end Report

/-! ## Runs -/

namespace Run

open Report

/-- The inputs of a run with their paths: what was given on the command line, then the files. -/
def inputs (inline : Option String) (paths texts : List String) : List (String × String) :=
  (inline.map fun text => (inlinePath, text)).toList ++ paths.zip texts

/-- The reports on inputs. -/
def reportsOn (a : Analyzer) (inputs : List (String × String)) : List Report :=
  inputs.map fun input => ⟨input.1, a.analyze input.2⟩

/-- The output of a run holds reports in a format. -/
def Prints (format : Format) (reports : List Report) (stdout stderr : String) : Prop :=
  match format with
  | .human => stderr = String.join ((reports.flatMap humanLines).map (· ++ "\n"))
  | .json => stdout = (json reports).pretty ++ "\n"
  | .sarif => stdout = (sarif reports).pretty ++ "\n"

theorem checkInline_eq (a : Analyzer) (inline : Option String) :
    checkInline a inline = reportsOn a (inline.map fun text => (inlinePath, text)).toList := by
  cases inline with
  | none => rfl
  | some text => rfl

section

variable {m : Type → Type} [Monad m] [LawfulMonad m] {files : FileAccess m}

theorem checkFiles_eq (a : Analyzer) {paths texts : List String}
    (h : List.Forall₂ (fun path text => files.read path = pure (some text)) paths texts) :
    checkFiles files a paths = pure (.ok (reportsOn a (paths.zip texts))) := by
  induction h with
  | nil => rfl
  | cons hread _ ih =>
    simp only [checkFiles, hread, ih, pure_bind]
    rfl

theorem checkInputs_eq (a : Analyzer) {options : Options} {paths texts : List String}
    (hpaths : expandArguments files options.files = pure (.ok paths))
    (hread : List.Forall₂ (fun path text => files.read path = pure (some text)) paths texts)
    (format : Format) :
    checkInputs files options a format = pure (conclude (banner options format) format
      (reportsOn a (inputs options.inline paths texts))) := by
  simp only [checkInputs, hpaths, checkFiles_eq a hread, pure_bind, checkInline_eq]
  rw [inputs, reportsOn, reportsOn, reportsOn, List.map_append]

/-- What a run comes to once its settings are found and its inputs are read. -/
theorem run_eq_conclude {environment : Option String} {args : List String} {options : Options}
    {config : Config} {a : Analyzer} {paths texts : List String}
    (hargs : Options.read? environment args = some (.check options))
    (hlist : options.listWarnings = false)
    (hconfig : findConfig files options.config = pure (.ok config))
    (hanalyzer : (config.overriddenBy options.settings).analyzer = .ok a)
    (hpaths : expandArguments files options.files = pure (.ok paths))
    (hread : List.Forall₂ (fun path text => files.read path = pure (some text)) paths texts) :
    let format := (config.overriddenBy options.settings).format.getD default
    run files environment args = pure (conclude (banner options format) format
      (reportsOn a (inputs options.inline paths texts))) := by
  have hcheck : run files environment args = check files options := by
    rw [run, hargs]
    exact if_neg (by simp [hlist])
  rw [hcheck, check, hconfig, pure_bind]
  simp only [hanalyzer]
  exact checkInputs_eq a hpaths hread _

end

/-- A run ends with its reports in the format chosen. Reports for programs have their stream to
themselves. -/
theorem conclude_eq_finished (options : Options) (format : Format) (reports : List Report) :
    ∃ stdout stderr, conclude (banner options format) format reports =
      .finished (if anyErrors reports then 1 else 0) stdout stderr ∧
      Prints format reports stdout stderr := by
  cases format with
  | human => exact ⟨_, _, rfl, rfl⟩
  | json => exact ⟨_, _, rfl, by simp [Prints, banner]⟩
  | sarif => exact ⟨_, _, rfl, by simp [Prints, banner]⟩

theorem anyErrors_eq (reports : List Report) :
    anyErrors reports = (reports.flatMap entries).any Finding.isError := by
  have hentries : ∀ r : Report, r.entries.any Finding.isError = r.findings.hasErrors := by
    intro r
    rw [entries, List.any_append, List.any_map, List.any_map, Findings.hasErrors]
    cases r.findings.errors with
    | nil => simp [Finding.isError, Finding.ofDiagnostic]
    | cons e es => simp [Finding.isError, Finding.ofError]
  rw [anyErrors, List.any_flatMap]
  simp only [hentries]

/-- Neither the threshold nor the kinds that are turned off matter to syntax errors. -/
theorem anyErrors_reportsOn {a b : Analyzer} (h : a.version = b.version)
    (inputs : List (String × String)) :
    anyErrors (reportsOn a inputs) = anyErrors (reportsOn b inputs) := by
  have hfindings : ∀ text, (a.analyze text).hasErrors = (b.analyze text).hasErrors := by
    intro text
    rw [Analyzer.analyze, Analyzer.analyze, h]
    rfl
  simp only [reportsOn, anyErrors, List.any_map, Function.comp_def, hfindings]

/-- **All formats show the same findings in the same order, and the exit status tells whether there
is a syntax error among them.** What the findings are does not depend on the format, and whether
there is an error among them depends on nothing but the version and the inputs. -/
theorem formats_agree :
    (∀ reports : List Report,
      readJson (json reports) = some (reports.flatMap entries) ∧
      readSarif (sarif reports) = some (reports.flatMap entries) ∧
      List.Forall₂ Finding.IsShownAs (reports.flatMap entries) (findingLines reports)) ∧
    ∀ {m : Type → Type} [Monad m] [LawfulMonad m] (files : FileAccess m)
      (environment : Option String) (args : List String) (options : Options) (config : Config)
      (a : Analyzer) (paths texts : List String),
      Options.read? environment args = some (.check options) → options.listWarnings = false →
      findConfig files options.config = pure (.ok config) →
      (config.overriddenBy options.settings).analyzer = .ok a →
      expandArguments files options.files = pure (.ok paths) →
      List.Forall₂ (fun path text => files.read path = pure (some text)) paths texts →
      ∃ code stdout stderr,
        run files environment args = pure (.finished code stdout stderr) ∧
        Prints ((config.overriddenBy options.settings).format.getD default)
          (reportsOn a (inputs options.inline paths texts)) stdout stderr ∧
        ∀ b : Analyzer, b.version = a.version →
          code = if ((reportsOn b (inputs options.inline paths texts)).flatMap entries).any
            Finding.isError then 1 else 0 := by
  refine ⟨fun reports => ⟨readJson_json reports, readSarif_sarif reports,
    forall₂_isShownAs reports⟩, ?_⟩
  intro m _ _ files environment args options config a paths texts hargs hlist hconfig hanalyzer
    hpaths hread
  obtain ⟨stdout, stderr, hfinished, hprints⟩ := conclude_eq_finished options
    ((config.overriddenBy options.settings).format.getD default)
    (reportsOn a (inputs options.inline paths texts))
  refine ⟨if anyErrors (reportsOn a (inputs options.inline paths texts)) then 1 else 0, stdout,
    stderr, ?_, hprints, fun b hb => ?_⟩
  · rw [run_eq_conclude hargs hlist hconfig hanalyzer hpaths hread, hfinished]
  · rw [← anyErrors_eq, anyErrors_reportsOn hb]

/-- Of two inputs one has a string without an end. With all warnings turned off, the string is the
only finding, in SARIF form too. -/
theorem formats_agree_unclosed_string :
    ∃ document stderr,
      run ((FileTree.directory [("a.sql", .file (some "PRINT 'a"))]).access []) none
        ["--format", "sarif", "-w0", "-i", "PRINT @x", "a.sql"] =
        .finished 1 (document.pretty ++ "\n") stderr ∧
      readSarif document = some [⟨"a.sql", 1, "Unterminated string literal", none⟩] := by
  let options : Options := { Options.empty with
    files := ["a.sql"], inline := some "PRINT @x", settings := ⟨none, some 0, some .sarif, []⟩ }
  let a : Analyzer := ⟨.sql2014, .none, []⟩
  let reports : List Report :=
    [⟨inlinePath, ⟨[], []⟩⟩, ⟨"a.sql", ⟨[.lexical 1 .unclosedString], []⟩⟩]
  have hreports : reportsOn a (inputs options.inline ["a.sql"] ["PRINT 'a"]) = reports := by
    decide +kernel
  obtain ⟨hformats, hruns⟩ := formats_agree
  obtain ⟨code, stdout, stderr, hrun, hprints, hcode⟩ := hruns
    ((FileTree.directory [("a.sql", .file (some "PRINT 'a"))]).access []) none
    ["--format", "sarif", "-w0", "-i", "PRINT @x", "a.sql"] options .empty a ["a.sql"]
    ["PRINT 'a"] rfl rfl rfl rfl rfl (.cons rfl .nil)
  rw [hreports] at hprints
  have hstdout : stdout = (sarif reports).pretty ++ "\n" := hprints
  have hone : code = 1 := by
    rw [hcode a rfl, hreports]
    rfl
  refine ⟨sarif reports, stderr, ?_, (hformats reports).2.1⟩
  rw [hrun, hone, hstdout]
  rfl

end Run

end SqlLint
