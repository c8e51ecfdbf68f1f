import CrateAtlas.Analysis
import CrateAtlas.CommandLine.Arguments
import CrateAtlas.CommandLine.Help
import CrateAtlas.Export.Document
import CrateAtlas.Export.Mermaid
import CrateAtlas.Export.Outline
import CrateAtlas.Settings.File

/-!
# Runs of the program

A run reads the command line, analyses the crates in a directory and delivers one text, on standard
output or in a file.  It says on standard error what went wrong.

* A directory, settings or a workspace that cannot be used end the run before anything is delivered.
* Otherwise the text is delivered in full, and each diagnostic is reported after it.  The exit
  status is zero if there is none.
-/

set_option autoImplicit false

namespace CrateAtlas

/-- Something that a run says on standard error. -/
inductive Report where
  | log (entry : LogEntry)
  | usage (fault : UsageFault)
  | notDirectory (root : String)
  /-- What ended the run. -/
  | refused (reason : Diagnostic)
  | written (file : Path)
  | notWritten (file : Path) (fault : AccessFault)
  /-- A diagnostic of the analysis. -/
  | problem (d : Diagnostic)
deriving DecidableEq, Repr

/-- The text of a report. -/
def Report.text : Report → String
  | .log entry => entry.line ++ "\n"
  | .usage fault => Help.usage ++ "dgmod: error: " ++ fault.message ++ "\n"
  | .notDirectory root => "Error: '" ++ root ++ "' is not a directory\n"
  | .refused reason => "Error: " ++ reason.message ++ "\n"
  | .written file => "Output written to: " ++ file.render ++ "\n"
  | .notWritten file fault => "Error writing output: " ++ fault.line file ++ "\n"
  | .problem d => "error: " ++ d.message ++ "\n"

/-- What a run leaves behind. -/
structure Outcome where
  /-- The text on standard output. -/
  output : String
  reports : List Report
  tree : FileTree
  /-- The exit status, or why the run broke off. -/
  status : Except Failure Nat

namespace Outcome

/-- The text on standard error. -/
def errorText (o : Outcome) : String := String.join (o.reports.map Report.text)

/-- The run ends with nothing but reports. -/
def refusal (t : FileTree) (reports : List Report) (status : Except Failure Nat) : Outcome :=
  ⟨"", reports, t, status⟩

/-- The run ends with a failure.  A diagnostic is reported; anything else breaks the run off. -/
def ofFailure (t : FileTree) (reports : List Report) : Failure → Outcome
  | .diagnostic d => refusal t (reports ++ [.refused d]) (.ok 1)
  | f => refusal t reports (.error f)

end Outcome

/-- The text of an analysis of a directory in the format that the settings ask for. -/
def Analysis.text (a : Analysis) (t : FileTree) (directory : Path) (s : Settings) :
    Except Failure String :=
  match s.format with
  | .json => Document.checked t (some directory) a.graphs (some 2)
  | .ascii => .ok (Outline.text a.graphs s.style.label)
  | .mermaid => .ok (Mermaid.markdown a.graphs s.orientation.label s.dashedImports)

/-- A text that ends in a line feed. -/
def endLine (s : String) : String := if s.toList.getLast? = some '\n' then s else s ++ "\n"

/-- A text as octets. -/
def octetsOf (s : String) : List Nat := s.toUTF8.toList.map UInt8.toNat

namespace Arguments

/-- The file for the output; an empty name asks for standard output. -/
def outputFile (a : Arguments) : Option Path :=
  a.output.bind fun name => if name.isEmpty then none else some (.parse name)

/-- The settings file that is asked for; an empty name asks for none. -/
def settingsFile (a : Arguments) : Option Path :=
  a.config.bind fun name => if name.isEmpty then none else some (.parse name)

/-- The reports of log entries, if they are asked for. -/
def logReports (a : Arguments) (entries : List LogEntry) : List Report :=
  if a.verbose then entries.map .log else []

/-- Delivers the text of an analysis and reports its diagnostics. -/
def deliver (a : Arguments) (t : FileTree) (reports : List Report) (text : String)
    (diagnostics : List Diagnostic) : Outcome :=
  let problems := diagnostics.map Report.problem
  let status : Except Failure Nat := .ok (if diagnostics.isEmpty then 0 else 1)
  match a.outputFile with
  | none => ⟨endLine text, reports ++ problems, t, status⟩
  | some file =>
    if file.hasNull then .ofFailure t reports .nullInPath
    else
      match t.write file (octetsOf text) with
      | .ok t => ⟨"", reports ++ [.written file] ++ problems, t, status⟩
      | .error fault => .refusal t (reports ++ [.notWritten file fault]) (.ok 1)

/-- The settings and the analysis that arguments ask for, in a directory. -/
def analyse (a : Arguments) (parse : Source.Parser) (read : Yaml.Reader) (t : FileTree)
    (directory : Path) : Logged (Settings × Analysis) := do
  let loaded ← Settings.load read t directory a.settingsFile
  let s ← Logged.ofExcept (loaded.merge a.overrides)
  let analysis ← Analysis.ofDirectory parse t directory s.exclude s.excludeTests
  return (s, analysis)

/-- Does what arguments ask for. -/
def run (a : Arguments) (parse : Source.Parser) (read : Yaml.Reader) (t : FileTree) : Outcome :=
  match t.canonical (.parse a.root) with
  | .error f => .ofFailure t [] f
  | .ok directory =>
    match t.probe t.isDirectory directory with
    | .error f => .ofFailure t [] f
    | .ok false => .refusal t [.notDirectory a.root] (.ok 1)
    | .ok true =>
      let analysed := a.analyse parse read t directory
      let reports := a.logReports analysed.log
      match analysed.result with
      | .error f => .ofFailure t reports f
      | .ok (s, analysis) =>
        match analysis.text t directory s with
        | .error f => .ofFailure t reports f
        | .ok text => a.deliver t reports text analysis.diagnostics

end Arguments

/-- Does what a command line asks for. -/
def run (parse : Source.Parser) (read : Yaml.Reader) (t : FileTree) (args : List String) :
    Outcome :=
  match Arguments.parse args with
  | .ok a => a.run parse read t
  | .error .help => ⟨Help.text, [], t, .ok 0⟩
  | .error (.usage fault) => .refusal t [.usage fault] (.ok 2)

end CrateAtlas
