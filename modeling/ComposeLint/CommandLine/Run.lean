import ComposeLint.CommandLine.Options
import ComposeLint.Composition.Linter

/-!
# A run of the command line

A run reads the composition and then the files of definitions, in order, and prints every finding
on a line of its own. It fails if a file cannot be read, or if there are findings.
-/

namespace ComposeLint.CommandLine

inductive Failure where
  | unreadableFile (path : String)
  | malformedComposition (path : String)
  | malformedDefinitions (path : String)
  /-- There is no way to reach a cluster. -/
  | noCluster
  | invalid (name : String) (findings : Nat)

def Failure.message : Failure → String
  | unreadableFile path => "failed to read " ++ Text.quoted path
  | malformedComposition path => "failed to parse Composition from " ++ Text.quoted path
  | malformedDefinitions path => "failed to read CRDs from " ++ Text.quoted path
  | noCluster => "failed to create Kubernetes client"
  | invalid name findings =>
    "composition " ++ Text.quoted name ++ s!" is invalid ({findings} problems found)"

/-- What a run prints, and how it ends. -/
structure Outcome where
  exitCode : UInt32
  output : List String := []
  failure : Option Failure := none

/-- The text of each file, `none` if it cannot be read. -/
abbrev Files := String → Option String

def readText (files : Files) (path : String) : Except Failure String :=
  match files path with
  | some text => .ok text
  | none => .error (.unreadableFile path)

/-- A file with a composition holds it as its only document. -/
def readComposition (files : Files) (path : String) : Except Failure Composition := do
  match Json.Documents.parse? (← readText files path) with
  | some [document] =>
    match decode? document with
    | some composition => return composition
    | none => throw (.malformedComposition path)
  | _ => throw (.malformedComposition path)

def readCatalog (files : Files) (path : String) : Except Failure Catalog := do
  (Catalog.ofText (← readText files path)).mapError fun _ => .malformedDefinitions path

/-- One catalog of several files, in which later definitions take the place of earlier ones. -/
def readCatalogs (files : Files) (paths : List String) : Except Failure Catalog :=
  paths.foldlM (fun catalog path => return Keyed.extend catalog (← readCatalog files path)) []

namespace Options

def files (o : Options) : List String := o.composition :: o.crds

def linter (o : Options) : Linter := .standard o.render o.mode

/-- The composition and its findings. -/
def lint (o : Options) (files : Files) : Except Failure (Composition × List Finding) := do
  let composition ← readComposition files o.composition
  let catalog ← readCatalogs files o.crds
  if o.fromCluster then throw .noCluster
  return (composition, o.linter.lint composition catalog.lookup)

def run (o : Options) (files : Files) : Outcome :=
  match o.lint files with
  | .error e => { exitCode := 1, failure := some e }
  | .ok (_, []) => { exitCode := 0 }
  | .ok (composition, findings) =>
    { exitCode := 1
      output := findings.map Finding.render
      failure := some (.invalid composition.name findings.length) }

end Options

/-- What the program says when it is asked for its version. -/
def versionText : String := "composition-validate 0.1.0"

/-- The outcome of what a command line asks for. -/
def Invocation.run (files : Files) : Option Invocation → Outcome
  | none => { exitCode := 2 }
  | some version => { exitCode := 0, output := [versionText] }
  | some (check options) => options.run files

end ComposeLint.CommandLine
