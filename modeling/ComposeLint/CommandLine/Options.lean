import ComposeLint.Composition.Mode

/-!
# Options of the command line

The arguments are read from left to right by a fold of one step. An option takes its value from
the same argument, or from the next ones; `--crds` takes any number of them, and cuts each at
commas. A value is looked at as soon as it is complete, so that of two faults the first one
counts, and a request for the version ends the reading. Options that are not given are looked up
in the environment.

Every fault is a usage error.
-/

namespace ComposeLint.CommandLine

structure Options where
  /-- The file of the composition. -/
  composition : String
  /-- The files of resource definitions, in the order in which they are read. -/
  crds : List String := []
  fromCluster : Bool := false
  mode : Option Mode := none
  render : Bool := false

/-- What a command line asks for. -/
inductive Invocation where
  | version
  | check (options : Options)

/-- The options that have values, or are set by their presence. -/
inductive Flag where
  | composition
  | crds
  | fromCluster
  | mode
  | render
  deriving DecidableEq

namespace Flag

def all : List Flag := [composition, crds, fromCluster, mode, render]

def name : Flag → String
  | composition => "composition"
  | crds => "crds"
  | fromCluster => "from-cluster"
  | mode => "mode"
  | render => "render"

def ofName? (s : String) : Option Flag := all.find? (·.name = s)

/-- The environment variable that stands in for an option. -/
def environment : Flag → String
  | composition => "COMPOSITION_VALIDATE_COMPOSITION"
  | crds => "COMPOSITION_VALIDATE_CRDS"
  | fromCluster => "COMPOSITION_VALIDATE_FROM_CLUSTER"
  | mode => "COMPOSITION_VALIDATE_MODE"
  | render => "COMPOSITION_VALIDATE_RENDER"

def takesValue : Flag → Bool
  | composition | crds | mode => true
  | fromCluster | render => false

end Flag

/-- The values given so far, `none` where an option was not given. -/
structure Given where
  composition : Option String := none
  crds : Option (List String) := none
  fromCluster : Option Bool := none
  mode : Option Mode := none
  render : Option Bool := none

def cutAtCommas (s : String) : List String := (s.toList.splitOn ',').map String.ofList

/-- A flag in the environment is written out. -/
def boolOfText? (s : String) : Option Bool :=
  if s = "true" then some true else if s = "false" then some false else none

/-- A value that may be given once. -/
def once {α : Type} (value : Option α) (new : α) : Option (Option α) :=
  if value.isSome then none else some (some new)

namespace Given

def isGiven (g : Given) : Flag → Bool
  | .composition => g.composition.isSome
  | .crds => g.crds.isSome
  | .fromCluster => g.fromCluster.isSome
  | .mode => g.mode.isSome
  | .render => g.render.isSome

/-- Takes in an option with its values. File names must not be empty, and only `--crds` may be
given again. -/
def give (g : Given) (flag : Flag) (values : List String) : Option Given :=
  match flag, values with
  | .composition, [file] => do
    if file = "" then none else return { g with composition := ← once g.composition file }
  | .crds, first :: rest => do
    let files := (first :: rest).flatMap cutAtCommas
    if files.contains "" then none else return { g with crds := some (g.crds.getD [] ++ files) }
  | .mode, [name] => do
    let mode ← Mode.ofName? name
    return { g with mode := ← once g.mode mode }
  | .fromCluster, [text] => do
    return { g with fromCluster := ← once g.fromCluster (← boolOfText? text) }
  | .render, [text] => do return { g with render := ← once g.render (← boolOfText? text) }
  | _, _ => none

/-- Fills an option that was not given from the environment. -/
def fill (env : String → Option String) (g : Given) (flag : Flag) : Option Given :=
  if g.isGiven flag then some g
  else
    match env flag.environment with
    | none => some g
    | some value => g.give flag [value]

/-- The options; the composition must be among them. -/
def options? (g : Given) : Option Options := do
  return {
    composition := ← g.composition
    crds := g.crds.getD []
    fromCluster := g.fromCluster.getD false
    mode := g.mode
    render := g.render.getD false }

end Given

/-- Where in the arguments the reader stands. -/
inductive Place where
  /-- Before an option. -/
  | free
  /-- After an option, of whose values these were read. -/
  | values (flag : Flag) (read : List String)
  /-- After two dashes, where there is nothing to be given. -/
  | closed
  /-- After a request for the version, where nothing counts. -/
  | version

structure Reader where
  given : Given := {}
  place : Place := .free

/-- An argument by its form. -/
inductive Argument where
  /-- Two dashes. -/
  | closing
  /-- Two dashes and a name, perhaps with a value after an equals sign. -/
  | long (name : String) (value : Option String)
  /-- A dash, a letter and what follows it. -/
  | short (letter : Char) (rest : String)
  | plain (text : String)

namespace Argument

def ofText (text : String) : Argument :=
  match text.toList with
  | ['-', '-'] => closing
  | '-' :: '-' :: cs =>
    let value := match cs.dropWhile (· ≠ '=') with
      | [] => none
      | _ :: rest => some (String.ofList rest)
    long (String.ofList (cs.takeWhile (· ≠ '='))) value
  | '-' :: letter :: rest => short letter (String.ofList rest)
  | _ => plain text

/-- The value in the rest of an argument of one letter; an equals sign before it is passed
over. -/
def attached? (rest : String) : Option String :=
  match rest.toList with
  | [] => none
  | '=' :: value => some (String.ofList value)
  | _ => some rest

end Argument

namespace Reader

/-- Takes in the option whose values were being read. -/
def finish (r : Reader) : Option Given :=
  match r.place with
  | .values flag read => r.given.give flag read
  | .free | .closed | .version => some r.given

/-- Whether an option takes another value. -/
def wantsMore (flag : Flag) (read : List String) : Bool := flag = .crds || read.isEmpty

/-- Begins an option, with a value if one is attached to it. -/
def begin (given : Given) (flag : Flag) (value : Option String) : Option Reader :=
  match value with
  | none =>
    if flag.takesValue then some ⟨given, .values flag []⟩
    else (given.give flag ["true"]).map (⟨·, .free⟩)
  | some value => if flag.takesValue then (given.give flag [value]).map (⟨·, .free⟩) else none

def step (r : Reader) (text : String) : Option Reader :=
  match r.place with
  | .version => some r
  | .closed => none
  | .free | .values _ _ =>
    match Argument.ofText text with
    | .closing => r.finish.map (⟨·, .closed⟩)
    | .long "version" none => r.finish.map (⟨·, .version⟩)
    | .long name value => do begin (← r.finish) (← Flag.ofName? name) value
    | .short 'V' _ => r.finish.map (⟨·, .version⟩)
    | .short 'c' rest => do begin (← r.finish) .composition (Argument.attached? rest)
    | .short _ _ => none
    | .plain value =>
      match r.place with
      | .values flag read =>
        if wantsMore flag read then some ⟨r.given, .values flag (read ++ [value])⟩ else none
      | _ => none

end Reader

/-- What a command line asks for in an environment, `none` if it cannot be used. -/
def Invocation.ofArguments? (arguments : List String) (env : String → Option String) :
    Option Invocation := do
  let r ← arguments.foldlM Reader.step {}
  match r.place with
  | .version => return version
  | _ =>
    let given ← Flag.all.foldlM (Given.fill env) (← r.finish)
    return check (← given.options?)

end ComposeLint.CommandLine
