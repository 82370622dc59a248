import VirtualKubelet.Drivers.Naming
import VirtualKubelet.Go.Checks
import VirtualKubelet.Go.Value

/-!
# Run options of an IOS-XE app

The identity of a container travels to the device as labels in Docker run
options, and its environment as further options behind them. Both are packed
into lines of bounded length.
-/

namespace VirtualKubelet.Drivers.Iosxe

open Go

/-! ## Pods -/

inductive EnvVarSource
  | secretKeyRef (name key : String) (isOptional : Bool)
  | configMapKeyRef (name key : String) (isOptional : Bool)
  | fieldRef
  | resourceFieldRef
  | unsupported
  deriving DecidableEq

structure EnvVar where
  name : String
  value : String := ""
  valueFrom : Option EnvVarSource := none
  deriving DecidableEq

inductive PullPolicy
  | always
  | ifNotPresent
  | never
  deriving DecidableEq

structure Container where
  name : String
  env : List EnvVar := []
  image : String := ""
  imagePullPolicy : PullPolicy := .always
  deriving DecidableEq

structure Pod where
  «namespace» : String
  name : String
  uid : String
  containers : List Container
  /-- Whether the deletion timestamp is set. -/
  deleting : Bool := false
  deriving DecidableEq

/-! ## Environment -/

/-- Data of the objects of one kind, by object and key. -/
abbrev Lister := Go.Map (Go.Map String)

structure Listers where
  secrets : Option Lister := none
  configMaps : Option Lister := none

/-- What both kinds of reference do. -/
def resolveKeyRef (kind : String) (lister : Option Lister) (name key : String) (isOptional : Bool) :
    Except String String :=
  match lister with
  | none => .error (kind ++ " lister not available")
  | some lister =>
    match lister.find name with
    | none =>
      if isOptional then .ok ""
      else .error ("failed to get " ++ kind ++ " " ++ name ++ ": " ++ kind ++ " " ++ quote name ++
        " not found")
    | some data =>
      match data.find key with
      | none =>
        if isOptional then .ok ""
        else .error ("key " ++ key ++ " not found in " ++ kind ++ " " ++ name)
      | some value => .ok value

def resolveSecretKeyRef (listers : Listers) := resolveKeyRef "secret" listers.secrets

def resolveConfigMapKeyRef (listers : Listers) := resolveKeyRef "configmap" listers.configMaps

def resolveEnvVarValueFrom (listers : Listers) : EnvVarSource → Except String String
  | .secretKeyRef name key isOptional => resolveSecretKeyRef listers name key isOptional
  | .configMapKeyRef name key isOptional => resolveConfigMapKeyRef listers name key isOptional
  | .fieldRef => .error "fieldRef environment variables not yet supported"
  | .resourceFieldRef => .error "resourceFieldRef environment variables not yet supported"
  | .unsupported => .error "unsupported environment variable source"

/-- Single quotes around the value, and every quote in it outside of them. -/
def escapeShellValue (value : String) : String :=
  let escaped := value.toList.flatMap fun c => if c = '\'' then "'\\''".toList else [c]
  "'" ++ String.ofList escaped ++ "'"

/-- The value of a variable; one that is empty is left out. -/
def environmentValue (listers : Listers) (env : EnvVar) : Except String String :=
  if env.value ≠ "" then .ok env.value
  else
    match env.valueFrom with
    | none => .ok ""
    | some source =>
      match resolveEnvVarValueFrom listers source with
      | .error e => .error ("failed to resolve environment variable " ++ env.name ++ ": " ++ e)
      | .ok value => .ok value

def buildEnvironmentOptions (listers : Listers) : List EnvVar → Except String (List String)
  | [] => .ok []
  | env :: rest =>
    if !isPortableEnvironmentVariableName env.name then
      .error "environment variable name is not portable across app-hosting transports"
    else do
      let value ← environmentValue listers env
      let options ← buildEnvironmentOptions listers rest
      if value = "" then .ok options
      else .ok (("-e " ++ env.name ++ "=" ++ escapeShellValue value) :: options)

/-! ## Lines -/

def maxRunOptsLines : Nat := 30
def maxRunOptsLineLength : Nat := 235

/-- The finished lines, and the one being filled. -/
structure Packing where
  lines : List String := []
  currentLine : String := ""

namespace Packing

def addLine (p : Packing) : Except String Packing :=
  if p.currentLine = "" then .ok p
  else if maxRunOptsLines < p.lines.length + 1 then
    .error ("too many RunOpts lines needed (max " ++ decimal maxRunOptsLines ++
      "), consider reducing environment variables")
  else .ok { lines := p.lines ++ [trimSpace p.currentLine], currentLine := "" }

/-- Starts a new line if the option would not fit. -/
def makeRoom (p : Packing) (needed : Nat) : Except String Packing :=
  if p.currentLine ≠ "" ∧ maxRunOptsLineLength < p.currentLine.utf8ByteSize + needed then p.addLine
  else .ok p

def addOption (p : Packing) (opt : String) : Except String Packing := do
  let needed := opt.utf8ByteSize + (if p.currentLine = "" then 0 else 1)
  let p ← p.makeRoom needed
  if maxRunOptsLineLength < needed then
    .error ("single RunOpts option too long (" ++ decimal needed ++ " chars, max " ++
      decimal maxRunOptsLineLength ++ ")")
  else if p.currentLine = "" then .ok { p with currentLine := opt }
  else .ok { p with currentLine := p.currentLine ++ " " ++ opt }

end Packing

/-- The lines in the order of their indices. -/
def distributeRunOpts (baseOpts envOpts : List String) : Except String (List String) := do
  let packing ← baseOpts.foldlM Packing.addOption {}
  let packing ← envOpts.foldlM Packing.addOption packing
  let packing ← packing.addLine
  .ok (if packing.lines = [] then [""] else packing.lines)

def labelOption (key value : String) : String := "--label " ++ key ++ "=" ++ value

/-- The options that come before the environment. -/
def baseOpts (pod : Pod) (container : Container) : List String :=
  [labelOption labelPodName pod.name,
   labelOption labelPodNamespace pod.namespace,
   labelOption labelPodUID pod.uid,
   labelOption labelContainerName container.name, "--hostname=" ++ container.name]

def runOpts (listers : Listers) (pod : Pod) (container : Container) :
    Except String (List String) := do
  let envOpts ← buildEnvironmentOptions listers container.env
  distributeRunOpts (baseOpts pod container) envOpts

end VirtualKubelet.Drivers.Iosxe
