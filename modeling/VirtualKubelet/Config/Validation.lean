import VirtualKubelet.Config.Writers
import VirtualKubelet.Go.Json

/-!
# The mutation scope of a writer

Before an operation is sent, its path is held against the paths the writer may
change. The operation may name its target a second time, by elements, and this
form is not looked at, also when it is the only one.
-/

namespace VirtualKubelet.Config.Validation

open Go

structure Context where
  platform : String
  family : String
  allowedPaths : List String
  allowedWritePrefixes : List String

def Context.allowed (ctx : Context) : List String :=
  if ctx.allowedWritePrefixes = [] then ctx.allowedPaths else ctx.allowedWritePrefixes

def stripKeySuffix (path : String) : String := String.ofList (path.toList.takeWhile (· ≠ '='))

inductive Protocol
  | restconf
  | netconf
  | gnmi

/-- A node, by the names on the way and the keys of the entries. -/
abbrev Node := List (String × Option String)

def pathNode (path : String) : Node :=
  (splitYANGPathSegments path).map fun segment =>
    (stripKeySuffix segment,
      match segment.toList.dropWhile (· ≠ '=') with
      | [] => none
      | _ :: key => some (String.ofList key))

def specNode (spec : List PathElement) : Node :=
  spec.map fun e => (e.name, if e.keys = [] then none else some (",".intercalate (e.keys.map Prod.snd)))

/-- What the operation is about on the device. -/
def target (op : Op) : Protocol → Node
  | .restconf => pathNode op.path
  | .netconf =>
    let path := match op.path.toList with
      | '/' :: rest => rest
      | path => path
    if (path.splitOn '/').length = op.pathSpec.length then specNode op.pathSpec else pathNode op.path
  | .gnmi => if op.pathSpec = [] then pathNode op.path else specNode op.pathSpec

end VirtualKubelet.Config.Validation
