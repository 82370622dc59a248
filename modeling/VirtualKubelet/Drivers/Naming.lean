import VirtualKubelet.Go.Map
import VirtualKubelet.Go.Number
import VirtualKubelet.Go.Search

/-!
# Names of hosted apps

A container of a Pod runs on the device as one app. The app's name carries the
index of the container and the UID of the Pod, its run options carry the labels
of both. The drivers read the identity back from either.
-/

namespace VirtualKubelet.Drivers

open Go

def labelPodName : String := "io.kubernetes.pod.name"
def labelPodNamespace : String := "io.kubernetes.pod.namespace"
def labelPodUID : String := "io.kubernetes.pod.uid"
def labelContainerName : String := "io.kubernetes.container.name"

/-- Names that fit in one Docker environment assignment. -/
def isPortableEnvironmentVariableName (name : String) : Bool :=
  let alpha (c : Char) := ('A' ≤ c && c ≤ 'Z') || ('a' ≤ c && c ≤ 'z') || c == '_'
  match name.toList with
  | [] => false
  | c :: rest => alpha c && rest.all fun c => alpha c || isDigit c

/-! ## App names -/

/-- `%04d`: the sign counts for the width. -/
def fourDigits (n : Int) : String :=
  let digits := Nat.toDigits 10 n.natAbs
  if n < 0 then String.ofList ('-' :: (List.replicate (3 - digits.length) '0' ++ digits))
  else String.ofList (List.replicate (4 - digits.length) '0' ++ digits)

def cleanUID (uid : String) : String := removeAll '-' uid

def cvkAppNamePrefix : String := "cvk"

def getAppHostingName (uid : String) (index : Int8) : String :=
  cvkAppNamePrefix ++ fourDigits index.toInt ++ "_" ++ cleanUID uid

def generateContainerAppIDs (uid : String) (containers : List String) : Go.Map String :=
  (containers.zipIdx).foldl
    (fun appIDs c => appIDs.set c.1 (getAppHostingName uid (Int8.ofNat c.2))) ∅

theorem generate_snoc (uid : String) (names : List String) (last : String) :
    generateContainerAppIDs uid (names ++ [last]) = (generateContainerAppIDs uid names).set last
      (getAppHostingName uid (Int8.ofNat names.length)) := by
  simp [generateContainerAppIDs, List.zipIdx_append]

theorem mem_of_generate {names : List String}
    (h : (generateContainerAppIDs uid names).find name = some appID) : name ∈ names := by
  induction names using List.reverseRecOn with
  | nil => cases h
  | append_singleton rest last ih =>
    rw [generate_snoc, Map.find_set_iff] at h
    rcases h with ⟨rfl, -⟩ | ⟨-, h⟩
    · simp
    · exact List.mem_append_left _ (ih h)

/-- Of containers with one name, the last decides. -/
theorem generate_last (uid : String) {name : String} {names : List String} (h : name ∈ names) :
    ∃ i, names[i]? = some name ∧ (∀ j, i < j → names[j]? ≠ some name) ∧
      (generateContainerAppIDs uid names).find name =
        some (getAppHostingName uid (Int8.ofNat i)) := by
  induction names using List.reverseRecOn with
  | nil => cases h
  | append_singleton rest last ih =>
    rw [generate_snoc]
    by_cases hname : name = last
    · subst hname
      refine ⟨rest.length, by simp, fun j hj => ?_, Map.find_set_self⟩
      rw [List.getElem?_eq_none (by simp; omega)]
      exact nofun
    · obtain ⟨i, hi, hlast, hfind⟩ := ih ((List.mem_append.mp h).resolve_right (by simpa using hname))
      obtain ⟨hlt, -⟩ := List.getElem?_eq_some_iff.mp hi
      refine ⟨i, by rw [List.getElem?_append_left hlt, hi], fun j hj => ?_,
        (Map.find_set_ne hname).trans hfind⟩
      rw [List.getElem?_append]
      split
      · exact hlast j hj
      · exact fun hj => hname (by simpa using List.mem_of_getElem? hj)

/-- `strconv.ParseUint` in base ten, without the range check. -/
def parseUint (digits : List Char) : Option Nat :=
  if digits.isEmpty || !digits.all isDigit then none else some (Nat.ofDigitChars 10 digits 0)

def isLowerHex (c : Char) : Bool := ('0' ≤ c && c ≤ '9') || ('a' ≤ c && c ≤ 'f')

/-- The container index and the clean UID in a name of the form
`cvkNNNN_<uid32>`. A character outside ASCII fails one of the tests, so
characters can be counted for bytes. -/
def parseCVKAppName (appName : String) : Option (Nat × String) :=
  let name := appName.toList
  if name.length ≠ 40 then none
  else if name.take 3 ≠ cvkAppNamePrefix.toList then none
  else if name.getD 7 ' ' ≠ '_' then none
  else
    match parseUint ((name.drop 3).take 4) with
    | none => none
    | some index =>
      if 127 < index then none
      else if (name.drop 8).all isLowerHex then some (index, String.ofList (name.drop 8))
      else none

def isCVKManagedApp (appName : String) : Bool := (parseCVKAppName appName).isSome

/-! ## Labels in run options -/

/-- The value behind the first `--label <key>=`, or behind the first `<key>=`
if there is none. It ends at a blank. -/
def extractLabelValue (runOptsLine labelKey : String) : String :=
  let line := runOptsLine.toList
  match cutAfter ("--label " ++ labelKey ++ "=").toList line with
  | some rest => String.ofList (rest.takeWhile (· ≠ ' '))
  | none =>
    match cutAfter (labelKey ++ "=").toList line with
    | some rest => String.ofList (rest.takeWhile (· ≠ ' '))
    | none => ""

def extractContainerNameFromLabels (runOptsLine : String) : String :=
  extractLabelValue runOptsLine labelContainerName

@[ext] structure PodIdentity where
  «namespace» : String := ""
  name : String := ""
  uid : String := ""
  container : String := ""
  deriving DecidableEq

def seenOr (seen value : String) : String := if seen = "" then value else seen

def PodIdentity.read (identity : PodIdentity) (line : String) : PodIdentity where
  «namespace» := seenOr identity.namespace (extractLabelValue line labelPodNamespace)
  name := seenOr identity.name (extractLabelValue line labelPodName)
  uid := seenOr identity.uid (extractLabelValue line labelPodUID)
  container := seenOr identity.container (extractContainerNameFromLabels line)

/-- Each value is taken from the first line in which it appears. -/
def podIdentityFromRunOpts (lines : List String) : PodIdentity := lines.foldl PodIdentity.read {}

end VirtualKubelet.Drivers
