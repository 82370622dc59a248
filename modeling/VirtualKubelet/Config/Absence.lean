import VirtualKubelet.Go.Search

/-!
# When a failed fetch is taken for absence

A writer that cannot fetch its list asks whether the device answered 404, and
then goes on as if the list were empty. It asks the text of the error, in which
the status stands among the path, the reason and the body of the answer, or the
cause of a failure that had no answer at all. So the number is looked for in
all of them.
-/

namespace VirtualKubelet.Config.Absence

open Go

/-- What comes of a request. Text received keeps one character for each byte. -/
inductive Exchange
  /-- `http.NewRequestWithContext` fails. -/
  | unbuilt (cause : String)
  /-- There is no answer. -/
  | failed (cause : String)
  /-- There is an answer, but not the whole of its body. -/
  | unread (code : Nat) (cause : String)
  | answered (code : Nat) (status body : String)
  /-- Another transport fails, which has no HTTP status. -/
  | foreign (text : String)
  deriving DecidableEq

def Exchange.Is404 : Exchange → Prop
  | unread code _ => code = 404
  | answered code _ _ => code = 404
  | _ => False

def snippet (b : String) (max : Nat) : String :=
  if b.length ≤ max then b else String.ofList (b.toList.take max) ++ "...(truncated)"

/-- `Fetch` of the transport. -/
def fetch (path : String) : Exchange → Except String String
  | .unbuilt cause => .error ("build request: " ++ cause)
  | .failed cause => .error ("transport: " ++ cause)
  | .unread _ cause => .error ("read response: " ++ cause)
  | .answered code status body =>
    if 300 ≤ code then
      .error ("RESTCONF GET " ++ path ++ ": " ++ status ++ ": " ++ snippet body 512)
    else .ok body
  | .foreign text => .error text

def isRESTCONF404 (msg : String) : Bool := contains msg "404" || contains msg "Not Found"

/-- `Fetch` of a writer. The writers differ in what they take for empty and in
how they read a body. -/
def writerFetch {α : Type} (empty : α) (decode : String → Except String α) (path : String)
    (x : Exchange) : Except String α :=
  match fetch path x with
  | .error err => if isRESTCONF404 err then .ok empty else .error err
  | .ok body => decode body

/-- The texts from outside that go into the error. -/
def texts (path : String) : Exchange → List String
  | .unbuilt cause | .failed cause | .unread _ cause | .foreign cause => [cause]
  | .answered code status body => if 300 ≤ code then [path, status, snippet body 512] else []

/-- The fixed words of an error are passed over, and the colons between the
texts are in neither pattern. -/
theorem infix_error {p : List Char} (hp : p = "404".toList ∨ p = "Not Found".toList) :
    (∀ s : List Char, p <:+: "build request: ".toList ++ s ↔ p <:+: s) ∧
    (∀ s : List Char, p <:+: "transport: ".toList ++ s ↔ p <:+: s) ∧
    (∀ s : List Char, p <:+: "read response: ".toList ++ s ↔ p <:+: s) ∧
    (∀ s : List Char, p <:+: "RESTCONF GET ".toList ++ s ↔ p <:+: s) ∧
    ∀ a b : List Char, p <:+: a ++ (": ".toList ++ b) ↔ p <:+: a ∨ p <:+: b := by
  refine ⟨?_, ?_, ?_, ?_, fun a b => ⟨fun h => ?_, fun h => ?_⟩⟩
  iterate 4
    intro s
    rcases hp with rfl | rfl <;> simp [List.infix_cons_iff]
  · have hsep : ':' ∉ p := by rcases hp with rfl | rfl <;> decide
    have h : p <:+: a ++ ':' :: ' ' :: b := h
    rcases infix_of_sep hsep h with h | h
    · exact .inl h
    · rcases List.infix_cons_iff.mp h with h | h
      · rcases hp with rfl | rfl <;> simp at h
      · exact .inr h
  · rcases h with h | h
    · exact h.trans (List.prefix_append _ _).isInfix
    · exact h.trans ((List.suffix_append _ b).trans (List.suffix_append a _)).isInfix

/-- The error is taken for a 404 if one of the texts in it has the mark. -/
theorem marked_iff {path err : String} {x : Exchange} (h : fetch path x = .error err) :
    isRESTCONF404 err = true ↔ ∃ s ∈ texts path x, isRESTCONF404 s = true := by
  obtain ⟨hb, ht, hr, hg, hsep⟩ := infix_error (.inl rfl)
  obtain ⟨hb', ht', hr', hg', hsep'⟩ := infix_error (.inr rfl)
  cases x with
  | answered code status body =>
    by_cases hcode : 300 ≤ code
    · simp only [fetch, hcode, if_true, Except.error.injEq] at h
      subst h
      simp only [isRESTCONF404, Bool.or_eq_true, contains_iff, texts, hcode, if_true,
        String.toList_append, List.append_assoc, hg, hg', hsep, hsep', List.mem_cons,
        List.not_mem_nil, or_false, exists_eq_or_imp, exists_eq_left]
      tauto
    · simp [fetch, hcode] at h
  | unbuilt cause | failed cause | unread code cause | foreign text =>
    simp only [fetch, Except.error.injEq] at h
    subst h
    simp only [isRESTCONF404, Bool.or_eq_true, contains_iff, texts, String.toList_append,
      hb, hb', ht, ht', hr, hr', List.mem_singleton, exists_eq_left]

/-- A failure is reported as an empty configuration only if the device answered
404, exactly if it did, or nothing failed, or no text from outside has the
mark. -/
theorem absence_only_on_404_iff {α : Type} (empty : α) (decode : String → Except String α)
    (path : String) (x : Exchange) :
    ((∃ err, fetch path x = .error err ∧ writerFetch empty decode path x = .ok empty) → x.Is404) ↔
      (x.Is404 ∨ ∀ s ∈ texts path x, isRESTCONF404 s = false) := by
  constructor
  · intro himp
    by_contra hnot
    rw [not_or, not_forall] at hnot
    obtain ⟨hcode, s, hs⟩ := hnot
    rw [Classical.not_imp, Bool.not_eq_false] at hs
    cases h : fetch path x with
    | error err =>
      refine hcode (himp ⟨err, h, ?_⟩)
      simp [writerFetch, h, (marked_iff h).mpr ⟨s, hs⟩]
    | ok body =>
      cases x with
      | answered code status body =>
        by_cases hcode : 300 ≤ code
        · simp [fetch, hcode] at h
        · simp [texts, hcode] at hs
      | _ => cases h
  · rintro (hcode | hclean) ⟨err, herr, hempty⟩
    · exact hcode
    · by_cases hmark : isRESTCONF404 err = true
      · obtain ⟨s, hs, hbad⟩ := (marked_iff herr).mp hmark
        rw [hclean s hs] at hbad
        cases hbad
      · simp [writerFetch, herr, hmark] at hempty

/-- An answer 500 whose body mentions another 404. -/
theorem server_error_taken_for_absence :
    fetch "/data/native/vlan" (.answered 500 "500 Internal Server Error" "session 404 lost") =
      .error "RESTCONF GET /data/native/vlan: 500 Internal Server Error: session 404 lost" ∧
    (writerFetch [] (fun _ => .ok []) "/data/native/vlan"
      (.answered 500 "500 Internal Server Error" "session 404 lost") :
        Except String (List Nat)) = .ok [] := by
  decide +kernel

end VirtualKubelet.Config.Absence
