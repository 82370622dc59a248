import VirtualKubelet.Drivers.Iosxe.RunOpts

/-!
# What the run options say of a workload

The labels come before the environment in the packing, so the line that has a
label shows it first: `extract_label`. The other lines are searched as well, and
in the order the device returns them. So the recovered identity is the Pod's in
every order exactly if no line, read alone, shows anything else.
-/

namespace VirtualKubelet.Drivers.Iosxe

open Go
open List hiding after head tail

variable {pod : Pod} {container : Container} {listers : Listers} {text : List Char}
  {lines opts rest values : List String} {key value opt : String} {p : Packing}
  {groups : List (List String)} {label : String × String}

/-! ## Packing -/

/-- Options with a blank between them. -/
def joinBlank : List String → String
  | [] => ""
  | [opt] => opt
  | opt :: opts => opt ++ " " ++ joinBlank opts

theorem joinBlank_cons (h : opts ≠ []) :
    joinBlank (opt :: opts) = opt ++ " " ++ joinBlank opts := by
  cases opts with
  | nil => exact absurd rfl h
  | cons opt' opts => rfl

theorem joinBlank_snoc (h : opts ≠ []) :
    joinBlank (opts ++ [opt]) = joinBlank opts ++ " " ++ opt := by
  induction opts with
  | nil => exact absurd rfl h
  | cons first opts ih =>
    cases opts with
    | nil => rfl
    | cons second opts =>
      rw [cons_append, joinBlank_cons (by simp), ih (by simp),
        joinBlank_cons (cons_ne_nil second opts)]
      simp only [String.append_assoc]

theorem joinBlank_ne_empty (h : opts ≠ []) (hopts : ∀ opt ∈ opts, opt ≠ "") :
    joinBlank opts ≠ "" := by
  cases opts with
  | nil => exact absurd rfl h
  | cons opt opts =>
    have hopt := hopts opt mem_cons_self
    cases opts with
    | nil => exact hopt
    | cons opt' opts =>
      rw [joinBlank_cons (by simp)]
      intro hempty
      simp [String.append_eq_empty_iff] at hempty

/-- The options handled so far, in order, make up the lines and the one being
filled. -/
structure Packed (opts : List String) (p : Packing) (groups : List (List String))
    (current : List String) : Prop where
  options : groups.flatten ++ current = opts
  lines : p.lines = groups.map fun group => trimSpace (joinBlank group)
  currentLine : p.currentLine = joinBlank current
  full : [] ∉ groups

theorem packed_addLine (hopts : ∀ opt ∈ opts, opt ≠ "") (hpacked : Packed opts p groups current)
    (h : p.addLine = .ok p') : ∃ groups', Packed opts p' groups' [] := by
  rw [Packing.addLine] at h
  split at h
  · rename_i hempty
    cases h
    rw [hpacked.currentLine] at hempty
    have hnil : current = [] := by
      by_contra hne
      refine joinBlank_ne_empty hne (fun opt hopt => hopts opt ?_) hempty
      rw [← hpacked.options]
      exact mem_append_right _ hopt
    rw [hnil] at hpacked
    exact ⟨groups, hpacked⟩
  · rename_i hne
    split at h
    · cases h
    cases h
    refine ⟨groups ++ [current], ?_, ?_, rfl, ?_⟩
    · rw [flatten_append, flatten_singleton, append_nil]
      exact hpacked.options
    · show p.lines ++ _ = _
      rw [map_append, hpacked.lines, hpacked.currentLine]
      rfl
    intro hmem
    rcases mem_append.mp hmem with hmem | hmem
    · exact hpacked.full hmem
    · rw [← mem_singleton.mp hmem] at hpacked
      exact hne hpacked.currentLine

theorem packed_addOption (hopts : ∀ opt ∈ opts, opt ≠ "") (hpacked : Packed opts p groups current)
    (h : p.addOption opt = .ok p') :
    ∃ groups' current', Packed (opts ++ [opt]) p' groups' current' := by
  rw [Packing.addOption, bind_ok] at h
  generalize (opt.utf8ByteSize + if p.currentLine = "" then 0 else 1) = needed at h
  obtain ⟨q, hq, h⟩ := h
  obtain ⟨groups', current', hpacked⟩ : ∃ groups' current', Packed opts q groups' current' := by
    rw [Packing.makeRoom] at hq
    split at hq
    · obtain ⟨groups', hpacked⟩ := packed_addLine hopts hpacked hq
      exact ⟨groups', [], hpacked⟩
    · cases hq
      exact ⟨groups, current, hpacked⟩
  split at h
  · cases h
  have hcurrent : q.currentLine = "" ↔ current' = [] := by
    rw [hpacked.currentLine]
    constructor
    · intro hempty
      by_contra hne
      refine joinBlank_ne_empty hne (fun opt hopt => hopts opt ?_) hempty
      rw [← hpacked.options]
      exact mem_append_right _ hopt
    · rintro rfl
      rfl
  have hoptions : groups'.flatten ++ (current' ++ [opt]) = opts ++ [opt] := by
    rw [← append_assoc, hpacked.options]
  split at h
  · rename_i hempty
    cases h
    refine ⟨groups', current' ++ [opt], hoptions, hpacked.lines, ?_, hpacked.full⟩
    rw [hcurrent.mp hempty]
    rfl
  · rename_i hne
    cases h
    refine ⟨groups', current' ++ [opt], hoptions, hpacked.lines, ?_, hpacked.full⟩
    rw [joinBlank_snoc (fun hnil => hne (hcurrent.mpr hnil)), ← hpacked.currentLine]

theorem packed_fold (hopts : ∀ opt ∈ opts, opt ≠ "")
    (h : opts.foldlM Packing.addOption {} = .ok p) :
    ∃ groups current, Packed opts p groups current := by
  -- The options handled are among all of them, so none is empty.
  let I (handled : List String) (p : Packing) : Prop :=
    (∀ opt ∈ handled, opt ≠ "") → ∃ groups current, Packed handled p groups current
  have hstep : ∀ {handled opt p p'}, I handled p → p.addOption opt = .ok p' →
      I (handled ++ [opt]) p' := by
    intro handled opt p p' hI hstep hne
    have hhandled : ∀ opt ∈ handled, opt ≠ "" :=
      fun opt hopt => hne opt (mem_append_left _ hopt)
    obtain ⟨groups, current, hpacked⟩ := hI hhandled
    exact packed_addOption hhandled hpacked hstep
  have hnil : I [] {} := fun _ => ⟨[], [], rfl, rfl, rfl, not_mem_nil⟩
  exact foldlM_ok I hstep hnil h hopts

/-- The lines are the options in order, cut into groups. -/
theorem distributeRunOpts_ok (hbase : base ≠ []) (hopts : ∀ opt ∈ base ++ env, opt ≠ "")
    (h : distributeRunOpts base env = .ok lines) :
    ∃ groups : List (List String), groups.flatten = base ++ env ∧ [] ∉ groups ∧
      lines = groups.map fun group => trimSpace (joinBlank group) := by
  simp only [distributeRunOpts, bind_ok] at h
  obtain ⟨p, hp, q, hq, r, hr, h⟩ := h
  have hfold : (base ++ env).foldlM Packing.addOption {} = .ok q := by
    rw [foldlM_append, bind_ok]
    exact ⟨p, hp, hq⟩
  obtain ⟨groups, current, hpacked⟩ := packed_fold hopts hfold
  obtain ⟨groups, hpacked⟩ := packed_addLine hopts hpacked hr
  have hflat := hpacked.options
  rw [append_nil] at hflat
  refine ⟨groups, hflat, hpacked.full, ?_⟩
  have hlines : r.lines ≠ [] := by
    rw [hpacked.lines]
    intro hnil
    rw [map_eq_nil_iff.mp hnil] at hflat
    exact hbase (append_eq_nil_iff.mp hflat.symm).1
  rw [if_neg hlines] at h
  cases h
  exact hpacked.lines

theorem mem_group (h : groups.flatten = before ++ opt :: after) :
    ∃ group ∈ groups, ∃ first rest, group = first ++ opt :: rest ∧ first <:+ before := by
  induction groups generalizing before with
  | nil => simp at h
  | cons group groups ih =>
    rw [flatten_cons, append_eq_append_iff] at h
    rcases h with ⟨more, hbefore, hrest⟩ | ⟨more, hgroup, hrest⟩
    · -- The group ends before the option.
      obtain ⟨group', hmem, first, rest, hgroup', hsuffix⟩ := ih hrest
      refine ⟨group', mem_cons_of_mem _ hmem, first, rest, hgroup', ?_⟩
      rw [hbefore]
      exact hsuffix.trans (suffix_append _ _)
    · cases more with
      | nil =>
        rw [append_nil] at hgroup
        obtain ⟨group', hmem, first, rest, hgroup', hsuffix⟩ := @ih [] hrest.symm
        refine ⟨group', mem_cons_of_mem _ hmem, first, rest, hgroup', ?_⟩
        rw [suffix_nil.mp hsuffix]
        exact nil_suffix
      | cons opt' more =>
        obtain ⟨rfl, -⟩ := List.cons.inj hrest
        exact ⟨group, mem_cons_self, before, more, hgroup, suffix_rfl⟩

/-! ## Lines are not trimmed -/

/-- A name as the API server admits it: not empty, and without blanks. -/
structure Word (s : String) : Prop where
  nonempty : s ≠ ""
  unspaced : ∀ c ∈ s.toList, isSpace c = false

theorem word_of_all (hnonempty : s ≠ "") (h : s.toList.all (!isSpace ·) = true) : Word s :=
  ⟨hnonempty, by simpa using h⟩

theorem unspaced_ne_blank (h : isSpace c = false) : c ≠ ' ' := by
  rintro rfl
  revert h
  decide

/-- An option with nothing to trim. -/
structure Tight (opt : String) : Prop where
  dash : opt.toList.head? = some '-'
  last : ∀ c ∈ opt.toList.getLast?, isSpace c = false

theorem dropWhile_head {l : List Char} (h : ∀ c ∈ l.head?, isSpace c = false) :
    l.dropWhile isSpace = l := by
  cases l with
  | nil => rfl
  | cons c l => rw [dropWhile_cons_of_neg (by simp [h c rfl])]

theorem trimSpace_tight (h : Tight opt) : trimSpace opt = opt := by
  have hhead : ∀ c ∈ opt.toList.head?, isSpace c = false := by
    rw [h.dash]
    intro c hc
    cases hc
    decide
  have hlast : ∀ c ∈ opt.toList.reverse.head?, isSpace c = false := by
    rw [List.head?_reverse]
    exact h.last
  rw [trimSpace, dropWhile_head hhead, dropWhile_head hlast, reverse_reverse,
    String.ofList_toList]

theorem toList_joinBlank (h : opts ≠ []) :
    (joinBlank (opt :: opts)).toList = opt.toList ++ ' ' :: (joinBlank opts).toList := by
  rw [joinBlank_cons h, String.toList_append, String.toList_append, append_assoc]
  rfl

theorem head_joinBlank (h : opt.toList.head? = some '-') :
    (joinBlank (opt :: opts)).toList.head? = some '-' := by
  by_cases hnil : opts = []
  · rw [hnil]
    exact h
  · rw [toList_joinBlank hnil, List.head?_append, h]
    rfl

theorem tight_joinBlank (hne : opts ≠ []) (h : ∀ opt ∈ opts, Tight opt) :
    Tight (joinBlank opts) := by
  induction opts with
  | nil => exact absurd rfl hne
  | cons opt opts ih =>
    have hopt := h opt mem_cons_self
    by_cases hnil : opts = []
    · rw [hnil]
      exact hopt
    have hrest := ih hnil fun opt hmem => h opt (mem_cons_of_mem _ hmem)
    refine ⟨head_joinBlank hopt.dash, ?_⟩
    · rw [toList_joinBlank hnil, List.getLast?_append]
      cases hlast : (joinBlank opts).toList.getLast? with
      | none =>
        rw [List.getLast?_eq_none_iff] at hlast
        have hdash := hrest.dash
        rw [hlast] at hdash
        cases hdash
      | some c =>
        rw [List.getLast?_cons, hlast]
        intro c' hc'
        cases hc'
        exact hrest.last c hlast

/-- The word that introduces a label. -/
def dashLabel : List Char := ['-', '-', 'l', 'a', 'b', 'e', 'l']

theorem toList_labelOption :
    (labelOption key value).toList = dashLabel ++ ' ' :: (key.toList ++ '=' :: value.toList) := by
  simp [labelOption, dashLabel, String.toList_append]

theorem tight_append {start : String} (hstart : start.toList.head? = some '-') (h : Word value) :
    Tight (start ++ value) := by
  refine ⟨?_, ?_⟩
  · rw [String.toList_append, List.head?_append, hstart]
    rfl
  intro c hc
  rw [String.toList_append, List.getLast?_append] at hc
  cases hlast : value.toList.getLast? with
  | none =>
    rw [List.getLast?_eq_none_iff] at hlast
    exact absurd (String.toList_eq_nil_iff.mp hlast) h.nonempty
  | some c' =>
    rw [hlast] at hc
    cases hc
    exact h.unspaced c (mem_of_getLast? hlast)

theorem head_labelOption : (labelOption key value).toList.head? = some '-' := by
  rw [toList_labelOption]
  rfl

theorem tight_labelOption (h : Word value) : Tight (labelOption key value) := by
  refine tight_append ?_ h
  simp [String.toList_append]

theorem tight_envOption : Tight ("-e " ++ name ++ "=" ++ escapeShellValue value) := by
  refine ⟨?_, ?_⟩
  · simp [String.toList_append]
  · intro c hc
    rw [escapeShellValue, ← String.append_assoc, String.toList_append, List.getLast?_append] at hc
    cases hc
    decide

/-! ## The line of a label -/

/-- What the search relies on in the key of a label. -/
structure LabelKey (key : String) : Prop where
  head : ∀ c ∈ key.toList.head?, c ≠ '-'
  nonempty : key.toList ≠ []
  equals : '=' ∉ key.toList
  blank : ' ' ∉ key.toList

def labelPattern (key : String) : List Char := dashLabel ++ ' ' :: (key.toList ++ ['='])

theorem cutAfter_otherLabel (hkey : LabelKey key) (hkey' : LabelKey key')
    (hne : key ≠ key') (hvalue : Word value) (htext : text.head? = some '-') :
    cutAfter (labelPattern key) ((labelOption key' value).toList ++ ' ' :: text) =
      cutAfter (labelPattern key) text := by
  rw [toList_labelOption, append_assoc, cons_append, labelPattern]
  have hdash : ' ' ∉ dashLabel := by decide
  have hblank : ' ' ∉ key'.toList ++ '=' :: value.toList := by
    intro hmem
    rcases mem_append.mp hmem with hmem | hmem
    · exact hkey'.blank hmem
    · rcases mem_cons.mp hmem with hmem | hmem
      · cases hmem
      · exact unspaced_ne_blank (hvalue.unspaced _ hmem) rfl
  rw [cutAfter_word hdash (by decide) hdash, cutAfter_word hdash (by decide) hblank]
  · rintro ⟨-, hprefix⟩
    -- The next option begins with a dash, the key does not.
    cases hk : key.toList with
    | nil => exact hkey.nonempty hk
    | cons c rest =>
      rw [hk, cons_append] at hprefix
      obtain ⟨tail, rfl⟩ := hprefix
      cases htext
      exact hkey.head '-' (by rw [hk]; rfl) rfl
  · rintro ⟨-, hprefix⟩
    rw [append_assoc, cons_append] at hprefix
    have hword := word_of_prefix hkey.equals hkey'.equals hprefix
    exact hne (String.toList_inj.mp hword.1)

theorem cutAfter_ownLabel :
    cutAfter (labelPattern key) ((labelOption key value).toList ++ text) =
      some (value.toList ++ text) := by
  have hsplit : (labelOption key value).toList ++ text =
      labelPattern key ++ (value.toList ++ text) := by
    rw [toList_labelOption, labelPattern]
    simp
  rw [hsplit]
  exact cutAfter_prefix (.inl (by simp [labelPattern]))

theorem takeWhile_word (hvalue : Word value) (htext : ∀ c ∈ text.head?, c = ' ') :
    (value.toList ++ text).takeWhile (· ≠ ' ') = value.toList := by
  have hword : ∀ c ∈ value.toList, decide (c ≠ ' ') = true :=
    fun c hc => decide_eq_true (unspaced_ne_blank (hvalue.unspaced c hc))
  rw [takeWhile_append_of_pos hword]
  cases text with
  | nil => rw [takeWhile_nil, append_nil]
  | cons c text =>
    rw [takeWhile_cons_of_neg (by simp [htext c rfl]), append_nil]

theorem cutAfter_group {first : List (String × String)} (hkey : LabelKey key)
    (hfirst : ∀ label ∈ first, LabelKey label.1 ∧ key ≠ label.1 ∧ Word label.2) :
    ∃ text, cutAfter (labelPattern key)
        (joinBlank (first.map (fun label => labelOption label.1 label.2) ++
          labelOption key value :: rest)).toList = some (value.toList ++ text) ∧
      ∀ c ∈ text.head?, c = ' ' := by
  induction first with
  | nil =>
    rw [map_nil, nil_append]
    by_cases hnil : rest = []
    · refine ⟨[], ?_, nofun⟩
      have hown := @cutAfter_ownLabel [] key value
      rw [append_nil] at hown
      rw [hnil]
      exact hown
    · rw [toList_joinBlank hnil]
      refine ⟨_, cutAfter_ownLabel, fun c hc => ?_⟩
      cases hc
      rfl
  | cons label first ih =>
    obtain ⟨hkey', hne, hvalue⟩ := hfirst label mem_cons_self
    obtain ⟨text, hcut, htext⟩ := ih fun label hmem => hfirst label (mem_cons_of_mem _ hmem)
    refine ⟨text, ?_, htext⟩
    rw [map_cons, cons_append, toList_joinBlank (by simp),
      cutAfter_otherLabel hkey hkey' hne hvalue]
    · exact hcut
    · cases first with
      | nil | cons label first => exact head_joinBlank head_labelOption

theorem extract_label {first : List (String × String)} (hkey : LabelKey key) (hvalue : Word value)
    (hfirst : ∀ label ∈ first, LabelKey label.1 ∧ key ≠ label.1 ∧ Word label.2) :
    extractLabelValue (joinBlank (first.map (fun label => labelOption label.1 label.2) ++
      labelOption key value :: rest)) key = value := by
  obtain ⟨text, hcut, htext⟩ := @cutAfter_group rest key value first hkey hfirst
  have hpattern : ("--label " ++ key ++ "=").toList = labelPattern key := by
    simp [labelPattern, dashLabel, String.toList_append]
  simp only [extractLabelValue]
  rw [hpattern, hcut]
  show String.ofList ((value.toList ++ text).takeWhile (· ≠ ' ')) = value
  rw [takeWhile_word hvalue htext, String.ofList_toList]

/-! ## The identity over all lines -/

def firstSeen (values : List String) : String := values.foldl seenOr ""

theorem foldl_seenOr (h : seen ≠ "") : values.foldl seenOr seen = seen := by
  induction values with
  | nil => rfl
  | cons value values ih =>
    rw [foldl_cons, seenOr, if_neg h]
    exact ih

theorem firstSeen_cons (h : value ≠ "") : firstSeen (value :: values) = value := by
  rw [firstSeen, foldl_cons, seenOr, if_pos rfl]
  exact foldl_seenOr h

theorem firstSeen_eq (hvalue : value ≠ "") (hmem : value ∈ values)
    (h : ∀ v ∈ values, v = "" ∨ v = value) : firstSeen values = value := by
  induction values with
  | nil => cases hmem
  | cons v values ih =>
    rcases h v mem_cons_self with rfl | rfl
    · have hmem : value ∈ values := (mem_cons.mp hmem).resolve_left hvalue
      rw [firstSeen, foldl_cons, seenOr, if_pos rfl]
      exact ih hmem fun v hv => h v (mem_cons_of_mem _ hv)
    · exact firstSeen_cons hvalue

theorem podIdentity_fields (lines : List String) : podIdentityFromRunOpts lines =
    { «namespace» := firstSeen (lines.map (extractLabelValue · labelPodNamespace))
      name := firstSeen (lines.map (extractLabelValue · labelPodName))
      uid := firstSeen (lines.map (extractLabelValue · labelPodUID))
      container := firstSeen (lines.map (extractLabelValue · labelContainerName)) } := by
  have hfold : ∀ identity : PodIdentity, lines.foldl PodIdentity.read identity =
      { «namespace» := (lines.map (extractLabelValue · labelPodNamespace)).foldl seenOr identity.namespace
        name := (lines.map (extractLabelValue · labelPodName)).foldl seenOr identity.name
        uid := (lines.map (extractLabelValue · labelPodUID)).foldl seenOr identity.uid
        container :=
          (lines.map (extractLabelValue · labelContainerName)).foldl seenOr identity.container } := by
    induction lines with
    | nil =>
      intro identity
      rfl
    | cons line lines ih =>
      intro identity
      rw [foldl_cons, ih]
      rfl
  exact hfold {}

/-! ## Pods -/

/-- The labels of a container, in the order of their options. -/
def labels (pod : Pod) (container : Container) : List (String × String) :=
  [(labelPodName, pod.name), (labelPodNamespace, pod.namespace), (labelPodUID, pod.uid),
   (labelContainerName, container.name)]

/-- The names the API server has admitted. -/
structure Named (pod : Pod) (container : Container) : Prop where
  podNamespace : Word pod.namespace
  podName : Word pod.name
  podUID : Word pod.uid
  containerName : Word container.name

def labelKeys : List String := [labelPodName, labelPodNamespace, labelPodUID, labelContainerName]

theorem labelKey_of_mem (h : key ∈ labelKeys) : LabelKey key := by
  simp only [labelKeys, mem_cons, not_mem_nil, or_false] at h
  rcases h with rfl | rfl | rfl | rfl <;>
    refine ⟨fun c hc => ?_, by decide, by decide, by decide⟩
  all_goals
    cases hc
    decide

theorem mem_labelKeys (h : label ∈ labels pod container) : label.1 ∈ labelKeys :=
  (mem_map_of_mem h : label.1 ∈ (labels pod container).map Prod.fst)

theorem labelKey_of_label (h : label ∈ labels pod container) : LabelKey label.1 :=
  labelKey_of_mem (mem_labelKeys h)

theorem word_of_label (hnamed : Named pod container) (h : label ∈ labels pod container) :
    Word label.2 := by
  simp only [labels, mem_cons, not_mem_nil, or_false] at h
  rcases h with rfl | rfl | rfl | rfl
  · exact hnamed.podName
  · exact hnamed.podNamespace
  · exact hnamed.podUID
  · exact hnamed.containerName

theorem tight_baseOpts (hnamed : Named pod container) (h : opt ∈ baseOpts pod container) :
    Tight opt := by
  have hsplit : baseOpts pod container =
      (labels pod container).map (fun label => labelOption label.1 label.2) ++
        ["--hostname=" ++ container.name] := rfl
  rw [hsplit, mem_append] at h
  rcases h with h | h
  · obtain ⟨label, hlabel, rfl⟩ := mem_map.mp h
    exact tight_labelOption (word_of_label hnamed hlabel)
  · rw [mem_singleton.mp h]
    exact tight_append (by decide) hnamed.containerName

theorem tight_environment (h : buildEnvironmentOptions listers envs = .ok envOpts) :
    ∀ opt ∈ envOpts, Tight opt := by
  induction envs generalizing envOpts with
  | nil =>
    cases h
    exact nofun
  | cons env envs ih =>
    rw [buildEnvironmentOptions] at h
    split at h
    · cases h
    simp only [bind_ok] at h
    obtain ⟨value, -, options, hoptions, h⟩ := h
    split at h
    · cases h
      exact ih hoptions
    cases h
    exact forall_mem_cons.mpr ⟨tight_envOption, ih hoptions⟩

theorem tight_ne_empty (h : Tight opt) : opt ≠ "" := by
  rintro rfl
  cases h.dash

theorem runOpts_ok (hnamed : Named pod container)
    (h : runOpts listers pod container = .ok lines) :
    ∃ (envOpts : List String) (groups : List (List String)),
      buildEnvironmentOptions listers container.env = .ok envOpts ∧
      groups.flatten = baseOpts pod container ++ envOpts ∧ lines = groups.map joinBlank := by
  rw [runOpts, bind_ok] at h
  obtain ⟨envOpts, henv, h⟩ := h
  have htight : ∀ opt ∈ baseOpts pod container ++ envOpts, Tight opt := by
    exact forall_mem_append.mpr ⟨fun _ => tight_baseOpts hnamed, tight_environment henv⟩
  have hbase : baseOpts pod container ≠ [] := cons_ne_nil _ _
  obtain ⟨groups, hflat, hfull, rfl⟩ :=
    distributeRunOpts_ok hbase (fun opt hopt => tight_ne_empty (htight opt hopt)) h
  refine ⟨envOpts, groups, henv, hflat, map_congr_left fun group hgroup => ?_⟩
  refine trimSpace_tight (tight_joinBlank (fun hnil => hfull (hnil ▸ hgroup)) fun opt hopt => ?_)
  exact htight opt (hflat ▸ mem_flatten_of_mem hgroup hopt)

theorem other_label (hsplit : labels pod container = before ++ label :: after)
    (h : label' ∈ before ++ after) : label' ∈ labels pod container ∧ label.1 ≠ label'.1 := by
  have hkeys : ((labels pod container).map Prod.fst).Nodup := by
    show labelKeys.Nodup
    decide
  rw [hsplit, map_append, map_cons, nodup_middle, nodup_cons, ← map_append] at hkeys
  refine ⟨?_, fun heq => hkeys.1 (heq ▸ mem_map_of_mem h)⟩
  rw [hsplit]
  simpa [mem_append, or_left_comm] using Or.inr h

theorem extract_own {before after : List (String × String)} (hnamed : Named pod container)
    (hsplit : labels pod container = before ++ label :: after)
    (hfirst : first <:+ before.map fun label => labelOption label.1 label.2) :
    extractLabelValue (joinBlank (first ++ labelOption label.1 label.2 :: rest)) label.1 =
      label.2 := by
  have hlabel : label ∈ labels pod container :=
    hsplit ▸ mem_append_right _ mem_cons_self
  obtain ⟨before', hsuffix⟩ := hfirst
  obtain ⟨_, labels', hlabels, -, rfl⟩ := map_eq_append_iff.mp hsuffix.symm
  refine extract_label (labelKey_of_label hlabel) (word_of_label hnamed hlabel) ?_
  intro label' hlabel'
  have hbefore : label' ∈ before := hlabels ▸ mem_append_right _ hlabel'
  obtain ⟨hmem, hne⟩ := other_label hsplit (mem_append_left _ hbefore)
  exact ⟨labelKey_of_label hmem, hne, word_of_label hnamed hmem⟩

theorem baseOpts_split (hsplit : labels pod container = before ++ label :: after) :
    baseOpts pod container ++ envOpts =
      (before.map fun label => labelOption label.1 label.2) ++ labelOption label.1 label.2 ::
        ((after.map fun label => labelOption label.1 label.2) ++
          ("--hostname=" ++ container.name) :: envOpts) := by
  have hoptions : baseOpts pod container =
      (labels pod container).map (fun label => labelOption label.1 label.2) ++
        ["--hostname=" ++ container.name] := rfl
  rw [hoptions, hsplit]
  simp

theorem label_shown (hnamed : Named pod container)
    (hflat : groups.flatten = baseOpts pod container ++ envOpts)
    (hlabel : label ∈ labels pod container) :
    ∃ group ∈ groups, extractLabelValue (joinBlank group) label.1 = label.2 := by
  obtain ⟨before, after, hsplit⟩ := append_of_mem hlabel
  rw [baseOpts_split hsplit] at hflat
  obtain ⟨group, hgroup, first, rest, rfl, hfirst⟩ := mem_group hflat
  exact ⟨_, hgroup, extract_own hnamed hsplit hfirst⟩

/-- The line, read alone, shows no label of the container with another value. -/
def Truthful (pod : Pod) (container : Container) (line : String) : Prop :=
  ∀ label ∈ labels pod container, extractLabelValue line label.1 = "" ∨
    extractLabelValue line label.1 = label.2

instance (line : String) : Decidable (Truthful pod container line) :=
  inferInstanceAs (Decidable (∀ label ∈ labels pod container, _))

def identityOf (pod : Pod) (container : Container) : PodIdentity :=
  ⟨pod.namespace, pod.name, pod.uid, container.name⟩

/-! ## Environments without label keys -/

theorem infix_joinBlank {p : List Char} (hne : p ≠ []) (hp : ' ' ∉ p)
    (h : p <:+: (joinBlank opts).toList) : ∃ opt ∈ opts, p <:+: opt.toList := by
  induction opts with
  | nil => exact absurd (infix_nil.mp h) hne
  | cons opt opts ih =>
    by_cases hnil : opts = []
    · rw [hnil] at h
      exact ⟨opt, mem_cons_self, h⟩
    rw [toList_joinBlank hnil] at h
    rcases infix_of_sep hp h with h | h
    · exact ⟨opt, mem_cons_self, h⟩
    · obtain ⟨opt', hmem, h⟩ := ih h
      exact ⟨opt', mem_cons_of_mem _ hmem, h⟩

theorem labelKey_unblank (hkey : key ∈ labelKeys) : ' ' ∉ key.toList ++ ['='] := by
  intro hmem
  rcases mem_append.mp hmem with hmem | hmem
  · exact (labelKey_of_mem hkey).blank hmem
  · cases mem_singleton.mp hmem

theorem key_not_in_label (hkey : key ∈ labelKeys) (hkey' : key' ∈ labelKeys) (hne : key ≠ key')
    (hvalue : '=' ∉ value.toList) : ¬ key.toList ++ ['='] <:+: (labelOption key' value).toList := by
  intro h
  rw [toList_labelOption] at h
  rcases infix_of_sep (labelKey_unblank hkey) h with h | h
  · have hequals : '=' ∈ dashLabel := h.subset (by simp)
    revert hequals
    decide
  · have hsuffix := suffix_of_sep (labelKey_of_mem hkey').equals hvalue h
    have hkeys : ∀ a ∈ labelKeys, ∀ b ∈ labelKeys, a.toList <:+ b.toList → a = b := by decide
    exact hne (hkeys key hkey key' hkey' hsuffix)

theorem key_not_in_hostname (hkey : key ∈ labelKeys) (hvalue : '=' ∉ value.toList) :
    ¬ key.toList ++ ['='] <:+: ("--hostname=" ++ value).toList := by
  intro h
  have hsplit : ("--hostname=" ++ value).toList = "--hostname".toList ++ '=' :: value.toList := by
    simp [String.toList_append]
  rw [hsplit] at h
  have hsuffix := suffix_of_sep (by decide) hvalue h
  have hkeys : ∀ a ∈ labelKeys, ¬ a.toList <:+ "--hostname".toList := by decide
  exact hkeys key hkey hsuffix

theorem group_of_once {P : String → Prop} (h : groups.flatten = before ++ opt :: after)
    (hothers : ∀ other ∈ before ++ after, ¬ P other) (hgroup : group ∈ groups)
    (hmem : only ∈ group) (honly : P only) :
    ∃ first rest, group = first ++ opt :: rest ∧ first <:+ before := by
  obtain rfl : only = opt := by
    have hflat : only ∈ groups.flatten := mem_flatten_of_mem hgroup hmem
    rw [h, mem_append, mem_cons] at hflat
    by_contra hne
    exact hothers only (mem_append.mpr (hflat.imp_right (·.resolve_left hne))) honly
  obtain ⟨groups₁, groups₂, rfl⟩ := append_of_mem hgroup
  obtain ⟨first, rest, rfl⟩ := append_of_mem hmem
  refine ⟨first, rest, rfl, groups₁.flatten, ?_⟩
  have hflat : before ++ only :: after =
      (groups₁.flatten ++ first) ++ only :: (rest ++ groups₂.flatten) := by
    rw [← h]
    simp
  exact ((append_cons_inj_of_notMem (fun hin => hothers _ (mem_append_left _ hin) honly)
    fun hin => hothers _ (mem_append_right _ hin) honly).mp hflat).1.symm

theorem extract_unmentioned {line : String} (h : ¬ key.toList ++ ['='] <:+: line.toList) :
    extractLabelValue line key = "" := by
  have hraw : cutAfter (key ++ "=").toList line.toList = none := by
    rw [← Option.not_isSome_iff_eq_none, cutAfter_isSome]
    simpa [String.toList_append] using h
  have hlabel : cutAfter ("--label " ++ key ++ "=").toList line.toList = none := by
    rw [← Option.not_isSome_iff_eq_none, cutAfter_isSome]
    intro hinfix
    refine h (List.IsInfix.trans ?_ hinfix)
    exact ⟨"--label ".toList, [], by simp [String.toList_append]⟩
  simp only [extractLabelValue]
  rw [hlabel, hraw]

/-- An environment that mentions no label key keeps every line truthful. -/
theorem truthful_of_plain (hnamed : Named pod container)
    (hequals : ∀ label ∈ labels pod container, '=' ∉ label.2.toList)
    (henv : buildEnvironmentOptions listers container.env = .ok envOpts)
    (hplain : ∀ opt ∈ envOpts, ∀ key ∈ labelKeys, ¬ key.toList ++ ['='] <:+: opt.toList)
    (h : runOpts listers pod container = .ok lines) :
    ∀ line ∈ lines, Truthful pod container line := by
  obtain ⟨envOpts', groups, henv', hflat, rfl⟩ := runOpts_ok hnamed h
  cases henv.symm.trans henv'
  intro line hline label hlabel
  obtain ⟨group, hgroup, rfl⟩ := mem_map.mp hline
  by_cases hmention : label.1.toList ++ ['='] <:+: (joinBlank group).toList
  · right
    have hkey := mem_labelKeys hlabel
    obtain ⟨before, after, hsplit⟩ := append_of_mem hlabel
    -- Only the label itself mentions its key.
    have hother : ∀ label' ∈ before ++ after,
        ¬ label.1.toList ++ ['='] <:+: (labelOption label'.1 label'.2).toList := by
      intro label' hlabel'
      obtain ⟨hmem, hne⟩ := other_label hsplit hlabel'
      exact key_not_in_label hkey (mem_labelKeys hmem) hne (hequals label' hmem)
    have hothers : ∀ opt ∈ (before.map fun label => labelOption label.1 label.2) ++
        ((after.map fun label => labelOption label.1 label.2) ++
          ("--hostname=" ++ container.name) :: envOpts), ¬ label.1.toList ++ ['='] <:+: opt.toList := by
      intro opt hopt
      simp only [mem_append, mem_map, mem_cons] at hopt
      rcases hopt with ⟨label', hlabel', rfl⟩ | ⟨label', hlabel', rfl⟩ | rfl | hopt
      · exact hother label' (mem_append_left _ hlabel')
      · exact hother label' (mem_append_right _ hlabel')
      · exact key_not_in_hostname hkey (hequals (labelContainerName, _) (by simp [labels]))
      · exact hplain opt hopt label.1 hkey
    obtain ⟨opt, hopt, hopt'⟩ := infix_joinBlank (by simp) (labelKey_unblank hkey) hmention
    rw [baseOpts_split hsplit] at hflat
    obtain ⟨first, rest, rfl, hfirst⟩ := group_of_once hflat hothers hgroup hopt hopt'
    exact extract_own hnamed hsplit hfirst
  · exact .inl (extract_unmentioned hmention)

/-! ## Sample environments -/

def sampleContainer (value : String) : Container :=
  { name := "app", env := [⟨"NOTE", value, none⟩] }

def forgedLabel : String := "--label io.kubernetes.pod.uid=u-2 "

/-- A Pod whose labels fill a line of run options. -/
def samplePod (value : String) : Pod :=
  ⟨"production", "payments-frontend-7d4b9c6f5d", "2c1d8f0e-55aa-4b7c-9e31-0f6a7b8c9d10",
    [sampleContainer value], false⟩

def sampleLines (value : String) : List String :=
  (runOpts {} (samplePod value) (sampleContainer value)).toOption.getD []

theorem sampleLines_eq {value : String}
    (h : (runOpts {} (samplePod value) (sampleContainer value)).isOk = true) :
    runOpts {} (samplePod value) (sampleContainer value) = .ok (sampleLines value) := by
  rw [sampleLines]
  cases hopts : runOpts {} (samplePod value) (sampleContainer value) with
  | error e =>
    rw [hopts] at h
    cases h
  | ok lines => rfl

theorem samplePod_named (value : String) : Named (samplePod value) (sampleContainer value) where
  podNamespace := show Word "production" from word_of_all (by decide) (by decide)
  podName := show Word "payments-frontend-7d4b9c6f5d" from word_of_all (by decide) (by decide)
  podUID := show Word "2c1d8f0e-55aa-4b7c-9e31-0f6a7b8c9d10" from word_of_all (by decide) (by decide)
  containerName := show Word "app" from word_of_all (by decide) (by decide)

/-! ## The recovered identity -/

/-- **The recovered identity.** It is the container's in every order of the
lines, if and only if every line read alone is truthful. -/
theorem identity_recovered_iff (hnamed : Named pod container)
    (h : runOpts listers pod container = .ok lines) :
    (∀ order, order.Perm lines → podIdentityFromRunOpts order = identityOf pod container) ↔
      ∀ line ∈ lines, Truthful pod container line := by
  constructor
  · intro hall line hline label hlabel
    by_contra hlie
    obtain ⟨hempty, hother⟩ := not_or.mp hlie
    -- The device returns the line first.
    have hfirst := hall (line :: lines.erase line) (perm_cons_erase hline).symm
    rw [podIdentity_fields, identityOf, PodIdentity.mk.injEq] at hfirst
    simp only [labels, mem_cons, not_mem_nil, or_false] at hlabel
    rcases hlabel with rfl | rfl | rfl | rfl
    · exact hother ((firstSeen_cons hempty).symm.trans hfirst.2.1)
    · exact hother ((firstSeen_cons hempty).symm.trans hfirst.1)
    · exact hother ((firstSeen_cons hempty).symm.trans hfirst.2.2.1)
    · exact hother ((firstSeen_cons hempty).symm.trans hfirst.2.2.2)
  · intro htruthful order horder
    have hseen : ∀ label ∈ labels pod container,
        firstSeen (order.map (extractLabelValue · label.1)) = label.2 := by
      intro label hlabel
      obtain ⟨envOpts, groups, -, hflat, hlines⟩ := runOpts_ok hnamed h
      obtain ⟨group, hgroup, hshown⟩ := label_shown hnamed hflat hlabel
      have hline : joinBlank group ∈ order :=
        horder.mem_iff.mpr (hlines ▸ mem_map_of_mem hgroup)
      refine firstSeen_eq (word_of_label hnamed hlabel).nonempty ?_ ?_
      · exact mem_map.mpr ⟨_, hline, hshown⟩
      · intro v hv
        obtain ⟨line', hline', rfl⟩ := mem_map.mp hv
        exact htruthful line' (horder.mem_iff.mp hline') label hlabel
    rw [podIdentity_fields, identityOf, PodIdentity.mk.injEq]
    exact ⟨hseen (labelPodNamespace, _) (by simp [labels]), hseen (labelPodName, _) (by simp [labels]),
      hseen (labelPodUID, _) (by simp [labels]), hseen (labelContainerName, _) (by simp [labels])⟩

theorem quiet_environment_recovered :
    runOpts {} (samplePod "hello world") (sampleContainer "hello world") =
      .ok (sampleLines "hello world") ∧
    ∀ order, order.Perm (sampleLines "hello world") → podIdentityFromRunOpts order =
      identityOf (samplePod "hello world") (sampleContainer "hello world") := by
  have hlines := @sampleLines_eq "hello world" (by decide +kernel)
  refine ⟨hlines, (identity_recovered_iff (samplePod_named _) hlines).mpr ?_⟩
  exact truthful_of_plain (samplePod_named _) (by decide) rfl (by decide +kernel) hlines

/-- The value of the environment fills the second line, and the device returns
that line first. -/
theorem environment_forges_uid :
    runOpts {} (samplePod forgedLabel) (sampleContainer forgedLabel) =
      .ok (sampleLines forgedLabel) ∧
    (sampleLines forgedLabel).reverse.Perm (sampleLines forgedLabel) ∧
    (podIdentityFromRunOpts (sampleLines forgedLabel).reverse).uid = "u-2" :=
  ⟨sampleLines_eq (by decide +kernel), reverse_perm _, by decide +kernel⟩

end VirtualKubelet.Drivers.Iosxe
