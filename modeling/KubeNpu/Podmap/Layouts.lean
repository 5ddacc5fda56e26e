import KubeNpu.Podmap.Cgroup

/-!
# The two cgroup layouts of the kubelet

With the systemd driver a pod is a slice whose name carries its QoS class and its
UID with dashes escaped, and a container is a scope; with the cgroupfs driver
both are plain directories.  `systemdPath` and `cgroupfsPath` write the two
layouts down, and `parseCgroupPath` reads the same IDs back from both.

The argument for a layout has three parts: no component above the pod names one,
the pod component names its UID, and the container component its ID.
`parseCgroupPath_under` puts them together for any layout.
-/

namespace KubeNpu

open Go

/-! ## The layouts -/

/-- The QoS classes of a pod. -/
inductive QoS where
  | guaranteed
  | burstable
  | besteffort
  deriving DecidableEq, Repr

/-- The name of a QoS class in a path; guaranteed pods have none. -/
def QoS.name : QoS → Option String
  | guaranteed => none
  | burstable => some "burstable"
  | besteffort => some "besteffort"

/-- The path `root/part/part/...`. -/
def under (root : String) (parts : List String) : String :=
  parts.foldl (fun path part => path ++ String.singleton '/' ++ part) root

/-- A pod UID inside the name of a slice. -/
def escapeUID (uid : String) : String := Strings.replaceAll uid '-' '_'

/-- The slices above a pod, with the systemd driver. -/
def systemdParents (qos : QoS) : List String :=
  "kubepods.slice" ::
    match qos.name with
    | none => []
    | some name => ["kubepods-" ++ name ++ ".slice"]

/-- The slice of a pod: `kubepods[-qos]-pod<uid>.slice`. -/
def systemdPod (qos : QoS) (uid : String) : String :=
  match qos.name with
  | none => "kubepods" ++ "-pod" ++ escapeUID uid ++ ".slice"
  | some name => "kubepods-" ++ name ++ "-pod" ++ escapeUID uid ++ ".slice"

/-- The path of a container with the systemd driver. -/
def systemdPath (root : String) (qos : QoS) (uid runtime id : String) (below : List String) :
    String :=
  under root (systemdParents qos ++
    systemdPod qos uid :: (runtime ++ "-" ++ id ++ ".scope") :: below)

/-- The directories above a pod, with the cgroupfs driver. -/
def cgroupfsParents (qos : QoS) : List String :=
  "kubepods" ::
    match qos.name with
    | none => []
    | some name => [name]

/-- The path of a container with the cgroupfs driver. -/
def cgroupfsPath (root : String) (qos : QoS) (uid container : String) (below : List String) :
    String :=
  under root (cgroupfsParents qos ++ ("pod" ++ uid) :: container :: below)

/-! ## Reading a path under a root -/

/-- Splitting takes the components off again; those that contain no slash stay
whole. -/
theorem split_under (root : String) (parts : List String) :
    Strings.split (under root parts) '/' =
      Strings.split root '/' ++ parts.flatMap fun part => Strings.split part '/' := by
  induction parts using List.reverseRecOn with
  | nil => simp [under]
  | append_singleton parts part ih =>
      rw [under, List.foldl_append, List.foldl_cons, List.foldl_nil, Strings.split_append_sep]
      rw [under] at ih
      rw [ih, List.flatMap_append, List.flatMap_singleton, List.append_assoc]

theorem flatMap_split_of_no_slash {parts : List String}
    (h : ∀ part ∈ parts, '/' ∉ part.toList) :
    (parts.flatMap fun part => Strings.split part '/') = parts := by
  induction parts with
  | nil => rfl
  | cons part parts ih =>
      rw [List.flatMap_cons, Strings.split_eq_singleton (h part List.mem_cons_self),
        ih fun p hp => h p (List.mem_cons_of_mem part hp), List.singleton_append]

/-- Components in front of the first "kubepods" one are not looked at. -/
theorem underKubepods_append {above : List String} {part : String} (rest : List String)
    (habove : ∀ p ∈ above, Strings.hasPrefix p "kubepods" = false)
    (hpart : Strings.hasPrefix part "kubepods" = true) :
    underKubepods (above ++ part :: rest) = part :: rest := by
  unfold underKubepods
  rw [List.dropWhile_append_of_pos fun p hp => by rw [habove p hp]; rfl,
    List.dropWhile_cons_of_neg (by rw [hpart]; exact Bool.false_ne_true)]

/-- An empty component names no container. -/
theorem ne_empty_of_containerIDFromPart {container id : String}
    (h : containerIDFromPart container = .ok id) : container ≠ "" := by
  rintro rfl
  cases h

/-- **A layout is read back** if no component above the pod names one, and the pod
and the container component name their IDs. -/
theorem parseCgroupPath_under {root top pod container uid id : String}
    {parents below : List String}
    (hroot : ∀ part ∈ Strings.split root '/', Strings.hasPrefix part "kubepods" = false)
    (htop : Strings.hasPrefix top "kubepods" = true)
    (hparents : ∀ part ∈ top :: parents, podUIDFromPart part = none)
    (hslash : ∀ part ∈ top :: parents ++ [pod, container], '/' ∉ part.toList)
    (hpod : podUIDFromPart pod = some uid)
    (hcontainer : containerIDFromPart container = .ok id) :
    parseCgroupPath (under root (top :: parents ++ pod :: container :: below)) =
      .ok ⟨uid, id⟩ := by
  have hsplit : Strings.split (under root (top :: parents ++ pod :: container :: below)) '/' =
      Strings.split root '/' ++ (top :: parents ++ pod :: container ::
        below.flatMap fun part => Strings.split part '/') := by
    have happend : top :: parents ++ pod :: container :: below =
        (top :: parents ++ [pod, container]) ++ below := by simp
    rw [split_under, happend, List.flatMap_append, flatMap_split_of_no_slash hslash]
    simp
  -- the substring test in front of the scan
  have hcontains : Strings.contains (under root (top :: parents ++ pod :: container :: below))
      "kubepods" = true := by
    refine Strings.contains_iff.mpr ((Strings.hasPrefix_iff.mp htop).isInfix.trans ?_)
    have hmem : top ∈ Strings.split (under root (top :: parents ++ pod :: container :: below))
        '/' := by
      rw [hsplit]
      exact List.mem_append_right _ List.mem_cons_self
    exact Strings.infix_of_mem_split hmem
  -- the scan skips the root, passes over the parents and stops at the pod
  have hunder := underKubepods_append
    (parents ++ pod :: container :: below.flatMap fun part => Strings.split part '/') hroot htop
  rw [← List.cons_append] at hunder
  unfold parseCgroupPath
  rw [hcontains, Filepath.toSlash, hsplit, scanParts_false, hunder,
    scanParts_true_append _ hparents,
    scanParts_true_cons_some hpod (ne_empty_of_containerIDFromPart hcontainer), hcontainer]
  rfl

/-! ## The components -/

/-- A hexadecimal digit is none of the characters that structure a component. -/
theorem not_mem_of_isHex {id : String} (h : isHex id = true) {c : Char}
    (hc : ((c < '0' || '9' < c) && (c < 'a' || 'f' < c)) = true) : c ∉ id.toList := by
  intro hmem
  unfold isHex at h
  split at h
  · cases h
  · have hall := List.all_eq_true.mp h c hmem
    rw [hc] at hall
    cases hall

/-- A bare container ID names itself. -/
theorem containerIDFromPart_id {id : String} (h : isHex id = true) :
    containerIDFromPart id = .ok id := by
  have htrim : Strings.trimSuffix id ".scope" = id := by
    rw [← String.toList_inj, Strings.toList_trimSuffix]
    refine Seq.trimSuffix_of_not_suffix ?_
    intro hsuffix
    exact not_mem_of_isHex (c := '.') h (by decide) (hsuffix.subset (by decide))
  have hcut : cutRuntime id = id := by
    rw [cutRuntime, Strings.lastIndex,
      Seq.lastIndex_eq_none (not_mem_of_isHex (c := '-') h (by decide))]
  simp only [containerIDFromPart, htrim, hcut, h, Bool.not_true, Bool.false_eq_true, if_false]

/-- The runtime's name is cut off at the last dash. -/
theorem cutRuntime_append {id : String} (runtime : String) (h : isHex id = true) :
    cutRuntime (runtime ++ "-" ++ id) = id := by
  have hlist : (runtime ++ "-" ++ id).toList = runtime.toList ++ '-' :: id.toList := by simp
  have hlast : Strings.lastIndex (runtime ++ "-" ++ id) '-' = some runtime.toList.length := by
    rw [Strings.lastIndex, hlist]
    exact Seq.lastIndex_append_cons _ _ (not_mem_of_isHex h (by decide))
  rw [cutRuntime, hlast, ← String.toList_inj, Strings.toList_sliceFrom, hlist]
  simp

/-- A scope names the ID of its container. -/
theorem containerIDFromPart_scope {id : String} (runtime : String) (h : isHex id = true) :
    containerIDFromPart (runtime ++ "-" ++ id ++ ".scope") = .ok id := by
  simp only [containerIDFromPart, Strings.trimSuffix_append, cutRuntime_append runtime h, h,
    Bool.not_true, Bool.false_eq_true, if_false]

/-- A directory with the runtime's name in front does, too: a hexadecimal ID after
a dash never ends in "pe", so it is no scope. -/
theorem containerIDFromPart_runtime {id : String} (runtime : String) (h : isHex id = true) :
    containerIDFromPart (runtime ++ "-" ++ id) = .ok id := by
  have htrim : Strings.trimSuffix (runtime ++ "-" ++ id) ".scope" = runtime ++ "-" ++ id := by
    rw [← String.toList_inj, Strings.toList_trimSuffix]
    refine Seq.trimSuffix_of_not_suffix ?_
    intro hsuffix
    obtain ⟨front, hfront⟩ : ['p', 'e'] <:+ runtime.toList ++ '-' :: id.toList :=
      List.IsSuffix.trans ⟨['.', 's', 'c', 'o'], rfl⟩ (by simpa using hsuffix)
    have hp : 'p' ∉ id.toList := not_mem_of_isHex h (by decide)
    rcases List.eq_nil_or_concat id.toList with hnil | ⟨init, last, hlast⟩
    · exact isHex_ne_empty h (String.toList_inj.mp hnil)
    rcases List.eq_nil_or_concat init with rfl | ⟨init, prev, rfl⟩
    · -- a single digit: the character in front of it is the dash
      have hdash : front ++ ['p', 'e'] = runtime.toList ++ ['-', last] := by
        simpa [hlast] using hfront
      cases List.append_inj_right' hdash rfl
    · have hdigits : front ++ ['p', 'e'] = (runtime.toList ++ '-' :: init) ++ [prev, last] := by
        simpa [hlast] using hfront
      cases List.append_inj_right' hdigits rfl
      exact hp (by simp [hlast])
  simp only [containerIDFromPart, htrim, cutRuntime_append runtime h, h, Bool.not_true,
    Bool.false_eq_true, if_false]

/-- Escaping a UID without underscores loses nothing. -/
theorem replaceAll_escapeUID {uid : String} (h : '_' ∉ uid.toList) :
    Strings.replaceAll (escapeUID uid) '_' '-' = uid := by
  rw [← String.toList_inj, Strings.toList_replaceAll, escapeUID, Strings.toList_replaceAll]
  exact Seq.replaceAll_replaceAll h

theorem escapeUID_ne_empty {uid : String} (h : uid ≠ "") : escapeUID uid ≠ "" :=
  Strings.replaceAll_ne_empty h '-' '_'

/-- A slice name that ends in `.slice`, and in which "-pod" first occurs after
`head`, names what follows. -/
theorem podUIDFromPart_slice (head : String) {uid : String} (hne : uid ≠ "")
    (hunder : '_' ∉ uid.toList)
    (hinit : "kubepods-".toList <+: head.toList ++ "-pod".toList)
    (hcut : ∀ rest, Seq.cut "-pod".toList (head.toList ++ ("-pod".toList ++ rest)) =
      some (head.toList, rest)) :
    podUIDFromPart (head ++ "-pod" ++ escapeUID uid ++ ".slice") = some uid := by
  have hpre : Strings.hasPrefix (head ++ "-pod" ++ escapeUID uid ++ ".slice") "kubepods-" =
      true := by
    refine Strings.hasPrefix_iff.mpr (hinit.trans ?_)
    simp only [String.toList_append, List.append_assoc]
    rw [← List.append_assoc]
    exact List.prefix_append _ _
  have hsuf : Strings.hasSuffix (head ++ "-pod" ++ escapeUID uid ++ ".slice") ".slice" =
      true := by
    refine List.isSuffixOf_iff_suffix.mpr ?_
    simp only [String.toList_append]
    exact List.suffix_append _ _
  have hfound : Strings.cut (head ++ "-pod" ++ escapeUID uid) "-pod" =
      some (head, escapeUID uid) := by
    simp only [Strings.cut, String.toList_append, List.append_assoc, hcut, Option.map_some,
      String.ofList_toList]
  unfold podUIDFromPart
  rw [hpre, hsuf, Strings.trimSuffix_append, hfound]
  simp only [Bool.and_self, if_true, if_neg (escapeUID_ne_empty hne), replaceAll_escapeUID hunder]

theorem podUIDFromPart_systemdPod (qos : QoS) {uid : String} (hne : uid ≠ "")
    (hunder : '_' ∉ uid.toList) : podUIDFromPart (systemdPod qos uid) = some uid := by
  cases qos with
  | guaranteed => exact podUIDFromPart_slice "kubepods" hne hunder (by decide) fun rest => rfl
  | burstable =>
      refine podUIDFromPart_slice ("kubepods-" ++ "burstable") hne hunder (by decide) ?_
      exact fun rest => rfl
  | besteffort =>
      refine podUIDFromPart_slice ("kubepods-" ++ "besteffort") hne hunder (by decide) ?_
      exact fun rest => rfl

theorem podUIDFromPart_cgroupfs {uid : String} (hne : uid ≠ "") :
    podUIDFromPart ("pod" ++ uid) = some uid := by
  have hpre : Strings.hasPrefix ("pod" ++ uid) "kubepods-" = false := by
    rw [Strings.hasPrefix, String.toList_append]
    rfl
  have hcut : Strings.cutPrefix ("pod" ++ uid) "pod" = some uid := by
    rw [Strings.cutPrefix, String.toList_append, Seq.cutPrefix_append, Option.map_some,
      String.ofList_toList]
  unfold podUIDFromPart
  rw [hpre, hcut]
  simp [hne]

/-- The components above a pod name none, and start with a "kubepods" one. -/
theorem systemdParents_none (qos : QoS) :
    ∀ part ∈ systemdParents qos, podUIDFromPart part = none ∧ '/' ∉ part.toList := by
  cases qos <;> decide

theorem cgroupfsParents_none (qos : QoS) :
    ∀ part ∈ cgroupfsParents qos, podUIDFromPart part = none ∧ '/' ∉ part.toList := by
  cases qos <;> decide

theorem slash_not_mem_systemdPod (qos : QoS) {uid : String} (h : '/' ∉ uid.toList) :
    '/' ∉ (systemdPod qos uid).toList := by
  have hescape : '/' ∉ (escapeUID uid).toList := by
    rw [escapeUID, Strings.toList_replaceAll]
    exact fun hmem => h (Seq.mem_replaceAll_of_mem hmem (by decide))
  cases qos <;> simp [systemdPod, QoS.name, hescape]

/-- What the two pod components and a container component have in common. -/
private theorem parse_layout {root uid pod container id : String} {parents below : List String}
    (hroot : ∀ part ∈ Strings.split root '/', Strings.hasPrefix part "kubepods" = false)
    (htop : ∃ top rest, parents = top :: rest ∧ Strings.hasPrefix top "kubepods" = true)
    (hparents : ∀ part ∈ parents, podUIDFromPart part = none ∧ '/' ∉ part.toList)
    (hpod : podUIDFromPart pod = some uid) (hslash : '/' ∉ pod.toList)
    (hcontainer : containerIDFromPart container = .ok id)
    (hcslash : '/' ∉ container.toList) :
    parseCgroupPath (under root (parents ++ pod :: container :: below)) = .ok ⟨uid, id⟩ := by
  obtain ⟨top, rest, rfl, htop⟩ := htop
  refine parseCgroupPath_under hroot htop (fun part hpart => (hparents part hpart).1) ?_ hpod
    hcontainer
  intro part hpart
  rcases List.mem_append.mp hpart with habove | hlow
  · exact (hparents part habove).2
  · rcases List.mem_cons.mp hlow with rfl | hlast
    · exact hslash
    · rw [List.mem_singleton.mp hlast]
      exact hcslash

/-- **Both layouts of the kubelet are read back, to the same IDs.**  The runtime's
name may stand in front of the ID in the cgroupfs layout, or not. -/
theorem parseCgroupPath_layouts {root uid id runtime : String} (qos : QoS) (below : List String)
    (hroot : ∀ part ∈ Strings.split root '/', Strings.hasPrefix part "kubepods" = false)
    (huid : uid ≠ "") (huidSlash : '/' ∉ uid.toList) (huidUnder : '_' ∉ uid.toList)
    (hid : isHex id = true) (hruntime : '/' ∉ runtime.toList) :
    parseCgroupPath (systemdPath root qos uid runtime id below) = .ok ⟨uid, id⟩ ∧
      parseCgroupPath (cgroupfsPath root qos uid id below) = .ok ⟨uid, id⟩ ∧
      parseCgroupPath (cgroupfsPath root qos uid (runtime ++ "-" ++ id) below) =
        .ok ⟨uid, id⟩ := by
  have hidSlash : '/' ∉ id.toList := not_mem_of_isHex hid (by decide)
  have hpodSlash : '/' ∉ ("pod" ++ uid).toList := by simp [huidSlash]
  have hscope : '/' ∉ (runtime ++ "-" ++ id ++ ".scope").toList := by simp [hruntime, hidSlash]
  have hprefixed : '/' ∉ (runtime ++ "-" ++ id).toList := by simp [hruntime, hidSlash]
  refine ⟨?_, ?_, ?_⟩
  · exact parse_layout hroot ⟨_, _, rfl, by decide⟩ (systemdParents_none qos)
      (podUIDFromPart_systemdPod qos huid huidUnder) (slash_not_mem_systemdPod qos huidSlash)
      (containerIDFromPart_scope runtime hid) hscope
  · exact parse_layout hroot ⟨_, _, rfl, by decide⟩ (cgroupfsParents_none qos)
      (podUIDFromPart_cgroupfs huid) hpodSlash (containerIDFromPart_id hid) hidSlash
  · exact parse_layout hroot ⟨_, _, rfl, by decide⟩ (cgroupfsParents_none qos)
      (podUIDFromPart_cgroupfs huid) hpodSlash (containerIDFromPart_runtime runtime hid) hprefixed

/-- The container `0f3e` of the burstable pod `12-34`, under the usual root. -/
theorem parseCgroupPath_layouts_burstable :
    parseCgroupPath (systemdPath "/sys/fs/cgroup" .burstable "12-34" "cri-containerd" "0f3e" []) =
        .ok ⟨"12-34", "0f3e"⟩ ∧
      parseCgroupPath (cgroupfsPath "/sys/fs/cgroup" .burstable "12-34" "0f3e" []) =
        .ok ⟨"12-34", "0f3e"⟩ ∧
      parseCgroupPath (cgroupfsPath "/sys/fs/cgroup" .burstable "12-34"
        ("cri-containerd" ++ "-" ++ "0f3e") []) = .ok ⟨"12-34", "0f3e"⟩ :=
  parseCgroupPath_layouts .burstable [] (by decide) (by decide) (by decide) (by decide)
    (by decide) (by decide)

end KubeNpu
