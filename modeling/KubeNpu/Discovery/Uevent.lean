import KubeNpu.Discovery.Sysfs

/-!
# `readUevent` inverts the uevent format

A uevent file is a list of lines, most of them `KEY=VALUE`.  `renderUevent` writes
such a file, with a newline after its last line or not, and with lines without an
"=" anywhere between the pairs.

The scanner gives the lines back, up to an empty last line that has no newline
(`rawLines_render`); each line is cut at its first "=" (`recordLine_text`); and
the map that results is the list of pairs written in order, so the last
occurrence of a key decides.
-/

namespace KubeNpu

open Go

/-- A line of a uevent file. -/
inductive UeventLine where
  | pair (key value : String)
  /-- Anything else; the kernel writes no such line. -/
  | noise (text : String)

namespace UeventLine

/-- The text of a line. -/
def text : UeventLine → String
  | pair key value => key ++ "=" ++ value
  | noise text => text

/-- The pair of a line, if it is one. -/
def entry : UeventLine → Option (String × String)
  | pair key value => some (key, value)
  | noise _ => none

/-- What keeps a line apart from its neighbours and a key from its value. -/
def WellFormed : UeventLine → Prop
  | pair key value => '=' ∉ key.toList ∧ '\n' ∉ key.toList ∧ '\n' ∉ value.toList ∧
      value.toList.getLast? ≠ some '\r'
  | noise text => '=' ∉ text.toList ∧ '\n' ∉ text.toList

instance : DecidablePred WellFormed
  | pair _ _ => inferInstanceAs (Decidable (_ ∧ _))
  | noise _ => inferInstanceAs (Decidable (_ ∧ _))

/-- The line fits the scanner's buffer. -/
def Short (line : UeventLine) : Prop := line.text.utf8ByteSize < Scanner.maxScanTokenSize

instance : DecidablePred Short := fun line =>
  inferInstanceAs (Decidable (line.text.utf8ByteSize < Scanner.maxScanTokenSize))

theorem WellFormed.newline_not_mem {line : UeventLine} (h : line.WellFormed) :
    '\n' ∉ line.text.toList := by
  cases line with
  | pair key value =>
      obtain ⟨-, hkey, hvalue, -⟩ := h
      simp [text, hkey, hvalue]
  | noise text => exact h.2

end UeventLine

/-- The file with the given lines; `final` is whether the last line ends in a
newline. -/
def renderUevent (lines : List UeventLine) (final : Bool) : String :=
  String.intercalate "\n" (lines.map UeventLine.text ++ if final then [""] else [])

/-- The pairs of a file, in order. -/
def ueventPairs (lines : List UeventLine) : List (String × String) :=
  lines.filterMap UeventLine.entry

/-! ## The lines -/

theorem Scanner.rawLines_of_split {text : String} {lines : List String}
    (h : Strings.split text '\n' = lines ++ [""]) : Scanner.rawLines text = lines := by
  simp [Scanner.rawLines, h]

/-- **The scanner finds the lines again.**  Without a final newline it does not see
an empty last line. -/
theorem rawLines_render {lines : List UeventLine} (h : ∀ line ∈ lines, line.WellFormed)
    (final : Bool) :
    Scanner.rawLines (renderUevent lines final) = lines.map UeventLine.text ∨
      lines.map UeventLine.text = Scanner.rawLines (renderUevent lines final) ++ [""] := by
  have hlines : ∀ part ∈ lines.map UeventLine.text, '\n' ∉ part.toList := by
    intro part hpart
    obtain ⟨line, hline, rfl⟩ := List.mem_map.mp hpart
    exact (h line hline).newline_not_mem
  cases final with
  | true =>
      refine Or.inl (Scanner.rawLines_of_split ?_)
      refine Strings.split_intercalate '\n' ?_ (by simp)
      intro part hpart
      rcases List.mem_append.mp hpart with hline | hempty
      · exact hlines part hline
      · rw [List.mem_singleton.mp hempty]
        exact List.not_mem_nil
  | false =>
      rcases List.eq_nil_or_concat' lines with rfl | ⟨init, last, rfl⟩
      · exact Or.inl rfl
      · have hsplit : Strings.split (renderUevent (init ++ [last]) false) '\n' =
            (init ++ [last]).map UeventLine.text := by
          rw [renderUevent, if_neg Bool.false_ne_true, List.append_nil]
          exact Strings.split_intercalate '\n' hlines (by simp)
        by_cases hlast : last.text = ""
        · right
          rw [List.map_append, List.map_singleton, hlast] at hsplit ⊢
          rw [Scanner.rawLines_of_split hsplit]
        · left
          rw [Scanner.rawLines, hsplit, if_neg]
          simpa using hlast

/-! ## One line -/

theorem dropCR_text {key value : String} (h : value.toList.getLast? ≠ some '\r') :
    Scanner.dropCR (key ++ "=" ++ value) = key ++ "=" ++ value := by
  rw [← String.toList_inj, Scanner.dropCR, Strings.toList_trimSuffix]
  refine Seq.trimSuffix_of_not_suffix ?_
  rintro ⟨front, hfront⟩
  -- the last character is the value's, or the "=" in front of an empty value
  have hlast : (key ++ "=" ++ value).toList.getLast? = some '\r' :=
    List.getLast?_eq_some_iff.mpr ⟨front, hfront.symm⟩
  rw [String.toList_append, String.toList_append, List.append_assoc, List.getLast?_append,
    List.getLast?_append] at hlast
  cases hvalue : value.toList.getLast? with
  | none =>
      rw [hvalue] at hlast
      cases hlast
  | some c =>
      rw [hvalue] at hlast
      cases hlast
      exact h hvalue

/-- **A line is recorded as its pair**, cut at the first "=". -/
theorem recordLine_text {line : UeventLine} (h : line.WellFormed) (uevent : Map String String) :
    recordLine uevent (Scanner.dropCR line.text) = uevent.putAll line.entry.toList := by
  cases line with
  | pair key value =>
      obtain ⟨hkey, -, -, hvalue⟩ := h
      have hcut : Strings.cut (key ++ "=" ++ value) "=" = some (key, value) := by
        have hlist : (key ++ "=" ++ value).toList = key.toList ++ '=' :: value.toList := by simp
        show (Seq.cut ['='] (key ++ "=" ++ value).toList).map _ = _
        rw [hlist, Seq.cut_singleton_append _ hkey, Option.map_some, String.ofList_toList,
          String.ofList_toList]
      rw [UeventLine.text, dropCR_text hvalue, recordLine, hcut]
      rfl
  | noise text =>
      have hcut : Strings.cut (Scanner.dropCR text) "=" = none := by
        have hnot : '=' ∉ (Scanner.dropCR text).toList := by
          rw [Scanner.dropCR, Strings.toList_trimSuffix]
          exact fun hmem => h.1 (Seq.mem_of_mem_trimSuffix hmem)
        show (Seq.cut ['='] (Scanner.dropCR text).toList).map _ = _
        rw [Seq.cut_singleton_eq_none hnot, Option.map_none]
      rw [UeventLine.text, recordLine, hcut]
      rfl

theorem foldl_recordLine {lines : List UeventLine} (h : ∀ line ∈ lines, line.WellFormed)
    (uevent : Map String String) :
    ((lines.map UeventLine.text).map Scanner.dropCR).foldl recordLine uevent =
      uevent.putAll (ueventPairs lines) := by
  induction lines generalizing uevent with
  | nil => rfl
  | cons line lines ih =>
      have hrest : ∀ l ∈ lines, l.WellFormed := fun l hl => h l (List.mem_cons_of_mem line hl)
      rw [List.map_cons, List.map_cons, List.foldl_cons,
        recordLine_text (h line List.mem_cons_self), ih hrest, ← Map.putAll_append]
      cases hentry : line.entry <;> simp [ueventPairs, hentry]

/-! ## The file -/

/-- The scan of a rendered file gives lines that are recorded as its pairs. -/
theorem scan_render {lines : List UeventLine} (h : ∀ line ∈ lines, line.WellFormed)
    (hshort : ∀ line ∈ lines, line.Short) (final : Bool) :
    ∃ tokens, Scanner.scan ⟨renderUevent lines final, none⟩ = .ok tokens ∧
      tokens.foldl recordLine ∅ = (∅ : Map String String).putAll (ueventPairs lines) := by
  have hraw := rawLines_render h final
  refine ⟨(Scanner.rawLines (renderUevent lines final)).map Scanner.dropCR, ?_, ?_⟩
  · have hfits : ¬ ((Scanner.rawLines (renderUevent lines final)).any fun line =>
        Scanner.maxScanTokenSize ≤ line.utf8ByteSize) = true := by
      rw [List.any_eq_true]
      rintro ⟨token, htoken, hlong⟩
      have hmem : token ∈ lines.map UeventLine.text := by
        rcases hraw with heq | heq
        · rwa [heq] at htoken
        · rw [heq]
          exact List.mem_append_left _ htoken
      obtain ⟨line, hline, rfl⟩ := List.mem_map.mp hmem
      exact absurd (hshort line hline) (Nat.not_lt.mpr (of_decide_eq_true hlong))
    simp only [Scanner.scan, if_neg hfits]
  · rw [← foldl_recordLine h]
    rcases hraw with heq | heq
    · rw [heq]
    · -- the empty line that the scanner does not see records nothing
      rw [heq, List.map_append, List.foldl_append]
      rfl

/-- **`ReadUevent` inverts the uevent format.**  A file of well-formed lines that
fit the scanner's buffer, with or without a final newline, is read as the map in
which each key has the value of its last occurrence, if that map gives DRIVER a
value that is not empty; otherwise reading it is an error. -/
theorem readUevent_render {w : World} {drmPath : String} {lines : List UeventLine} {final : Bool}
    (hformed : ∀ line ∈ lines, line.WellFormed) (hshort : ∀ line ∈ lines, line.Short)
    (hopen : w.openFile (Filepath.join (Filepath.join drmPath "device") "uevent") =
      .ok ⟨renderUevent lines final, none⟩) :
    ((Map.lastWrite (ueventPairs lines) "DRIVER").getD "" ≠ "" →
      ∃ uevent, readUevent w drmPath = .ok uevent ∧
        ∀ key, uevent.lookup key = Map.lastWrite (ueventPairs lines) key) ∧
    ((Map.lastWrite (ueventPairs lines) "DRIVER").getD "" = "" →
      ∃ err, readUevent w drmPath = .error err) := by
  obtain ⟨tokens, hscan, hfold⟩ := scan_render hformed hshort final
  have hlookup : ∀ key, (tokens.foldl recordLine ∅).lookup key =
      Map.lastWrite (ueventPairs lines) key := by
    intro key
    rw [hfold, Map.lookup_putAll]
    simp
  simp only [readUevent, hopen, hscan, hlookup]
  constructor
  · intro hdriver
    rw [if_neg hdriver]
    exact ⟨_, rfl, hlookup⟩
  · intro hdriver
    rw [if_pos hdriver]
    exact ⟨_, rfl⟩

/-- A file with a noise line, a key that occurs twice, and no final newline. -/
def repeatedLines : List UeventLine :=
  [.pair "DRIVER" "i915", .noise "# card0", .pair "PCI_ID" "8086:7D55", .pair "DRIVER" "xe=1"]

/-- A system on which every file is that one. -/
def repeatedWorld : World where
  readDir _ := .ok []
  stat _ := .ok 0
  openFile _ := .ok ⟨renderUevent repeatedLines false, none⟩
  readFile _ := .ok ""
  evalSymlinks path := .ok path

/-- The statement for that file. -/
theorem readUevent_render_repeated :
    ∃ uevent, readUevent repeatedWorld "/sys/class/drm/card0" = .ok uevent ∧
      uevent.lookup "DRIVER" = some "xe=1" ∧ uevent.lookup "PCI_ID" = some "8086:7D55" := by
  have hopen : repeatedWorld.openFile
      (Filepath.join (Filepath.join "/sys/class/drm/card0" "device") "uevent") =
        .ok ⟨renderUevent repeatedLines false, none⟩ := rfl
  obtain ⟨uevent, hread, hlookup⟩ :=
    (readUevent_render (by decide) (by decide) hopen).1 (by decide)
  exact ⟨uevent, hread, hlookup "DRIVER", hlookup "PCI_ID"⟩

end KubeNpu
