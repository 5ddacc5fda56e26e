import KubeNpu.Go.Strings

/-!
# Lines of tab-separated cells

The text that a program writes to a `text/tabwriter`: the cells of a line are
separated by tabs and a newline ends every line.  `cells` reads such a text back.
-/

namespace Go.Tabular

/-- A line with the given cells. -/
def line (cells : List String) : String := String.intercalate "\t" cells ++ "\n"

/-- The lines one after the other. -/
def render (rows : List (List String)) : String := String.join (rows.map line)

/-- The cells of each line; nothing stands behind the last newline. -/
def cells (text : String) : List (List String) :=
  (Strings.split text '\n').dropLast.map fun l => Strings.split l '\t'

/-- The text can be a cell. -/
def IsCell (s : String) : Prop := '\t' ∉ s.toList ∧ '\n' ∉ s.toList

instance : DecidablePred IsCell := fun _ => inferInstanceAs (Decidable (_ ∧ _))

/-- What is in no part and not in the separator is not in the joined text. -/
theorem not_mem_intercalate {c : Char} {sep : String} (hsep : c ∉ sep.toList)
    {parts : List String} (h : ∀ part ∈ parts, c ∉ part.toList) :
    c ∉ (String.intercalate sep parts).toList := by
  cases parts with
  | nil => exact List.not_mem_nil
  | cons first rest =>
      induction rest generalizing first with
      | nil =>
          rw [String.intercalate_singleton]
          exact h first List.mem_cons_self
      | cons second rest ih =>
          have hfirst := h first List.mem_cons_self
          have hrest := ih second fun part hpart => h part (List.mem_cons_of_mem first hpart)
          rw [String.intercalate_cons_cons, String.toList_append, String.toList_append]
          simp only [List.mem_append, not_or]
          exact ⟨⟨hfirst, hsep⟩, hrest⟩

/-- Cells with another separator between them can be one cell. -/
theorem isCell_intercalate {sep : String} (hsep : IsCell sep) {parts : List String}
    (h : ∀ part ∈ parts, IsCell part) : IsCell (String.intercalate sep parts) :=
  ⟨not_mem_intercalate hsep.1 fun part hpart => (h part hpart).1,
    not_mem_intercalate hsep.2 fun part hpart => (h part hpart).2⟩

/-- The first line of a text, and the lines after it. -/
private theorem split_line (row : List String) (rest : String)
    (h : ∀ cell ∈ row, IsCell cell) :
    Strings.split (line row ++ rest) '\n' =
      String.intercalate "\t" row :: Strings.split rest '\n' := by
  have hsplit := Strings.split_append_sep (String.intercalate "\t" row) rest '\n'
  rw [Strings.split_eq_singleton (not_mem_intercalate (by decide) fun c hc => (h c hc).2)] at hsplit
  exact hsplit

/-- **The cells are read back.** -/
theorem cells_render {rows : List (List String)}
    (h : ∀ row ∈ rows, row ≠ [] ∧ ∀ cell ∈ row, IsCell cell) : cells (render rows) = rows := by
  have hlines : Strings.split (render rows) '\n' =
      rows.map (String.intercalate "\t") ++ [""] := by
    induction rows with
    | nil => rfl
    | cons row rows ih =>
        have hrest := ih fun row' hrow' => h row' (List.mem_cons_of_mem row hrow')
        rw [render, List.map_cons, String.join_cons,
          split_line row _ (h row List.mem_cons_self).2]
        rw [render] at hrest
        rw [hrest, List.map_cons, List.cons_append]
  rw [cells, hlines, List.dropLast_concat, List.map_map]
  refine (List.map_congr_left ?_).trans (List.map_id rows)
  intro row hrow
  obtain ⟨hne, hcells⟩ := h row hrow
  exact Strings.split_intercalate '\t' (fun cell hcell => (hcells cell hcell).1) hne

end Go.Tabular
