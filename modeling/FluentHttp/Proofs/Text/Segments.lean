import FluentHttp.Text.Segments

/-!
# FluentHttp.Proofs.Text.Segments

The pieces of a text between separators.
-/

namespace FluentHttp.Text

variable {separator : Char}

theorem segmentsOf_ne_nil (text : List Char) : segmentsOf separator text ≠ [] := by
  cases text with
  | nil => exact List.cons_ne_nil _ _
  | cons c rest =>
      rw [segmentsOf]
      split
      · exact List.cons_ne_nil _ _
      · split <;> exact List.cons_ne_nil _ _

/-- A character that is no separator goes on with the first segment of what follows it. -/
theorem segmentsOf_cons_of_ne {c : Char} (h : c ≠ separator) (text : List Char) :
    ∃ first others, segmentsOf separator text = first :: others ∧
      segmentsOf separator (c :: text) = (c :: first) :: others := by
  obtain ⟨first, others, hsegments⟩ := List.exists_cons_of_ne_nil (segmentsOf_ne_nil text)
  exact ⟨first, others, hsegments, by rw [segmentsOf, if_neg h, hsegments]⟩

theorem segmentsOf_of_not_mem {text : List Char} (h : separator ∉ text) :
    segmentsOf separator text = [text] := by
  induction text with
  | nil => rfl
  | cons c rest ih =>
      obtain ⟨hne, hrest⟩ := List.ne_and_not_mem_of_not_mem_cons h
      obtain ⟨first, others, hsegments, hcons⟩ := segmentsOf_cons_of_ne hne.symm rest
      rw [ih hrest] at hsegments
      obtain ⟨rfl, rfl⟩ := List.cons.inj hsegments
      exact hcons

/-- A segment has no separator in it, and any other character no more often than the text. -/
theorem count_of_mem_segmentsOf {text segment : List Char}
    (h : segment ∈ segmentsOf separator text) :
    separator ∉ segment ∧ ∀ c, segment.count c ≤ text.count c := by
  induction text generalizing segment with
  | nil =>
      obtain rfl := List.mem_singleton.1 h
      exact ⟨List.not_mem_nil, fun _ => Nat.le_refl _⟩
  | cons d rest ih =>
      have hrest (c : Char) : rest.count c ≤ (d :: rest).count c := List.count_le_count_cons
      by_cases hd : d = separator
      · rw [segmentsOf, if_pos hd] at h
        rcases List.mem_cons.1 h with rfl | h
        · exact ⟨List.not_mem_nil, fun _ => Nat.zero_le _⟩
        · exact ⟨(ih h).1, fun c => Nat.le_trans ((ih h).2 c) (hrest c)⟩
      · obtain ⟨first, others, hsegments, hcons⟩ := segmentsOf_cons_of_ne hd rest
        rw [hcons] at h
        rw [hsegments] at ih
        rcases List.mem_cons.1 h with rfl | h
        · obtain ⟨hfirst, hcount⟩ := ih List.mem_cons_self
          refine ⟨List.not_mem_cons_of_ne_of_not_mem (Ne.symm hd) hfirst, fun c => ?_⟩
          rw [List.count_cons, List.count_cons]
          exact Nat.add_le_add_right (hcount c) _
        · obtain ⟨hother, hcount⟩ := ih (List.mem_cons_of_mem _ h)
          exact ⟨hother, fun c => Nat.le_trans (hcount c) (hrest c)⟩

theorem count_of_mem_segments {text segment : String} (h : segment ∈ segments separator text) :
    separator ∉ segment.toList ∧ ∀ c, segment.toList.count c ≤ text.toList.count c := by
  obtain ⟨chars, hchars, rfl⟩ := List.mem_map.1 h
  rw [String.toList_ofList]
  exact count_of_mem_segmentsOf hchars

theorem segments_of_not_mem {text : String} (h : separator ∉ text.toList) :
    segments separator text = [text] := by
  rw [segments, segmentsOf_of_not_mem h, List.map_singleton, String.ofList_toList]

/-! ### The text of the segments -/

theorem intercalate_segmentsOf (text : List Char) :
    [separator].intercalate (segmentsOf separator text) = text := by
  induction text with
  | nil => rfl
  | cons c rest ih =>
      by_cases hc : c = separator
      · obtain ⟨first, others, hsegments⟩ := List.exists_cons_of_ne_nil (segmentsOf_ne_nil rest)
        rw [hsegments] at ih
        rw [segmentsOf, if_pos hc, hsegments, List.intercalate_cons_cons, ih, hc]
        rfl
      · obtain ⟨first, others, hsegments, hcons⟩ := segmentsOf_cons_of_ne hc rest
        rw [hsegments] at ih
        rw [hcons, ← ih]
        cases others with
        | nil => simp
        | cons next others => simp [List.intercalate_cons_cons]

/-- A text is its segments with separators between them. -/
theorem intercalate_segments (text : String) :
    [separator].intercalate ((segments separator text).map String.toList) = text.toList := by
  have hchars : (segments separator text).map String.toList = segmentsOf separator text.toList := by
    rw [segments, List.map_map]
    exact (List.map_congr_left fun _ _ => String.toList_ofList).trans (List.map_id _)
  rw [hchars, intercalate_segmentsOf]

theorem mem_intercalate_singleton {c : Char} {pieces : List (List Char)}
    (h : c ∈ [separator].intercalate pieces) : c = separator ∨ ∃ piece ∈ pieces, c ∈ piece := by
  induction pieces with
  | nil => exact absurd h List.not_mem_nil
  | cons piece rest ih =>
      cases rest with
      | nil => exact .inr ⟨piece, List.mem_cons_self, by simpa using h⟩
      | cons next rest =>
          rw [List.intercalate_cons_cons, List.append_assoc] at h
          rcases List.mem_append.1 h with hpiece | h
          · exact .inr ⟨piece, List.mem_cons_self, hpiece⟩
          · rcases List.mem_cons.1 h with hc | hrest
            · exact .inl hc
            · refine (ih hrest).imp_right ?_
              rintro ⟨other, hother, hmem⟩
              exact ⟨other, List.mem_cons_of_mem _ hother, hmem⟩

/-- A character that is no separator is in one of the segments. -/
theorem exists_mem_segments {text : String} {c : Char} (hc : c ≠ separator)
    (hmem : c ∈ text.toList) : ∃ segment ∈ segments separator text, c ∈ segment.toList := by
  have hjoined := @intercalate_segments separator text
  rcases mem_intercalate_singleton (hjoined ▸ hmem) with heq | ⟨piece, hpiece, hmem⟩
  · exact absurd heq hc
  · obtain ⟨segment, hsegment, rfl⟩ := List.mem_map.1 hpiece
    exact ⟨segment, hsegment, hmem⟩

end FluentHttp.Text
