import TypeSurvey.Text.Dotted

/-!
# Dotted names and their segments

Cutting at dots and joining with dots undo each other, so a text has the same pieces as another only
if the two are the same. Joining the segments of a text gives the text back exactly if the text is
well dotted: no piece of it is empty.
-/
namespace TypeSurvey.Text

variable {piece cs : List Char} {pieces pieces' : List (List Char)}

theorem splitDots_of_not_mem (h : '.' ∉ piece) : splitDots piece = [piece] := by
  induction piece with
  | nil => rfl
  | cons c piece ih =>
    rw [List.mem_cons, not_or] at h
    rw [splitDots, if_neg (Ne.symm h.1), ih h.2]

theorem splitDots_append_dot (h : '.' ∉ piece) (cs : List Char) :
    splitDots (piece ++ '.' :: cs) = piece :: splitDots cs := by
  induction piece with
  | nil => simp [splitDots]
  | cons c piece ih =>
    rw [List.mem_cons, not_or] at h
    rw [List.cons_append, splitDots, if_neg (Ne.symm h.1), ih h.2]

theorem joinDots_cons (piece : List Char) (h : pieces ≠ []) :
    joinDots (piece :: pieces) = piece ++ '.' :: joinDots pieces := by
  cases pieces with
  | nil => exact absurd rfl h
  | cons next pieces => rfl

theorem joinDots_append (h : pieces ≠ []) (h' : pieces' ≠ []) :
    joinDots (pieces ++ pieces') = joinDots pieces ++ '.' :: joinDots pieces' := by
  induction pieces with
  | nil => exact absurd rfl h
  | cons piece pieces ih =>
    cases pieces with
    | nil => exact joinDots_cons piece h'
    | cons next pieces =>
      have hrest : next :: pieces ≠ [] := List.cons_ne_nil _ _
      have hall : next :: pieces ++ pieces' ≠ [] := List.cons_ne_nil _ _
      rw [List.cons_append, joinDots_cons piece hall, ih hrest, joinDots_cons piece hrest,
        List.append_assoc, List.cons_append]

/-- Joining loses nothing, as long as the pieces have no dots of their own. -/
theorem splitDots_joinDots (hne : pieces ≠ []) (hdots : ∀ piece ∈ pieces, '.' ∉ piece) :
    splitDots (joinDots pieces) = pieces := by
  induction pieces with
  | nil => exact absurd rfl hne
  | cons piece pieces ih =>
    rw [List.forall_mem_cons] at hdots
    cases pieces with
    | nil => exact splitDots_of_not_mem hdots.1
    | cons next pieces =>
      rw [joinDots_cons piece (List.cons_ne_nil _ _), splitDots_append_dot hdots.1,
        ih (List.cons_ne_nil _ _) hdots.2]

/-- The names with dots between. -/
def dotted (names : List String) : String := String.ofList (joinDots (names.map String.toList))

/-- No dot at either end and no two dots in a row. The empty text has no pieces to speak of. -/
def isWellDotted (s : String) : Bool :=
  s.isEmpty || (splitDots s.toList).all fun piece => !piece.isEmpty

variable {s s' name : String}

theorem segment_ne_empty {segment : String} (h : segment ∈ segments s) : segment ≠ "" := by
  obtain ⟨piece, hpiece, rfl⟩ := List.mem_map.mp h
  rintro hempty
  have hnil : piece = [] := by simpa using congrArg String.toList hempty
  simp [hnil] at hpiece

theorem dot_not_mem_segment {segment : String} (h : segment ∈ segments s) :
    '.' ∉ segment.toList := by
  obtain ⟨piece, hpiece, rfl⟩ := List.mem_map.mp h
  rw [String.toList_ofList]
  exact dot_not_mem_piece (List.mem_filter.mp hpiece).1

/-- The text with a name behind it, as it is written in a qualified name. -/
theorem joinNonEmpty_pair (hname : name ≠ "") :
    (joinNonEmpty [s, name]).toList =
      if s = "" then name.toList else s.toList ++ '.' :: name.toList := by
  have hname' : name.toList ≠ [] := by simpa using hname
  by_cases hs : s = ""
  · simp [joinNonEmpty, hs, hname', joinDots]
  · have hs' : s.toList ≠ [] := by simpa using hs
    simp [joinNonEmpty, hs, hs', hname', joinDots]

/-- With the same name behind them, only the same texts give the same. -/
theorem joinNonEmpty_pair_inj (hname : name ≠ "") :
    joinNonEmpty [s, name] = joinNonEmpty [s', name] ↔ s = s' := by
  refine ⟨fun h => ?_, fun h => h ▸ rfl⟩
  rw [← String.toList_inj, joinNonEmpty_pair hname, joinNonEmpty_pair hname] at h
  have hlength := congrArg List.length h
  by_cases hs : s = "" <;> by_cases hs' : s' = ""
  · rw [hs, hs']
  · simp [hs, hs'] at hlength
    omega
  · simp [hs, hs'] at hlength
    omega
  · rw [if_neg hs, if_neg hs', List.append_left_inj] at h
    exact String.toList_inj.mp h

/-- The pieces of a text that are not empty. -/
def fullPieces (s : String) : List (List Char) :=
  (splitDots s.toList).filter fun piece => !piece.isEmpty

theorem map_toList_segments (s : String) : (segments s).map String.toList = fullPieces s := by
  simp [segments, fullPieces, Function.comp_def]

theorem fullPieces_eq_iff (hs : s ≠ "") :
    fullPieces s = splitDots s.toList ↔ isWellDotted s = true := by
  simp [fullPieces, List.filter_eq_self, isWellDotted, hs]

/-- Only of a well dotted text the pieces that are not empty make up the whole. -/
theorem joinDots_fullPieces_eq_iff (hs : s ≠ "") (hne : fullPieces s ≠ []) :
    joinDots (fullPieces s) = s.toList ↔ isWellDotted s = true := by
  rw [← fullPieces_eq_iff hs]
  have hdots : ∀ piece ∈ fullPieces s, '.' ∉ piece := by
    intro piece hpiece
    exact dot_not_mem_piece (List.mem_filter.mp hpiece).1
  constructor
  · intro h
    rw [← h, splitDots_joinDots hne hdots]
  · intro h
    rw [h, joinDots_splitDots]

/-- The segments with a name behind them spell the text with the name behind it exactly if the text
is well dotted. -/
theorem dotted_segments_eq_iff (hname : name ≠ "") :
    dotted (segments s ++ [name]) = joinNonEmpty [s, name] ↔ isWellDotted s = true := by
  rw [← String.toList_inj, joinNonEmpty_pair hname, dotted, String.toList_ofList, List.map_append,
    map_toList_segments, List.map_singleton]
  by_cases hs : s = ""
  · subst hs
    simp [fullPieces, splitDots, joinDots, isWellDotted]
  · rw [if_neg hs]
    by_cases hfull : fullPieces s = []
    · have hbad : fullPieces s ≠ splitDots s.toList := by
        rw [hfull]
        exact (splitDots_ne_nil s.toList).symm
      rw [hfull, ← fullPieces_eq_iff hs]
      refine iff_of_false ?_ hbad
      intro h
      have hlength := congrArg List.length h
      simp [joinDots] at hlength
      omega
    · rw [joinDots_append hfull (List.cons_ne_nil _ _), ← joinDots_fullPieces_eq_iff hs hfull]
      exact List.append_left_inj _

end TypeSurvey.Text
