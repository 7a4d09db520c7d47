/-!
# Dotted names

A dotted name is a text cut at every dot. `splitDots` and `joinDots` go between the two forms;
`segments` leaves out what is empty, and `lastSegment` is what follows the last dot.
-/
namespace TypeSurvey.Text

/-- The pieces between dots: one more than there are dots. -/
def splitDots : List Char → List (List Char)
  | [] => [[]]
  | c :: rest =>
    if c = '.' then [] :: splitDots rest
    else
      match splitDots rest with
      | [] => [[c]]
      | piece :: pieces => (c :: piece) :: pieces

def joinDots : List (List Char) → List Char
  | [] => []
  | [piece] => piece
  | piece :: pieces => piece ++ '.' :: joinDots pieces

def segments (s : String) : List String :=
  ((splitDots s.toList).filter fun piece => !piece.isEmpty).map String.ofList

/-- The whole text when it has no dot. -/
def lastSegment (s : String) : String :=
  String.ofList ((s.toList.reverse.takeWhile fun c => c != '.').reverse)

/-- The non-empty ones of `names`, with dots between. -/
def joinNonEmpty (names : List String) : String :=
  String.ofList (joinDots ((names.map String.toList).filter fun piece => !piece.isEmpty))

theorem splitDots_ne_nil (cs : List Char) : splitDots cs ≠ [] := by
  cases cs with
  | nil => simp [splitDots]
  | cons c rest =>
    simp only [splitDots]
    split
    · simp
    · split <;> simp

theorem joinDots_cons_cons (c : Char) (piece : List Char) (pieces : List (List Char)) :
    joinDots ((c :: piece) :: pieces) = c :: joinDots (piece :: pieces) := by
  cases pieces <;> simp [joinDots]

theorem joinDots_nil_cons {pieces : List (List Char)} (h : pieces ≠ []) :
    joinDots ([] :: pieces) = '.' :: joinDots pieces := by
  cases pieces with
  | nil => exact absurd rfl h
  | cons piece pieces => simp [joinDots]

/-- Cutting loses nothing. -/
theorem joinDots_splitDots (cs : List Char) : joinDots (splitDots cs) = cs := by
  induction cs with
  | nil => rfl
  | cons c rest ih =>
    simp only [splitDots]
    split
    · rename_i h
      rw [joinDots_nil_cons (splitDots_ne_nil rest), ih, h]
    · split
      · rename_i hs
        exact absurd hs (splitDots_ne_nil rest)
      · rename_i piece pieces hs
        rw [joinDots_cons_cons, ← hs, ih]

theorem dot_not_mem_piece {cs piece : List Char} (h : piece ∈ splitDots cs) : '.' ∉ piece := by
  induction cs generalizing piece with
  | nil => simp_all [splitDots]
  | cons c rest ih =>
    simp only [splitDots] at h
    split at h
    · rcases List.mem_cons.1 h with rfl | h
      · exact List.not_mem_nil
      · exact ih h
    · rename_i hc
      split at h
      · rw [List.mem_singleton.1 h, List.mem_singleton]
        exact fun e => hc e.symm
      · rename_i first pieces hs
        rcases List.mem_cons.1 h with rfl | h
        · have hfirst : '.' ∉ first := ih (by simp [hs])
          rw [List.mem_cons]
          exact fun e => e.elim (fun e => hc e.symm) hfirst
        · exact ih (by simp [hs, h])

theorem dot_not_mem_lastSegment (s : String) : '.' ∉ (lastSegment s).toList := by
  intro h
  simp only [lastSegment, String.toList_ofList, List.mem_reverse] at h
  have hall := List.all_takeWhile (p := fun c => c != '.') (l := s.toList.reverse)
  simpa using List.all_eq_true.1 hall _ h

end TypeSurvey.Text
