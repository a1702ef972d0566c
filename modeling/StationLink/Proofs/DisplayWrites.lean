import StationLink.Keyset.Panel
import StationLink.Proofs.SortedMap

namespace StationLink.Panel

/-!
# Writing on a display

A write fills its row up to the column and then puts its characters one after
another, each over the one that stands there or behind the last one. Since the
row reaches the column, no character is put anywhere but at its own position
(`getElem?_placeAll`). So the new row is the old one, as far as it was kept, with
the text over it at the column and blanks between the two, and no other row is
touched unless the whole display is erased (`row_of_write`). Positions and
lengths count characters.
-/

/-! ## Characters one after another -/

theorem length_place
    {row : List Char}
    {position : Nat}
    (reached : position ≤ row.length)
    (character : Char) :
    (place row position character).length = max row.length (position + 1) := by
  unfold place
  split
  · rw [List.length_set]
    omega
  · rw [List.length_append, List.length_singleton]
    omega

/-- A character that is put where the row reaches stands at its position and nowhere else. -/
theorem getElem?_place
    {row : List Char}
    {position : Nat}
    (reached : position ≤ row.length)
    (character : Char)
    (other : Nat) :
    (place row position character)[other]? =
      if other = position then some character else row[other]? := by
  unfold place
  split
  · next inside =>
      by_cases isPosition : other = position
      · subst other
        rw [if_pos rfl, List.getElem?_set_self inside]
      · rw [if_neg isPosition, List.getElem?_set_ne (Ne.symm isPosition)]
  · next notInside =>
      have isEnd : position = row.length := by omega
      rw [isEnd, List.getElem?_append]
      by_cases isBefore : other < row.length
      · rw [if_pos isBefore, if_neg (Nat.ne_of_lt isBefore)]
      · rw [if_neg isBefore, List.getElem?_singleton]
        by_cases isPosition : other = row.length
        · rw [if_pos isPosition, if_pos (by omega)]
        · rw [if_neg isPosition, if_neg (by omega), List.getElem?_eq_none (by omega)]

theorem length_placeAll
    {row : List Char}
    {position : Nat}
    (reached : position ≤ row.length)
    (content : List Char) :
    (placeAll row position content).length = max row.length (position + content.length) := by
  induction content generalizing row position with
  | nil =>
      rw [placeAll, List.length_nil]
      omega
  | cons character rest inductionHypothesis =>
      have length := length_place reached character
      rw [placeAll, inductionHypothesis (by omega), length, List.length_cons]
      omega

/-- Each character of a text stands at its own position, and all others are kept. -/
theorem getElem?_placeAll
    {row : List Char}
    {position : Nat}
    (reached : position ≤ row.length)
    (content : List Char)
    (other : Nat) :
    (placeAll row position content)[other]? =
      if position ≤ other ∧ other < position + content.length then
        content[other - position]?
      else
        row[other]? := by
  induction content generalizing row position with
  | nil =>
      rw [placeAll, if_neg (by rw [List.length_nil]; omega)]
  | cons character rest inductionHypothesis =>
      have length := length_place reached character
      rw [placeAll, inductionHypothesis (by omega), getElem?_place reached, List.length_cons]
      by_cases isPosition : other = position
      · subst other
        rw [if_neg (by omega), if_pos rfl, if_pos (by omega), Nat.sub_self,
          List.getElem?_cons_zero]
      · rw [if_neg isPosition]
        by_cases isLater : position + 1 ≤ other ∧ other < position + 1 + rest.length
        · have oneMore : other - position = other - (position + 1) + 1 := by omega
          rw [if_pos isLater, if_pos (by omega), oneMore, List.getElem?_cons_succ]
        · rw [if_neg isLater, if_neg (by omega)]

/-! ## A row -/

theorem length_overwrite
    (row : List Char)
    (column : Nat)
    (content : List Char) :
    (overwrite row column content).length = max row.length (column + content.length) := by
  have filled : (row ++ List.replicate (column - row.length) ' ').length =
      max row.length column := by
    rw [List.length_append, List.length_replicate]
    omega
  rw [overwrite, length_placeAll (by omega), filled]
  omega

/-- A row that was written on has the text at the column, and blanks where it had ended. -/
theorem getElem?_overwrite
    (row : List Char)
    (column : Nat)
    (content : List Char)
    (position : Nat) :
    (overwrite row column content)[position]? =
      if column ≤ position ∧ position < column + content.length then
        content[position - column]?
      else if position < row.length then
        row[position]?
      else if position < column then
        some ' '
      else
        none := by
  have reached : column ≤ (row ++ List.replicate (column - row.length) ' ').length := by
    rw [List.length_append, List.length_replicate]
    omega
  rw [overwrite, getElem?_placeAll reached, List.getElem?_append, List.getElem?_replicate]
  by_cases kept : position < row.length
  · rw [if_pos kept, if_pos kept]
  · have blanks : position - row.length < column - row.length ↔ position < column := by
      omega
    simp only [if_neg kept, blanks]

/-! ## The display -/

/-- Erasing decides what is kept of the row that is written on. -/
theorem get?_erased_self
    (display : SortedMap UInt8 (List Char))
    (row : UInt8)
    (column : Nat)
    (erase : EraseMode) :
    ((erased display row column erase).get? row).getD [] =
      match erase with
      | .nothing => (display.get? row).getD []
      | .toEndOfLine => ((display.get? row).getD []).take column
      | .line => []
      | .display => [] := by
  cases erase with
  | nothing =>
      rfl
  | toEndOfLine =>
      simp only [erased]
      cases found : display.get? row with
      | none =>
          simp [found]
      | some line =>
          simp
  | line =>
      simp [erased]
  | display =>
      rfl

/-- Erasing touches no other row unless the whole display is erased. -/
theorem get?_erased_of_ne
    (display : SortedMap UInt8 (List Char))
    {row other : UInt8}
    (isOther : other ≠ row)
    (column : Nat)
    (erase : EraseMode) :
    (erased display row column erase).get? other =
      if erase = .display then none else display.get? other := by
  cases erase with
  | nothing =>
      rfl
  | toEndOfLine =>
      simp only [erased]
      cases display.get? row with
      | none =>
          rfl
      | some line =>
          simp [isOther]
  | line =>
      simp [erased, isOther]
  | display =>
      rfl

/--
The row that a write leaves: as many characters as what was kept of the old row and
the text at its column take up, the text's own ones where the text stands, those that were
kept elsewhere, and blanks where nothing was. All other rows are as they were, except that
erasing the display leaves none of them.
-/
theorem row_of_write
    (display : SortedMap UInt8 (List Char))
    (row column : UInt8)
    (erase : EraseMode)
    (content : String) :
    let old := (display.get? row).getD []
    let kept :=
      match erase with
      | .nothing => old
      | .toEndOfLine => old.take column.toNat
      | .line => []
      | .display => []
    let written := write display row column erase content
    (∃ after, written.get? row = some after ∧
      after.length = max kept.length (column.toNat + content.length) ∧
      ∀ position < after.length,
        after[position]? =
          if column.toNat ≤ position ∧ position < column.toNat + content.length then
            content.toList[position - column.toNat]?
          else if position < kept.length then
            kept[position]?
          else
            some ' ') ∧
      ∀ other, other ≠ row →
        written.get? other = if erase = .display then none else display.get? other := by
  intro old kept written
  have erasing : ((erased display row column.toNat erase).get? row).getD [] = kept :=
    get?_erased_self display row column.toNat erase
  have isWritten : written =
      (erased display row column.toNat erase).insert row
        (overwrite kept column.toNat content.toList) := by
    simp only [written, write, erasing]
  have length := length_overwrite kept column.toNat content.toList
  rw [String.length_toList] at length
  refine ⟨⟨overwrite kept column.toNat content.toList, ?_, length, ?_⟩, ?_⟩
  · rw [isWritten, SortedMap.get?_insert, if_pos rfl]
  · intro position inside
    rw [getElem?_overwrite, String.length_toList]
    by_cases isText : column.toNat ≤ position ∧ position < column.toNat + content.length
    · rw [if_pos isText, if_pos isText]
    · rw [if_neg isText, if_neg isText]
      by_cases isKept : position < kept.length
      · rw [if_pos isKept, if_pos isKept]
      · rw [if_neg isKept, if_neg isKept, if_pos (by omega)]
  · intro other isOther
    rw [isWritten, SortedMap.get?_insert, if_neg isOther, get?_erased_of_ne display isOther]

end StationLink.Panel
