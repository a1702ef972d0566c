namespace StationLink.Text

/-!
# Blanks

The characters with the Unicode property White_Space, and trimming by them. What
is left of a text when some characters are dropped at its beginning and others at
its end is the one part of it that has only such characters on either side and
none of them at its own ends (`dropTrailing_dropWhile_eq_iff`). So blanks around a
text do not change what it is trimmed to (`trim_surrounded`).
-/

/-- Whether a character has the property White_Space. -/
def isBlank (char : Char) : Bool :=
  let code := char.toNat
  (0x09 ≤ code && code ≤ 0x0D) || code == 0x20 || code == 0x85 || code == 0xA0 || code == 0x1680
    || (0x2000 ≤ code && code ≤ 0x200A) || code == 0x2028 || code == 0x2029 || code == 0x202F
    || code == 0x205F || code == 0x3000

/-- Characters without those of a kind at their end. -/
def dropTrailing (drop : Char → Bool) (chars : List Char) : List Char :=
  (chars.reverse.dropWhile drop).reverse

/-- Characters without blanks at their beginning and end. -/
def trim (chars : List Char) : List Char :=
  dropTrailing isBlank (chars.dropWhile isBlank)

/-- No digit is a blank. -/
theorem notBlank_of_isDigit {char : Char} (isDigit : char.isDigit) : ¬ isBlank char := by
  simp only [Char.isDigit, ge_iff_le, Bool.and_eq_true, decide_eq_true_eq,
    UInt32.le_iff_toNat_le] at isDigit
  have lower : 48 ≤ char.toNat := isDigit.1
  have upper : char.toNat ≤ 57 := isDigit.2
  simp only [isBlank, Bool.or_eq_true, Bool.and_eq_true, decide_eq_true_eq, beq_iff_eq]
  omega

/-! ## What is left -/

section

variable {drop leading trailing : Char → Bool} {chars kept front back : List Char}

theorem dropWhile_eq_iff :
    chars.dropWhile drop = kept ↔
      (∃ front, chars = front ++ kept ∧ ∀ char ∈ front, drop char) ∧
        ∀ char ∈ kept.head?, ¬ drop char := by
  constructor
  · rintro rfl
    refine ⟨⟨chars.takeWhile drop, List.takeWhile_append_dropWhile.symm, ?_⟩, ?_⟩
    · exact List.all_eq_true.mp List.all_takeWhile
    · intro char isFirst
      have stays := List.head?_dropWhile_not drop chars
      rw [Option.mem_def.mp isFirst] at stays
      rw [Bool.not_eq_true]
      exact stays
  · rintro ⟨⟨front, rfl, dropped⟩, stays⟩
    rw [List.dropWhile_append_of_pos dropped]
    cases kept with
    | nil =>
        rfl
    | cons first rest =>
        exact List.dropWhile_cons_of_neg (stays first rfl)

theorem dropTrailing_eq_iff :
    dropTrailing drop chars = kept ↔
      (∃ back, chars = kept ++ back ∧ ∀ char ∈ back, drop char) ∧
        ∀ char ∈ kept.getLast?, ¬ drop char := by
  rw [dropTrailing, List.reverse_eq_iff, dropWhile_eq_iff, List.head?_reverse]
  refine and_congr_left fun _ => ?_
  constructor
  · rintro ⟨front, shape, dropped⟩
    refine ⟨front.reverse, ?_, ?_⟩
    · rw [List.reverse_eq_iff] at shape
      rw [shape, List.reverse_append, List.reverse_reverse]
    · simpa only [List.mem_reverse] using dropped
  · rintro ⟨back, rfl, dropped⟩
    refine ⟨back.reverse, List.reverse_append, ?_⟩
    simpa only [List.mem_reverse] using dropped

/-- What is left between what is dropped at both ends of a text. -/
theorem dropTrailing_dropWhile_eq_iff :
    dropTrailing trailing (chars.dropWhile leading) = kept ↔
      (∃ front back, chars = front ++ kept ++ back ∧
        (∀ char ∈ front, leading char) ∧ ∀ char ∈ back, trailing char) ∧
        (∀ char ∈ kept.head?, ¬ leading char) ∧ ∀ char ∈ kept.getLast?, ¬ trailing char := by
  constructor
  · intro isKept
    obtain ⟨⟨back, rest, isBack⟩, lastStays⟩ := dropTrailing_eq_iff.mp isKept
    obtain ⟨⟨front, whole, isFront⟩, firstStays⟩ := dropWhile_eq_iff.mp rest
    refine ⟨⟨front, back, ?_, isFront, isBack⟩, ?_, lastStays⟩
    · rw [whole, List.append_assoc]
    · intro char isFirst
      apply firstStays char
      rw [List.head?_append, Option.mem_def.mp isFirst]
      rfl
  · rintro ⟨⟨front, back, rfl, isFront, isBack⟩, firstStays, lastStays⟩
    rw [List.append_assoc, List.dropWhile_append_of_pos isFront]
    cases kept with
    | nil =>
        -- Nothing is kept, but what stands behind it may still begin with leading characters.
        refine dropTrailing_eq_iff.mpr ⟨⟨back.dropWhile leading, rfl, ?_⟩, lastStays⟩
        intro char member
        exact isBack char ((List.dropWhile_sublist leading).mem member)
    | cons first rest =>
        rw [List.cons_append, List.dropWhile_cons_of_neg (firstStays first rfl)]
        exact dropTrailing_eq_iff.mpr ⟨⟨back, rfl, isBack⟩, lastStays⟩

/-- A text is trimmed to the part of it that blanks surround and that has none at its ends. -/
theorem trim_eq_iff :
    trim chars = kept ↔
      (∃ front back, chars = front ++ kept ++ back ∧
        (∀ char ∈ front, isBlank char) ∧ ∀ char ∈ back, isBlank char) ∧
        (∀ char ∈ kept.head?, ¬ isBlank char) ∧ ∀ char ∈ kept.getLast?, ¬ isBlank char :=
  dropTrailing_dropWhile_eq_iff

/-- A text without blanks at its ends is trimmed to itself. -/
theorem trim_eq_self
    (first : ∀ char ∈ chars.head?, ¬ isBlank char)
    (last : ∀ char ∈ chars.getLast?, ¬ isBlank char) :
    trim chars = chars := by
  refine trim_eq_iff.mpr ⟨⟨[], [], ?_, ?_, ?_⟩, first, last⟩
  · rw [List.nil_append, List.append_nil]
  · exact List.forall_mem_nil _
  · exact List.forall_mem_nil _

/-- Blanks around a text make no difference to what it is trimmed to. -/
theorem trim_surrounded
    (isFront : ∀ char ∈ front, isBlank char)
    (isBack : ∀ char ∈ back, isBlank char)
    (chars : List Char) :
    trim (front ++ chars ++ back) = trim chars := by
  obtain ⟨⟨innerFront, innerBack, shape, isInnerFront, isInnerBack⟩, ends⟩ :=
    trim_eq_iff.mp (Eq.refl (trim chars))
  refine trim_eq_iff.mpr ⟨⟨front ++ innerFront, innerBack ++ back, ?_, ?_, ?_⟩, ends⟩
  · conv => lhs; rw [shape]
    simp only [List.append_assoc]
  · exact List.forall_mem_append.mpr ⟨isFront, isInnerFront⟩
  · exact List.forall_mem_append.mpr ⟨isInnerBack, isBack⟩

end

end StationLink.Text
