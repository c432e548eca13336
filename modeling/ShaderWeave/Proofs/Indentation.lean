import Mathlib.Data.List.DropRight
import Mathlib.Tactic.Common
import ShaderWeave.Text.Dedent

/-!
# What removing indentation keeps

The code of a text is what stands on its lines that are not blank, without the blanks around it.

**Lines.**  `dedent` writes lines that are read back as they were written (`splitLines_dedent`), so
that facts about texts are facts about lists of lines.

**Cuts.**  The shared indentation is a number of bytes.  A line can be cut there only if one of its
characters starts at this byte (`Divides`).  Blanks take one to three bytes, so **a line may have
enough white space and still have no character that starts there.**  Such a line is lost.

* `code_dedent` — the code that is left is that of the lines which can be cut.
* `sharedIndent_dedentLines` — the narrowest line can always be cut, so nothing is left to strip.
* `dedent_faithful_iff` — **no code is lost, no blank line is left at an end and a second pass changes
  nothing, all three exactly if every line with something on it can be cut.**
* `not_forall_dedent_faithful` — two lines, one behind a space and one behind a wide space, of which
  the second is lost.
-/

namespace ShaderWeave.Text

/-! ## Edges of a line -/

variable {line front rest : List Char} {lines : List (List Char)} {width : Nat}

/-- A line without the blanks around it. -/
def trim (line : List Char) : List Char := trimEnd (trimStart line)

lemma isBlankLine_iff : isBlankLine line = true ↔ ∀ c ∈ line, isBlank c = true := by
  simp [isBlankLine]

lemma trimEnd_eq_rdropWhile (line : List Char) : trimEnd line = line.rdropWhile isBlank := rfl

@[simp] lemma isBlankLine_nil : isBlankLine [] = true := rfl

lemma isBlankLine_append (front rest : List Char) :
    isBlankLine (front ++ rest) = (isBlankLine front && isBlankLine rest) :=
  List.all_append

lemma trimEnd_isPrefix (line : List Char) : trimEnd line <+: line :=
  List.rdropWhile_prefix isBlank line

@[simp] lemma trimEnd_trimEnd (line : List Char) : trimEnd (trimEnd line) = trimEnd line :=
  List.rdropWhile_idempotent isBlank line

lemma trimEnd_of_blank (h : isBlankLine line = true) : trimEnd line = [] :=
  List.rdropWhile_eq_nil_iff.2 (isBlankLine_iff.1 h)

/-- What is trimmed at the end is blank. -/
lemma exists_trimEnd_append (line : List Char) :
    ∃ back, line = trimEnd line ++ back ∧ isBlankLine back = true :=
  ⟨line.rtakeWhile isBlank, (List.rdropWhile_append_rtakeWhile ..).symm,
    isBlankLine_iff.2 fun _ hc => List.mem_rtakeWhile_imp hc⟩

lemma trimEnd_append_of_blank (line : List Char) {back : List Char}
    (h : isBlankLine back = true) : trimEnd (line ++ back) = trimEnd line := by
  induction back using List.reverseRecOn with
  | nil => rw [List.append_nil]
  | append_singleton back c ih =>
      rw [isBlankLine_append, Bool.and_eq_true] at h
      have hc : isBlank c = true := by simpa [isBlankLine] using h.2
      rw [← List.append_assoc, trimEnd_eq_rdropWhile, List.rdropWhile_concat_pos _ _ _ hc]
      exact ih h.1

@[simp] lemma isBlankLine_trimEnd (line : List Char) :
    isBlankLine (trimEnd line) = isBlankLine line := by
  obtain ⟨back, hline, hback⟩ := exists_trimEnd_append line
  conv_rhs => rw [hline, isBlankLine_append, hback, Bool.and_true]

lemma trimStart_append_of_blank (h : isBlankLine front = true) (rest : List Char) :
    trimStart (front ++ rest) = trimStart rest :=
  List.dropWhile_append_of_pos (isBlankLine_iff.1 h)

/-- Blanks in front do not matter. -/
lemma trim_append_of_blank (h : isBlankLine front = true) (rest : List Char) :
    trim (front ++ rest) = trim rest := by
  rw [trim, trim, trimStart_append_of_blank h]

/-- Blanks at the end do not matter. -/
@[simp] lemma trim_trimEnd (line : List Char) : trim (trimEnd line) = trim line := by
  obtain ⟨back, hline, hback⟩ := exists_trimEnd_append line
  cases hblank : isBlankLine line with
  | true =>
      rw [trimEnd_of_blank hblank, ← List.append_nil line, trim_append_of_blank hblank]
  | false =>
      have hkept : (trimEnd line).dropWhile isBlank ≠ [] := by
        rw [Ne, List.dropWhile_eq_nil_iff]
        intro h
        rw [← isBlankLine_iff, isBlankLine_trimEnd, hblank] at h
        cases h
      have hstart : trimStart line = trimStart (trimEnd line) ++ back := by
        conv_lhs => rw [hline]
        rw [trimStart, List.dropWhile_append, if_neg (by simpa using hkept)]
        rfl
      rw [trim, trim, hstart, trimEnd_append_of_blank _ hback]

/-! ## Cuts -/

/-- A character of the line starts, or the line ends, `width` bytes in. -/
def Divides (width : Nat) (line : List Char) : Prop :=
  ∃ front rest, line = front ++ rest ∧ byteLength front = width

@[simp] lemma byteLength_append (front rest : List Char) :
    byteLength (front ++ rest) = byteLength front + byteLength rest := by
  induction front with
  | nil => simp [byteLength]
  | cons c front ih => simp [byteLength, ih, Nat.add_assoc]

lemma byteLength_eq_zero (h : byteLength line = 0) : line = [] := by
  cases line with
  | nil => rfl
  | cons c line =>
      have hpos := c.utf8Size_pos
      simp only [byteLength] at h
      omega

lemma dropBytes?_append (front rest : List Char) :
    dropBytes? (byteLength front) (front ++ rest) = some rest := by
  induction front with
  | nil => simp [byteLength, dropBytes?]
  | cons c front ih =>
      obtain ⟨size, hsize⟩ := Nat.exists_eq_succ_of_ne_zero (Nat.ne_of_gt c.utf8Size_pos)
      have hwidth : byteLength (c :: front) = size + byteLength front + 1 := by
        simp only [byteLength, hsize]
        omega
      have hleft : size + byteLength front + 1 - c.utf8Size = byteLength front := by omega
      rw [hwidth, List.cons_append, dropBytes?, if_pos (by omega), hleft, ih]

/-- A line is cut between two of its characters. -/
lemma dropBytes?_eq_some_iff :
    dropBytes? width line = some rest ↔ ∃ front, line = front ++ rest ∧ byteLength front = width := by
  constructor
  · intro h
    fun_induction dropBytes? width line with
    | case1 line => exact ⟨[], Option.some.inj h, rfl⟩
    | case2 => cases h
    | case3 count c line hle ih =>
        obtain ⟨front, rfl, hfront⟩ := ih h
        refine ⟨c :: front, rfl, ?_⟩
        simp only [byteLength, hfront]
        omega
    | case4 => cases h
  · rintro ⟨front, rfl, rfl⟩
    exact dropBytes?_append front rest

lemma isSome_dropBytes?_iff : (dropBytes? width line).isSome = true ↔ Divides width line := by
  simp only [Option.isSome_iff_exists, dropBytes?_eq_some_iff, Divides]
  exact exists_comm

lemma indentWidth_eq (line : List Char) :
    indentWidth line = byteLength (line.takeWhile isBlank) := by
  have hline : byteLength line = byteLength (line.takeWhile isBlank) + byteLength (trimStart line) := by
    rw [trimStart, ← byteLength_append, List.takeWhile_append_dropWhile]
  rw [indentWidth, hline, Nat.add_sub_cancel]

/-- The beginning of a line is blank if it is no longer than the indentation. -/
lemma isBlankLine_of_le_indentWidth (h : byteLength front ≤ indentWidth (front ++ rest)) :
    isBlankLine front = true := by
  have hindent : (front ++ rest).takeWhile isBlank <+: front ++ rest := List.takeWhile_prefix _
  have hblank : isBlankLine ((front ++ rest).takeWhile isBlank) = true :=
    isBlankLine_iff.2 fun _ hc => List.mem_takeWhile_imp hc
  rcases List.prefix_or_prefix_of_prefix (List.prefix_append front rest) hindent with
    ⟨back, hback⟩ | ⟨back, hback⟩
  · rw [← hback, isBlankLine_append, Bool.and_eq_true] at hblank
    exact hblank.1
  · -- The indentation is not longer either, so it is all of the beginning.
    have hlength := congrArg byteLength hback
    rw [byteLength_append] at hlength
    rw [indentWidth_eq] at h
    have hnil : back = [] := byteLength_eq_zero (by omega)
    rw [hnil, List.append_nil] at hback
    rw [← hback]
    exact hblank

/-! ## Lines that are cut -/

lemma dedentLine_of_blank (h : isBlankLine line = true) : dedentLine width line = [] := by
  rw [dedentLine]
  cases hcut : dropBytes? width line with
  | none => rfl
  | some rest =>
      obtain ⟨front, rfl, -⟩ := dropBytes?_eq_some_iff.1 hcut
      rw [isBlankLine_append, Bool.and_eq_true] at h
      exact trimEnd_of_blank h.2

/-- A line that cannot be cut is lost. -/
lemma dedentLine_of_not_divides (h : ¬ Divides width line) : dedentLine width line = [] := by
  rw [← isSome_dropBytes?_iff, Option.not_isSome_iff_eq_none] at h
  rw [dedentLine, h]
  rfl

/-- A line that is cut in its indentation keeps all that is not blank. -/
lemma dedentLine_of_divides (hcut : Divides width line) (hle : width ≤ indentWidth line) :
    isBlankLine (dedentLine width line) = isBlankLine line ∧
      trim (dedentLine width line) = trim line := by
  obtain ⟨front, rest, rfl, rfl⟩ := hcut
  have hfront := isBlankLine_of_le_indentWidth hle
  rw [dedentLine, dropBytes?_append, Option.getD_some, isBlankLine_trimEnd, trim_trimEnd,
    isBlankLine_append, hfront, Bool.true_and, trim_append_of_blank hfront]
  exact ⟨rfl, rfl⟩

lemma trimEnd_dedentLine (width : Nat) (line : List Char) :
    trimEnd (dedentLine width line) = dedentLine width line :=
  trimEnd_trimEnd _

lemma dedentLine_subset (width : Nat) (line : List Char) : dedentLine width line ⊆ line := by
  rw [dedentLine]
  cases hcut : dropBytes? width line with
  | none => exact List.nil_subset line
  | some rest =>
      obtain ⟨front, rfl, -⟩ := dropBytes?_eq_some_iff.1 hcut
      exact List.Subset.trans (trimEnd_isPrefix rest).subset (List.subset_append_right front rest)

lemma dedentLine_zero (line : List Char) : dedentLine 0 line = trimEnd line := by
  cases line <;> rfl

/-! ## Lists of lines -/

/-- What stands on the lines that are not blank. -/
def codeOf (lines : List (List Char)) : List (List Char) :=
  (lines.filter fun line => !isBlankLine line).map trim

/-- There is no blank line at either end. -/
@[mk_iff]
structure TrimEnds (lines : List (List Char)) : Prop where
  first : ∀ line ∈ lines.head?, isBlankLine line = false
  last : ∀ line ∈ lines.getLast?, isBlankLine line = false

lemma trimBlankLines_eq (lines : List (List Char)) :
    trimBlankLines lines = (lines.dropWhile isBlankLine).rdropWhile isBlankLine := rfl

lemma trimEnds_trimBlankLines (lines : List (List Char)) : TrimEnds (trimBlankLines lines) := by
  rw [trimBlankLines_eq]
  constructor
  · intro line hline
    -- A first line that is left is the first line behind the blank ones.
    obtain ⟨rest, hrest⟩ := List.head?_eq_some_iff.1 hline
    obtain ⟨back, hback⟩ := List.rdropWhile_prefix isBlankLine (lines.dropWhile isBlankLine)
    have hhead : (lines.dropWhile isBlankLine).head? = some line := by
      rw [← hback, hrest]
      rfl
    have hnot := List.head?_dropWhile_not isBlankLine lines
    rw [hhead] at hnot
    exact hnot
  · intro line hline
    obtain ⟨hne, rfl⟩ := List.mem_getLast?_eq_getLast hline
    simpa using List.rdropWhile_last_not isBlankLine _ hne

lemma trimBlankLines_eq_self_iff : trimBlankLines lines = lines ↔ TrimEnds lines := by
  constructor
  · intro h
    rw [← h]
    exact trimEnds_trimBlankLines lines
  · intro h
    have hfirst : lines.dropWhile isBlankLine = lines := by
      cases lines with
      | nil => rfl
      | cons line lines => simpa using h.first line rfl
    have hlast : lines.rdropWhile isBlankLine = lines := by
      rw [List.rdropWhile_eq_self_iff]
      intro hne
      simpa using h.last _ (List.getLast?_eq_some_getLast hne)
    rw [trimBlankLines_eq, hfirst, hlast]

/-- Only blank lines are dropped. -/
lemma filter_trimBlankLines {p : List Char → Bool}
    (hp : ∀ line, isBlankLine line = true → p line = false) (lines : List (List Char)) :
    (trimBlankLines lines).filter p = lines.filter p := by
  have hblank : ∀ dropped : List (List Char), (∀ line ∈ dropped, isBlankLine line = true) →
      dropped.filter p = [] := by
    intro dropped h
    rw [List.filter_eq_nil_iff]
    intro line hline
    simp [hp line (h line hline)]
  have hfront := hblank (lines.takeWhile isBlankLine) fun _ h => List.mem_takeWhile_imp h
  have hback := hblank ((lines.dropWhile isBlankLine).rtakeWhile isBlankLine)
    fun _ h => List.mem_rtakeWhile_imp h
  calc (trimBlankLines lines).filter p
      = (trimBlankLines lines ++ (lines.dropWhile isBlankLine).rtakeWhile isBlankLine).filter p := by
        rw [List.filter_append, hback, List.append_nil]
    _ = (lines.takeWhile isBlankLine ++ lines.dropWhile isBlankLine).filter p := by
        rw [trimBlankLines_eq, List.rdropWhile_append_rtakeWhile, List.filter_append, hfront,
          List.nil_append]
    _ = lines.filter p := by rw [List.takeWhile_append_dropWhile]

lemma mem_trimBlankLines (hline : isBlankLine line = false) :
    line ∈ trimBlankLines lines ↔ line ∈ lines := by
  have hkept := filter_trimBlankLines (p := fun line => !isBlankLine line) (by simp) lines
  have hmem := congrArg (line ∈ ·) hkept
  simpa [hline] using hmem

lemma sharedIndent_le (hmem : line ∈ lines) (hline : isBlankLine line = false) :
    sharedIndent lines ≤ indentWidth line :=
  List.min?_getD_le_of_mem (List.mem_map_of_mem (List.mem_filter.2 ⟨hmem, by simp [hline]⟩))

/-- The shared indentation is that of some line. -/
lemma exists_narrowest (hmem : line ∈ lines) (hline : isBlankLine line = false) :
    ∃ narrow ∈ lines, isBlankLine narrow = false ∧ indentWidth narrow = sharedIndent lines := by
  cases hmin : ((lines.filter fun line => !isBlankLine line).map indentWidth).min? with
  | none =>
      rw [List.min?_eq_none_iff, List.map_eq_nil_iff, List.filter_eq_nil_iff] at hmin
      exact absurd (by simp [hline]) (hmin line hmem)
  | some width =>
      obtain ⟨narrow, hnarrow, hwidth⟩ := List.mem_map.1 (List.min?_mem hmin)
      obtain ⟨hmem, hblank⟩ := List.mem_filter.1 hnarrow
      exact ⟨narrow, hmem, by simpa using hblank, by rw [sharedIndent, hmin, hwidth]; rfl⟩

/-! ## Dedented lines -/

/-- A line that is its own shared indentation can be cut. -/
lemma dedentLine_indentWidth (line : List Char) : dedentLine (indentWidth line) line = trim line := by
  have hcut := dropBytes?_append (line.takeWhile isBlank) (trimStart line)
  rw [trimStart, List.takeWhile_append_dropWhile, ← indentWidth_eq] at hcut
  rw [dedentLine, hcut, trim, trimStart]
  rfl

lemma divides_indentWidth (line : List Char) : Divides (indentWidth line) line :=
  ⟨line.takeWhile isBlank, line.dropWhile isBlank, List.takeWhile_append_dropWhile.symm,
    (indentWidth_eq line).symm⟩

lemma isBlankLine_trim (line : List Char) : isBlankLine (trim line) = isBlankLine line := by
  rw [← dedentLine_indentWidth]
  exact (dedentLine_of_divides (divides_indentWidth line) (Nat.le_refl _)).1

lemma indentWidth_trim (line : List Char) : indentWidth (trim line) = 0 := by
  rw [indentWidth_eq]
  cases htrim : trim line with
  | nil => rfl
  | cons c rest =>
      obtain ⟨back, hback⟩ := trimEnd_isPrefix (trimStart line)
      rw [← trim, htrim] at hback
      have hnot := List.head?_dropWhile_not isBlank line
      rw [← trimStart, ← hback] at hnot
      have hc : isBlank c = false := hnot
      simp [hc, byteLength]

lemma mem_of_mem_trimBlankLines (h : line ∈ trimBlankLines lines) : line ∈ lines := by
  have hkept := List.rdropWhile_prefix isBlankLine (lines.dropWhile isBlankLine)
  exact (List.dropWhile_suffix _).subset (hkept.subset h)

/-- Of the lines that are written, those have something on them which could be cut and had something
on them before. -/
lemma codeOf_dedentLines (lines : List (List Char)) :
    codeOf (dedentLines lines) =
      (lines.filter fun line => !isBlankLine line && (dropBytes? (sharedIndent lines) line).isSome).map
        trim := by
  have hkept : ∀ (width : Nat) (lines : List (List Char)),
      (∀ line ∈ lines, isBlankLine line = false → width ≤ indentWidth line) →
        codeOf (lines.map (dedentLine width)) =
          (lines.filter fun line => !isBlankLine line && (dropBytes? width line).isSome).map trim := by
    intro width lines hle
    induction lines with
    | nil => rfl
    | cons line lines ih =>
        obtain ⟨hline, hlines⟩ := List.forall_mem_cons.1 hle
        have hrest := ih hlines
        rw [codeOf] at hrest ⊢
        cases hblank : isBlankLine line with
        | true =>
            simpa [hblank, dedentLine_of_blank hblank] using hrest
        | false =>
            by_cases hcut : Divides width line
            · obtain ⟨hsame, htrim⟩ := dedentLine_of_divides hcut (hline hblank)
              simpa [hblank, hsame, htrim, isSome_dropBytes?_iff.2 hcut] using hrest
            · have hnone : (dropBytes? width line).isSome = false := by
                rw [Bool.eq_false_iff, Ne, isSome_dropBytes?_iff]
                exact hcut
              simpa [hblank, dedentLine_of_not_divides hcut, hnone] using hrest
  rw [dedentLines, hkept _ _ fun line hline hblank =>
    sharedIndent_le (mem_of_mem_trimBlankLines hline) hblank]
  rw [filter_trimBlankLines (fun line hline => by simp [hline])]

/-- **Nothing is left to strip.**  The narrowest line is kept and starts without a blank. -/
lemma sharedIndent_dedentLines (lines : List (List Char)) : sharedIndent (dedentLines lines) = 0 := by
  by_cases hsome : ∃ line ∈ lines, isBlankLine line = false
  · obtain ⟨line, hmem, hline⟩ := hsome
    obtain ⟨narrow, hnarrow, hblank, hwidth⟩ := exists_narrowest hmem hline
    have hkept : trim narrow ∈ dedentLines lines := by
      rw [← dedentLine_indentWidth, hwidth]
      exact List.mem_map_of_mem ((mem_trimBlankLines hblank).2 hnarrow)
    have hle := sharedIndent_le hkept ((isBlankLine_trim narrow).trans hblank)
    rw [indentWidth_trim] at hle
    exact Nat.le_zero.1 hle
  · have hnone : (dedentLines lines).filter (fun line => !isBlankLine line) = [] := by
      rw [List.filter_eq_nil_iff]
      intro written hwritten
      obtain ⟨line, hline, rfl⟩ := List.mem_map.1 hwritten
      have hblank : isBlankLine line = true := by
        by_contra hblank
        exact hsome ⟨line, mem_of_mem_trimBlankLines hline, by simpa using hblank⟩
      simp [dedentLine_of_blank hblank]
    rw [sharedIndent, hnone]
    rfl

/-- A second pass only drops blank lines at the ends. -/
lemma dedentLines_dedentLines (lines : List (List Char)) :
    dedentLines (dedentLines lines) = trimBlankLines (dedentLines lines) := by
  rw [dedentLines, sharedIndent_dedentLines]
  refine (List.map_congr_left fun written hwritten => ?_).trans (List.map_id _)
  obtain ⟨line, -, rfl⟩ := List.mem_map.1 (mem_of_mem_trimBlankLines hwritten)
  rw [dedentLine_zero, trimEnd_dedentLine, id]

/-- Of a line with something on it something is left exactly if it can be cut. -/
lemma isBlankLine_dedentLine_eq_false_iff (hmem : line ∈ lines) (hline : isBlankLine line = false) :
    isBlankLine (dedentLine (sharedIndent lines) line) = false ↔
      Divides (sharedIndent lines) line := by
  constructor
  · intro h
    by_contra hcut
    rw [dedentLine_of_not_divides hcut] at h
    cases h
  · intro hcut
    rw [(dedentLine_of_divides hcut (sharedIndent_le hmem hline)).1, hline]

/-- The same for a line at an end, if there is one. -/
lemma forall_mem_map_dedentLine_iff {edge : Option (List Char)}
    (h : ∀ line ∈ edge, line ∈ lines ∧ isBlankLine line = false) :
    (∀ written ∈ edge.map (dedentLine (sharedIndent lines)), isBlankLine written = false) ↔
      ∀ line ∈ edge, Divides (sharedIndent lines) line := by
  cases edge with
  | none => simp
  | some line =>
      obtain ⟨hmem, hline⟩ := h line rfl
      simpa using isBlankLine_dedentLine_eq_false_iff hmem hline

/-- No blank line is left at an end exactly if the first and the last line with something on them can
be cut. -/
lemma trimEnds_dedentLines_iff (lines : List (List Char)) :
    TrimEnds (dedentLines lines) ↔
      (∀ line ∈ (trimBlankLines lines).head?, Divides (sharedIndent lines) line) ∧
        ∀ line ∈ (trimBlankLines lines).getLast?, Divides (sharedIndent lines) line := by
  have hends := trimEnds_trimBlankLines lines
  rw [trimEnds_iff, dedentLines, List.head?_map, List.getLast?_map]
  refine and_congr (forall_mem_map_dedentLine_iff fun line hline => ?_)
    (forall_mem_map_dedentLine_iff fun line hline => ?_)
  · exact ⟨mem_of_mem_trimBlankLines (List.mem_of_mem_head? hline), hends.first line hline⟩
  · exact ⟨mem_of_mem_trimBlankLines (List.mem_of_mem_getLast? hline), hends.last line hline⟩

/-! ## Texts -/

lemma splitLines_cons {c : Char} {cs : List Char} (hc : c ≠ '\n')
    (hreturn : c = '\r' → cs.head? ≠ some '\n') (h : splitLines cs = line :: lines) :
    splitLines (c :: cs) = (c :: line) :: lines := by
  rw [splitLines.eq_def]
  split
  · next heq => cases heq
  · next heq =>
      cases heq
      exact absurd rfl hc
  · next heq =>
      cases heq
      exact absurd rfl (hreturn rfl)
  · next heq =>
      cases heq
      rw [h]

/-- A line that is written with its end is read back, if it does not end in a carriage return. -/
lemma splitLines_line (hnewline : '\n' ∉ line) (hreturn : line.getLast? ≠ some '\r')
    (rest : List Char) : splitLines (line ++ '\n' :: rest) = line :: splitLines rest := by
  induction line with
  | nil => rw [List.nil_append, splitLines]
  | cons c line ih =>
      obtain ⟨hc, hline⟩ := not_or.1 (mt List.mem_cons.2 hnewline)
      cases line with
      | nil =>
          refine splitLines_cons (Ne.symm hc) (fun hcr => ?_) rfl
          exact absurd (by rw [hcr]; rfl) hreturn
      | cons d line =>
          have hd : d ≠ '\n' := fun hd => hline (hd ▸ List.mem_cons_self)
          refine splitLines_cons (Ne.symm hc) (fun _ => by simpa using hd) (ih hline ?_)
          rwa [List.getLast?_cons_cons] at hreturn

lemma splitLines_flatMap
    (h : ∀ line ∈ lines, '\n' ∉ line ∧ line.getLast? ≠ some '\r') (rest : List Char) :
    splitLines (lines.flatMap (· ++ ['\n']) ++ rest) = lines ++ splitLines rest := by
  induction lines with
  | nil => rfl
  | cons line lines ih =>
      obtain ⟨⟨hnewline, hreturn⟩, hlines⟩ := List.forall_mem_cons.1 h
      rw [List.flatMap_cons, List.append_assoc, List.append_assoc, List.singleton_append,
        splitLines_line hnewline hreturn, ih hlines, List.cons_append]

lemma newline_not_mem_splitLines {cs : List Char} (h : line ∈ splitLines cs) : '\n' ∉ line := by
  fun_induction splitLines cs generalizing line with
  | case1 => cases h
  | case2 rest ih =>
      rcases List.mem_cons.1 h with rfl | h
      · exact List.not_mem_nil
      · exact ih h
  | case3 rest ih =>
      rcases List.mem_cons.1 h with rfl | h
      · exact List.not_mem_nil
      · exact ih h
  | case4 c rest hc _ hnil ih =>
      rw [List.mem_singleton.1 h, List.mem_singleton]
      exact fun heq => hc heq.symm
  | case5 c rest hc _ first others hcons ih =>
      rw [hcons] at ih
      rcases List.mem_cons.1 h with rfl | h
      · rw [List.mem_cons, not_or]
        exact ⟨fun heq => hc heq.symm, ih List.mem_cons_self⟩
      · exact ih (List.mem_cons_of_mem _ h)

/-- **What is written is read back,** because no line that is written ends in a carriage return. -/
lemma splitLines_dedent (text : String) :
    splitLines (dedent text).toList = dedentLines (splitLines text.toList) := by
  rw [dedent, String.toList_ofList, ← List.append_nil (List.flatMap _ _), splitLines_flatMap,
    splitLines, List.append_nil]
  intro written hwritten
  obtain ⟨line, hline, rfl⟩ := List.mem_map.1 hwritten
  refine ⟨fun hnewline => ?_, fun hreturn => ?_⟩
  · exact newline_not_mem_splitLines (mem_of_mem_trimBlankLines hline)
      (dedentLine_subset _ line hnewline)
  · obtain ⟨hne, hlast⟩ := List.mem_getLast?_eq_getLast hreturn
    have hnot := List.rdropWhile_eq_self_iff.1 (trimEnd_dedentLine _ line) hne
    rw [← hlast] at hnot
    exact hnot rfl

/-- What stands on the lines of a text that are not blank. -/
def code (text : String) : List (List Char) := codeOf (splitLines text.toList)

/-- **Removing indentation does no harm to a text.** -/
structure Faithful (text : String) : Prop where
  /-- No code is lost. -/
  code : code (dedent text) = code text
  /-- No blank line is left at either end. -/
  ends : TrimEnds (splitLines (dedent text).toList)
  /-- A second pass changes nothing. -/
  stable : dedent (dedent text) = dedent text

/-- A second pass changes nothing exactly if it finds no blank line at an end. -/
lemma dedent_dedent_iff (text : String) :
    dedent (dedent text) = dedent text ↔ TrimEnds (splitLines (dedent text).toList) := by
  rw [splitLines_dedent, ← trimBlankLines_eq_self_iff, ← dedentLines_dedentLines]
  constructor
  · intro h
    have hlines := congrArg (fun text => splitLines text.toList) h
    simpa only [splitLines_dedent] using hlines
  · intro h
    conv_lhs => rw [dedent, splitLines_dedent, h]
    rfl

/-- The code that is left is that of the lines which can be cut. -/
lemma code_dedent (text : String) :
    code (dedent text) = ((splitLines text.toList).filter fun line => !isBlankLine line &&
      (dropBytes? (sharedIndent (splitLines text.toList)) line).isSome).map trim := by
  rw [code, splitLines_dedent, codeOf_dedentLines]

/-- No code is lost exactly if every line with something on it can be cut. -/
lemma code_dedent_eq_iff (text : String) :
    code (dedent text) = code text ↔ ∀ line ∈ splitLines text.toList, isBlankLine line = false →
      Divides (sharedIndent (splitLines text.toList)) line := by
  rw [code_dedent, code, codeOf]
  constructor
  · intro h line hline hblank
    -- The lines that can be cut are among those with something on them, and as many.
    have hsub : ((splitLines text.toList).filter fun line => !isBlankLine line &&
        (dropBytes? (sharedIndent (splitLines text.toList)) line).isSome).Sublist
          ((splitLines text.toList).filter fun line => !isBlankLine line) :=
      List.monotone_filter_right _ fun line hkept => (Bool.and_eq_true_iff.1 hkept).1
    have hsame := hsub.eq_of_length (by simpa using congrArg List.length h)
    have hmem : line ∈ (splitLines text.toList).filter fun line => !isBlankLine line :=
      List.mem_filter.2 ⟨hline, by simp [hblank]⟩
    rw [← hsame, List.mem_filter, Bool.and_eq_true] at hmem
    exact isSome_dropBytes?_iff.1 hmem.2.2
  · intro h
    congr 1
    refine List.filter_congr fun line hline => ?_
    cases hblank : isBlankLine line with
    | true => rfl
    | false => rw [isSome_dropBytes?_iff.2 (h line hline hblank), Bool.and_true]

/-- **Removing indentation does no harm exactly if every line with something on it can be cut** where
the shared indentation ends.  The others are lost, and a second pass changes something exactly if one
of them was the first or the last line with something on it. -/
theorem dedent_faithful_iff (text : String) :
    let lines := splitLines text.toList
    (Faithful text ↔
        ∀ line ∈ lines, isBlankLine line = false → Divides (sharedIndent lines) line) ∧
      code (dedent text) = (lines.filter fun line =>
        !isBlankLine line && (dropBytes? (sharedIndent lines) line).isSome).map trim ∧
      (dedent (dedent text) = dedent text ↔
        (∀ line ∈ (trimBlankLines lines).head?, Divides (sharedIndent lines) line) ∧
          ∀ line ∈ (trimBlankLines lines).getLast?, Divides (sharedIndent lines) line) := by
  intro lines
  have hends : TrimEnds (splitLines (dedent text).toList) ↔ _ :=
    splitLines_dedent text ▸ trimEnds_dedentLines_iff lines
  refine ⟨⟨fun h => (code_dedent_eq_iff text).1 h.code, fun h => ?_⟩, code_dedent text,
    (dedent_dedent_iff text).trans hends⟩
  have hcut : ∀ line ∈ trimBlankLines lines, isBlankLine line = false →
      Divides (sharedIndent lines) line := fun line hline =>
    h line (mem_of_mem_trimBlankLines hline)
  have htrimmed := trimEnds_trimBlankLines lines
  have hkept : TrimEnds (splitLines (dedent text).toList) := hends.2
    ⟨fun line hline => hcut line (List.mem_of_mem_head? hline) (htrimmed.first line hline),
      fun line hline => hcut line (List.mem_of_mem_getLast? hline) (htrimmed.last line hline)⟩
  exact ⟨(code_dedent_eq_iff text).2 h, hkept, (dedent_dedent_iff text).2 hkept⟩

/-- The second line starts with a blank of three bytes, and the first one has an indentation of one
byte. -/
theorem not_forall_dedent_faithful :
    dedent " x\n\u3000y" = "x\n\n" ∧ ¬ ∀ text, Faithful text := by
  have hlost : dedent " x\n\u3000y" = "x\n\n" := by decide +kernel
  refine ⟨hlost, fun h => ?_⟩
  have hcode := (h " x\n\u3000y").code
  rw [hlost] at hcode
  exact absurd hcode (by decide +kernel)

end ShaderWeave.Text
