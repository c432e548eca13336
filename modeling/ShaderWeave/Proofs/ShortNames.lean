import Mathlib.Logic.ExistsUnique
import Mathlib.Tactic.Common
import ShaderWeave.Host.ShortName

/-!
# Short names, run by run

A text is read as runs of path characters with single other characters between them.  So no run
inside the text could be longer, and some are empty: `&[a::B]` has three empty runs and `a::B`.

**Segments.**  `IsLastSegment` says what the last segment of a path is without looking for it: no
other `::` of the path begins behind the one in front of the segment.  This settles odd numbers of
colons, where two `::` have a colon in common (`isLastSegment_iff`).

**Runs.**  Every text is read in one way (`Runs.exists_text`, `Runs.text_injective`), and the loop
that shortens it works on one run after the other (`shortenFrom_text`).

* `shortName_run_by_run` — **the short name has the last segments of the runs, and all other
  characters in their places.**  So a name can be cut at such a character and shortened piece by
  piece, no `::` is left, and a short name is its own short name.
-/

namespace ShaderWeave.Host

/-- Letters and numbers, underscores and colons. -/
abbrev PathChar (c : Char) : Prop := Text.isAlphanumeric c = true ∨ c = '_' ∨ c = ':'

/-- What stands between the segments of a path. -/
def pathMark : List Char := [':', ':']

variable {path segment front back : List Char} {c : Char}

lemma isPathChar_iff : isPathChar c = true ↔ PathChar c := by
  simp [isPathChar, or_assoc]

lemma forall_pathChar {cs : List Char} (h : cs.all isPathChar = true) : ∀ c ∈ cs, PathChar c :=
  fun c hc => isPathChar_iff.1 (List.all_eq_true.1 h c hc)

/-! ## The last segment of a path -/

/-- The segment is what follows the last `::` of the path, or the whole path if it has none. -/
inductive IsLastSegment : List Char → List Char → Prop
  | whole {path : List Char} (h : ¬ pathMark <:+: path) : IsLastSegment path path
  | behind {front segment : List Char}
      (h : ∀ front' segment', front ++ pathMark ++ segment = front' ++ pathMark ++ segment' →
        front'.length ≤ front.length) :
      IsLastSegment (front ++ pathMark ++ segment) segment

lemma afterPath?_eq_none_iff : afterPath? path = none ↔ ¬ pathMark <:+: path := by
  fun_induction afterPath? path with
  | case1 => simp [pathMark]
  | case2 c rest found hfound ih =>
      have hrest : pathMark <:+: rest := by simpa [hfound] using ih
      simpa using List.infix_cons hrest
  | case3 found hnone ih =>
      have hmark : pathMark <:+: ':' :: ':' :: found := ⟨[], found, rfl⟩
      simpa using hmark
  | case4 c rest hnone hother ih =>
      have hrest : ¬ pathMark <:+: rest := ih.1 hnone
      have hfirst : ¬ pathMark <+: c :: rest := by
        rintro ⟨found, hfound⟩
        obtain ⟨rfl, rfl⟩ := List.cons.inj hfound
        exact hother found rfl rfl
      simp [List.infix_cons_iff, hrest, hfirst]

/-- What was found stands behind a `::`, and no other `::` begins behind this one: not even with its
second colon. -/
lemma exists_of_afterPath? (h : afterPath? path = some segment) :
    ∃ front, path = front ++ pathMark ++ segment ∧ ¬ pathMark <:+: ':' :: segment := by
  fun_induction afterPath? path with
  | case1 => cases h
  | case2 c rest found hfound ih =>
      obtain ⟨front, hrest, hlast⟩ := ih (hfound.trans h)
      exact ⟨c :: front, by rw [hrest]; rfl, hlast⟩
  | case3 found hnone ih =>
      obtain rfl := Option.some.inj h
      exact ⟨[], rfl, afterPath?_eq_none_iff.1 hnone⟩
  | case4 => cases h

lemma length_le_of_last (hlast : ¬ pathMark <:+: ':' :: segment) {front' segment' : List Char}
    (h : front ++ pathMark ++ segment = front' ++ pathMark ++ segment') :
    front'.length ≤ front.length := by
  rw [List.append_assoc, List.append_assoc] at h
  rcases List.append_eq_append_iff.1 h with ⟨between, rfl, hbetween⟩ | ⟨between, rfl, -⟩
  · cases between with
    | nil => simp
    | cons d between =>
        -- The other mark begins behind the first colon of this one.
        obtain ⟨-, hrest⟩ := List.cons.inj hbetween
        exact absurd ⟨between, segment', by rw [List.append_assoc]; exact hrest.symm⟩ hlast
  · simp

/-- **The last segment is found,** also where the marks overlap. -/
lemma isLastSegment_iff : IsLastSegment path segment ↔ segment = lastSegment path := by
  constructor
  · intro h
    cases h with
    | whole hnone => rw [lastSegment, afterPath?_eq_none_iff.2 hnone, Option.getD_none]
    | @behind front _ hfront =>
        cases hfound : afterPath? (front ++ pathMark ++ segment) with
        | none =>
            exact absurd (List.infix_append front pathMark segment)
              (afterPath?_eq_none_iff.1 hfound)
        | some found =>
            obtain ⟨front', heq, hlast⟩ := exists_of_afterPath? hfound
            have hlength : front.length = front'.length :=
              Nat.le_antisymm (length_le_of_last hlast heq.symm) (hfront front' found heq)
            have hsame : segment = found :=
              (List.append_inj heq (by simp [hlength])).2
            rw [lastSegment, hfound, Option.getD_some, hsame]
  · rintro rfl
    rw [lastSegment]
    cases hfound : afterPath? path with
    | none => exact .whole (afterPath?_eq_none_iff.1 hfound)
    | some found =>
        obtain ⟨front, rfl, hlast⟩ := exists_of_afterPath? hfound
        exact .behind fun _ _ heq => length_le_of_last hlast heq

lemma IsLastSegment.isSuffix (h : IsLastSegment path segment) : segment <:+ path := by
  cases h with
  | whole => exact List.suffix_rfl
  | behind => exact List.suffix_append ..

lemma isLastSegment_lastSegment (path : List Char) : IsLastSegment path (lastSegment path) :=
  isLastSegment_iff.2 rfl

lemma not_mark_lastSegment (path : List Char) : ¬ pathMark <:+: lastSegment path := by
  rw [lastSegment]
  cases hfound : afterPath? path with
  | none => exact afterPath?_eq_none_iff.1 hfound
  | some found =>
      obtain ⟨-, -, hlast⟩ := exists_of_afterPath? hfound
      exact fun hmark => hlast (List.infix_cons hmark)

@[simp] lemma lastSegment_lastSegment (path : List Char) :
    lastSegment (lastSegment path) = lastSegment path :=
  (isLastSegment_iff.1 (.whole (not_mark_lastSegment path))).symm

/-! ## Texts as runs -/

/-- A run of path characters. -/
abbrev Run := {run : List Char // ∀ c ∈ run, PathChar c}

/-- A character that no run has. -/
abbrev Separator := {c : Char // ¬ PathChar c}

/-- A text that is taken apart at its separators. -/
inductive Runs
  | last (run : Run)
  | next (run : Run) (c : Separator) (rest : Runs)

namespace Runs

/-- The text of the runs and separators. -/
def text : Runs → List Char
  | last run => run.1
  | next run c rest => run.1 ++ c.1 :: rest.text

/-- The runs are replaced by their last segments, and the separators stay. -/
inductive Shortens : Runs → Runs → Prop
  | last {run segment : Run} (h : IsLastSegment run segment) : Shortens (last run) (last segment)
  | next {run segment : Run} {c : Separator} {rest short : Runs} (h : IsLastSegment run segment)
      (hrest : Shortens rest short) : Shortens (next run c rest) (next segment c short)

/-- A path character in front makes the first run longer. -/
lemma exists_text_cons (hc : PathChar c) (runs : Runs) :
    ∃ longer : Runs, longer.text = c :: runs.text := by
  cases runs with
  | last run => exact ⟨last ⟨c :: run.1, List.forall_mem_cons.2 ⟨hc, run.2⟩⟩, rfl⟩
  | next run d rest => exact ⟨next ⟨c :: run.1, List.forall_mem_cons.2 ⟨hc, run.2⟩⟩ d rest, rfl⟩

/-- Every text can be taken apart. -/
lemma exists_text (cs : List Char) : ∃ runs : Runs, runs.text = cs := by
  induction cs with
  | nil => exact ⟨last ⟨[], by simp⟩, rfl⟩
  | cons c cs ih =>
      obtain ⟨runs, rfl⟩ := ih
      by_cases hc : PathChar c
      · exact exists_text_cons hc runs
      · exact ⟨next ⟨[], by simp⟩ ⟨c, hc⟩ runs, rfl⟩

/-- A run cannot be cut at a separator. -/
lemma run_ne_append_cons (run : Run) (c : Separator) (front back : List Char) :
    run.1 ≠ front ++ c.1 :: back := by
  intro h
  have hmem : c.1 ∈ run.1 := h ▸ List.mem_append_right front List.mem_cons_self
  exact c.2 (run.2 c.1 hmem)

/-- The first separator ends the first run. -/
lemma cut_inj {run run' : Run} {c c' : Separator} {back back' : List Char}
    (h : run.1 ++ c.1 :: back = run'.1 ++ c'.1 :: back') : run = run' ∧ c = c' ∧ back = back' := by
  rcases List.append_eq_append_iff.1 h with ⟨between, hrun, hcut⟩ | ⟨between, hrun, hcut⟩
  · cases between with
    | nil =>
        obtain ⟨hc, hback⟩ := List.cons.inj hcut
        exact ⟨Subtype.ext (by simpa using hrun.symm), Subtype.ext hc, hback⟩
    | cons d between =>
        obtain ⟨rfl, -⟩ := List.cons.inj hcut
        exact absurd hrun (run_ne_append_cons run' c _ _)
  · cases between with
    | nil =>
        obtain ⟨hc, hback⟩ := List.cons.inj hcut
        exact ⟨Subtype.ext (by simpa using hrun), Subtype.ext hc.symm, hback.symm⟩
    | cons d between =>
        obtain ⟨rfl, -⟩ := List.cons.inj hcut
        exact absurd hrun (run_ne_append_cons run c' _ _)

/-- No text can be taken apart in two ways. -/
lemma text_injective : Function.Injective text := by
  intro runs
  induction runs with
  | last run =>
      intro runs' h
      cases runs' with
      | last run' => exact congrArg last (Subtype.ext h)
      | next run' c rest => exact absurd h (run_ne_append_cons run c _ _)
  | next run c rest ih =>
      intro runs' h
      cases runs' with
      | last run' => exact absurd h.symm (run_ne_append_cons run' c _ _)
      | next run' c' rest' =>
          obtain ⟨rfl, rfl, hrest⟩ := cut_inj h
          rw [ih hrest]

/-- The last segment of a run, a run itself. -/
def lastSegmentOf (run : Run) : Run :=
  ⟨lastSegment run.1, fun c hc => run.2 c ((isLastSegment_lastSegment run.1).isSuffix.subset hc)⟩

/-- Every run shortened. -/
def shorten : Runs → Runs
  | last run => last (lastSegmentOf run)
  | next run c rest => next (lastSegmentOf run) c rest.shorten

lemma shortens_iff {runs short : Runs} : runs.Shortens short ↔ short = runs.shorten := by
  constructor
  · intro h
    induction h with
    | last h => exact congrArg Runs.last (Subtype.ext (isLastSegment_iff.1 h))
    | @next run segment c rest short h hrest ih =>
        have hsegment : segment = lastSegmentOf run := Subtype.ext (isLastSegment_iff.1 h)
        rw [shorten, hsegment, ih]
  · rintro rfl
    induction runs with
    | last run => exact .last (isLastSegment_lastSegment run.1)
    | next run c rest ih => exact .next (isLastSegment_lastSegment run.1) ih

@[simp] lemma shorten_shorten (runs : Runs) : runs.shorten.shorten = runs.shorten := by
  have hrun : ∀ run, lastSegmentOf (lastSegmentOf run) = lastSegmentOf run :=
    fun run => Subtype.ext (lastSegment_lastSegment run.1)
  induction runs with
  | last run => rw [shorten, shorten, hrun]
  | next run c rest ih => rw [shorten, shorten, hrun, ih]

/-- A `::` does not go over a separator. -/
lemma mark_infix_append_cons (c : Separator) (h : pathMark <:+: front ++ c.1 :: back) :
    pathMark <:+: front ∨ pathMark <:+: back := by
  have hcolon : c.1 ≠ ':' := fun heq => c.2 (Or.inr (Or.inr heq))
  have hmark : c.1 ∉ pathMark := by simp [pathMark, hcolon]
  rcases List.infix_append_iff.1 h with hfront | hback | ⟨left, right, heq, hleft, hright⟩
  · exact Or.inl hfront
  · rcases List.infix_cons_iff.1 hback with ⟨_, hfirst⟩ | hback
    · exact absurd (List.cons.inj hfirst).1.symm hcolon
    · exact Or.inr hback
  · rcases List.prefix_cons_iff.1 hright with rfl | ⟨right, rfl, -⟩
    · rw [heq, List.append_nil]
      exact Or.inl hleft.isInfix
    · exact absurd (heq ▸ List.mem_append_right left List.mem_cons_self) hmark

/-- Between the runs there is no `::`, and in their last segments there is none. -/
lemma not_mark_text_shorten (runs : Runs) : ¬ pathMark <:+: runs.shorten.text := by
  induction runs with
  | last run => exact not_mark_lastSegment run.1
  | next run c rest ih =>
      intro hmark
      rcases mark_infix_append_cons c hmark with hrun | hrest
      · exact not_mark_lastSegment run.1 hrun
      · exact ih hrest

end Runs

/-! ## The loop -/

/-- A run is collected. -/
lemma shortenFrom_run (path : List Char) (run : Run) (rest : List Char) :
    shortenFrom path (run.1 ++ rest) = shortenFrom (path ++ run.1) rest := by
  obtain ⟨run, hrun⟩ := run
  induction run generalizing path with
  | nil => simp
  | cons c run ih =>
      obtain ⟨hc, hrest⟩ := List.forall_mem_cons.1 hrun
      rw [List.cons_append, shortenFrom, if_pos (isPathChar_iff.2 hc), ih _ hrest,
        List.append_assoc, List.singleton_append]

/-- A separator ends the path that was collected. -/
lemma shortenFrom_separator (path : List Char) (c : Separator) (rest : List Char) :
    shortenFrom path (c.1 :: rest) = lastSegment path ++ c.1 :: shortenFrom [] rest := by
  rw [shortenFrom, if_neg (isPathChar_iff.not.2 c.2)]

/-- **The loop shortens every run.** -/
lemma shortenFrom_text (runs : Runs) : shortenFrom [] runs.text = runs.shorten.text := by
  induction runs with
  | last run =>
      rw [Runs.text, ← List.append_nil run.1, shortenFrom_run]
      rfl
  | next run c rest ih =>
      rw [Runs.text, shortenFrom_run, shortenFrom_separator, ih]
      rfl

/-- What stands behind a separator does not depend on what stands in front of it. -/
lemma shortenFrom_append (path front : List Char) (c : Separator) (back : List Char) :
    shortenFrom path (front ++ c.1 :: back) =
      shortenFrom path front ++ c.1 :: shortenFrom [] back := by
  fun_induction shortenFrom path front with
  | case1 path => exact shortenFrom_separator path c back
  | case2 path d front hd ih => rw [List.cons_append, shortenFrom, if_pos hd, ih]
  | case3 path d front hd ih =>
      rw [List.cons_append, shortenFrom, if_neg hd, ih, List.append_assoc, List.cons_append]

/-- **The short name is made run by run.**

* Every name can be taken apart, and in one way only, into runs of letters, numbers, underscores and
  colons and the characters between them.
* The short name consists of the last segments of these runs and the same characters between them.
* What stands in front of such a character and what stands behind it are shortened by themselves.
* No `::` is left.
* The short name of a short name is itself. -/
theorem shortName_run_by_run (name other : String) (c : Char) :
    (∃! runs : Runs, runs.text = name.toList) ∧
    (∀ runs short : Runs, runs.text = name.toList →
      (runs.Shortens short ↔ short.text = (shortName name).toList)) ∧
    (¬ PathChar c → shortName (name ++ String.singleton c ++ other) =
      shortName name ++ String.singleton c ++ shortName other) ∧
    ¬ pathMark <:+: (shortName name).toList ∧
    shortName (shortName name) = shortName name := by
  obtain ⟨runs, hruns⟩ := Runs.exists_text name.toList
  have hshort : (shortName name).toList = runs.shorten.text := by
    rw [shortName, String.toList_ofList, ← hruns, shortenFrom_text]
  refine ⟨⟨runs, hruns, fun _ h => Runs.text_injective (h.trans hruns.symm)⟩, ?_, ?_, ?_, ?_⟩
  · intro runs' short hruns'
    obtain rfl := Runs.text_injective (hruns'.trans hruns.symm)
    rw [Runs.shortens_iff, hshort, Runs.text_injective.eq_iff]
  · intro hc
    apply String.toList_inj.1
    simpa [shortName] using shortenFrom_append [] name.toList ⟨c, hc⟩ other.toList
  · rw [hshort]
    exact runs.not_mark_text_shorten
  · apply String.toList_inj.1
    rw [shortName, String.toList_ofList, hshort, shortenFrom_text, Runs.shorten_shorten]

/-- A name with three colons in a row, a path that begins with `::` and letters beyond ASCII. -/
def pairName : String := "app::Pair<hue:::Tone, ::été::_x>"

def pairRuns : Runs :=
  .next ⟨"app::Pair".toList, forall_pathChar (by decide)⟩ ⟨'<', by decide⟩ <|
  .next ⟨"hue:::Tone".toList, forall_pathChar (by decide)⟩ ⟨',', by decide⟩ <|
  .next ⟨[], by simp⟩ ⟨' ', by decide⟩ <|
  .next ⟨"::été::_x".toList, forall_pathChar (by decide)⟩ ⟨'>', by decide⟩ <|
  .last ⟨[], by simp⟩

def pairShort : Runs :=
  .next ⟨"Pair".toList, forall_pathChar (by decide)⟩ ⟨'<', by decide⟩ <|
  .next ⟨"Tone".toList, forall_pathChar (by decide)⟩ ⟨',', by decide⟩ <|
  .next ⟨[], by simp⟩ ⟨' ', by decide⟩ <|
  .next ⟨"_x".toList, forall_pathChar (by decide)⟩ ⟨'>', by decide⟩ <|
  .last ⟨[], by simp⟩

theorem shortName_run_by_run_pair :
    pairRuns.text = pairName.toList ∧ pairRuns.Shortens pairShort ∧
    ¬ PathChar '<' ∧ shortName "app::Pair<hue:::Tone>" = "Pair" ++ "<" ++ "Tone>" := by
  have hruns : pairRuns.text = pairName.toList := by decide
  have hshort : pairShort.text = (shortName pairName).toList := by decide
  have hcut : ¬ PathChar '<' := by decide
  refine ⟨hruns, ?_, hcut, ?_⟩
  · exact ((shortName_run_by_run pairName "" '<').2.1 pairRuns pairShort hruns).2 hshort
  · exact ((shortName_run_by_run "app::Pair" "hue:::Tone>" '<').2.2.1 hcut).trans (by decide)

end ShaderWeave.Host
