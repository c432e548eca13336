import Mathlib.Data.Nat.Digits.Defs
import ShaderWeave.Gpu.TypeName

/-!
# When two GLSL names are equal

A name of letters and digits is its own GLSL name.  Any other name is rewritten and has its digest
behind the last underscore.

* `Text.digits_injective`, `Text.underscore_notMem_digits` — numerals can be told apart, and have no
  underscore in them.
* `TypeName.ofHostName_eq_iff` — **two names have the same GLSL name exactly if they are equal, or
  if both were rewritten, to the same text, and have the same digest.**
* `TypeName.ofHostName_eq_self_iff` — a name is its own GLSL name exactly if it is made of letters
  and digits.
* `TypeName.ofHostName_identifier` — with both, GLSL names are words of letters, digits and
  underscores.
-/

namespace ShaderWeave

namespace Text

lemma isAlphanum_digitChar {n : Nat} (h : n < 16) : n.digitChar.isAlphanum = true := by
  have hall : ∀ n < 16, (Nat.digitChar n).isAlphanum = true := by decide
  exact hall n h

lemma isAlphanum_of_mem_digits {n : Nat} {c : Char} (h : c ∈ Nat.toDigits 16 n) :
    c.isAlphanum = true := by
  induction n using Nat.strongRecOn with
  | ind n ih =>
      rw [Nat.toDigits_eq_if (by decide)] at h
      split at h
      · next hsmall =>
          rw [List.mem_singleton.1 h]
          exact isAlphanum_digitChar hsmall
      · next hlarge =>
          rcases List.mem_append.1 h with h | h
          · exact ih _ (by omega) h
          · rw [List.mem_singleton.1 h]
            exact isAlphanum_digitChar (Nat.mod_lt n (by decide))

lemma underscore_notMem_digits (n : Nat) : '_' ∉ Nat.toDigits 16 n := by
  intro hmem
  exact absurd (isAlphanum_of_mem_digits hmem) (by decide)

lemma digitChar_inj {m n : Nat} (hm : m < 16) (hn : n < 16) (h : m.digitChar = n.digitChar) :
    m = n := by
  have hall : ∀ m < 16, ∀ n < 16, Nat.digitChar m = Nat.digitChar n → m = n := by decide
  exact hall m hm n hn h

lemma digits_injective : Function.Injective (Nat.toDigits 16) := by
  intro m
  induction m using Nat.strongRecOn with
  | ind m ih =>
      intro n h
      -- A numeral of one digit has no digit before it, so both numbers have one digit or neither.
      rw [Nat.toDigits_eq_if (by decide), Nat.toDigits_eq_if (n := n) (by decide)] at h
      split at h <;> split at h
      · next hm hn => exact digitChar_inj hm hn (List.singleton_inj.1 h)
      · exact absurd (congrArg List.length h) (by simp [Nat.toDigits_ne_nil])
      · exact absurd (congrArg List.length h) (by simp [Nat.toDigits_ne_nil])
      · next hm hn =>
          obtain ⟨hhigh, hlow⟩ := List.append_inj' h rfl
          have hdiv := ih (m / 16) (by omega) hhigh
          have hmod := digitChar_inj (Nat.mod_lt m (by decide)) (Nat.mod_lt n (by decide))
            (List.singleton_inj.1 hlow)
          omega

end Text

namespace TypeName

variable {name name' : String}

/-- The name is made of letters and digits. -/
abbrev Plain (name : String) : Prop := name.toList.all isKept = true

lemma mangleChar_of_kept {c : Char} (h : isKept c = true) : mangleChar c = [c] := by
  unfold mangleChar
  exact if_pos h

lemma mangle_of_plain (h : Plain name) : mangle name = name.toList := by
  rw [mangle]
  have hkept : ∀ c ∈ name.toList, mangleChar c = [c] := by
    intro c hc
    exact mangleChar_of_kept (List.all_eq_true.1 h c hc)
  rw [List.flatMap_def, List.map_congr_left hkept, ← List.flatMap_def, List.flatMap_singleton']

lemma toList_ofHostName_of_plain (h : Plain name) : (ofHostName name).toList = name.toList := by
  rw [ofHostName]
  simp [h, mangle_of_plain h]

lemma toList_ofHostName_of_not_plain (h : ¬ Plain name) :
    (ofHostName name).toList = mangle name ++ '_' :: Nat.toDigits 16 (nameDigest name).toNat := by
  rw [ofHostName]
  simp [h, Text.hex]

/-- A plain name has no underscore in it. -/
lemma underscore_notMem_of_plain (h : Plain name) : '_' ∉ name.toList := by
  intro hmem
  exact absurd (List.all_eq_true.1 h '_' hmem) (by decide)

/-- A text is cut in one way at its last underscore. -/
lemma cut_inj {before before' after after' : List Char} (hafter : '_' ∉ after)
    (hafter' : '_' ∉ after') (h : before ++ '_' :: after = before' ++ '_' :: after') :
    before = before' ∧ after = after' := by
  rcases List.append_eq_append_iff.1 h with ⟨rest, hrest, hcut⟩ | ⟨rest, hrest, hcut⟩
  · cases rest with
    | nil => simp_all
    | cons c rest =>
        obtain ⟨-, rfl⟩ := List.cons.inj hcut
        exact absurd (List.mem_append_right rest List.mem_cons_self) hafter
  · cases rest with
    | nil => simp_all
    | cons c rest =>
        obtain ⟨-, rfl⟩ := List.cons.inj hcut
        exact absurd (List.mem_append_right rest List.mem_cons_self) hafter'

/-- **Two names have the same GLSL name** exactly if they are equal, or if both were rewritten to the
same text and have the same digest. -/
lemma ofHostName_eq_iff : ofHostName name = ofHostName name' ↔
    name = name' ∨ ¬ Plain name ∧ ¬ Plain name' ∧ mangle name = mangle name' ∧
      nameDigest name = nameDigest name' := by
  rw [← String.toList_inj]
  by_cases h : Plain name <;> by_cases h' : Plain name'
  · rw [toList_ofHostName_of_plain h, toList_ofHostName_of_plain h', String.toList_inj]
    exact ⟨Or.inl, fun heq => heq.resolve_right fun hchanged => hchanged.1 h⟩
  · rw [toList_ofHostName_of_plain h, toList_ofHostName_of_not_plain h']
    refine ⟨fun heq => ?_, ?_⟩
    · exact absurd (heq ▸ List.mem_append_right _ List.mem_cons_self) (underscore_notMem_of_plain h)
    · rintro (rfl | ⟨hnot, -⟩)
      · exact absurd h h'
      · exact absurd h hnot
  · rw [toList_ofHostName_of_not_plain h, toList_ofHostName_of_plain h']
    refine ⟨fun heq => ?_, ?_⟩
    · exact absurd (heq ▸ List.mem_append_right _ List.mem_cons_self)
        (underscore_notMem_of_plain h')
    · rintro (rfl | ⟨-, hnot, -⟩)
      · exact absurd h' h
      · exact absurd h' hnot
  · rw [toList_ofHostName_of_not_plain h, toList_ofHostName_of_not_plain h']
    refine ⟨fun heq => ?_, ?_⟩
    · obtain ⟨hmangled, hdigits⟩ := cut_inj (Text.underscore_notMem_digits _)
        (Text.underscore_notMem_digits _) heq
      exact Or.inr ⟨h, h', hmangled, UInt64.toNat_inj.1 (Text.digits_injective hdigits)⟩
    · rintro (rfl | ⟨-, -, hmangled, hdigest⟩)
      · rfl
      · rw [hmangled, hdigest]

/-- Whatever stands for a character is made of letters, digits and underscores. -/
lemma word_of_mem_mangle {c : Char} (h : c ∈ mangle name) : c.isAlphanum = true ∨ c = '_' := by
  obtain ⟨original, -, hc⟩ := List.mem_flatMap.1 h
  unfold mangleChar at hc
  split at hc
  · next hkept => exact Or.inl (List.mem_singleton.1 hc ▸ hkept)
  · split at hc
    · exact Or.inl (List.mem_singleton.1 hc ▸ by decide)
    · exact Or.inl (List.mem_singleton.1 hc ▸ by decide)
    · exact Or.inl (List.mem_singleton.1 hc ▸ by decide)
    · exact Or.inr (by simpa using hc)
    · exact absurd hc List.not_mem_nil

lemma word_of_mem_ofHostName {c : Char} (h : c ∈ (ofHostName name).toList) :
    c.isAlphanum = true ∨ c = '_' := by
  by_cases hplain : Plain name
  · rw [toList_ofHostName_of_plain hplain] at h
    exact Or.inl (List.all_eq_true.1 hplain c h)
  · rw [toList_ofHostName_of_not_plain hplain, List.mem_append, List.mem_cons] at h
    rcases h with h | rfl | h
    · exact word_of_mem_mangle h
    · exact Or.inr rfl
    · exact Or.inl (Text.isAlphanum_of_mem_digits h)

/-- Of letters, digits and underscores the underscores are dropped. -/
lemma mangle_of_word {cs : List Char} (h : ∀ c ∈ cs, c.isAlphanum = true ∨ c = '_') :
    cs.flatMap mangleChar = cs.filter isKept := by
  induction cs with
  | nil => rfl
  | cons c cs ih =>
      rw [List.flatMap_cons, ih fun d hd => h d (List.mem_cons_of_mem c hd)]
      rcases h c List.mem_cons_self with hkept | rfl
      · have hc : isKept c = true := hkept
        rw [List.filter_cons_of_pos hc, mangleChar_of_kept hc, List.singleton_append]
      · rfl

/-- **A name is its own GLSL name** exactly if it is made of letters and digits. -/
lemma ofHostName_eq_self_iff : ofHostName name = name ↔ Plain name := by
  refine ⟨fun heq => ?_, fun h => String.toList_inj.1 (toList_ofHostName_of_plain h)⟩
  by_contra hplain
  -- Without its underscores the name would be itself with the digits of the digest behind it.
  have hword : mangle name = name.toList.filter isKept :=
    mangle_of_word fun c hc => word_of_mem_ofHostName (heq.symm ▸ hc)
  have htext := toList_ofHostName_of_not_plain hplain
  rw [heq] at htext
  have hkept := congrArg (List.filter isKept) htext
  have hdigits : (Nat.toDigits 16 (nameDigest name).toNat).filter isKept
      = Nat.toDigits 16 (nameDigest name).toNat :=
    List.filter_eq_self.2 fun c hc => Text.isAlphanum_of_mem_digits hc
  rw [hword, List.filter_append, List.filter_filter, List.filter_cons_of_neg (by decide), hdigits]
    at hkept
  simp [Nat.toDigits_ne_nil] at hkept

/-- **GLSL names are words, and tell host names apart up to the digest.**

* Every GLSL name is made of letters, digits and underscores.
* Exactly the names of letters and digits stay as they are.
* Two different names get the same GLSL name only if both have some other character in them, are
  rewritten to the same text and have the same digest; and then they do.
* So no name that was changed is the GLSL name of one that was not. -/
theorem ofHostName_identifier (name name' : String) :
    (∀ c ∈ (ofHostName name).toList, c.isAlphanum = true ∨ c = '_') ∧
    (ofHostName name = name ↔ ∀ c ∈ name.toList, c.isAlphanum = true) ∧
    (name ≠ name' → (ofHostName name = ofHostName name' ↔
      (∃ c ∈ name.toList, c.isAlphanum = false) ∧ (∃ c ∈ name'.toList, c.isAlphanum = false) ∧
        mangle name = mangle name' ∧ nameDigest name = nameDigest name')) ∧
    (ofHostName name = name → ofHostName name' ≠ name' → ofHostName name ≠ ofHostName name') := by
  have hother : ∀ {name : String}, ¬ Plain name ↔ ∃ c ∈ name.toList, c.isAlphanum = false := by
    intro name
    rw [Plain, Bool.not_eq_true, List.all_eq_false]
    simp only [isKept, Bool.not_eq_true]
  refine ⟨fun c hc => word_of_mem_ofHostName hc, ?_, ?_, ?_⟩
  · rw [ofHostName_eq_self_iff]
    exact List.all_eq_true
  · intro hne
    rw [← hother, ← hother, ofHostName_eq_iff, or_iff_right hne]
  · rw [ofHostName_eq_self_iff, ne_eq, ofHostName_eq_self_iff]
    intro hplain hplain' heq
    rcases ofHostName_eq_iff.1 heq with rfl | ⟨hnot, -⟩
    · exact hplain' hplain
    · exact hnot hplain

end TypeName

end ShaderWeave
