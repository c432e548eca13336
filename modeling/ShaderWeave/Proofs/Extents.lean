import Mathlib.Data.List.Forall2
import Mathlib.Tactic.Common
import ShaderWeave.Gpu.Type
import ShaderWeave.Host.Type

/-!
# Members one after the other

Host memory and the GPU layouts place members by one rule: each goes to the least free offset that is
a multiple of its alignment.  They differ in the size and alignment that they give to a type
(`Extent`), and in how far the alignment of a struct is rounded up (`Extent.struct`).

* `Extent.offsets`, `Extent.reach` — where members go, and where the last one ends.
* `Extent.offsets_eq_iff` — two layouts with equal sizes put members at the same offsets **exactly
  when the alignments of each divide the offsets of the other.**
* `Extent.toNat_words` — **words of 64 bits count the same** as long as the size of the struct fits
  into one.
-/

namespace ShaderWeave

/-! ## Rounding up -/

lemma roundUp_one (offset : Nat) : roundUp offset 1 = offset := by simp [roundUp]

lemma roundUp_eq_of_dvd {offset align : Nat} (hpos : 0 < align) (h : align ∣ offset) :
    roundUp offset align = offset :=
  Nat.le_antisymm (roundUp_le_of_dvd h (Nat.le_refl _)) (le_roundUp hpos)

lemma roundUp_lt {offset align : Nat} (hpos : 0 < align) :
    roundUp offset align < offset + align := by
  have := Nat.div_mul_le_self (offset + (align - 1)) align
  rw [roundUp]
  omega

/-- A multiple of the alignment that is not below the offset is where it is rounded to exactly when
it is less than one alignment away. -/
lemma roundUp_eq_iff {offset align bound : Nat} (hpos : 0 < align) (hdvd : align ∣ bound)
    (hle : offset ≤ bound) : roundUp offset align = bound ↔ bound < offset + align := by
  constructor
  · rintro rfl
    exact roundUp_lt hpos
  · intro hlt
    obtain ⟨count, hcount⟩ := dvd_roundUp offset align
    obtain ⟨count', rfl⟩ := hdvd
    have hlow : offset ≤ roundUp offset align := le_roundUp hpos
    have hhigh := roundUp_le_of_dvd (Nat.dvd_mul_right align count') hle
    rw [hcount] at hlow hhigh ⊢
    have hcount' : count ≤ count' := Nat.le_of_mul_le_mul_left hhigh hpos
    have : align * count' < align * (count + 1) := by rw [Nat.mul_add]; omega
    have := Nat.lt_of_mul_lt_mul_left this
    obtain rfl : count = count' := by omega
    rfl

lemma roundUp_of_not_dvd {offset align : Nat} (hpos : 0 < align) (h : offset % align ≠ 0) :
    roundUp offset align = offset + (align - offset % align) := by
  have hmod := Nat.mod_lt offset hpos
  have hsum : offset + (align - offset % align) = align * (offset / align + 1) := by
    have := Nat.div_add_mod offset align
    rw [Nat.mul_add]
    omega
  refine (roundUp_eq_iff hpos (hsum ▸ Nat.dvd_mul_right align _) (by omega)).2 ?_
  omega

/-- Rounds up in words of 64 bits: what is missing to a multiple is added. -/
def roundUpWord (offset align : UInt64) : UInt64 :=
  if offset % align = 0 then offset else offset + (align - offset % align)

/-- **Words are rounded as numbers are,** as long as the multiple fits into a word. -/
lemma toNat_roundUpWord {offset align : Nat} (hpos : 0 < align)
    (h : roundUp offset align < UInt64.size) :
    (roundUpWord offset.toUInt64 align.toUInt64).toNat = roundUp offset align := by
  rcases Nat.eq_zero_or_pos offset with rfl | hoffset
  · rw [roundUp_eq_of_dvd hpos (Nat.dvd_zero align)]
    simp [roundUpWord]
  · -- The multiple is at least one alignment, so the alignment fits as well.
    have hle : offset ≤ roundUp offset align := le_roundUp hpos
    have hfits : align < UInt64.size :=
      Nat.lt_of_le_of_lt (Nat.le_of_dvd (by omega) (dvd_roundUp offset align)) h
    have hword : offset.toUInt64.toNat = offset := UInt64.toNat_ofNat_of_lt' (by omega)
    have hword' : align.toUInt64.toNat = align := UInt64.toNat_ofNat_of_lt' hfits
    have hmod := Nat.mod_lt offset hpos
    have hrest : (offset.toUInt64 % align.toUInt64).toNat = offset % align := by
      rw [UInt64.toNat_mod, hword, hword']
    have hzero : offset.toUInt64 % align.toUInt64 = 0 ↔ offset % align = 0 := by
      rw [← UInt64.toNat_inj, hrest, UInt64.toNat_zero]
    by_cases hdvd : offset % align = 0
    · rw [roundUpWord, if_pos (hzero.2 hdvd), hword,
        roundUp_eq_of_dvd hpos (Nat.dvd_of_mod_eq_zero hdvd)]
    · have hmissing : (align.toUInt64 - offset.toUInt64 % align.toUInt64).toNat =
          align - offset % align := by
        rw [UInt64.toNat_sub_of_le _ _ (UInt64.le_iff_toNat_le.2 (by omega)), hrest, hword']
      rw [roundUp_of_not_dvd hpos hdvd] at h ⊢
      rw [roundUpWord, if_neg (mt hzero.1 hdvd), UInt64.toNat_add, hmissing, hword,
        Nat.mod_eq_of_lt h]

/-! ## Extents -/

/-- Size and alignment of a type. -/
structure Extent where
  size : Nat
  align : Nat
deriving DecidableEq, Repr

/-- The extent of a type in host memory. -/
def HostType.extent (host : HostType) : Extent := ⟨host.size, host.align⟩

/-- The extent of a type in the std140 layout. -/
def GpuType.extent (type : GpuType) : Extent := ⟨type.layout.size, type.layout.align⟩

namespace Extent

/-- The alignment, at least one byte. -/
def step (extent : Extent) : Nat := max extent.align 1

lemma step_pos (extent : Extent) : 0 < extent.step := by
  rw [step]
  omega

/-- Where each of the members goes when the bytes before `offset` are taken. -/
def offsets : Nat → List Extent → List Nat
  | _, [] => []
  | offset, member :: rest =>
    roundUp offset member.step :: offsets (roundUp offset member.step + member.size) rest

/-- Where the last of the members ends. -/
def reach : Nat → List Extent → Nat
  | offset, [] => offset
  | offset, member :: rest => reach (roundUp offset member.step + member.size) rest

/-- The largest alignment of the members. -/
def widest (members : List Extent) : Nat := (members.map align).foldl max 1

/-- A struct: its alignment is the largest of its members, rounded up to a multiple of `unit`, and
its size is rounded up to its alignment. -/
def struct (unit : Nat) (members : List Extent) : Extent :=
  let align := roundUp (widest members) unit
  { size := roundUp (reach 0 members) align, align }

lemma widest_pos (members : List Extent) : 0 < widest members := by
  suffices hmax : ∀ aligns : List Nat, ∀ start, 0 < start → 0 < aligns.foldl max start from
    hmax _ 1 Nat.one_pos
  intro aligns
  induction aligns with
  | nil => exact fun start hstart => hstart
  | cons first rest ih => exact fun start hstart => ih _ (by omega)

lemma align_struct_pos {unit : Nat} (hunit : 0 < unit) (members : List Extent) :
    0 < (struct unit members).align :=
  Nat.lt_of_lt_of_le (widest_pos members) (le_roundUp hunit)

lemma reach_le_size {unit : Nat} (hunit : 0 < unit) (members : List Extent) :
    reach 0 members ≤ (struct unit members).size :=
  le_roundUp (align_struct_pos hunit members)

/-- Each of the extents has an alignment that divides its offset. -/
abbrev Aligned : List Extent → List Nat → Prop :=
  List.Forall₂ fun extent offset => extent.step ∣ offset

lemma aligned_offsets (offset : Nat) (members : List Extent) :
    Aligned members (offsets offset members) := by
  induction members generalizing offset with
  | nil => exact .nil
  | cons member rest ih => exact .cons (dvd_roundUp _ _) (ih _)

/-- **Two layouts agree on the offsets exactly when each is aligned for the other,** provided that
they agree on the sizes. -/
theorem offsets_eq_iff {members members' : List Extent} (offset : Nat)
    (hsizes : members.map size = members'.map size) :
    offsets offset members = offsets offset members' ↔
      Aligned members (offsets offset members') ∧ Aligned members' (offsets offset members) := by
  constructor
  · intro h
    exact ⟨h ▸ aligned_offsets offset members, h.symm ▸ aligned_offsets offset members'⟩
  · rintro ⟨haligned, haligned'⟩
    induction members generalizing offset members' with
    | nil =>
        obtain rfl : members' = [] := List.map_eq_nil_iff.1 hsizes.symm
        rfl
    | cons member rest ih =>
        obtain ⟨member', rest', rfl, hsize, hsizes⟩ := List.map_eq_cons_iff.1 hsizes.symm
        obtain ⟨hdvd, haligned⟩ := List.forall₂_cons.1 haligned
        obtain ⟨hdvd', haligned'⟩ := List.forall₂_cons.1 haligned'
        -- Neither offset can be beyond the other: each is a multiple of both alignments.
        have hoffset : roundUp offset member.step = roundUp offset member'.step :=
          Nat.le_antisymm (roundUp_le_of_dvd hdvd (le_roundUp member'.step_pos))
            (roundUp_le_of_dvd hdvd' (le_roundUp member.step_pos))
        rw [← hoffset, hsize] at haligned
        rw [offsets, offsets, ← hoffset, hsize, ih _ hsizes.symm haligned haligned']

/-! ### In words -/

/-- Where each of the members goes, counted in words. -/
def wordOffsets : UInt64 → List Extent → List UInt64
  | _, [] => []
  | offset, member :: rest =>
    let place := roundUpWord offset member.step.toUInt64
    place :: wordOffsets (place + member.size.toUInt64) rest

/-- Where the last of the members ends, counted in words. -/
def wordReach : UInt64 → List Extent → UInt64
  | offset, [] => offset
  | offset, member :: rest =>
    wordReach (roundUpWord offset member.step.toUInt64 + member.size.toUInt64) rest

/-- The size of a struct, counted in words. -/
def wordSize (unit : Nat) (members : List Extent) : UInt64 :=
  roundUpWord (wordReach 0 members) (roundUpWord (widest members).toUInt64 unit.toUInt64)

lemma le_reach (offset : Nat) (members : List Extent) : offset ≤ reach offset members := by
  induction members generalizing offset with
  | nil => exact Nat.le_refl _
  | cons member rest ih =>
      have hplace : offset ≤ roundUp offset member.step := le_roundUp member.step_pos
      have hrest := ih (roundUp offset member.step + member.size)
      rw [reach]
      omega

lemma toNat_wordOffsets {offset : Nat} {members : List Extent}
    (h : reach offset members < UInt64.size) :
    (wordOffsets offset.toUInt64 members).map UInt64.toNat = offsets offset members ∧
      wordReach offset.toUInt64 members = (reach offset members).toUInt64 := by
  induction members generalizing offset with
  | nil => exact ⟨rfl, rfl⟩
  | cons member rest ih =>
      have hreach := le_reach (roundUp offset member.step + member.size) rest
      rw [reach] at h
      have hplace : (roundUpWord offset.toUInt64 member.step.toUInt64).toNat =
          roundUp offset member.step := toNat_roundUpWord member.step_pos (by omega)
      have hend : roundUpWord offset.toUInt64 member.step.toUInt64 + member.size.toUInt64 =
          (roundUp offset member.step + member.size).toUInt64 := by
        rw [← UInt64.ofNat_toNat (x := roundUpWord ..), hplace]
        exact (UInt64.ofNat_add _ _).symm
      obtain ⟨hoffsets, hlast⟩ := ih h
      simp only [wordOffsets, offsets, wordReach, reach, List.map_cons, hend, hplace, hoffsets, hlast,
        and_self]

/-- **Words count offsets and size of a struct** as long as its size fits into a word. -/
theorem toNat_words {unit : Nat} {members : List Extent} (hunit : 0 < unit)
    (h : (struct unit members).size < UInt64.size) :
    (wordOffsets 0 members).map UInt64.toNat = offsets 0 members ∧
      (wordSize unit members).toNat = (struct unit members).size := by
  have hreach := reach_le_size hunit members
  obtain ⟨hoffsets, hlast⟩ := toNat_wordOffsets (Nat.lt_of_le_of_lt hreach h)
  have hword : wordSize unit members = roundUpWord (reach 0 members).toUInt64
      (roundUpWord (widest members).toUInt64 unit.toUInt64) := by
    rw [← hlast]
    rfl
  refine ⟨hoffsets, ?_⟩
  rw [hword]
  rcases Nat.eq_zero_or_pos (reach 0 members) with hzero | hsome
  · have hsize : (struct unit members).size = 0 := by
      rw [struct, hzero]
      exact roundUp_eq_of_dvd (align_struct_pos hunit members) (Nat.dvd_zero _)
    simp [hzero, hsize, roundUpWord]
  · -- The size is a multiple of the alignment, which fits for that reason.
    have hsize : 0 < (struct unit members).size := by omega
    have hfits : roundUp (widest members) unit < UInt64.size :=
      Nat.lt_of_le_of_lt (Nat.le_of_dvd hsize (dvd_roundUp _ _)) h
    have halign := toNat_roundUpWord hunit hfits
    rw [← UInt64.ofNat_toNat (x := roundUpWord (widest members).toUInt64 _), halign]
    exact toNat_roundUpWord (align_struct_pos hunit members) h

end Extent

end ShaderWeave
