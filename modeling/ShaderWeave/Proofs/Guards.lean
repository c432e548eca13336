import Mathlib.Logic.Function.Basic
import ShaderWeave.Proofs.Identifiers

/-!
# Guards

Work groups have a fixed size, so a dispatch may start more invocations along an axis than were asked
for.  Guards at the start of `main` send the surplus back.  They stand behind the declarations of
variables and before the copies, and an axis whose groups cannot overshoot has none.

* `Invoked` — the ids along an axis, when just enough groups are dispatched to reach the count.
* `Statement.reaches` — whether an invocation comes to the tasks, statement by statement.
* `StageStorage.entrance` — the variable through which a property comes in.
* `Drafting.entryHolder_eq` — **a guard reads the entrance of its count,** whether or not the stage
  changes the count or hands it on.
* `StageStorage.Looped` — a count that comes in under the mark under which the stage hands things on,
  and is copied: the copy is onto itself, and the variable that the guard reads is declared anew.
* `reaches_body_iff` — the result: guards are exact where no count is looped.
-/

namespace ShaderWeave

/-! ## Running `main` up to the tasks -/

/-- The part along a named axis. -/
def Axes.along {α : Type} (axes : Axes α) (axis : String) : α :=
  if axis = "x" then axes.x else if axis = "y" then axes.y else axes.z

@[simp] lemma Axes.along_x {α : Type} (axes : Axes α) : axes.along "x" = axes.x := rfl

@[simp] lemma Axes.along_y {α : Type} (axes : Axes α) : axes.along "y" = axes.y := by simp [along]

@[simp] lemma Axes.along_z {α : Type} (axes : Axes α) : axes.along "z" = axes.z := by simp [along]

/-- The value of a bound over a store of variables. -/
def GuardBound.value (store : String → Nat) : GuardBound → Nat
  | fixed count => count
  | held name => store name

/-- The number of invocations that a count stands for; `values` are those of the properties. -/
def InvocationCount.value (aliases : Aliases) (values : String → Nat) : InvocationCount → Nat
  | fixed count => count
  | property p => values (aliases.choice p.name)

/-- An id along an axis on which the fewest groups are dispatched that reach the count.  Ids are
words of 32 bits. -/
def Invoked (count size id : Nat) : Prop :=
  ∃ group < (count + size - 1) / size, ∃ place < size, id = (group * size + place) % UInt32.size

/-- Groups that fill the count exactly do not overshoot. -/
lemma Invoked.lt_of_dvd {count size id : Nat} (h : Invoked count size id) (hdvd : size ∣ count) :
    id < count := by
  obtain ⟨group, hgroup, place, hplace, rfl⟩ := h
  obtain ⟨full, rfl⟩ := hdvd
  have hfull : (size * full + size - 1) / size = full := by
    rw [Nat.add_sub_assoc (by omega), Nat.mul_add_div (by omega),
      Nat.div_eq_of_lt (by omega), Nat.add_zero]
  rw [hfull] at hgroup
  calc (group * size + place) % UInt32.size
      ≤ group * size + place := Nat.mod_le _ _
    _ < (group + 1) * size := by rw [Nat.succ_mul]; omega
    _ ≤ size * full := by rw [Nat.mul_comm]; exact Nat.mul_le_mul_left _ hgroup

namespace Dispatch

variable (dispatch : Dispatch) (aliases : Aliases) (values : String → Nat) (ids : Axes Nat)

/-- An invocation of a dispatch. -/
def Invokes : Prop :=
  Invoked (dispatch.counts.x.value aliases values) dispatch.group.x ids.x ∧
    Invoked (dispatch.counts.y.value aliases values) dispatch.group.y ids.y ∧
    Invoked (dispatch.counts.z.value aliases values) dispatch.group.z ids.z

/-- An invocation that was asked for: it is below the count on every axis. -/
def Asks : Prop :=
  ids.x < dispatch.counts.x.value aliases values ∧
    ids.y < dispatch.counts.y.value aliases values ∧
    ids.z < dispatch.counts.z.value aliases values

end Dispatch

namespace Statement

variable {ids : Axes Nat} {fresh store : String → Nat} {statements : List Statement}

/-- Whether an invocation comes to the tasks of `main`.  A variable that is declared holds whatever
`fresh` says, until something is copied into it. -/
def reaches (ids : Axes Nat) (fresh : String → Nat) : (String → Nat) → List Statement → Bool
  | _, [] => true
  | store, declare _ name :: rest =>
    reaches ids fresh (Function.update store name (fresh name)) rest
  | store, guard axis bound :: rest =>
    decide (ids.along axis < bound.value store) && reaches ids fresh store rest
  | store, copy c :: rest =>
    reaches ids fresh (Function.update store c.target (store c.source)) rest
  | _, task _ :: _ => true
  | _, position _ :: _ => true

/-- Declarations change nothing but what they declare. -/
lemma reaches_declarations (h : ∀ statement ∈ statements, ∃ type name, statement = declare type name)
    (ids : Axes Nat) (fresh store : String → Nat) :
    ∃ store' : String → Nat, (∀ name, (∀ type, declare type name ∉ statements) →
        store' name = store name) ∧
      ∀ rest, reaches ids fresh store (statements ++ rest) = reaches ids fresh store' rest := by
  induction statements generalizing store with
  | nil => exact ⟨store, fun _ _ => rfl, fun _ => rfl⟩
  | cons first others ih =>
      obtain ⟨type, declared, rfl⟩ := h first List.mem_cons_self
      obtain ⟨store', hkept, hreaches⟩ := ih (fun s hs => h s (List.mem_cons_of_mem _ hs))
        (Function.update store declared (fresh declared))
      refine ⟨store', ?_, fun rest => hreaches rest⟩
      intro name hname
      rw [hkept name fun type' hmem => hname type' (List.mem_cons_of_mem _ hmem)]
      refine Function.update_of_ne ?_ _ _
      rintro rfl
      exact hname type List.mem_cons_self

/-- Where nothing is guarded, everything is reached. -/
lemma reaches_unguarded (h : ∀ axis bound, guard axis bound ∉ statements) (store : String → Nat) :
    reaches ids fresh store statements = true := by
  induction statements generalizing store with
  | nil => rfl
  | cons first rest ih =>
      have hrest : ∀ axis bound, guard axis bound ∉ rest :=
        fun axis bound hmem => h axis bound (List.mem_cons_of_mem _ hmem)
      cases first with
      | declare type name => exact ih hrest _
      | guard axis bound => exact absurd List.mem_cons_self (h axis bound)
      | copy copy => exact ih hrest _
      | task code => rfl
      | position source => rfl

end Statement

/-! ## Entrances -/

namespace StageStorage

variable {plan : StagePlan} {storage : StageStorage} {previous : Option Handover}
  {name other mark : String}

/-- The variable through which a property comes in. -/
def entrance (storage : StageStorage) (name : String) : String :=
  (storage.entryMark? name).getD "" ++ name

/-- The marks that variables of the stage can have. -/
def marks (storage : StageStorage) (plan : StagePlan) : List String :=
  storage.inMark :: plan.request.outMark :: Mark.holders

/-- A property comes in under the mark of what the stage hands on, and is copied: to where it is
already. -/
def Looped (storage : StageStorage) (plan : StagePlan) (name : String) : Prop :=
  storage.entryMark? name = some plan.request.outMark ∧ storage.Copied plan name

/-- A statement declares an inner property, or a copy that stays inside. -/
def Declares (storage : StageStorage) (plan : StagePlan) (statement : Statement) : Prop :=
  ∃ type, (∃ name ∈ storage.inner.names, statement = .declare type (storage.aliases.choice name)) ∨
    ∃ name ∈ storage.innerCopies.names, statement = .declare type (plan.request.outMark ++ name)

lemma Declares.exists_eq {statement : Statement} (h : storage.Declares plan statement) :
    ∃ type name, statement = .declare type name := by
  obtain ⟨type, ⟨name, -, rfl⟩ | ⟨name, -, rfl⟩⟩ := h
  exacts [⟨type, _, rfl⟩, ⟨type, _, rfl⟩]

lemma entrance_eq (h : storage.entryMark? name = some mark) :
    storage.entrance name = mark ++ name := by
  rw [entrance, h]
  rfl

lemma mem_marks_of_holders (h : mark ∈ Mark.holders) : mark ∈ storage.marks plan :=
  List.mem_cons_of_mem _ (List.mem_cons_of_mem _ h)

lemma outMark_mem_marks : plan.request.outMark ∈ storage.marks plan :=
  List.mem_cons_of_mem _ List.mem_cons_self

lemma entryMark?_mem_marks (h : storage.entryMark? name = some mark) :
    mark ∈ storage.marks plan := by
  simp only [entryMark?] at h
  split_ifs at h <;> obtain rfl := Option.some.inj h
  · exact List.mem_cons_self
  all_goals exact mem_marks_of_holders (by decide)

lemma placeMark?_mem_marks (h : storage.placeMark? plan name = some mark) :
    mark ∈ storage.marks plan := by
  rw [placeMark?_eq] at h
  split_ifs at h
  · exact Option.some.inj h ▸ mem_marks_of_holders (by decide)
  · exact Option.some.inj h ▸ outMark_mem_marks
  · exact entryMark?_mem_marks h

namespace Fits

/-- **A copy into the entrance of a property is a copy of that property onto itself.** -/
lemma target_eq_entrance_iff (h : storage.Fits previous plan)
    (hapart : Mark.Apart (storage.marks plan)) (hmark : storage.entryMark? name = some mark) :
    (∃ copy ∈ storage.copies, copy.target = storage.entrance name) ↔
      storage.Looped plan name := by
  rw [entrance_eq hmark]
  constructor
  · rintro ⟨copy, hcopy, htarget⟩
    obtain ⟨other, mark', hmark', rfl⟩ := h.laid.copies copy hcopy
    obtain ⟨heq, rfl⟩ :=
      hapart.append_inj outMark_mem_marks (entryMark?_mem_marks hmark) htarget
    exact ⟨heq ▸ hmark, mark', hmark', hcopy⟩
  · rintro ⟨heq, mark', -, hcopy⟩
    rw [hmark] at heq
    exact ⟨_, hcopy, by rw [Option.some.inj heq]⟩

/-- **No variable of `main` is the entrance of a property,** unless that one is looped. -/
lemma not_declared_entrance (h : storage.Fits previous plan) (hdisjoint : plan.pipeline.Disjoint)
    (hnames : ∀ cls, ∀ name ∈ (plan.pipeline.list cls).names,
      ¬ Mark.Begins (storage.marks plan) name)
    (hkeys : ∀ key ∈ plan.request.aliases.keys, ¬ Mark.Begins (storage.marks plan) key)
    (hapart : Mark.Apart (storage.marks plan)) (hmark : storage.entryMark? name = some mark)
    (hlooped : ¬ storage.Looped plan name) (type : String) :
    ¬ storage.Declares plan (.declare type (storage.entrance name)) := by
  obtain ⟨cls, houtput, hinner, hcls⟩ :=
    h.entry_iff.1 (Option.ne_none_iff_exists'.2 ⟨mark, hmark⟩)
  have hclass := PropertyList.solidNames_subset _ hcls
  rw [entrance_eq hmark]
  rintro ⟨_, ⟨other, hother, heq⟩ | ⟨other, hother, heq⟩⟩ <;>
    obtain ⟨-, heq⟩ := Statement.declare.inj heq
  · rw [h.choice_of_inner hother (h.direct?_eq_none hdisjoint hnames hkeys
      ⟨Mark.inner, mem_marks_of_holders (by decide), other, rfl⟩)] at heq
    obtain ⟨-, rfl⟩ := hapart.append_inj (entryMark?_mem_marks hmark)
      (mem_marks_of_holders (by decide)) heq
    exact hdisjoint.not_mem cls .inner hinner hclass
      (PropertyList.solidNames_subset _ (h.laid.inner name hother))
  · obtain ⟨hout, rfl⟩ :=
      hapart.append_inj (entryMark?_mem_marks hmark) outMark_mem_marks heq
    rcases h.laid.handed name (Or.inr hother) with hmade | hcopied
    · exact hdisjoint.not_mem cls .output houtput hclass (PropertyList.solidNames_subset _ hmade)
    · exact hlooped ⟨hout ▸ hmark, hcopied⟩

end Fits

end StageStorage

namespace Drafting

variable {plan : StagePlan} {storage : StageStorage} {previous : Option Handover}

/-- **A guard reads the entrance of its count.**  If the count is copied, its variable is that of the
copy, and the copy is from the entrance. -/
lemma entryHolder_eq (h : storage.Fits previous plan) (hdisjoint : plan.pipeline.Disjoint)
    (hchosen : ∀ cls, ∀ name ∈ (plan.pipeline.list cls).names,
      ∃ own, name = plan.request.aliases.choice own)
    (hacyclic : plan.request.aliases.Acyclic)
    (hnames : ∀ cls, ∀ name ∈ (plan.pipeline.list cls).names,
      ¬ Mark.Begins (storage.marks plan) name)
    (hkeys : ∀ key ∈ plan.request.aliases.keys, ¬ Mark.Begins (storage.marks plan) key)
    (hapart : Mark.Apart (storage.marks plan)) {name : String}
    (hsupplied : plan.pipeline.Supplied (plan.request.aliases.choice name)) :
    entryHolder storage name = storage.entrance (plan.request.aliases.choice name) := by
  set chosen := plan.request.aliases.choice name with hchoice
  obtain ⟨mark, hmark⟩ := h.exists_mark hdisjoint hsupplied.carries
  obtain ⟨entry, hentry⟩ := Option.ne_none_iff_exists'.1 (h.entry_iff.2 hsupplied)
  have hholder : storage.aliases.choice name = mark ++ chosen := by
    rw [h.choice_eq_slot_of hdisjoint (fun _ _ => StageStorage.placeMark?_mem_marks) hchosen
      hacyclic hnames hkeys hsupplied.carries, ← hchoice, StageStorage.slot_eq hmark]
  have hsource : ∀ copy ∈ storage.copies, copy.target = mark ++ chosen →
      copy.source = storage.entrance chosen := by
    intro copy hcopy htarget
    obtain ⟨other, mark', hmark', rfl⟩ := h.laid.copies copy hcopy
    obtain ⟨-, rfl⟩ := hapart.append_inj StageStorage.outMark_mem_marks
      (StageStorage.placeMark?_mem_marks hmark) htarget
    exact (StageStorage.entrance_eq hmark').symm
  simp only [entryHolder, hholder]
  split
  · next copy hfind =>
      exact hsource copy (List.mem_of_find?_eq_some hfind) (by simpa using List.find?_some hfind)
  · next hnone =>
      rcases h.place_of_supplied hdisjoint hsupplied hmark with hsame | ⟨rfl, _, -, hcopied⟩
      · rw [StageStorage.entrance_eq hsame]
      · exact absurd (List.find?_eq_none.1 hnone _ hcopied) (by simp)

variable {ids : Axes Nat} {fresh store : String → Nat}

/-- **One axis.**  Its guard, or the groups where there is none, let through just the invocations
below the count. -/
lemma reaches_axisGuard {axis : String} {count : InvocationCount} {size : Nat} {aliases : Aliases}
    {values : String → Nat} (hsize : 1 ≤ size)
    (hid : Invoked (count.value aliases values) size (ids.along axis))
    (hheld : ∀ p, Statement.guard axis (.held (entryHolder storage p.name))
      ∈ axisGuard storage axis count size → count = .property p →
        store (entryHolder storage p.name) = values (aliases.choice p.name))
    (rest : List Statement) :
    Statement.reaches ids fresh store (axisGuard storage axis count size ++ rest)
      = (decide (ids.along axis < count.value aliases values)
        && Statement.reaches ids fresh store rest) := by
  have hunguarded : size ∣ count.value aliases values →
      decide (ids.along axis < count.value aliases values) = true :=
    fun hdvd => decide_eq_true (hid.lt_of_dvd hdvd)
  cases count with
  | fixed n =>
      by_cases hfits : n % size = 0
      · rw [hunguarded (Nat.dvd_of_mod_eq_zero hfits)]
        simp [axisGuard, hfits]
      · have hguard : axisGuard storage axis (.fixed n) size = [.guard axis (.fixed n)] := by
          simp [axisGuard, hfits, show 0 < size from hsize]
        rw [hguard]
        rfl
  | property p =>
      by_cases hone : 1 < size
      · have hguard : axisGuard storage axis (.property p) size
            = [.guard axis (.held (entryHolder storage p.name))] := by simp [axisGuard, hone]
        have hvalue : GuardBound.value store (.held (entryHolder storage p.name))
            = values (aliases.choice p.name) := hheld p (hguard ▸ List.mem_singleton_self _) rfl
        rw [hguard, List.singleton_append, Statement.reaches, hvalue]
        rfl
      · obtain rfl : size = 1 := by omega
        rw [hunguarded (Nat.one_dvd _)]
        simp [axisGuard]

/-- **All axes.**  Guards that read the values of their counts let through what was asked for. -/
lemma reaches_guards_iff {dispatch : Dispatch} {aliases : Aliases} {values : String → Nat}
    {rest : List Statement} (hguarded : plan.request.guarded? = some dispatch)
    (hgroup : ∀ size ∈ dispatch.group.toList, 1 ≤ size)
    (hids : dispatch.Invokes aliases values ids)
    (hheld : ∀ axis p, .property p ∈ dispatch.counts.toList →
      .guard axis (.held (entryHolder storage p.name)) ∈ guards plan storage →
        store (entryHolder storage p.name) = values (aliases.choice p.name))
    (hrest : ∀ axis bound, Statement.guard axis bound ∉ rest) :
    Statement.reaches ids fresh store (guards plan storage ++ rest) = true ↔
      dispatch.Asks aliases values ids := by
  obtain ⟨hx, hy, hz⟩ := hids
  have hsizes : 1 ≤ dispatch.group.x ∧ 1 ≤ dispatch.group.y ∧ 1 ≤ dispatch.group.z := by
    simpa [Axes.toList] using hgroup
  have hguards : guards plan storage
      = axisGuard storage "x" dispatch.counts.x dispatch.group.x
        ++ axisGuard storage "y" dispatch.counts.y dispatch.group.y
        ++ axisGuard storage "z" dispatch.counts.z dispatch.group.z := by
    simp only [guards, hguarded]
  rw [hguards, List.append_assoc, List.append_assoc,
    reaches_axisGuard hsizes.1 (by simpa using hx), reaches_axisGuard hsizes.2.1 (by simpa using hy),
    reaches_axisGuard hsizes.2.2 (by simpa using hz), Statement.reaches_unguarded hrest]
  · simp only [Bool.and_eq_true, decide_eq_true_eq, and_true]
    simp only [Axes.along_x, Axes.along_y, Axes.along_z, Dispatch.Asks]
  · intro p hmem heq
    exact hheld "z" p (by simp [Axes.toList, heq]) (hguards ▸ List.mem_append_right _ hmem)
  · intro p hmem heq
    exact hheld "y" p (by simp [Axes.toList, heq])
      (hguards ▸ List.mem_append_left _ (List.mem_append_right _ hmem))
  · intro p hmem heq
    exact hheld "x" p (by simp [Axes.toList, heq])
      (hguards ▸ List.mem_append_left _ (List.mem_append_left _ hmem))

end Drafting

/-! ## Counts come from outside -/

/-- The names a resolver puts into classes are the choices for some names. -/
def Resolver.Chooses (resolver : Resolver) : Prop :=
  ∀ stage desired aliases pipeline events,
    resolver.resolve stage desired aliases = .ok (pipeline, events) →
      ∀ cls, ∀ name ∈ (pipeline.list cls).names, ∃ own, name = aliases.choice own

lemma TaskCollection.chooses_resolver (collection : TaskCollection) :
    collection.resolver.Chooses := by
  intro stage desired aliases pipeline events h cls name hname
  obtain ⟨found, hfound, heq⟩ := Outcome.of_map h
  obtain rfl : found = pipeline := congrArg Prod.fst heq
  obtain ⟨p, hp, rfl⟩ := PropertyList.mem_names.1 hname
  rcases asked_of_mem_class hfound hp with hwanted | ⟨_, _, _, _, _, spec, _, heq⟩
  · obtain ⟨spec, -, heq⟩ := List.mem_map.1 hwanted
    exact ⟨spec.name, (congrArg Property.name heq).symm⟩
  · exact ⟨spec.name, (congrArg Property.name heq).symm⟩

namespace Pipeline

variable {pipeline pipeline' : Pipeline} {aliases : Aliases} {property : Property}

lemma Widened.choice_of_mem_class (h : Widened aliases pipeline pipeline')
    (hchosen : ∀ cls, ∀ name ∈ (pipeline.list cls).names, ∃ own, name = aliases.choice own)
    (cls : PropertyClass) {name : String} (hname : name ∈ (pipeline'.list cls).names) :
    ∃ own, name = aliases.choice own := by
  by_cases hcls : cls = .input
  · subst hcls
    obtain ⟨p, hp, rfl⟩ := PropertyList.mem_names.1 hname
    rcases h.added p hp with hp | ⟨-, hchoice⟩
    · exact hchosen .input p.name (PropertyList.name_mem_names hp)
    · exact hchoice
  · exact hchosen cls name (h.others cls hcls ▸ hname)

/-- A class that is neither output nor inner holds the name. -/
def FromOutside (pipeline : Pipeline) (name : String) : Prop :=
  ∃ cls, cls ≠ .output ∧ cls ≠ .inner ∧ name ∈ (pipeline.list cls).names

lemma fromOutside_of_addCount
    (h : pipeline.addCount aliases (.property property) = .ok pipeline') :
    pipeline'.FromOutside (aliases.choice property.name) := by
  have hname : (aliases.chosen property).name = aliases.choice property.name := rfl
  simp only [addCount, hname] at h
  split_ifs at h with hproduced hknown
  · obtain rfl := Except.ok.inj h
    obtain ⟨cls, hcls⟩ := knows_iff.1 hknown
    rw [Bool.or_eq_true, PropertyList.contains_iff, PropertyList.contains_iff, not_or] at hproduced
    refine ⟨cls, ?_, ?_, hcls⟩
    · rintro rfl
      exact hproduced.1 hcls
    · rintro rfl
      exact hproduced.2 hcls
  · obtain rfl := Except.ok.inj h
    exact ⟨.input, by decide, by decide, PropertyList.mem_names_insert.2 (Or.inr rfl)⟩

lemma FromOutside.supplied {name : String} (h : pipeline.FromOutside name)
    (htokens : ∀ cls, ∀ p ∈ (pipeline.list cls).entries, p.name = name → p.isVoid = false) :
    pipeline.Supplied name := by
  obtain ⟨cls, houtput, hinner, hname⟩ := h
  obtain ⟨p, hp, heq⟩ := PropertyList.mem_names.1 hname
  exact ⟨cls, houtput, hinner, List.mem_map.2
    ⟨p, PropertyList.mem_solid.2 ⟨hp, htokens cls p hp heq⟩, heq⟩⟩

/-- **Every count of a guarded stage comes from outside.** -/
lemma fromOutside_of_addCounts {request : StageRequest} {dispatch : Dispatch}
    (h : pipeline.addCounts request = .ok pipeline') (hguarded : request.guarded? = some dispatch)
    (hcount : InvocationCount.property property ∈ dispatch.counts.toList) :
    pipeline'.FromOutside (request.aliases.choice property.name) := by
  rw [addCounts, hguarded] at h
  refine (Outcome.steps_of_foldlM h).invariant
    (P := fun done current => ∀ p, InvocationCount.property p ∈ done →
      current.FromOutside (request.aliases.choice p.name)) ?_
    (fun _ hmem => absurd hmem List.not_mem_nil) property hcount
  intro done count current current' _ hdone hok p hp
  rcases List.mem_append.1 hp with hp | hp
  · obtain ⟨cls, houtput, hinner, hname⟩ := hdone p hp
    exact ⟨cls, houtput, hinner, (widened_addCount hok).names_subset cls hname⟩
  · obtain rfl := List.mem_singleton.1 hp
    exact fromOutside_of_addCount hok

end Pipeline

namespace Drafting

variable {setting : Setting} {requests : List StageRequest} {desired : PropertyList}
  {plans : List StagePlan} {plan : StagePlan} {storage : StageStorage} {source : StageSource}
  {dispatch : Dispatch} {axis name : String}

/-- Guards that read a variable read that of a count. -/
lemma held_of_mem_guards (hguarded : plan.request.guarded? = some dispatch)
    (h : Statement.guard axis (.held name) ∈ guards plan storage) :
    ∃ p, InvocationCount.property p ∈ dispatch.counts.toList ∧
      name = entryHolder storage p.name := by
  have haxis : ∀ axis' count size,
      Statement.guard axis (.held name) ∈ axisGuard storage axis' count size →
        ∃ p, count = .property p ∧ name = entryHolder storage p.name := by
    intro axis' count size hmem
    cases count with
    | fixed n =>
        simp only [axisGuard] at hmem
        split_ifs at hmem <;> simp at hmem
    | property p =>
        simp only [axisGuard] at hmem
        split_ifs at hmem
        · simp only [List.mem_singleton, Statement.guard.injEq, GuardBound.held.injEq] at hmem
          exact ⟨p, rfl, hmem.2⟩
        · simp at hmem
  simp only [guards, hguarded, List.mem_append] at h
  rcases h with (h | h) | h <;> obtain ⟨p, hcount, hname⟩ := haxis _ _ _ h <;>
    exact ⟨p, by simp [Axes.toList, hcount], hname⟩

lemma copy_notMem_guards (copy : Copy) : Statement.copy copy ∉ guards plan storage := by
  intro hmem
  have haxis : ∀ axis count size, Statement.copy copy ∉ axisGuard storage axis count size := by
    intro axis count size
    cases count <;> simp only [axisGuard] <;> split_ifs <;> simp
  unfold guards at hmem
  split at hmem
  · exact absurd hmem List.not_mem_nil
  · simp only [List.mem_append, haxis, or_self] at hmem

lemma position_of_mem_positionStatements {statement : Statement}
    (h : statement ∈ positionStatements plan storage) : ∃ held, statement = .position held := by
  unfold positionStatements at h
  split at h
  · exact ⟨_, List.mem_singleton.1 h⟩
  · exact absurd h List.not_mem_nil

/-- A `main` in parts: its variables, the guards, and the rest with the copies. -/
structure Guarded (plan : StagePlan) (storage : StageStorage) (body locals rest : List Statement) :
    Prop where
  body_eq : body = locals ++ (guards plan storage ++ rest)
  declares : ∀ statement ∈ locals, storage.Declares plan statement
  unguarded : ∀ axis bound, Statement.guard axis bound ∉ rest
  copies : ∀ copy, Statement.copy copy ∈ rest ↔ copy ∈ storage.copies

namespace Guarded

variable {body locals rest : List Statement}

lemma mem_guards (h : Guarded plan storage body locals rest) {bound : GuardBound}
    (hguard : .guard axis bound ∈ body) : .guard axis bound ∈ guards plan storage := by
  rw [h.body_eq] at hguard
  rcases List.mem_append.1 hguard with hlocal | hguard
  · obtain ⟨_, _, heq⟩ := (h.declares _ hlocal).exists_eq
    cases heq
  · exact (List.mem_append.1 hguard).resolve_right (h.unguarded axis bound)

lemma copy_mem_iff (h : Guarded plan storage body locals rest) {copy : Copy} :
    .copy copy ∈ body ↔ copy ∈ storage.copies := by
  have hlocals : Statement.copy copy ∉ locals := by
    intro hlocal
    obtain ⟨_, _, heq⟩ := (h.declares _ hlocal).exists_eq
    cases heq
  simp only [h.body_eq, List.mem_append, hlocals, copy_notMem_guards, h.copies, false_or]

end Guarded

/-- **The guards stand between the variables of `main` and its copies.** -/
lemma guarded_of_writeStage {before after : Draft}
    (h : writeStage setting plans (plan, storage) before = .ok source after) :
    ∃ locals rest, Guarded plan storage source.body locals rest := by
  obtain ⟨inner, copies, usages, _, _, _, hinner, hcopies, hbody⟩ := body_of_writeStage h
  refine ⟨inner ++ copies,
    storage.copies.map .copy ++ usages.map .task ++ positionStatements plan storage, ?_, ?_, ?_, ?_⟩
  · simp only [hbody, List.append_assoc]
  · intro statement hmem
    rcases List.mem_append.1 hmem with hmem | hmem
    · obtain ⟨p, hp, _, _, hstep⟩ := Outcome.mem_of_mapM hinner hmem
      obtain ⟨type, _, -, hstep⟩ := Outcome.bind_ok hstep
      obtain ⟨rfl, -⟩ := Outcome.pure_ok hstep
      exact ⟨type, Or.inl ⟨p.name, PropertyList.name_mem_names hp, rfl⟩⟩
    · obtain ⟨p, hp, _, _, hstep⟩ := Outcome.mem_of_mapM hcopies hmem
      obtain ⟨type, _, -, hstep⟩ := Outcome.bind_ok hstep
      obtain ⟨rfl, -⟩ := Outcome.pure_ok hstep
      exact ⟨type, Or.inr ⟨p.name, PropertyList.name_mem_names hp, rfl⟩⟩
  · intro axis bound hmem
    simp only [List.mem_append, List.mem_map, reduceCtorEq, and_false, exists_false,
      false_or] at hmem
    obtain ⟨held, heq⟩ := position_of_mem_positionStatements hmem
    cases heq
  · intro copy
    have hposition : Statement.copy copy ∉ positionStatements plan storage := by
      intro hmem
      obtain ⟨held, heq⟩ := position_of_mem_positionStatements hmem
      cases heq
    simp only [List.mem_append, List.mem_map, Statement.copy.injEq, exists_eq_right, hposition,
      reduceCtorEq, and_false, exists_false, or_false]

namespace Parts

variable {made : Blueprint} {start planned assigned final : Draft} {i : Nat} {property : Property}

lemma choice_of_mem_class (h : Parts setting requests desired made start planned assigned final)
    (hchooses : setting.resolver.Chooses) (hplan : made.plans[i]? = some plan)
    (cls : PropertyClass) (hname : name ∈ (plan.pipeline.list cls).names) :
    ∃ own, name = plan.request.aliases.choice own := by
  obtain ⟨request, before, after, hstage⟩ := planned_at h.plan hplan
  obtain ⟨rfl, -, -, found, events, hresolve, hcounts⟩ := StagePlan.found_of_planStage hstage
  exact (Pipeline.widened_addCounts hcounts).choice_of_mem_class
    (hchooses _ _ _ _ _ hresolve) cls hname

lemma fromOutside (h : Parts setting requests desired made start planned assigned final)
    (hplan : made.plans[i]? = some plan) (hguarded : plan.request.guarded? = some dispatch)
    (hcount : InvocationCount.property property ∈ dispatch.counts.toList) :
    plan.pipeline.FromOutside (plan.request.aliases.choice property.name) := by
  obtain ⟨request, before, after, hstage⟩ := planned_at h.plan hplan
  obtain ⟨rfl, -, -, found, events, -, hcounts⟩ := StagePlan.found_of_planStage hstage
  exact Pipeline.fromOutside_of_addCounts hcounts hguarded hcount

end Parts

end Drafting

/-- **Guards are exact.**  Take any stage of any finished blueprint that guards its bounds, with groups
of at least one invocation.  Let its aliases run in no circle, let no property and no alias start with
a mark of the stage, let no mark be the beginning of another, and let no count be a token in the
stage.  Then

* every count comes in through a variable;
* whatever guard reads a variable reads the one through which a count comes in, and the copies assign
  it exactly if the count is looped;
* where no guard reads a variable that the copies assign, an invocation comes to the tasks exactly if
  it is below the counts on all axes, whatever the counts are on entry and whatever undefined
  variables hold. -/
theorem reaches_body_iff (setting : Setting) (hchooses : setting.resolver.Chooses)
    (info : DeviceInfo) (requests : List StageRequest) (desired : PropertyList)
    {draft draft' : Draft} {made : Blueprint}
    (hmade : Drafting.blueprint setting info requests desired draft = .ok made draft') {i : Nat}
    {plan : StagePlan} {storage : StageStorage} {source : StageSource}
    (hat : made.At i plan storage source) {dispatch : Dispatch}
    (hguarded : plan.request.guarded? = some dispatch)
    (hgroup : ∀ size ∈ dispatch.group.toList, 1 ≤ size)
    (hacyclic : plan.request.aliases.Acyclic)
    (hnames : ∀ cls, ∀ name ∈ (plan.pipeline.list cls).names,
      ¬ Mark.Begins (storage.marks plan) name)
    (hkeys : ∀ key ∈ plan.request.aliases.keys, ¬ Mark.Begins (storage.marks plan) key)
    (hapart : Mark.Apart (storage.marks plan))
    (htokens : ∀ p, .property p ∈ dispatch.counts.toList →
      ∀ cls, ∀ held ∈ (plan.pipeline.list cls).entries,
        held.name = plan.request.aliases.choice p.name → held.isVoid = false) :
    let aliases := plan.request.aliases
    (∀ p, .property p ∈ dispatch.counts.toList →
      storage.entryMark? (aliases.choice p.name) ≠ none) ∧
    (∀ axis name, .guard axis (.held name) ∈ source.body →
      ∃ p, .property p ∈ dispatch.counts.toList ∧
        name = storage.entrance (aliases.choice p.name) ∧
        ((∃ copy, .copy copy ∈ source.body ∧ copy.target = name) ↔
          storage.Looped plan (aliases.choice p.name))) ∧
    ((∀ axis name, .guard axis (.held name) ∈ source.body →
        ∀ copy, .copy copy ∈ source.body → copy.target ≠ name) →
      ∀ (values fresh store : String → Nat) (ids : Axes Nat),
        (∀ p, .property p ∈ dispatch.counts.toList →
          store (storage.entrance (aliases.choice p.name)) = values (aliases.choice p.name)) →
        dispatch.Invokes aliases values ids →
        (Statement.reaches ids fresh store source.body = true ↔
          dispatch.Asks aliases values ids)) := by
  intro aliases
  obtain ⟨start, planned, assigned, hparts⟩ := Drafting.parts_of_blueprint hmade
  have hfits := hparts.fits hat.plan hat.storage
  have hdisjoint := hparts.disjoint plan (List.mem_of_getElem? hat.plan)
  obtain ⟨before, after, hwrite⟩ := hparts.writes hat
  obtain ⟨locals, rest, hbody⟩ := Drafting.guarded_of_writeStage hwrite
  have hsupplied : ∀ p, .property p ∈ dispatch.counts.toList →
      plan.pipeline.Supplied (aliases.choice p.name) :=
    fun p hp => (hparts.fromOutside hat.plan hguarded hp).supplied (htokens p hp)
  have hentry : ∀ p, .property p ∈ dispatch.counts.toList →
      ∃ mark, storage.entryMark? (aliases.choice p.name) = some mark :=
    fun p hp => Option.ne_none_iff_exists'.1 (hfits.entry_iff.2 (hsupplied p hp))
  have hholder : ∀ p, .property p ∈ dispatch.counts.toList →
      Drafting.entryHolder storage p.name = storage.entrance (aliases.choice p.name) :=
    fun p hp => Drafting.entryHolder_eq hfits hdisjoint
      (fun cls name => hparts.choice_of_mem_class hchooses hat.plan cls) hacyclic hnames hkeys
      hapart (hsupplied p hp)
  refine ⟨fun p hp => hfits.entry_iff.2 (hsupplied p hp), ?_, ?_⟩
  · intro axis name hguard
    obtain ⟨p, hp, rfl⟩ := Drafting.held_of_mem_guards hguarded (hbody.mem_guards hguard)
    obtain ⟨mark, hmark⟩ := hentry p hp
    refine ⟨p, hp, hholder p hp, ?_⟩
    rw [hholder p hp, ← hfits.target_eq_entrance_iff hapart hmark]
    simp only [hbody.copy_mem_iff]
  · intro hclear values fresh store ids hstore hids
    obtain ⟨store', hkept, hreaches⟩ := Statement.reaches_declarations
      (fun statement hmem => (hbody.declares statement hmem).exists_eq) ids fresh store
    have hheld : ∀ axis p, .property p ∈ dispatch.counts.toList →
        .guard axis (.held (Drafting.entryHolder storage p.name)) ∈ Drafting.guards plan storage →
          store' (Drafting.entryHolder storage p.name) = values (aliases.choice p.name) := by
      -- What a guard reads is not declared in `main`, or it would be looped and copied.
      intro axis p hp hguard
      obtain ⟨mark, hmark⟩ := hentry p hp
      have hmem : .guard axis (.held (Drafting.entryHolder storage p.name)) ∈ source.body :=
        hbody.body_eq ▸ List.mem_append_right _ (List.mem_append_left _ hguard)
      have hunlooped : ¬ storage.Looped plan (aliases.choice p.name) := by
        rw [← hfits.target_eq_entrance_iff hapart hmark, ← hholder p hp]
        rintro ⟨copy, hcopy, htarget⟩
        exact hclear axis _ hmem copy (hbody.copy_mem_iff.2 hcopy) htarget
      rw [hholder p hp, hkept, hstore p hp]
      intro type hlocal
      exact hfits.not_declared_entrance hdisjoint hnames hkeys hapart hmark hunlooped type
        (hbody.declares _ hlocal)
    rw [hbody.body_eq, hreaches]
    exact Drafting.reaches_guards_iff hguarded hgroup hids hheld hbody.unguarded

/-- A count that is changed, a count that is handed through under an alias, and a fixed one that the
groups do not fill. -/
theorem reaches_body_iff_tally :
    let setting := StageStorage.lone { filters := .ofList [⟨"n", .uint⟩]
                                       outputs := .ofList [⟨"value", .float⟩] }
    let dispatch : Dispatch :=
      { counts := ⟨.property ⟨"n", .uint⟩, .property ⟨"rows", .uint⟩, .fixed 7⟩
        group := ⟨32, 4, 2⟩ }
    let desired := PropertyList.ofList [⟨"value", .float⟩, ⟨"n", .uint⟩, ⟨"m", .uint⟩]
    let body : List Statement := [.guard "x" (.held "uniform_n"), .guard "y" (.held "uniform_m"),
      .guard "z" (.fixed 7), .copy ⟨"comp_n", "uniform_n"⟩, .copy ⟨"comp_m", "uniform_m"⟩,
      .task "shade(comp_n, comp_value);"]
    (∃ made draft' plan storage source,
      Drafting.blueprint setting .ideal [.compute (.ofList [("rows", "m")]) dispatch] desired
        { registry := .ofBasics } = .ok made draft' ∧
      made.At 0 plan storage source ∧ source.body = body) ∧
    ∀ fresh, Statement.reaches ⟨4, 2, 6⟩ fresh (fun _ => 5) body = true ∧
      Statement.reaches ⟨4, 6, 6⟩ fresh (fun _ => 5) body ≠ true := by
  intro setting dispatch desired body
  have htest : Outcome.passes (Blueprint.stageTest 0 fun plan storage source =>
        decide (plan.request.guarded? = some dispatch ∧
          plan.request.aliases = .ofList [("rows", "m")] ∧
          (∀ cls ∈ PropertyClass.all, ∀ name ∈ (plan.pipeline.list cls).names,
            ¬ Mark.Begins (storage.marks plan) name) ∧
          (∀ key ∈ plan.request.aliases.keys, ¬ Mark.Begins (storage.marks plan) key) ∧
          Mark.Apart (storage.marks plan) ∧
          (∀ cls ∈ PropertyClass.all, ∀ held ∈ (plan.pipeline.list cls).entries,
            held.isVoid = false) ∧ source.body = body))
      (Drafting.blueprint setting .ideal [.compute (.ofList [("rows", "m")]) dispatch] desired
        { registry := .ofBasics }) = true := by decide +kernel
  obtain ⟨made, draft', hmade, htest⟩ := Outcome.exists_of_passes htest
  obtain ⟨plan, storage, source, hat, htest⟩ := Blueprint.exists_of_stageTest htest
  obtain ⟨hguarded, haliases, hnames, hkeys, hapart, hsolid, hbody⟩ := of_decide_eq_true htest
  refine ⟨⟨made, draft', plan, storage, source, hmade, hat, hbody⟩, ?_⟩
  obtain ⟨-, -, hexact⟩ := reaches_body_iff setting (TaskCollection.chooses_resolver _) .ideal _
    desired hmade hat hguarded (by decide) (haliases ▸ by decide)
    (fun cls => hnames cls cls.mem_all) hkeys hapart
    fun _ _ cls held hheld _ => hsolid cls cls.mem_all held hheld
  have hclear : ∀ axis name, axis = "x" ∧ name = "uniform_n" ∨ axis = "y" ∧ name = "uniform_m" →
      ¬ "comp_n" = name ∧ ¬ "comp_m" = name := by
    rintro axis name (⟨-, rfl⟩ | ⟨-, rfl⟩) <;> decide
  have hinvoked : Invoked 5 32 4 ∧ Invoked 5 4 2 ∧ Invoked 5 4 6 ∧ Invoked 7 2 6 :=
    ⟨⟨0, by decide, 4, by decide, rfl⟩, ⟨0, by decide, 2, by decide, rfl⟩,
      ⟨1, by decide, 2, by decide, rfl⟩, ⟨3, by decide, 0, by decide, rfl⟩⟩
  obtain ⟨hx, hy, hpast, hz⟩ := hinvoked
  rw [hbody] at hexact
  have hrun := hexact (by simpa [body] using hclear) (fun _ => 5)
  intro fresh
  constructor
  · refine (hrun fresh (fun _ => 5) ⟨4, 2, 6⟩ (fun _ _ => rfl) ⟨hx, hy, hz⟩).2 ⟨?_, ?_, ?_⟩
    · exact show 4 < 5 by decide
    · exact show 2 < 5 by decide
    · exact show 6 < 7 by decide
  · refine mt (hrun fresh (fun _ => 5) ⟨4, 6, 6⟩ (fun _ _ => rfl) ⟨hx, hpast, hz⟩).1 ?_
    rintro ⟨-, hbelow, -⟩
    exact absurd hbelow (show ¬ 6 < 5 by decide)

/-- Two tasks of compute stages that change a count: one outputs a seed, the other reads a grain. -/
def sowing : Setting where
  catalogue := .empty
  vertexLayout := {}
  resolver := ((TaskCollection.empty.register (.call "bump"
      { filters := .ofList [⟨"n", .uint⟩]
        outputs := .ofList [⟨"seed", .float⟩] }) [.compute]).register (.call "halve"
      { inputs := .ofList [⟨"grain", .float⟩]
        filters := .ofList [⟨"n", .uint⟩]
        outputs := .ofList [⟨"value", .float⟩] }) [.compute]).resolver
  options := {}

/-- **A guard can read a variable that the copies assign.**  Two compute stages change a count: the
first hands it on as `comp_n`, and the second declares a variable of that name for its own copy.  The
program compiles; the guard of the second stage reads what is declared and not yet set, and sends back
an invocation that was asked for. -/
theorem not_forall_reaches_body_iff :
    let dispatch : Dispatch :=
      { counts := ⟨.property ⟨"n", .uint⟩, .fixed 1, .fixed 1⟩, group := ⟨32, 1, 1⟩ }
    let requests := [StageRequest.compute (.ofList [("seed", "grain")]) {},
      .compute .empty dispatch]
    let workshop : Workshop Headless := ⟨{}, .ofBasics, [], []⟩
    let desired := PropertyList.ofList [⟨"value", .float⟩]
    (∃ program workshop', compile sowing requests desired workshop = .ok program workshop') ∧
    ∃ made draft' plan storage source,
      Drafting.blueprint sowing .ideal requests desired workshop.draft = .ok made draft' ∧
      made.At 1 plan storage source ∧
      (∀ cls ∈ PropertyClass.all, ∀ name ∈ (plan.pipeline.list cls).names, ¬ Mark.Marked name) ∧
      storage.entrance "n" = "comp_n" ∧
      .guard "x" (.held "comp_n") ∈ source.body ∧
      .copy ⟨"comp_n", "comp_n"⟩ ∈ source.body ∧
      dispatch.Invokes plan.request.aliases (fun _ => 1) ⟨0, 0, 0⟩ ∧
      dispatch.Asks plan.request.aliases (fun _ => 1) ⟨0, 0, 0⟩ ∧
      Statement.reaches ⟨0, 0, 0⟩ (fun _ => 0) (fun _ => 1) source.body = false := by
  intro dispatch requests workshop desired
  have hcompiles : Outcome.succeeds (compile sowing requests desired workshop) = true := by
    decide +kernel
  have htest : Outcome.passes (Blueprint.stageTest 1 fun plan storage source =>
        decide ((∀ cls ∈ PropertyClass.all, ∀ name ∈ (plan.pipeline.list cls).names,
            ¬ Mark.Marked name) ∧
          storage.entrance "n" = "comp_n" ∧
          .guard "x" (.held "comp_n") ∈ source.body ∧
          .copy ⟨"comp_n", "comp_n"⟩ ∈ source.body ∧
          Statement.reaches ⟨0, 0, 0⟩ (fun _ => 0) (fun _ => 1) source.body = false))
      (Drafting.blueprint sowing .ideal requests desired workshop.draft) = true := by decide +kernel
  refine ⟨Outcome.exists_of_succeeds hcompiles, ?_⟩
  obtain ⟨made, draft', hmade, htest⟩ := Outcome.exists_of_passes htest
  obtain ⟨plan, storage, source, hat, htest⟩ := Blueprint.exists_of_stageTest htest
  obtain ⟨hnames, hentrance, hguard, hcopy, hlost⟩ := of_decide_eq_true htest
  refine ⟨made, draft', plan, storage, source, hmade, hat, hnames, hentrance, hguard, hcopy, ?_, ?_,
    hlost⟩
  · have hinvoked : Invoked 1 32 0 ∧ Invoked 1 1 0 :=
      ⟨⟨0, by decide, 0, by decide, rfl⟩, ⟨0, by decide, 0, by decide, rfl⟩⟩
    exact ⟨hinvoked.1, hinvoked.2, hinvoked.2⟩
  · exact ⟨Nat.one_pos, Nat.one_pos, Nat.one_pos⟩

/-- **Tokens and marks matter too.**  A count that a task lists as a token has no variable, and the
guard reads its bare name.  Where the mark of the stage is the beginning of another one, the copy of
`form_n` is named like the uniform `n`, and the guard over `n` reads `form_n`. -/
theorem not_forall_guard_eq_entrance :
    let dispatch : Dispatch :=
      { counts := ⟨.property ⟨"n", .uint⟩, .fixed 1, .fixed 1⟩, group := ⟨32, 1, 1⟩ }
    let outputs := PropertyList.ofList [⟨"value", .float⟩]
    (∃ made draft' plan storage source,
      Drafting.blueprint (StageStorage.lone { inputs := .ofList [⟨"n", .void⟩], outputs }) .ideal
        [.compute .empty dispatch] outputs { registry := .ofBasics } = .ok made draft' ∧
      made.At 0 plan storage source ∧
      .guard "x" (.held "n") ∈ source.body ∧ "n" ∉ source.identifiers) ∧
    ∃ made draft' plan storage source,
      Drafting.blueprint (StageStorage.lone { filters := .ofList [⟨"form_n", .uint⟩], outputs })
        .ideal [{ StageRequest.compute .empty dispatch with outMark := "uni" }] outputs
        { registry := .ofBasics } = .ok made draft' ∧
      made.At 0 plan storage source ∧
      storage.entrance "n" = "uniform_n" ∧
      .guard "x" (.held "uniform_form_n") ∈ source.body := by
  intro dispatch outputs
  have htoken : Outcome.passes (Blueprint.stageTest 0 fun _ _ source =>
        decide (.guard "x" (.held "n") ∈ source.body ∧ "n" ∉ source.identifiers))
      (Drafting.blueprint (StageStorage.lone { inputs := .ofList [⟨"n", .void⟩], outputs }) .ideal
        [.compute .empty dispatch] outputs { registry := .ofBasics }) = true := by decide +kernel
  have hmark : Outcome.passes (Blueprint.stageTest 0 fun _ storage source =>
        decide (storage.entrance "n" = "uniform_n" ∧
          .guard "x" (.held "uniform_form_n") ∈ source.body))
      (Drafting.blueprint (StageStorage.lone { filters := .ofList [⟨"form_n", .uint⟩], outputs })
        .ideal [{ StageRequest.compute .empty dispatch with outMark := "uni" }] outputs
        { registry := .ofBasics }) = true := by decide +kernel
  obtain ⟨made, draft', hmade, htest⟩ := Outcome.exists_of_passes htoken
  obtain ⟨made', draft'', hmade', htest'⟩ := Outcome.exists_of_passes hmark
  obtain ⟨plan, storage, source, hat, htest⟩ := Blueprint.exists_of_stageTest htest
  obtain ⟨plan', storage', source', hat', htest'⟩ := Blueprint.exists_of_stageTest htest'
  exact ⟨⟨made, draft', plan, storage, source, hmade, hat, of_decide_eq_true htest⟩,
    made', draft'', plan', storage', source', hmade', hat', of_decide_eq_true htest'⟩

end ShaderWeave
